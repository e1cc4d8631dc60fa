import RuleGrammar.Proofs.Json.Spacing
import RuleGrammar.Proofs.Json.Values

/-! Trees as the grammar matches them: the text of a tree is read as one value, with the node that
belongs to the tree, where nothing that could go on with a number follows.
-/

namespace RuleGrammar.Json

variable {g : Grammar} {spacing : Spacing} {subject : Subject} {rule : Rule} {pos : Int}
  {t rest : Text}

-----------------------------------------------------------------------------------------
-- How texts start
-----------------------------------------------------------------------------------------

/-- A text in front of which white space and comments end. -/
def StartsSolid (t : Text) : Prop :=
  ∃ c more, t = c :: more ∧ IsSolid c

theorem StartsSolid.append (starts : StartsSolid t) (u : Text) : StartsSolid (t ++ u) := by
  obtain ⟨c, more, rfl, solid⟩ := starts
  exact ⟨c, more ++ u, rfl, solid⟩

theorem StartsSolid.ne_nil (starts : StartsSolid t) : t ≠ [] := by
  obtain ⟨c, more, rfl, -⟩ := starts
  exact List.cons_ne_nil c more

theorem isSolid_digit {c : CodePoint} (digit : c.isAsciiDigit = true) : IsSolid c := by
  refine ⟨?_, fun same => ?_⟩
  · simp only [CodePoint.isAsciiDigit, Bool.and_eq_true, decide_eq_true_eq] at digit
    simp only [CodePoint.isWhiteSpace, Bool.or_eq_false_iff, Bool.and_eq_false_iff,
      decide_eq_false_iff_not]
    omega
  · rw [same] at digit
    cases digit

/-- What tells an alternative of values is solid. -/
theorem isSolid_of_tagFor {c : CodePoint} {tag : Name} (told : tagFor c = some tag)
    : IsSolid c := by
  unfold tagFor at told
  split at told
  case isTrue number =>
    rcases number with rfl | digit
    · exact ⟨rfl, by decide⟩
    · exact isSolid_digit digit
  case isFalse =>
    split_ifs at told <;>
    · subst c
      exact ⟨rfl, by decide⟩

theorem tagFor_digit {c : CodePoint} (digit : c.isAsciiDigit = true)
    : tagFor c = some "number" :=
  if_pos (Or.inr digit)

/-- A tree starts with a code point that tells its alternative. -/
theorem Tree.head (tree : Tree spacing)
    : ∃ c, tree.text.head? = some c ∧ tagFor c = some tree.tag := by
  cases tree with
  | null => exact ⟨'n', rfl, rfl⟩
  | bool b => cases b <;> exact ⟨_, rfl, rfl⟩
  | number n =>
      obtain ⟨negative, whole, fraction, exponent⟩ := n
      cases negative with
      | true => exact ⟨'-', rfl, rfl⟩
      | false =>
          cases whole with
          | zero => exact ⟨'0', rfl, rfl⟩
          | positive first more => exact ⟨first.val, rfl, tagFor_digit first.property.1⟩
  | string pieces => exact ⟨'"', rfl, rfl⟩
  | container kind content => cases kind <;> exact ⟨_, rfl, rfl⟩

theorem Tree.startsSolid (tree : Tree spacing) : StartsSolid tree.text := by
  obtain ⟨c, starts, told⟩ := tree.head
  exact ⟨c, tree.text.tail, (List.cons_head?_tail starts).symm, isSolid_of_tagFor told⟩

theorem stringText_startsSolid (pieces : List Piece) : StartsSolid (stringText pieces) :=
  ⟨'"', piecesText pieces ++ quote, rfl, rfl, by decide⟩

theorem comma_startsSolid : StartsSolid "," :=
  ⟨',', [], rfl, rfl, by decide⟩

theorem colon_startsSolid : StartsSolid ":" :=
  ⟨':', [], rfl, rfl, by decide⟩

theorem Entry.startsSolid {kind : Kind} (entry : Entry spacing kind)
    : StartsSolid entry.text := by
  cases entry with
  | item value => exact value.startsSolid
  | pair key before after value =>
      rw [Entry.text, List.append_assoc]
      exact (stringText_startsSolid key).append _

theorem Chain.startsSolid {kind : Kind} (chain : Chain spacing kind)
    : StartsSolid chain.text := by
  cases chain with
  | last entry => exact entry.startsSolid
  | more entry before after rest =>
      rw [Chain.text, List.append_assoc]
      exact entry.startsSolid.append _

theorem Kind.closer_startsSolid (kind : Kind) : StartsSolid kind.closer := by
  cases kind <;> exact ⟨_, [], rfl, rfl, by decide⟩

theorem endsNumber_white {c : CodePoint} (white : c.isWhiteSpace = true) : EndsNumber c := by
  have other {d : CodePoint} (solid : d.isWhiteSpace = false) : c ≠ d := by
    intro same
    rw [same, solid] at white
    cases white
  refine ⟨?_, other rfl, other rfl, other rfl⟩
  by_contra digit
  have digit : c.isAsciiDigit = true := by simpa using digit
  exact other (isSolid_digit digit).1 rfl

/-- Nothing that stands in a gap goes on with a number. -/
theorem Spaces.ends (spaces : Spaces g spacing) (gap : spacing.inner t)
    (ends : ∀ c ∈ rest.head?, EndsNumber c)
    : ∀ c ∈ (t ++ rest).head?, EndsNumber c := by
  intro c first
  cases t with
  | nil => exact ends c first
  | cons d t =>
      obtain rfl : d = c := Option.some.inj first
      rcases spaces.starts gap d rfl with white | rfl
      · exact endsNumber_white white
      · exact ⟨rfl, by decide⟩

/-- What stands between brackets starts one behind their opener. -/
theorem Kind.leaves_inside (kind : Kind) (leaves : subject.Leaves pos (kind.opener ++ rest))
    : subject.Leaves (pos + 1) rest := by
  have inside := leaves.advance
  have opener : kind.opener.length = 1 := by cases kind <;> rfl
  rwa [opener] at inside

theorem Kind.closer_ends (kind : Kind) (rest : Text)
    : ∀ c ∈ (kind.closer ++ rest).head?, EndsNumber c := by
  intro c first
  cases kind <;>
  · cases Option.some.inj first
    exact ⟨rfl, by decide⟩

-----------------------------------------------------------------------------------------
-- Gaps, read
-----------------------------------------------------------------------------------------

section Gaps

variable (spaces : Spaces g spacing)

include spaces

/-- A rule that tries white space reads the gap in front of something solid. -/
theorem gap_read (spaced : rule.sigspace = true) (gap : spacing.inner t)
    (starts : StartsSolid rest) (leaves : subject.Leaves pos (t ++ rest))
    : Derives g subject (.space rule pos (pos + t.length)) := by
  obtain ⟨c, more, rfl, solid⟩ := starts
  obtain ⟨m, called, stop⟩ := spaces.reads gap solid leaves
  have derived := Derives.space spaced called
  rwa [Option.elim_some, stop] at derived

/-- No gap is read in front of something solid. -/
theorem gap_read_empty (spaced : rule.sigspace = true) (starts : StartsSolid rest)
    (leaves : subject.Leaves pos rest)
    : Derives g subject (.space rule pos pos) := by
  have derived : Derives g subject (.space rule pos (pos + ([] : Text).length)) :=
    gap_read spaces spaced spaces.empty starts leaves
  simpa using derived

variable (rule) in
/-- A mark is read with the gaps around it. -/
theorem mark_read {before mark after : Text} (spaced : rule.sigspace = true)
    (gap : spacing.inner before) (solid : StartsSolid mark) (gapAfter : spacing.inner after)
    (starts : StartsSolid rest) (leaves : subject.Leaves pos (before ++ mark ++ after ++ rest))
    : ∃ start stop : Int,
        Derives g subject (.space rule pos start)
        ∧ Derives g subject (.expr rule (.literal mark) start (some ⟨stop, []⟩))
        ∧ Derives g subject (.space rule stop (pos + (before ++ mark ++ after).length)) := by
  simp only [List.append_assoc] at leaves
  have skipped := gap_read spaces spaced gap (solid.append _) leaves
  have found : Derives g subject (.expr rule (.literal mark) (pos + before.length)
      (some ⟨pos + before.length + mark.length, []⟩)) :=
    .literal_read leaves.advance
  have skippedAfter := gap_read spaces spaced gapAfter starts leaves.advance.advance
  have whole : pos + before.length + mark.length + after.length
      = pos + ((before ++ mark ++ after).length : Int) := by
    simp only [List.length_append]
    omega
  rw [whole] at skippedAfter
  exact ⟨_, _, skipped, found, skippedAfter⟩

-----------------------------------------------------------------------------------------
-- Entries, read
-----------------------------------------------------------------------------------------

omit spaces in
theorem Tree.node_stop (tree : Tree spacing) (pos : Int)
    : (tree.node pos).stop = pos + tree.text.length := by
  cases tree with
  | bool b => cases b <;> rfl
  | _ => rfl

omit spaces in
theorem Entry.node_stop {kind : Kind} (entry : Entry spacing kind) (pos : Int)
    : (entry.node pos).stop = pos + entry.text.length := by
  cases entry with
  | item value => exact value.node_stop pos
  | pair key before after value => rfl

/-- The entries of a kind of brackets, as a loop. -/
abbrev entryLoop (kind : Kind) : Loop :=
  ⟨entryCall kind, 0, none, some (lit ",")⟩

omit spaces in
/-- An entry is one round. -/
theorem rounds_entry {kind : Kind} (entry : Entry spacing kind) {p q : Progress} {start : Int}
    (between
      : Derives g subject (.gap (listRule kind) (some (lit ",")) p (some ⟨start, []⟩)))
    (reached : p.stop ≤ start)
    (read : Derives g subject (.call kind.entryRule start (some (entry.node start))))
    (later
      : Derives g subject (.rounds (listRule kind) (entryLoop kind)
          (p.round (start + entry.text.length) [among kind.entryRule (entry.node start)]) q))
    : Derives g subject (.rounds (listRule kind) (entryLoop kind) p q) := by
  have named : kind.entryRule ≠ [] := by cases kind <;> decide
  have round : Derives g subject (.expr (listRule kind) (entryCall kind) start
      (some ⟨(entry.node start).stop, [once kind.entryRule (entry.node start)]⟩)) :=
    captured_read named read
  rw [entry.node_stop] at round
  have long := List.length_pos_iff.mpr entry.startsSolid.ne_nil
  have moved : isLastRound 0 (p.rounds + 1) p.stop (start + entry.text.length) = false := by
    have apart : start + entry.text.length ≠ p.stop := by omega
    simp [isLastRound, apart]
  exact .roundsNext rfl between round moved later

/-- The entries end in front of the closer. -/
theorem rounds_end {kind : Kind} {p : Progress} (later : p.rounds ≠ 0) (gap : spacing.inner t)
    (leaves : subject.Leaves p.stop (t ++ (kind.closer ++ rest)))
    : Derives g subject (.rounds (listRule kind) (entryLoop kind) p p) := by
  have skipped : Derives g subject (.space (listRule kind) p.stop (p.stop + t.length)) :=
    gap_read spaces rfl gap (kind.closer_startsSolid.append rest) leaves
  have noComma : Derives g subject (.expr (listRule kind) (lit ",") (p.stop + t.length) none) := by
    refine .literal_missed leaves.advance ?_
    intro begins
    obtain ⟨more, whole⟩ := begins
    cases kind <;> exact absurd (List.cons.inj whole).1 (by decide)
  exact .roundsUnseparated rfl (.gapMissed later skipped noComma)

end Gaps

-----------------------------------------------------------------------------------------
-- Brackets, read
-----------------------------------------------------------------------------------------

/-- What a tag tells is read as a node of its own. -/
theorem sym_read {tag : Name} (tagged : rule.tag = some tag)
    (leaves : subject.Leaves pos (tag ++ rest))
    : Derives g subject (.expr rule .sym pos
        (some ⟨pos + tag.length, [once "sym" (nodeAt [] none pos tag [])]⟩)) := by
  have stands : subject.holds tag pos = true := leaves.holds_iff.mpr (List.prefix_append tag rest)
  have derived : Derives g subject (.expr rule .sym pos _) := .sym tagged
  rwa [if_pos stands] at derived

section Brackets

variable (speaks : Speaks g)

include speaks

/-- Entries that were read are the content of brackets. -/
theorem list_read {kind : Kind} {q : Progress} {log : List Caught}
    (rounds : Derives g subject (.rounds (listRule kind) (entryLoop kind) ⟨pos, 0, []⟩ q))
    (stop : q.stop = pos + t.length) (caught : q.log = log)
    : Derives g subject (.call kind.listRule pos
        (some (nodeAt kind.listRule none pos t (log ++ [.mark kind.entryRule])))) := by
  have names : (commaSeparated (entryCall kind)).captureNames = [kind.entryRule] := by
    cases kind <;> rfl
  have finished : q.finish none (commaSeparated (entryCall kind)).captureNames ⟨q.stop, []⟩
      = ⟨pos + t.length, log ++ [.mark kind.entryRule]⟩ := by
    simp only [Progress.finish, names, caught, stop, List.append_nil]
    rfl
  have body : Derives g subject (.expr (listRule kind) (listRule kind).expr pos
      (some ⟨pos + t.length, log ++ [.mark kind.entryRule]⟩)) := by
    rw [← finished]
    exact .repetition_of_rounds rounds (Nat.zero_le _)
  exact call_read (speaks.lookup_list kind) body

/-- No entry starts where brackets are closed. -/
theorem entry_missed (kind : Kind) (leaves : subject.Leaves pos (kind.closer ++ rest))
    : Derives g subject (.expr rule (entryCall kind) pos none) := by
  cases kind with
  | array => exact .reference (value_missed speaks rfl leaves)
  | object =>
      have noKey : Derives g subject (.expr pairRule (call "string") pos none) :=
        string_missed speaks (by decide) leaves
      have noPair : Derives g subject (.expr pairRule pairRule.expr pos none) :=
        .sequence (.itemsMissed .startFirst noKey)
      exact captured_missed speaks.lookup_pair noPair

/-- Brackets are read with what stands between them. -/
theorem container_read {kind : Kind} {content : Content spacing kind} {start : Int}
    (leaves : subject.Leaves pos (kind.opener ++ (content.text ++ (kind.closer ++ rest))))
    (space : Derives g subject (.space (containerRule kind) (pos + 1) start))
    (list : Derives g subject (.call kind.listRule start (some (content.node (pos + 1)))))
    (spaceAfter
      : Derives g subject (.space (containerRule kind) (content.node (pos + 1)).stop
          (pos + 1 + content.text.length)))
    : Derives g subject (.call kind.rule pos (some (containerNode pos kind content))) := by
  have opener : kind.opener.length = 1 := by cases kind <;> rfl
  have closer : kind.closer.length = 1 := by cases kind <;> rfl
  have named : kind.listRule ≠ [] := by cases kind <;> decide
  have opened : Derives g subject (.expr (containerRule kind) (.literal kind.opener) pos
      (some ⟨pos + 1, []⟩)) := by
    have read : Derives g subject (.expr (containerRule kind) (.literal kind.opener) pos _) :=
      .literal_read leaves
    rwa [opener] at read
  have behind : subject.Leaves (pos + 1 + content.text.length) (kind.closer ++ rest) :=
    (kind.leaves_inside leaves).advance
  have closed : Derives g subject (.expr (containerRule kind) (.literal kind.closer)
      (pos + 1 + content.text.length) (some ⟨pos + 1 + content.text.length + 1, []⟩)) := by
    have read : Derives g subject (.expr (containerRule kind) (.literal kind.closer) _ _) :=
      .literal_read behind
    rwa [closer] at read
  have filled : Derives g subject (.expr (containerRule kind) (listCall kind) start
      (some ⟨(content.node (pos + 1)).stop, [once kind.listRule (content.node (pos + 1))]⟩)) :=
    captured_read named list
  have body : Derives g subject (.expr (containerRule kind) (containerRule kind).expr pos
      (some ⟨pos + 1 + content.text.length + 1,
        [] ++ [once kind.listRule (content.node (pos + 1))] ++ []⟩)) :=
    .goal opened space filled spaceAfter closed
  have whole : pos + 1 + content.text.length + 1
      = pos + ((kind.opener ++ content.text ++ kind.closer).length : Int) := by
    simp only [List.length_append, opener, closer]
    omega
  rw [List.append_nil, List.nil_append, whole] at body
  exact call_read (speaks.lookup_container kind) body

end Brackets

-----------------------------------------------------------------------------------------
-- Trees, read
-----------------------------------------------------------------------------------------

/-- A key and what was read as its value are a pair. -/
theorem pair_read (speaks : Speaks g) (spaces : Spaces g spacing) (key : List Piece)
    (before after : Gap spacing) {m : Match} (starts : StartsSolid t)
    (leaves
      : subject.Leaves pos (stringText key ++ (before.val ++ ":" ++ after.val) ++ t ++ rest))
    (read
      : Derives g subject (.call "value"
          (pos + (stringText key).length + (before.val ++ ":" ++ after.val).length) (some m)))
    (stop
      : m.stop = pos + (stringText key).length + (before.val ++ ":" ++ after.val).length
          + t.length)
    : Derives g subject (.call "pair" pos
        (some (nodeAt "pair" none pos (stringText key ++ (before.val ++ ":" ++ after.val) ++ t)
          [once "string" (stringNode pos key), once "value" m]))) := by
  rw [List.append_assoc, List.append_assoc] at leaves
  have string : Derives g subject (.expr pairRule (call "string") pos _) :=
    captured_read (by decide) (string_read speaks key leaves)
  obtain ⟨_, _, skipped, colon, skippedAfter⟩ :=
    mark_read pairRule spaces rfl before.property colon_startsSolid after.property
      (starts.append rest) leaves.advance
  have value : Derives g subject (.expr pairRule (call "value") _ _) :=
    captured_read (by decide) read
  have items : Derives g subject (.items pairRule true _ pos _) :=
    .itemsNext .startFirst string (.itemsNext (.startLater skipped) colon
      (.itemsNext (.startLater skippedAfter) value .itemsDone))
  have body : Derives g subject (.expr pairRule pairRule.expr pos
      (some ⟨m.stop, [once "string" (stringNode pos key), once "value" m]⟩)) :=
    .sequence items
  have whole : (stringText key ++ (before.val ++ ":" ++ after.val) ++ t).length
      = (stringText key).length + (before.val ++ ":" ++ after.val).length + t.length := by
    rw [List.length_append, List.length_append]
  have stop : m.stop
      = pos + ((stringText key ++ (before.val ++ ":" ++ after.val) ++ t).length : Int) := by
    omega
  rw [stop] at body
  exact call_read speaks.lookup_pair body

mutual

/-- The text of a tree is read as its node. Induction on trees, with their contents. -/
theorem Tree.read (speaks : Speaks g) (spaces : Spaces g spacing)
    (tree : Tree spacing) {pos : Int} {rest : Text}
    (leaves : subject.Leaves pos (tree.text ++ rest)) (ends : ∀ c ∈ rest.head?, EndsNumber c)
    : Derives g subject (.call "value" pos (some (tree.node pos))) := by
  obtain ⟨c, starts, told⟩ := tree.head
  match tree with
  | .null =>
      have body : Derives g subject (.expr (valueAs "null" .sym) .sym pos _) :=
        sym_read rfl leaves
      exact value_read speaks (by simp [value]) starts told leaves body
  | .bool true =>
      have body : Derives g subject (.expr (valueAs "true" .sym) .sym pos _) :=
        sym_read rfl leaves
      exact value_read speaks (by simp [value]) starts told leaves body
  | .bool false =>
      have body : Derives g subject (.expr (valueAs "false" .sym) .sym pos _) :=
        sym_read rfl leaves
      exact value_read speaks (by simp [value]) starts told leaves body
  | .number n =>
      have body : Derives g subject (.expr (valueAs "number" numberBody) numberBody pos _) :=
        n.read rfl leaves ends
      exact value_read speaks (by simp [value]) starts told leaves body
  | .string pieces =>
      have body : Derives g subject (.expr (valueAs "string" (call "string")) (call "string")
          pos _) :=
        captured_read (by decide) (string_read speaks pieces leaves)
      exact value_read speaks (by simp [value]) starts told leaves body
  | .container kind content =>
      have named : kind.rule ≠ [] := by cases kind <;> decide
      have whole : subject.Leaves pos
          (kind.opener ++ (content.text ++ (kind.closer ++ rest))) := by
        simpa [Tree.text] using leaves
      have called := content.read speaks spaces whole
      have body : Derives g subject
          (.expr (containerValue kind) (.reference kind.rule (some kind.rule)) pos _) :=
        captured_read named called
      exact value_read speaks (containerValue_mem kind) starts told leaves body

/-- Brackets are read with their content and the gaps around it. -/
theorem Content.read (speaks : Speaks g) (spaces : Spaces g spacing)
    {kind : Kind} (content : Content spacing kind) {pos : Int} {rest : Text}
    (leaves : subject.Leaves pos (kind.opener ++ (content.text ++ (kind.closer ++ rest))))
    : Derives g subject (.call kind.rule pos (some (containerNode pos kind content))) := by
  have inside := kind.leaves_inside leaves
  have closed := kind.closer_startsSolid.append rest
  match content with
  | .empty gap =>
      have space : Derives g subject (.space (containerRule kind) (pos + 1) _) :=
        gap_read spaces rfl gap.property closed inside
      have behind : subject.Leaves (pos + 1 + gap.val.length) (kind.closer ++ rest) :=
        inside.advance
      have none : Derives g subject (.rounds (listRule kind) (entryLoop kind)
          ⟨pos + 1 + gap.val.length, 0, []⟩ ⟨pos + 1 + gap.val.length, 0, []⟩) :=
        .roundsMissed rfl (.gapFirst rfl) (entry_missed speaks kind behind)
      have stop : pos + 1 + gap.val.length + ([] : Text).length = pos + 1 + gap.val.length :=
        Int.add_zero _
      have list := list_read speaks none stop.symm rfl
      refine container_read speaks leaves space list ?_
      rw [Content.node, nodeAt_stop, stop]
      exact gap_read_empty spaces rfl closed behind
  | .filled before chain after =>
      have inside : subject.Leaves (pos + 1)
          (before.val ++ (chain.text ++ (after.val ++ (kind.closer ++ rest)))) := by
        simpa [Content.text] using inside
      have space : Derives g subject (.space (containerRule kind) (pos + 1) _) :=
        gap_read spaces rfl before.property (chain.startsSolid.append _) inside
      have behind := inside.advance
      let p : Progress := ⟨pos + 1 + before.val.length, 0, []⟩
      obtain ⟨q, rounds, stop, log⟩ :=
        chain.read speaks spaces (p := p) (.gapFirst rfl) (Int.le_refl _) after.property behind
      have list := list_read speaks rounds stop log
      have whole : pos + 1 + before.val.length + chain.text.length + after.val.length
          = pos + 1 + ((Content.filled before chain after).text.length : Int) := by
        simp only [Content.text, List.length_append]
        omega
      refine container_read speaks leaves space list ?_
      rw [Content.node, nodeAt_stop, ← whole]
      exact gap_read spaces rfl after.property closed behind.advance

/-- Entries are read one after the other. -/
theorem Chain.read (speaks : Speaks g) (spaces : Spaces g spacing)
    {kind : Kind} (chain : Chain spacing kind) {p : Progress} {start : Int}
    {after rest : Text}
    (between
      : Derives g subject (.gap (listRule kind) (some (lit ",")) p (some ⟨start, []⟩)))
    (reached : p.stop ≤ start) (gap : spacing.inner after)
    (leaves : subject.Leaves start (chain.text ++ (after ++ (kind.closer ++ rest))))
    : ∃ q : Progress,
        Derives g subject (.rounds (listRule kind) (entryLoop kind) p q)
        ∧ q.stop = start + chain.text.length
        ∧ q.log = p.log ++ chain.log start := by
  match chain with
  | .last entry =>
      have read := entry.read speaks spaces leaves (spaces.ends gap (kind.closer_ends rest))
      let p' := p.round (start + entry.text.length) [among kind.entryRule (entry.node start)]
      have left : subject.Leaves p'.stop (after ++ (kind.closer ++ rest)) := leaves.advance
      have done := rounds_end spaces (Nat.succ_ne_zero p.rounds) gap left
      exact ⟨p', rounds_entry entry between reached read done, rfl, Progress.log_round _ _ _⟩
  | .more entry before behind others =>
      have leaves : subject.Leaves start (entry.text
          ++ (before.val ++ "," ++ behind.val
            ++ (others.text ++ (after ++ (kind.closer ++ rest))))) := by
        simpa [Chain.text] using leaves
      have ends : ∀ c ∈ (before.val ++ "," ++ behind.val
          ++ (others.text ++ (after ++ (kind.closer ++ rest)))).head?, EndsNumber c := by
        simp only [List.append_assoc]
        refine spaces.ends before.property fun c first => ?_
        obtain rfl : CodePoint.ofChar ',' = c := Option.some.inj first
        exact ⟨rfl, by decide⟩
      have read := entry.read speaks spaces leaves ends
      let p' := p.round (start + entry.text.length) [among kind.entryRule (entry.node start)]
      obtain ⟨_, _, skipped, comma, skippedAfter⟩ :=
        mark_read (listRule kind) spaces rfl before.property comma_startsSolid
          behind.property (others.startsSolid.append _) leaves.advance
      have separated : Derives g subject (.gap (listRule kind) (some (lit ",")) p'
          (some ⟨start + entry.text.length + (before.val ++ "," ++ behind.val).length, []⟩)) :=
        .gapSeparated (Nat.succ_ne_zero p.rounds) skipped comma skippedAfter
      have onward : start + entry.text.length
          ≤ start + entry.text.length + (before.val ++ "," ++ behind.val).length :=
        Int.le_add_of_nonneg_right (Int.natCast_nonneg _)
      obtain ⟨q, rounds, stop, log⟩ :=
        others.read speaks spaces separated onward gap leaves.advance.advance
      refine ⟨q, rounds_entry entry between reached read rounds, ?_, ?_⟩
      · have whole : (Chain.more entry before behind others).text.length
            = entry.text.length + (before.val ++ "," ++ behind.val).length
              + others.text.length := by
          rw [Chain.text, List.length_append, List.length_append]
        omega
      · rw [log, Progress.log_round, List.append_assoc]
        rfl

/-- An entry is read as its node. -/
theorem Entry.read (speaks : Speaks g) (spaces : Spaces g spacing)
    {kind : Kind} (entry : Entry spacing kind) {pos : Int} {rest : Text}
    (leaves : subject.Leaves pos (entry.text ++ rest)) (ends : ∀ c ∈ rest.head?, EndsNumber c)
    : Derives g subject (.call kind.entryRule pos (some (entry.node pos))) := by
  match entry with
  | .item value => exact value.read speaks spaces leaves ends
  | .pair key before after value =>
      have atValue : subject.Leaves
          (pos + (stringText key).length + (before.val ++ ":" ++ after.val).length)
          (value.text ++ rest) := by
        rw [Entry.text, List.append_assoc, List.append_assoc] at leaves
        exact leaves.advance.advance
      have read := value.read speaks spaces atValue ends
      exact pair_read speaks spaces key before after value.startsSolid leaves read
        (value.node_stop _)

end

end RuleGrammar.Json
