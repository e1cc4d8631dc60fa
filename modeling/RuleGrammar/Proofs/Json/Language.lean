import RuleGrammar.Proofs.Json.Trees
import RuleGrammar.Proofs.Matcher.Agreement
import RuleGrammar.Proofs.Matcher.Grounded

/-! The language of the grammar of JSON texts: a text matches exactly when some document has it. Any
grammar that speaks JSON and whose white space fills the gaps of a spacing matches the documents
with that spacing.
-/

namespace RuleGrammar.Json

variable {g : Grammar} {spacing : Spacing} {subject : Subject} {rule : Rule} {limit : Nat}

-----------------------------------------------------------------------------------------
-- Documents, read
-----------------------------------------------------------------------------------------

/-- The rule of whole texts. -/
def topRule : Rule where
  name := "TOP"
  expr := .sequence
    [.anchor .inputStart, .choice [call "object", call "array"], .anchor .inputEnd]
  kind := .rule

theorem Speaks.lookup_top (speaks : Speaks g) : g.lookup "TOP" = some (.rule topRule) :=
  (speaks.same _ (by decide)).trans rfl

theorem Kind.opener_startsSolid (kind : Kind) : StartsSolid kind.opener := by
  cases kind <;> exact ⟨_, [], rfl, rfl, by decide⟩

/-- A rule that tries white space reads the gap at the end. -/
theorem lastGap_read (spaces : Spaces g spacing) (spaced : rule.sigspace = true) {pos : Int}
    {t : Text} (gap : spacing.final t) (leaves : subject.Leaves pos t)
    : Derives g subject (.space rule pos (pos + t.length)) := by
  obtain ⟨m, called, stop⟩ := spaces.readsFinal gap leaves
  have derived := Derives.space spaced called
  rwa [Option.elim_some, stop] at derived

/-- One of the two kinds of brackets is read for a choice of them. -/
theorem choice_read (speaks : Speaks g) (kind : Kind) {content : Content spacing kind}
    {pos : Int} {rest : Text} (leaves : subject.Leaves pos (kind.opener ++ rest))
    (called
      : Derives g subject (.call kind.rule pos (some (containerNode pos kind content))))
    : Derives g subject (.expr rule (.choice [call "object", call "array"]) pos
        (some ⟨(containerNode pos kind content).stop,
          [once kind.rule (containerNode pos kind content)]⟩)) := by
  cases kind with
  | object =>
      have here : Derives g subject (.expr rule (call "object") pos _) :=
        captured_read (by decide) called
      exact .choice (.choiceHere here)
  | array =>
      have missed : Derives g subject (.expr rule (call "object") pos none) :=
        container_missed speaks .object (by decide) leaves
      have here : Derives g subject (.expr rule (call "array") pos _) :=
        captured_read (by decide) called
      exact .choice (.choiceLater missed (.choiceHere here))

/-- The text of a document is read whole, as the node of the document. -/
theorem Document.read (speaks : Speaks g) (spaces : Spaces g spacing) (d : Document spacing)
    : Derives g (.ofText d.text) (.call "TOP" 0 (some d.node)) := by
  have leaves : (Subject.ofText d.text).Leaves 0
      (d.before.val ++ (d.kind.opener ++ (d.content.text ++ (d.kind.closer ++ d.after.val)))) := by
    have whole := Subject.Leaves.start d.text
    simpa [Document.text, Document.tree, Tree.text] using whole
  have atStart : Derives g (.ofText d.text) (.expr topRule (.anchor .inputStart) 0
      (some ⟨0, []⟩)) := .anchor
  have skipped : Derives g (.ofText d.text) (.space topRule 0 (0 + d.before.val.length)) :=
    gap_read spaces rfl d.before.property (d.kind.opener_startsSolid.append _) leaves
  have behind : (Subject.ofText d.text).Leaves (0 + d.before.val.length)
      (d.kind.opener ++ (d.content.text ++ (d.kind.closer ++ d.after.val))) := leaves.advance
  rw [Int.zero_add] at skipped behind
  have called := d.content.read speaks spaces behind
  have brackets : Derives g (.ofText d.text)
      (.expr topRule (.choice [call "object", call "array"]) d.before.val.length _) :=
    choice_read speaks d.kind behind called
  have left : (Subject.ofText d.text).Leaves
      (containerNode d.before.val.length d.kind d.content).stop d.after.val := by
    have left : (Subject.ofText d.text).Leaves d.before.val.length
        (d.kind.opener ++ d.content.text ++ d.kind.closer ++ d.after.val) := by
      simpa using behind
    exact left.advance
  have whole : (containerNode d.before.val.length d.kind d.content).stop + d.after.val.length
      = 0 + (d.text.length : Int) :=
    left.add_length.trans (Subject.Leaves.start d.text).add_length.symm
  have skippedLast : Derives g (.ofText d.text) (.space topRule _ _) :=
    lastGap_read spaces rfl d.after.property left
  rw [whole] at skippedLast
  have finished : (Subject.ofText d.text).Leaves (0 + d.text.length) [] := by
    have start : (Subject.ofText d.text).Leaves 0 (d.text ++ []) := by
      rw [List.append_nil]
      exact .start d.text
    exact start.advance
  have items : Derives g (.ofText d.text) (.items topRule true _ 0 _) :=
    .itemsNext .startFirst atStart (.itemsNext (.startLater skipped) brackets
      (.itemsNext (.startLater skippedLast) (.inputEnd_read finished) .itemsDone))
  exact call_read speaks.lookup_top (.sequence items)

-----------------------------------------------------------------------------------------
-- What is read is a document
-----------------------------------------------------------------------------------------

/-- Entries behind a first one, each behind a comma with gaps around it, are a chain with it. -/
theorem exists_chain {kind : Kind} {n : Nat} {t more : Text}
    (took
      : Takes.times (.andThen spacing.gap (.andThen (.exactly ",")
          (.andThen spacing.gap fun t _ => ∃ entry : Entry spacing kind, t = entry.text))) n t more)
    (first : Entry spacing kind)
    : ∃ chain : Chain spacing kind, chain.text = first.text ++ t := by
  induction took generalizing first with
  | none => exact ⟨.last first, by rw [Chain.text, List.append_nil]⟩
  | next round _ ih =>
      obtain ⟨before, _, rfl, gap, _, _, rfl, rfl, after, _, rfl, gapAfter, entry, rfl⟩ := round
      obtain ⟨others, same⟩ := ih entry
      have inner : spacing.inner before := gap.1 (List.cons_ne_nil _ _)
      have innerAfter : spacing.inner after := by
        refine gapAfter.1 fun empty => ?_
        exact entry.startsSolid.ne_nil (List.append_eq_nil_iff.mp empty).1
      refine ⟨.more first ⟨before, inner⟩ ⟨after, innerAfter⟩ others, ?_⟩
      rw [Chain.text, same]
      simp only [List.append_assoc]

section Consumed

variable (speaks : Speaks g) (spaces : Spaces g spacing)

include spaces

theorem consumes_space (spaced : rule.sigspace = true)
    : SpaceConsumes g subject rule spacing.gap :=
  spaceConsumes_ws spaces.takes spaced

include speaks

/-- What is read between brackets is nothing or a chain of entries. -/
theorem consumes_list {kind : Kind}
    (entries
      : CallConsumes g subject limit kind.entryRule
          fun t _ => ∃ entry : Entry spacing kind, t = entry.text)
    : CallConsumes g subject limit kind.listRule
        fun t _ => t = [] ∨ ∃ chain : Chain spacing kind, t = chain.text := by
  have body : Consumes g subject limit (listRule kind) (listRule kind).expr _ :=
    consumes_separated (consumes_space spaces rfl) (consumes_reference _ entries)
  refine callConsumes_rule (speaks.lookup_list kind) (body.mono ?_)
  intro t more took
  rcases took with none | ⟨n, _, u, rfl, ⟨entry, rfl⟩, others⟩
  · exact Or.inl none
  · obtain ⟨chain, same⟩ := exists_chain others entry
    exact Or.inr ⟨chain, same.symm⟩

/-- What is read as brackets is some content between them. -/
theorem consumes_container (kind : Kind)
    (entries
      : ∀ less < limit,
          CallConsumes g subject less kind.entryRule
            fun t _ => ∃ entry : Entry spacing kind, t = entry.text)
    : CallConsumes g subject limit kind.rule
        fun t _ => ∃ content : Content spacing kind,
          t = kind.opener ++ content.text ++ kind.closer := by
  have body : Consumes g subject limit (containerRule kind) (containerRule kind).expr _ :=
    consumes_goal (consumes_space spaces rfl) kind.opener_ne_nil fun less below =>
      consumes_reference _ (consumes_list speaks spaces (entries less below))
  refine callConsumes_rule (speaks.lookup_container kind) (body.mono ?_)
  intro t more took
  obtain ⟨_, _, rfl, rfl, before, _, rfl, gap, list, _, rfl, listed, after, _, rfl, gapAfter,
    rfl⟩ := took
  have closes : kind.closer ++ more ≠ [] := (kind.closer_startsSolid.append more).ne_nil
  have inner : spacing.inner before := gap.1 fun empty => closes (by simp_all)
  have innerAfter : spacing.inner after := gapAfter.1 closes
  rcases listed with rfl | ⟨chain, rfl⟩
  · exact ⟨.empty ⟨before ++ after, spaces.joins inner innerAfter⟩, by simp [Content.text]⟩
  · exact ⟨.filled ⟨before, inner⟩ chain ⟨after, innerAfter⟩, by simp [Content.text]⟩

/-- What is read as an entry is one, if what is read as a value is a tree. -/
theorem consumes_entry {kind : Kind}
    (values
      : CallConsumes g subject limit "value" fun t _ => ∃ tree : Tree spacing, t = tree.text)
    : CallConsumes g subject limit kind.entryRule
        fun t _ => ∃ entry : Entry spacing kind, t = entry.text := by
  cases kind with
  | array =>
      intro pos rest m short leaves derived
      refine (values pos rest m short leaves derived).mono fun t more took => ?_
      obtain ⟨tree, rfl⟩ := took
      exact ⟨.item tree, rfl⟩
  | object =>
      have space : SpaceConsumes g subject pairRule spacing.gap := consumes_space spaces rfl
      have body : Consumes g subject limit pairRule pairRule.expr _ :=
        consumes_sequence (itemsConsume_first (consumes_reference _ (consumes_string speaks))
          (itemsConsume_next space (consumes_literal _)
            (itemsConsume_next space (consumes_reference _ values) itemsConsume_nil)))
      refine callConsumes_rule speaks.lookup_pair (body.mono ?_)
      intro t more took
      obtain ⟨_, _, rfl, ⟨key, rfl⟩, before, _, rfl, gap, _, _, rfl, rfl, after, _, rfl, gapAfter,
        _, _, rfl, ⟨tree, rfl⟩, rfl⟩ := took
      have inner : spacing.inner before := gap.1 (List.cons_ne_nil _ _)
      have innerAfter : spacing.inner after := by
        refine gapAfter.1 fun empty => tree.startsSolid.ne_nil ?_
        simp_all
      exact ⟨.pair key ⟨before, inner⟩ ⟨after, innerAfter⟩ tree, by simp [Entry.text]⟩

/-- What is read as a value is a tree. Induction on what is left, which brackets make less. -/
theorem consumes_value (limit : Nat)
    : CallConsumes g subject limit "value" fun t _ => ∃ tree : Tree spacing, t = tree.text := by
  induction limit using Nat.strong_induction_on with
  | h limit ih =>
      have brackets (kind : Kind)
          : Consumes g subject limit (containerValue kind) (containerValue kind).expr
              fun t _ => ∃ tree : Tree spacing, t = tree.text := by
        have called := consumes_container speaks spaces kind fun less below =>
          consumes_entry speaks spaces (ih less below)
        refine (consumes_reference _ called).mono fun t more took => ?_
        obtain ⟨content, rfl⟩ := took
        exact ⟨.container kind content, rfl⟩
      refine callConsumes_group speaks.lookup_value fun rule member => ?_
      simp only [value, List.mem_cons, List.not_mem_nil, or_false] at member
      rcases member with rfl | rfl | rfl | rfl | rfl | rfl | rfl
      · refine (consumes_number rfl).mono fun t more took => ?_
        obtain ⟨n, rfl⟩ := took
        exact ⟨.number n, rfl⟩
      · exact (consumes_sym rfl).mono fun t more took => ⟨.bool true, took⟩
      · exact (consumes_sym rfl).mono fun t more took => ⟨.bool false, took⟩
      · exact (consumes_sym rfl).mono fun t more took => ⟨.null, took⟩
      · exact brackets .object
      · exact brackets .array
      · refine (consumes_reference _ (consumes_string speaks)).mono fun t more took => ?_
        obtain ⟨pieces, rfl⟩ := took
        exact ⟨.string pieces, rfl⟩

/-- What is read as a whole text is a document. -/
theorem exists_text {t : Text} {m : Match}
    (derived : Derives g (.ofText t) (.call "TOP" 0 (some m)))
    : ∃ d : Document spacing, d.text = t := by
  have brackets (kind : Kind)
      : Consumes g (.ofText t) t.length topRule (.reference kind.rule (some kind.rule))
          fun t _ => ∃ (kind : Kind) (content : Content spacing kind),
            t = kind.opener ++ content.text ++ kind.closer := by
    have called : CallConsumes g (.ofText t) t.length kind.rule _ :=
      consumes_container speaks spaces kind fun less _ =>
        consumes_entry speaks spaces (consumes_value speaks spaces less)
    refine (consumes_reference _ called).mono fun t more took => ?_
    obtain ⟨content, rfl⟩ := took
    exact ⟨kind, content, rfl⟩
  have choice : Consumes g (.ofText t) t.length topRule
      (.choice [call "object", call "array"])
      fun t _ => ∃ (kind : Kind) (content : Content spacing kind),
        t = kind.opener ++ content.text ++ kind.closer := by
    refine consumes_choice fun e member => ?_
    rcases List.mem_cons.mp member with rfl | member
    · exact brackets .object
    · obtain rfl := List.mem_singleton.mp member
      exact brackets .array
  have space : SpaceConsumes g (.ofText t) topRule spacing.gap := consumes_space spaces rfl
  have body : Consumes g (.ofText t) t.length topRule topRule.expr _ :=
    consumes_sequence (itemsConsume_first consumes_inputStart
      (itemsConsume_next space choice (itemsConsume_next space consumes_inputEnd itemsConsume_nil)))
  have called : CallConsumes g (.ofText t) t.length "TOP" _ :=
    callConsumes_rule speaks.lookup_top body
  obtain ⟨u, more, split, took, -⟩ :=
    called 0 t m (Nat.le_refl _) (Subject.Leaves.start t) derived
  obtain ⟨_, _, rfl, rfl, before, _, rfl, gap, _, _, rfl, ⟨kind, content, rfl⟩, after, _, rfl,
    gapAfter, _, _, rfl, ⟨rfl, empty⟩, rfl⟩ := took
  obtain rfl : more = [] := empty
  have inner : spacing.inner before := by
    refine gap.1 fun none => kind.opener_ne_nil ?_
    simp_all
  have final : spacing.final after := gapAfter.2 rfl
  refine ⟨⟨⟨before, inner⟩, kind, content, ⟨after, final⟩⟩, ?_⟩
  rw [split, Document.text, Document.tree, Tree.text]
  simp

/-- What is read as a whole text is the node of a document. -/
theorem exists_document {t : Text} {m : Match}
    (derived : Derives g (.ofText t) (.call "TOP" 0 (some m)))
    : ∃ d : Document spacing, d.text = t ∧ d.node = m := by
  obtain ⟨d, rfl⟩ := exists_text speaks spaces derived
  exact ⟨d, rfl, Option.some.inj ((d.read speaks spaces).call_unique derived)⟩

-----------------------------------------------------------------------------------------
-- Whole texts
-----------------------------------------------------------------------------------------

/-- The text of a document matches with the node of the document, or a limit stops the match. -/
theorem parse_document (d : Document spacing) (config : MatchConfig)
    : (∃ root,
        parse ⟨g, .ofText d.text, config⟩ "TOP" true = .ok (.matched root)
        ∧ root.bare = d.node)
      ∨ ∃ fault,
          parse ⟨g, .ofText d.text, config⟩ "TOP" true = .error fault
          ∧ fault.isLimit = true
          ∧ config.isLimited = true := by
  let env : MatchEnv := ⟨g, .ofText d.text, config⟩
  have checked : checkStart env "TOP" = .ok () :=
    MatchEnv.checkStart_of_valid speaks.valid ⟨_, speaks.lookup_top⟩
  have whole : isComplete env true d.node = true := by
    have size := (Subject.Leaves.start d.text).add_length
    simpa [isComplete, env, Document.node] using size
  exact MatchEnv.run_of_derives speaks.built checked (d.read speaks spaces) whole

/-- A text that matches is that of a document, and its match is the node of the document. -/
theorem document_of_parse {t : Text} {config : MatchConfig} {root : Match}
    (matched : parse ⟨g, .ofText t, config⟩ "TOP" true = .ok (.matched root))
    : ∃ d : Document spacing, d.text = t ∧ d.node = root.bare := by
  obtain ⟨derived, -⟩ :=
    MatchEnv.derives_of_run speaks.built speaks.faultless ⟨_, speaks.lookup_top⟩ matched
  exact exists_document speaks spaces derived

end Consumed

/-- The grammar of JSON texts matches a text exactly when it is one: an array or an object in the
standard's syntax with white space in all gaps. Only a limit on nesting, if there is one, may stop
the match first.
-/
theorem parse_iff_isText (t : Text) (config : MatchConfig)
    : ((∃ root, parse ⟨grammar, .ofText t, config⟩ "TOP" true = .ok (.matched root))
        ↔ IsText whiteSpace t)
      ∨ ∃ fault,
          parse ⟨grammar, .ofText t, config⟩ "TOP" true = .error fault
          ∧ fault.isLimit = true
          ∧ config.isLimited = true := by
  by_cases text : IsText whiteSpace t
  · obtain ⟨d, rfl⟩ := text
    refine (parse_document speaks_grammar spaces_grammar d config).imp_left fun matched => ?_
    obtain ⟨root, matched, -⟩ := matched
    exact iff_of_true ⟨root, matched⟩ ⟨d, rfl⟩
  · refine Or.inl (iff_of_false (fun matched => text ?_) text)
    obtain ⟨root, matched⟩ := matched
    obtain ⟨d, same, -⟩ := document_of_parse speaks_grammar spaces_grammar matched
    exact ⟨d, same⟩

end RuleGrammar.Json
