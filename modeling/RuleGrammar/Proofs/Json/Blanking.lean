import RuleGrammar.Proofs.Json.Blank
import RuleGrammar.Proofs.Json.Language

/-! JSON with comments is JSON once the comments are blanked out: a document with comments becomes
one with white space in the same places, which has the same match tree, and every document in the
blanked text comes from one in the text.
-/

namespace RuleGrammar.Json

-----------------------------------------------------------------------------------------
-- Blanked trees
-----------------------------------------------------------------------------------------

def blankGap (gap : Gap commented) : Gap whiteSpace :=
  ⟨blank gap.val, gap.property.blank_white⟩

def blankLastGap (gap : LastGap commented) : LastGap whiteSpace :=
  ⟨blank gap.val, gap.property.blank_white⟩

mutual

/-- A tree with the comments in its gaps blanked out. -/
def Tree.blanked : Tree commented → Tree whiteSpace
  | .null => .null
  | .bool b => .bool b
  | .number n => .number n
  | .string pieces => .string pieces
  | .container kind content => .container kind content.blanked

def Content.blanked {kind : Kind} : Content commented kind → Content whiteSpace kind
  | .empty gap => .empty (blankGap gap)
  | .filled before chain after => .filled (blankGap before) chain.blanked (blankGap after)

def Chain.blanked {kind : Kind} : Chain commented kind → Chain whiteSpace kind
  | .last entry => .last entry.blanked
  | .more entry before after rest =>
      .more entry.blanked (blankGap before) (blankGap after) rest.blanked

def Entry.blanked {kind : Kind} : Entry commented kind → Entry whiteSpace kind
  | .item value => .item value.blanked
  | .pair key before after value => .pair key (blankGap before) (blankGap after) value.blanked

end

def Document.blanked (d : Document commented) : Document whiteSpace where
  before := blankGap d.before
  kind := d.kind
  content := d.content.blanked
  after := blankLastGap d.after

-----------------------------------------------------------------------------------------
-- Texts
-----------------------------------------------------------------------------------------

theorem blank_gap (gap : Gap commented) (rest : Text)
    : blank (gap.val ++ rest) = (blankGap gap).val ++ blank rest :=
  gap.property.blank_append fun none => none.elim

theorem passes_opener (kind : Kind) : Passes .code .code kind.opener := by
  cases kind <;> exact passes_inert (by decide)

theorem passes_closer (kind : Kind) : Passes .code .code kind.closer := by
  cases kind <;> exact passes_inert (by decide)

theorem passes_comma : Passes .code .code "," :=
  passes_inert (by decide)

theorem passes_colon : Passes .code .code ":" :=
  passes_inert (by decide)

theorem passes_null : Passes .code .code "null" :=
  passes_inert (by decide)

theorem passes_true : Passes .code .code "true" :=
  passes_inert (by decide)

theorem passes_false : Passes .code .code "false" :=
  passes_inert (by decide)

/-- Outside of strings, a text that passes is not changed, and what follows it is blanked. -/
theorem Passes.blank {t : Text} (passes : Passes .code .code t) (rest : Text)
    : blank (t ++ rest) = t ++ Json.blank rest :=
  passes.shown rest

mutual

/-- Blanking a tree's text gives the text of the blanked tree. -/
theorem Tree.blank_text (tree : Tree commented) (rest : Text)
    : blank (tree.text ++ rest) = tree.blanked.text ++ blank rest := by
  match tree with
  | .null => exact passes_null.blank rest
  | .bool true => exact passes_true.blank rest
  | .bool false => exact passes_false.blank rest
  | .number n => exact (passes_number n).blank rest
  | .string pieces => exact (passes_string pieces).blank rest
  | .container kind content =>
      simp only [Tree.blanked, Tree.text, List.append_assoc]
      rw [(passes_opener kind).blank, content.blank_text, (passes_closer kind).blank]

theorem Content.blank_text {kind : Kind} (content : Content commented kind) (rest : Text)
    : blank (content.text ++ rest) = content.blanked.text ++ blank rest := by
  match content with
  | .empty gap => exact blank_gap gap rest
  | .filled before chain after =>
      simp only [Content.blanked, Content.text, List.append_assoc]
      rw [blank_gap, chain.blank_text, blank_gap]

theorem Chain.blank_text {kind : Kind} (chain : Chain commented kind) (rest : Text)
    : blank (chain.text ++ rest) = chain.blanked.text ++ blank rest := by
  match chain with
  | .last entry => exact entry.blank_text rest
  | .more entry before after others =>
      simp only [Chain.blanked, Chain.text, List.append_assoc]
      rw [entry.blank_text, blank_gap, passes_comma.blank, blank_gap, others.blank_text]

theorem Entry.blank_text {kind : Kind} (entry : Entry commented kind) (rest : Text)
    : blank (entry.text ++ rest) = entry.blanked.text ++ blank rest := by
  match entry with
  | .item value => exact value.blank_text rest
  | .pair key before after value =>
      simp only [Entry.blanked, Entry.text, List.append_assoc]
      rw [(passes_string key).blank, blank_gap, passes_colon.blank, blank_gap, value.blank_text]

end

theorem Document.blank_text (d : Document commented) : blank d.text = d.blanked.text := by
  have last : blank d.after.val = (blankLastGap d.after).val := rfl
  simp only [Document.text, Document.tree, Document.blanked, List.append_assoc]
  rw [blank_gap, Tree.blank_text, last]
  rfl

-----------------------------------------------------------------------------------------
-- Nodes
-----------------------------------------------------------------------------------------

/-- A node depends on its text through the length only. -/
theorem nodeAt_of_length {t u : Text} (same : t.length = u.length) (rule : Name)
    (tag : Option Name) (pos : Int) (log : List Caught)
    : nodeAt rule tag pos t log = nodeAt rule tag pos u log := by
  simp only [nodeAt, same]

theorem length_of_blank {t u : Text} (same : ∀ rest, blank (t ++ rest) = u ++ blank rest)
    : u.length = t.length := by
  have alone := congrArg List.length (same [])
  simpa [blank, blankFrom, blankFrom_length] using alone.symm

theorem blankGap_length (gap : Gap commented) : (blankGap gap).val.length = gap.val.length :=
  length_of_blank (blank_gap gap)

theorem Tree.blanked_length (tree : Tree commented)
    : tree.blanked.text.length = tree.text.length :=
  length_of_blank tree.blank_text

theorem Content.blanked_length {kind : Kind} (content : Content commented kind)
    : content.blanked.text.length = content.text.length :=
  length_of_blank content.blank_text

theorem Chain.blanked_length {kind : Kind} (chain : Chain commented kind)
    : chain.blanked.text.length = chain.text.length :=
  length_of_blank chain.blank_text

theorem Entry.blanked_length {kind : Kind} (entry : Entry commented kind)
    : entry.blanked.text.length = entry.text.length :=
  length_of_blank entry.blank_text

/-- A mark with gaps around it keeps its length. -/
theorem mark_length (before after : Gap commented) (mark : Text)
    : ((blankGap before).val ++ mark ++ (blankGap after).val).length
      = (before.val ++ mark ++ after.val).length := by
  simp only [List.length_append, blankGap_length]

mutual

/-- A tree matches alike with its comments and without them. -/
theorem Tree.blanked_node (tree : Tree commented) (pos : Int)
    : tree.blanked.node pos = tree.node pos := by
  match tree with
  | .null | .bool true | .bool false | .number _ | .string _ => rfl
  | .container kind content =>
      have length : (kind.opener ++ content.blanked.text ++ kind.closer).length
          = (kind.opener ++ content.text ++ kind.closer).length := by
        simp only [List.length_append, content.blanked_length]
      simp only [Tree.blanked, Tree.node, content.blanked_node, nodeAt_of_length length]

theorem Content.blanked_node {kind : Kind} (content : Content commented kind) (pos : Int)
    : content.blanked.node pos = content.node pos := by
  match content with
  | .empty gap => simp only [Content.blanked, Content.node, blankGap_length]
  | .filled before chain after =>
      simp only [Content.blanked, Content.node, blankGap_length, chain.blanked_log,
        nodeAt_of_length chain.blanked_length]

theorem Chain.blanked_log {kind : Kind} (chain : Chain commented kind) (pos : Int)
    : chain.blanked.log pos = chain.log pos := by
  match chain with
  | .last entry => simp only [Chain.blanked, Chain.log, entry.blanked_node]
  | .more entry before after others =>
      simp only [Chain.blanked, Chain.log, entry.blanked_node, entry.blanked_length, mark_length,
        others.blanked_log]

theorem Entry.blanked_node {kind : Kind} (entry : Entry commented kind) (pos : Int)
    : entry.blanked.node pos = entry.node pos := by
  match entry with
  | .item value => exact value.blanked_node pos
  | .pair key before after value =>
      have length : (stringText key ++ ((blankGap before).val ++ ":" ++ (blankGap after).val)
            ++ value.blanked.text).length
          = (stringText key ++ (before.val ++ ":" ++ after.val) ++ value.text).length := by
        rw [List.length_append, List.length_append, mark_length, value.blanked_length]
        simp only [List.length_append]
      simp only [Entry.blanked, Entry.node, value.blanked_node, mark_length,
        nodeAt_of_length length]

end

theorem Document.blanked_node (d : Document commented) : d.blanked.node = d.node := by
  have length : d.blanked.text.length = d.text.length := by
    rw [← d.blank_text, blank, blankFrom_length]
  have brackets : (d.kind.opener ++ d.content.blanked.text ++ d.kind.closer).length
      = (d.kind.opener ++ d.content.text ++ d.kind.closer).length := by
    simp only [List.length_append, d.content.blanked_length]
  simp only [Document.node, containerNode, Document.blanked, blankGap_length,
    d.content.blanked_node, nodeAt_of_length brackets]
  exact nodeAt_of_length length ..

-----------------------------------------------------------------------------------------
-- Sources
-----------------------------------------------------------------------------------------

/-- A text that passes is shown only where it stands. -/
theorem Passes.source {t u more : Text} (passes : Passes .code .code u)
    (same : Json.blank t = u ++ more)
    : ∃ rest, t = u ++ rest ∧ Json.blank rest = more := by
  obtain ⟨rest, rfl⟩ := passes.stands same
  exact ⟨rest, rfl, passes.rest_eq same⟩

/-- White space is shown only for a gap, where something solid follows it. -/
theorem exists_gap (w : Gap whiteSpace) {t more : Text} (starts : StartsSolid more)
    (same : blank t = w.val ++ more)
    : ∃ (gap : Gap commented) (rest : Text),
        t = gap.val ++ rest
        ∧ blankGap gap = w
        ∧ blank rest = more := by
  obtain ⟨c, more, rfl, solid⟩ := starts
  have ended : ∀ d ∈ (c :: more).head?, d.isWhiteSpace = false := by
    intro d first
    obtain rfl : c = d := Option.some.inj first
    exact solid.1
  obtain ⟨gap, rest, rfl, commented, length⟩ := (exists_commented w.property ended).1 t same
  have inner : Commented False gap := commented.mono fun empty => by cases empty
  have split := (inner.blank_append fun none => none.elim).symm.trans same
  have lengths : (blank gap).length = w.val.length := by rw [blank, blankFrom_length, length]
  obtain ⟨shown, behind⟩ := List.append_inj split lengths
  exact ⟨⟨gap, inner⟩, rest, rfl, Subtype.ext shown, behind⟩

/-- A mark with white space around it is shown only for the mark with gaps around it. -/
theorem exists_mark (before after : Gap whiteSpace) {mark t more : Text}
    (passes : Passes .code .code mark) (solid : StartsSolid mark) (starts : StartsSolid more)
    (same : blank t = before.val ++ mark ++ after.val ++ more)
    : ∃ (gap gapAfter : Gap commented) (rest : Text),
        t = gap.val ++ mark ++ gapAfter.val ++ rest
        ∧ blankGap gap = before
        ∧ blankGap gapAfter = after
        ∧ blank rest = more := by
  simp only [List.append_assoc] at same
  obtain ⟨gap, _, rfl, shown, atMark⟩ := exists_gap before (solid.append _) same
  obtain ⟨_, rfl, behindMark⟩ := passes.source atMark
  obtain ⟨gapAfter, rest, rfl, shownAfter, behind⟩ := exists_gap after starts behindMark
  exact ⟨gap, gapAfter, rest, by simp only [List.append_assoc], shown, shownAfter, behind⟩

mutual

/-- The text of a tree is shown only for that of a tree that becomes it. -/
theorem Tree.exists_source (tree : Tree whiteSpace) {t more : Text}
    (same : blank t = tree.text ++ more)
    : ∃ (source : Tree commented) (rest : Text),
        t = source.text ++ rest
        ∧ source.blanked = tree
        ∧ blank rest = more := by
  match tree with
  | .null =>
      obtain ⟨rest, rfl, behind⟩ := passes_null.source same
      exact ⟨.null, rest, rfl, rfl, behind⟩
  | .bool true =>
      obtain ⟨rest, rfl, behind⟩ := passes_true.source same
      exact ⟨.bool true, rest, rfl, rfl, behind⟩
  | .bool false =>
      obtain ⟨rest, rfl, behind⟩ := passes_false.source same
      exact ⟨.bool false, rest, rfl, rfl, behind⟩
  | .number n =>
      obtain ⟨rest, rfl, behind⟩ := (passes_number n).source same
      exact ⟨.number n, rest, rfl, rfl, behind⟩
  | .string pieces =>
      obtain ⟨rest, rfl, behind⟩ := (passes_string pieces).source same
      exact ⟨.string pieces, rest, rfl, rfl, behind⟩
  | .container kind content =>
      simp only [Tree.text, List.append_assoc] at same
      obtain ⟨_, rfl, inside⟩ := (passes_opener kind).source same
      obtain ⟨source, _, rfl, rfl, atCloser⟩ := content.exists_source inside
      obtain ⟨rest, rfl, behind⟩ := (passes_closer kind).source atCloser
      refine ⟨.container kind source, rest, ?_, rfl, behind⟩
      simp only [Tree.text, List.append_assoc]

theorem Content.exists_source {kind : Kind} (content : Content whiteSpace kind) {t more : Text}
    (same : blank t = content.text ++ (kind.closer ++ more))
    : ∃ (source : Content commented kind) (rest : Text),
        t = source.text ++ rest
        ∧ source.blanked = content
        ∧ blank rest = kind.closer ++ more := by
  have closed := kind.closer_startsSolid.append more
  match content with
  | .empty gap =>
      obtain ⟨source, rest, rfl, rfl, behind⟩ := exists_gap gap closed same
      exact ⟨.empty source, rest, rfl, rfl, behind⟩
  | .filled before chain after =>
      simp only [Content.text, List.append_assoc] at same
      obtain ⟨gap, _, rfl, rfl, atChain⟩ := exists_gap before (chain.startsSolid.append _) same
      obtain ⟨source, _, rfl, rfl, behindChain⟩ := chain.exists_source atChain
      obtain ⟨gapAfter, rest, rfl, rfl, behind⟩ := exists_gap after closed behindChain
      refine ⟨.filled gap source gapAfter, rest, ?_, rfl, behind⟩
      simp only [Content.text, List.append_assoc]

theorem Chain.exists_source {kind : Kind} (chain : Chain whiteSpace kind) {t more : Text}
    (same : blank t = chain.text ++ more)
    : ∃ (source : Chain commented kind) (rest : Text),
        t = source.text ++ rest
        ∧ source.blanked = chain
        ∧ blank rest = more := by
  match chain with
  | .last entry =>
      obtain ⟨source, rest, rfl, rfl, behind⟩ := entry.exists_source same
      exact ⟨.last source, rest, rfl, rfl, behind⟩
  | .more entry before after others =>
      rw [Chain.text, List.append_assoc, List.append_assoc] at same
      obtain ⟨source, _, rfl, rfl, behindEntry⟩ := entry.exists_source same
      obtain ⟨gap, gapAfter, _, rfl, rfl, rfl, atOthers⟩ :=
        exists_mark before after passes_comma comma_startsSolid (others.startsSolid.append _)
          behindEntry
      obtain ⟨sources, rest, rfl, rfl, behind⟩ := others.exists_source atOthers
      refine ⟨.more source gap gapAfter sources, rest, ?_, rfl, behind⟩
      simp only [Chain.text, List.append_assoc]

theorem Entry.exists_source {kind : Kind} (entry : Entry whiteSpace kind) {t more : Text}
    (same : blank t = entry.text ++ more)
    : ∃ (source : Entry commented kind) (rest : Text),
        t = source.text ++ rest
        ∧ source.blanked = entry
        ∧ blank rest = more := by
  match entry with
  | .item value =>
      obtain ⟨source, rest, rfl, rfl, behind⟩ := value.exists_source same
      exact ⟨.item source, rest, rfl, rfl, behind⟩
  | .pair key before after value =>
      rw [Entry.text, List.append_assoc, List.append_assoc] at same
      obtain ⟨_, rfl, behindKey⟩ := (passes_string key).source same
      obtain ⟨gap, gapAfter, _, rfl, rfl, rfl, atValue⟩ :=
        exists_mark before after passes_colon colon_startsSolid (value.startsSolid.append _)
          behindKey
      obtain ⟨source, rest, rfl, rfl, behind⟩ := value.exists_source atValue
      refine ⟨.pair key gap gapAfter source, rest, ?_, rfl, behind⟩
      simp only [Entry.text, List.append_assoc]

end

/-- White space at the end is shown only for a gap there. -/
theorem exists_lastGap (w : LastGap whiteSpace) {t : Text} (same : blank t = w.val)
    : ∃ gap : LastGap commented, gap.val = t ∧ blankLastGap gap = w := by
  have whole : blank t = w.val ++ [] := by rw [List.append_nil, same]
  obtain ⟨gap, rest, rfl, commented, length⟩ :=
    (exists_commented w.property (by simp)).1 t whole
  have none : rest = [] := by
    have lengths := congrArg List.length same
    rw [blank, blankFrom_length, List.length_append] at lengths
    exact List.length_eq_zero_iff.mp (by omega)
  subst none
  have final : Commented True gap := commented.mono fun _ => trivial
  rw [List.append_nil] at same
  exact ⟨⟨gap, final⟩, (List.append_nil gap).symm, Subtype.ext same⟩

/-- A text that a document is left of when its comments are blanked out is that of a document. -/
theorem Document.exists_source (d : Document whiteSpace) {t : Text} (same : blank t = d.text)
    : ∃ source : Document commented, source.text = t ∧ source.blanked = d := by
  obtain ⟨before, kind, content, after⟩ := d
  have solid : StartsSolid (Tree.container kind content).text := Tree.startsSolid _
  rw [Document.text, Document.tree, List.append_assoc] at same
  obtain ⟨gap, _, rfl, rfl, atTree⟩ := exists_gap before (solid.append _) same
  obtain ⟨tree, rest, rfl, shown, behind⟩ := Tree.exists_source _ atTree
  obtain ⟨gapAfter, rfl, rfl⟩ := exists_lastGap after behind
  cases tree with
  | container kind' content' =>
      cases shown
      exact ⟨⟨gap, kind, content', gapAfter⟩, List.append_assoc _ _ _, rfl⟩
  | _ => cases shown

-----------------------------------------------------------------------------------------
-- Matches
-----------------------------------------------------------------------------------------

/-- JSON with comments matches a text with just the tree, identities of nodes aside, with which
JSON matches the text with its comments blanked out. Only a limit on nesting, if there is one, may
stop one of the two first.
-/
theorem parse_commented_iff (t : Text) (config : MatchConfig)
    : (∀ m : Match,
        (∃ root,
          parse ⟨commentedGrammar, .ofText t, config⟩ "TOP" true = .ok (.matched root)
          ∧ root.bare = m)
        ↔ ∃ root,
            parse ⟨grammar, .ofText (blank t), config⟩ "TOP" true = .ok (.matched root)
            ∧ root.bare = m)
      ∨ ∃ fault,
          (parse ⟨commentedGrammar, .ofText t, config⟩ "TOP" true = .error fault
            ∨ parse ⟨grammar, .ofText (blank t), config⟩ "TOP" true = .error fault)
          ∧ fault.isLimit = true
          ∧ config.isLimited = true := by
  by_cases text : IsText commented t
  · obtain ⟨d, rfl⟩ := text
    have source := parse_document speaks_commentedGrammar spaces_commentedGrammar d config
    have shown := parse_document speaks_grammar spaces_grammar d.blanked config
    rw [← d.blank_text, d.blanked_node] at shown
    rcases source with ⟨root, matched, bare⟩ | ⟨fault, stopped, limit⟩
    · rcases shown with ⟨root', matched', bare'⟩ | ⟨fault, stopped, limit⟩
      · refine Or.inl fun m => ⟨fun found => ?_, fun found => ?_⟩
        · obtain ⟨other, again, same⟩ := found
          cases matched.symm.trans again
          exact ⟨root', matched', bare'.trans (bare.symm.trans same)⟩
        · obtain ⟨other, again, same⟩ := found
          cases matched'.symm.trans again
          exact ⟨root, matched, bare.trans (bare'.symm.trans same)⟩
      · exact Or.inr ⟨fault, Or.inr stopped, limit⟩
    · exact Or.inr ⟨fault, Or.inl stopped, limit⟩
  · refine Or.inl fun m => iff_of_false (fun matched => text ?_) fun matched => text ?_
    · obtain ⟨root, matched, -⟩ := matched
      obtain ⟨d, same, -⟩ :=
        document_of_parse speaks_commentedGrammar spaces_commentedGrammar matched
      exact ⟨d, same⟩
    · obtain ⟨root, matched, -⟩ := matched
      obtain ⟨d, same, -⟩ := document_of_parse speaks_grammar spaces_grammar matched
      obtain ⟨source, same, -⟩ := d.exists_source same.symm
      exact ⟨source, same⟩

end RuleGrammar.Json
