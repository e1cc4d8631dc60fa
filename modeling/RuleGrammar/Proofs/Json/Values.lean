import RuleGrammar.Proofs.Json.Strings

/-! Values as the grammar tells them apart. The first code point of a value decides which of the
alternatives can match it, so the longest match is the only one.
-/

namespace RuleGrammar.Json

variable {g : Grammar} {subject : Subject} {rule : Rule} {pos : Int} {rest : Text}

-----------------------------------------------------------------------------------------
-- The rules of brackets
-----------------------------------------------------------------------------------------

/-- The content of a kind of brackets, captured. -/
def listCall (kind : Kind) : Expr :=
  .reference kind.listRule (some kind.listRule)

/-- An entry of a kind of brackets, captured. -/
def entryCall (kind : Kind) : Expr :=
  .reference kind.entryRule (some kind.entryRule)

/-- The rule of a kind of brackets. -/
def containerRule (kind : Kind) : Rule where
  name := kind.rule
  expr := .goal (.literal kind.opener) (.literal kind.closer) (listCall kind)
  kind := .rule

/-- The rule of what stands between a kind of brackets. -/
def listRule (kind : Kind) : Rule where
  name := kind.listRule
  expr := commaSeparated (entryCall kind)
  kind := .rule

def pairRule : Rule where
  name := "pair"
  expr := .sequence [call "string", lit ":", call "value"]
  kind := .rule

/-- The alternative of values that is a kind of brackets. -/
def containerValue (kind : Kind) : Rule where
  name := "value"
  expr := .reference kind.rule (some kind.rule)
  tag := some kind.rule

theorem containerValue_mem (kind : Kind) : containerValue kind ∈ value.alternatives := by
  cases kind <;> simp [value, valueAs, call, containerValue, Kind.rule]

section Lookups

variable (speaks : Speaks g)

include speaks

theorem Speaks.lookup_container (kind : Kind)
    : g.lookup kind.rule = some (.rule (containerRule kind)) := by
  cases kind <;> exact (speaks.same _ (by decide)).trans rfl

theorem Speaks.lookup_list (kind : Kind)
    : g.lookup kind.listRule = some (.rule (listRule kind)) := by
  cases kind <;> exact (speaks.same _ (by decide)).trans rfl

theorem Speaks.lookup_pair : g.lookup "pair" = some (.rule pairRule) :=
  (speaks.same _ (by decide)).trans rfl

theorem Speaks.lookup_value : g.lookup "value" = some (.group value) :=
  (speaks.same _ (by decide)).trans rfl

end Lookups

-----------------------------------------------------------------------------------------
-- What is missed
-----------------------------------------------------------------------------------------

theorem Kind.opener_ne_nil (kind : Kind) : kind.opener ≠ [] := by
  cases kind <;> exact List.cons_ne_nil _ _

/-- A text of one code point is missed where another one stands. -/
theorem literal_missed_at {c : CodePoint} {literal : Text} {first : CodePoint}
    (starts : literal.head? = some first) (other : c ≠ first)
    (leaves : subject.Leaves pos (c :: rest))
    : Derives g subject (.expr rule (.literal literal) pos none) := by
  refine .literal_missed leaves ?_
  intro begins
  obtain ⟨more, whole⟩ := begins
  cases literal with
  | nil => cases starts
  | cons d literal =>
      obtain rfl : d = first := Option.some.inj starts
      exact other (List.cons.inj whole).1.symm

/-- What is told by its tag is missed where its tag does not start. -/
theorem sym_missed {tag : Name} {c first : CodePoint} (tagged : rule.tag = some tag)
    (starts : tag.head? = some first) (other : c ≠ first)
    (leaves : subject.Leaves pos (c :: rest))
    : Derives g subject (.expr rule .sym pos none) := by
  have absent : ¬ subject.holds tag pos = true := by
    intro stands
    obtain ⟨more, whole⟩ := leaves.holds_iff.mp stands
    cases tag with
    | nil => cases starts
    | cons d tag =>
        obtain rfl : d = first := Option.some.inj starts
        exact other (List.cons.inj whole).1.symm
  have derived : Derives g subject (.expr rule .sym pos _) := .sym tagged
  rwa [if_neg absent] at derived

/-- A number is missed where neither a sign nor a digit stands. -/
theorem number_missed {c : CodePoint} (token : rule.sigspace = false) (unsigned : c ≠ '-')
    (other : c.isAsciiDigit = false) (leaves : subject.Leaves pos (c :: rest))
    : Derives g subject (.expr rule numberBody pos none) := by
  have sign : Reads g subject rule (optional (lit "-")) pos [] :=
    .left_out token (literal_missed_at rfl unsigned leaves)
  have nonzero : c ≠ '0' := by
    intro zero
    rw [zero] at other
    cases other
  have notPositive : isPositiveDigit c = false := by
    simp only [CodePoint.isAsciiDigit, Bool.and_eq_false_iff, decide_eq_false_iff_not] at other
    simp only [isPositiveDigit, Bool.and_eq_false_iff, decide_eq_false_iff_not]
    omega
  have noDigits : Derives g subject
      (.expr rule (.sequence [within '1' '9', many (within '0' '9')]) pos none) := by
    refine .sequence (.items_missed token (.class_missed positiveDigit_compiles leaves ?_))
    intro d first
    obtain rfl : c = d := Option.some.inj first
    exact notPositive
  have whole : Derives g subject (.expr rule
      (.choice [lit "0", .sequence [within '1' '9', many (within '0' '9')]]) pos none) :=
    .choice (.choiceLater (literal_missed_at rfl nonzero leaves)
      (.choiceLater noDigits .choiceNone))
  have same : pos + ([] : Text).length = pos := Int.add_zero pos
  rw [Reads, same] at sign
  exact .sequence (.items_cut token sign (.items_missed token whole))

/-- Brackets are missed where their opener does not start. -/
theorem container_missed (speaks : Speaks g) (kind : Kind) {c : CodePoint}
    (other : kind.opener ≠ [c]) (leaves : subject.Leaves pos (c :: rest))
    : Derives g subject (.expr rule (.reference kind.rule (some kind.rule)) pos none) := by
  have unopened : Derives g subject
      (.expr (containerRule kind) (.literal kind.opener) pos none) := by
    refine .literal_missed leaves ?_
    intro begins
    obtain ⟨more, whole⟩ := begins
    cases kind <;> exact other (by rw [← (List.cons.inj whole).1]; rfl)
  exact captured_missed (speaks.lookup_container kind) (.goalUnopened unopened)

/-- A string is missed where no quotation mark stands. -/
theorem string_missed (speaks : Speaks g) {c : CodePoint} (other : c ≠ '"')
    (leaves : subject.Leaves pos (c :: rest))
    : Derives g subject (.expr rule (call "string") pos none) := by
  have unopened : Derives g subject (.expr stringRule (.literal quote) pos none) :=
    literal_missed_at rfl other leaves
  exact captured_missed speaks.lookup_string (.goalUnopened unopened)

-----------------------------------------------------------------------------------------
-- Telling values apart
-----------------------------------------------------------------------------------------

/-- The alternative of values that a first code point tells. -/
def tagFor (c : CodePoint) : Option Name :=
  if c = '-' ∨ c.isAsciiDigit = true then some "number"
  else if c = 't' then some "true"
  else if c = 'f' then some "false"
  else if c = 'n' then some "null"
  else if c = '\x7b' then some "object"
  else if c = '[' then some "array"
  else if c = '"' then some "string"
  else none

/-- An alternative of values is missed where the first code point tells another one. -/
theorem alternative_missed (speaks : Speaks g) {c : CodePoint}
    (member : rule ∈ value.alternatives) (other : rule.tag ≠ tagFor c)
    (leaves : subject.Leaves pos (c :: rest))
    : Derives g subject (.apply rule pos none) := by
  suffices body : Derives g subject (.expr rule rule.expr pos none) from .apply body
  simp only [value, List.mem_cons, List.not_mem_nil, or_false] at member
  rcases member with rfl | rfl | rfl | rfl | rfl | rfl | rfl
  · have unsigned : ¬ (c = '-' ∨ c.isAsciiDigit = true) := fun first => other (if_pos first).symm
    obtain ⟨unsigned, notDigit⟩ := not_or.mp unsigned
    exact number_missed rfl unsigned (by simpa using notDigit) leaves
  · exact sym_missed rfl rfl (fun same => other (by rw [same]; rfl)) leaves
  · exact sym_missed rfl rfl (fun same => other (by rw [same]; rfl)) leaves
  · exact sym_missed rfl rfl (fun same => other (by rw [same]; rfl)) leaves
  · refine container_missed speaks .object (fun same => other ?_) leaves
    rw [← List.singleton_inj.mp same]
    rfl
  · refine container_missed speaks .array (fun same => other ?_) leaves
    rw [← List.singleton_inj.mp same]
    rfl
  · exact string_missed speaks (fun same => other (by rw [same]; rfl)) leaves

/-- Where all alternatives but one are missed, that one is the furthest. Induction on the
alternatives, while nothing or that one has been found before them.
-/
theorem dispatch_read {alternatives : List Rule} {hit : Rule} {m : Match} {best : Option Match}
    (here : Derives g subject (.apply hit pos (some m)))
    (missed : ∀ rule ∈ alternatives, rule ≠ hit → Derives g subject (.apply rule pos none))
    (before : best = none ∨ best = some m) (found : hit ∈ alternatives ∨ best = some m)
    : Derives g subject (.group alternatives best pos (some m)) := by
  induction alternatives generalizing best with
  | nil =>
      rcases found with member | rfl
      · cases member
      · exact .dispatchDone
  | cons rule others ih =>
      have missedLater (rule : Rule) (member : rule ∈ others) (other : rule ≠ hit)
          : Derives g subject (.apply rule pos none) :=
        missed rule (List.mem_cons_of_mem _ member) other
      by_cases same : rule = hit
      · subst same
        have now : furtherMatch best (some m) = some m := by
          rcases before with rfl | rfl
          · rfl
          · exact if_neg (Int.lt_irrefl m.stop)
        have later := ih missedLater (Or.inr rfl) (Or.inr rfl)
        refine .dispatchNext here ?_
        rw [now]
        exact later
      · have now : furtherMatch best none = best := by cases best <;> rfl
        have later : hit ∈ others ∨ best = some m := by
          rcases found with member | found
          · exact Or.inl ((List.mem_cons.mp member).resolve_left (Ne.symm same))
          · exact Or.inr found
        have missedHere := missed rule List.mem_cons_self same
        exact .dispatchNext missedHere (now.symm ▸ ih missedLater before later)

/-- What the alternative that the first code point tells reads, a call for a value gives. -/
theorem value_read (speaks : Speaks g) {hit : Rule} {c : CodePoint} {t : Text}
    {log : List Caught} (member : hit ∈ value.alternatives) (starts : t.head? = some c)
    (told : tagFor c = hit.tag) (leaves : subject.Leaves pos (t ++ rest))
    (body : Derives g subject (.expr hit hit.expr pos (some ⟨pos + t.length, log⟩)))
    : Derives g subject (.call "value" pos (some (nodeAt "value" hit.tag pos t log))) := by
  have named : ∀ rule ∈ value.alternatives, rule.name = "value" := by decide
  have distinct : (value.alternatives.map Rule.tag).Nodup := by decide
  have here : Derives g subject (.apply hit pos (some (nodeAt "value" hit.tag pos t log))) := by
    rw [← named hit member]
    exact .apply body
  obtain ⟨more, rfl⟩ : ∃ more, t = c :: more := ⟨t.tail, (List.cons_head?_tail starts).symm⟩
  refine .callGroup speaks.lookup_value
    (dispatch_read here (fun rule among other => ?_) (Or.inl rfl) (Or.inl member))
  have otherTag : rule.tag ≠ tagFor c := by
    intro same
    exact other (List.inj_on_of_nodup_map distinct among member (same.trans told))
  exact alternative_missed speaks among otherTag leaves

/-- No value starts with a code point that tells no alternative. -/
theorem value_missed (speaks : Speaks g) {c : CodePoint} (untold : tagFor c = none)
    (leaves : subject.Leaves pos (c :: rest))
    : Derives g subject (.call "value" pos none) := by
  have tagged : ∀ rule ∈ value.alternatives, rule.tag ≠ none := by decide
  have missed {alternatives : List Rule} (within : alternatives ⊆ value.alternatives)
      : Derives g subject (.group alternatives none pos none) := by
    induction alternatives with
    | nil => exact .dispatchDone
    | cons rule others ih =>
        obtain ⟨member, within⟩ := List.cons_subset.mp within
        have here : Derives g subject (.apply rule pos none) :=
          alternative_missed speaks member (untold ▸ tagged rule member) leaves
        exact .dispatchNext here (ih within)
  exact .callGroup speaks.lookup_value (missed (List.Subset.refl _))

end RuleGrammar.Json
