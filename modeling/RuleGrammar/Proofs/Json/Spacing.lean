import RuleGrammar.Proofs.Json.Classes
import RuleGrammar.Proofs.Json.Rules
import RuleGrammar.Proofs.Matcher.Completeness
import RuleGrammar.Proofs.Matcher.Consuming
import RuleGrammar.Proofs.Matcher.Reading

/-! What the rule for white space reads: in JSON texts white space and nothing else, and in JSON
with comments also comments, each up to the end of its line.
-/

namespace RuleGrammar.Json

/-- A code point that neither white space nor a comment can start with. -/
def IsSolid (c : CodePoint) : Prop :=
  c.isWhiteSpace = false ∧ c ≠ '/'

/-- What is skipped in front of a text: a gap between tokens, or one at the end. -/
def Spacing.gap (spacing : Spacing) : Takes :=
  fun t more => (more ≠ [] → spacing.inner t) ∧ (more = [] → spacing.final t)

/-- The rule of a grammar for white space reads all gaps of a spacing, and nothing else. -/
structure Spaces (g : Grammar) (spacing : Spacing) : Prop where
  reads
    : ∀ {subject : Subject} {pos : Int} {t rest : Text} {c : CodePoint},
        spacing.inner t
        → IsSolid c
        → subject.Leaves pos (t ++ c :: rest)
        → ∃ m, Derives g subject (.call "ws" pos (some m)) ∧ m.stop = pos + t.length
  readsFinal
    : ∀ {subject : Subject} {pos : Int} {t : Text},
        spacing.final t
        → subject.Leaves pos t
        → ∃ m, Derives g subject (.call "ws" pos (some m)) ∧ m.stop = pos + t.length
  takes
    : ∀ {subject : Subject} (pos : Int) (rest : Text) (answer : Option Match),
        subject.Leaves pos rest
        → Derives g subject (.call "ws" pos answer)
        → subject.Taken rest (answer.elim pos Match.stop) spacing.gap
  empty : spacing.inner []
  joins : ∀ {t u : Text}, spacing.inner t → spacing.inner u → spacing.inner (t ++ u)
  starts
    : ∀ {t : Text},
        spacing.inner t
        → ∀ c ∈ t.head?, c.isWhiteSpace = true ∨ c = '/'

variable {subject : Subject} {pos : Int} {t rest : Text}

/-- A call for white space gives what its rule's body reads. -/
theorem ws_read {g : Grammar} {rule : Rule} (stands : g.lookup "ws" = some (.rule rule))
    {r : Reached} (body : Derives g subject (.expr rule rule.expr pos (some r)))
    : ∃ m, Derives g subject (.call "ws" pos (some m)) ∧ m.stop = r.stop :=
  ⟨rule.node pos r, .call_of_rule stands body, rfl⟩

/-- A call for white space has taken what its rule's body consumes, if the body always reads
something, be it empty.
-/
theorem ws_taken {g : Grammar} {rule : Rule} {gap : Takes} {answer : Option Match}
    (stands : g.lookup "ws" = some (.rule rule))
    (always : ∀ pos, ¬ Derives g subject (.expr rule rule.expr pos none))
    (consumes : Consumes g subject rest.length rule rule.expr gap)
    (leaves : subject.Leaves pos rest) (derived : Derives g subject (.call "ws" pos answer))
    : subject.Taken rest (answer.elim pos Match.stop) gap := by
  cases derived with
  | callRule stands' applied =>
      obtain rfl : rule = _ := Entry.rule.inj (Option.some.inj (stands.symm.trans stands'))
      cases applied with
      | @apply _ _ answer body =>
          cases answer with
          | none => exact absurd body (always pos)
          | some r => exact consumes pos rest r (Nat.le_refl _) leaves body
  | callGroup stands' _ =>
      rw [stands] at stands'
      cases stands'

/-- A repetition that may go round no times never reads nothing. -/
theorem many_not_missed {g : Grammar} {rule : Rule} {body : Expr} {max : Option Nat}
    {sep : Option Expr}
    : ¬ Derives g subject (.expr rule (.repetition body 0 max sep false) pos none) := by
  intro derived
  generalize answered : none = answer at derived
  cases derived with
  | repetition rounds trail => cases answered

-----------------------------------------------------------------------------------------
-- White space
-----------------------------------------------------------------------------------------

/-- The rule for white space in JSON texts. -/
def wsRule : Rule where
  name := "ws"
  expr := many (Grammar.escapeClass .space)

theorem lookup_ws : grammar.lookup "ws" = some (.rule wsRule) := rfl

/-- White space in front of a code point that is none is read whole. -/
theorem ws_reads (white : ∀ c ∈ t, c.isWhiteSpace = true)
    (solid : ∀ c ∈ rest.head?, c.isWhiteSpace = false) (leaves : subject.Leaves pos (t ++ rest))
    : ∃ m,
        Derives grammar subject (.call "ws" pos (some m))
        ∧ m.stop = pos + t.length :=
  ws_read lookup_ws (Derives.class_many space_compiles rfl (Nat.zero_le _) leaves white solid)

/-- JSON texts have white space between their tokens. -/
theorem spaces_grammar : Spaces grammar whiteSpace where
  reads white solid leaves := ws_reads white (by simpa using solid.1) leaves
  readsFinal {subject pos t} white leaves := by
    have whole : subject.Leaves pos (t ++ []) := by rwa [List.append_nil]
    exact ws_reads white (by simp) whole
  takes pos rest answer leaves derived := by
    refine (ws_taken lookup_ws (fun _ => many_not_missed)
      (consumes_class_many rfl space_compiles) leaves derived).mono ?_
    rintro t more ⟨-, white, -⟩
    exact ⟨fun _ => white, fun _ => white⟩
  empty := by simp [whiteSpace]
  joins white white' c member := (List.mem_append.mp member).elim (white c) (white' c)
  starts white c first := Or.inl (white c (List.mem_of_head? first))

end RuleGrammar.Json
