import RuleGrammar.Proofs.Json.Decoding
import RuleGrammar.Proofs.Matcher.Ensuring

/-! How deep arrays may nest under a ceiling. Each array inside another one takes the room of three
rules, so a text that opens enough arrays at its start is never matched, well formed or not.
-/

namespace RuleGrammar.Json

-----------------------------------------------------------------------------------------
-- What is known while arrays are opened
-----------------------------------------------------------------------------------------

/-- An answer that does not help to match an array: of another kind of value, or that there is no
object.
-/
def IsAside (key : Key) (answer : Option Match) : Prop :=
  key.rule = "value" ∧ key.tag ≠ some "array" ∨ key.rule = "object" ∧ answer = none

/-- A memo that knows no array, nor what would lead to one. -/
def Ignorant (memo : Memo) : Prop :=
  ∀ key answer, memo.find? key = some answer → IsAside key answer

namespace Ignorant

theorem empty : Ignorant {} := by
  intro key answer found
  rw [Memo.find?_empty] at found
  cases found

theorem insert {memo : Memo} (ignorant : Ignorant memo) {key : Key} {answer : Option Match}
    (aside : IsAside key answer)
    : Ignorant (memo.insert key answer) := by
  intro other known found
  rcases Memo.find?_insert_cases found with ⟨rfl, rfl⟩ | before
  · exact aside
  · exact ignorant other known before

theorem unknown {memo : Memo} (ignorant : Ignorant memo) {key : Key}
    (notAside : ∀ answer, ¬ IsAside key answer)
    : memo.find? key = none := by
  cases found : memo.find? key with
  | none => rfl
  | some answer => exact absurd (ignorant key answer found) (notAside answer)

end Ignorant

-----------------------------------------------------------------------------------------
-- Calls where an array is opened
-----------------------------------------------------------------------------------------

theorem numberBody_callFree : numberBody.CallFree := by
  have digits {min : Nat} : (Expr.repetition (within '0' '9') min none none false).CallFree :=
    .repetition (.charClass _)
  have positive : (Expr.sequence [within '1' '9', many (within '0' '9')]).CallFree :=
    .sequence (by simpa using ⟨.charClass _, digits⟩)
  have fraction : (Expr.sequence [lit ".", atLeastOne (within '0' '9')]).CallFree :=
    .sequence (by simpa using ⟨.literal _, digits⟩)
  have exponent
      : (Expr.sequence [oneOf "eE", optional (oneOf "+-"), atLeastOne (within '0' '9')]).CallFree :=
    .sequence (by simpa using ⟨.charClass _, .repetition (.charClass _), digits⟩)
  have whole
      : (Expr.choice [lit "0", .sequence [within '1' '9', many (within '0' '9')]]).CallFree :=
    .choice (by simpa using ⟨.literal _, positive⟩)
  refine .sequence ?_
  simp only [List.forall_mem_cons]
  exact ⟨.repetition (.literal _), whole, .repetition fraction, .repetition exponent, by simp⟩

section Calls

open MatchEnv

variable {env : MatchEnv} {room : Nat} {scope : Scope} {pos : Int} {c : CodePoint} {rest : Text}
  (json : env.grammar = grammar)

include json

/-- In front of a code point that is no white space, white space is skipped to where it started. -/
theorem ws_stays (leaves : env.subject.Leaves pos (c :: rest)) (solid : c.isWhiteSpace = false)
    (quiet : scope.quiet = true)
    : env.Ensures Ignorant (callWithin env room scope "ws" pos) fun m => ∀ n ∈ m, n.stop = pos := by
  have body (less : Nat)
      : env.Ensures Ignorant (evalBody env less scope wsRule pos) fun r =>
          r.map Reached.stop = some pos := by
    refine .repetition_missed (.charClass_missed leaves.at? fun holds compiled => ?_)
    rw [space_compiles] at compiled
    cases compiled
    exact solid
  have node (r : Option Reached) (m : Option Match) (stays : r.map Reached.stop = some pos)
      (same : m.map Match.stop = r.map Reached.stop)
      : ∀ n ∈ m, n.stop = pos := by
    rintro n rfl
    exact Option.some.inj (same.trans stays)
  refine .callName_rule (json ▸ lookup_ws) (.applyRule ?_ (fun less _ => body less) node
    fun _ _ _ _ => Or.inl quiet)
  intro memo answer ignorant known
  have aside := ignorant _ _ known
  simp [IsAside, wsRule, Text.ofString] at aside

/-- The rule for objects misses all texts that do not start with an opening brace. -/
theorem object_missed (leaves : env.subject.Leaves pos (c :: rest)) (other : c ≠ '\x7b')
    : env.Ensures Ignorant (callWithin env room scope "object" pos) fun m => m = none := by
  have body (less : Nat)
      : env.Ensures Ignorant (evalBody env less scope (containerRule .object) pos) fun r =>
          r = none := by
    refine .goal_missed ((Ensures.literal _).mono fun r same => same.trans (if_neg ?_))
    rw [leaves.holds_iff]
    intro starts
    exact other (List.cons_prefix_cons.mp starts).1.symm
  have node (r : Option Reached) (m : Option Match) (missed : r = none)
      (same : m.map Match.stop = r.map Reached.stop)
      : m = none := by
    rw [missed] at same
    exact Option.map_eq_none_iff.mp same
  refine .callName_rule (json ▸ speaks_grammar.lookup_container .object) (.applyRule ?_
    (fun less _ => body less) node fun r m missed same => Or.inr fun memo ignorant =>
      ignorant.insert (Or.inr ⟨rfl, node r m missed same⟩))
  intro memo answer ignorant known
  rcases ignorant _ _ known with ⟨isValue, -⟩ | ⟨-, missed⟩
  · cases isValue
  · exact missed

omit json in
/-- Applying an alternative of values other than arrays teaches nothing of arrays, if evaluating its
body does not.
-/
theorem alternative_aside {tag : String} {expr : Expr} (other : (tag : Text) ≠ "array")
    (body
      : ∀ less,
          env.Ensures Ignorant (evalBody env less scope (valueAs tag expr) pos) fun _ => True)
    : env.Ensures Ignorant (applyRule env room scope (valueAs tag expr) pos) fun _ => True :=
  .applyRule (fun _ _ _ _ => trivial) (fun less _ => body less) (fun _ _ _ _ => trivial)
    fun _ _ _ _ => Or.inr fun _ ignorant =>
      ignorant.insert (Or.inl ⟨rfl, fun same => other (Option.some.inj same)⟩)

/-- The alternatives of values in front of arrays. -/
def beforeArray : List Rule :=
  [valueAs "number" numberBody, valueAs "true" .sym, valueAs "false" .sym, valueAs "null" .sym,
    valueAs "object" (call "object")]

/-- The alternatives in front of arrays teach nothing of arrays, where there is no object. -/
theorem beforeArray_aside (leaves : env.subject.Leaves pos (c :: rest)) (other : c ≠ '\x7b')
    : ∀ rule ∈ beforeArray,
        env.Ensures Ignorant (applyRule env room scope rule pos) fun _ => True := by
  have free {tag : String} {expr : Expr} (notArray : (tag : Text) ≠ "array")
      (callFree : expr.CallFree)
      : env.Ensures Ignorant (applyRule env room scope (valueAs tag expr) pos) fun _ => True :=
    alternative_aside notArray fun _ => .of_callFree rfl callFree
  have object (less : Nat)
      : env.Ensures Ignorant (evalBody env less scope (valueAs "object" (call "object")) pos)
          fun _ => True :=
    (Ensures.reference (object_missed json leaves other)).mono fun _ _ => trivial
  simp only [beforeArray, List.forall_mem_cons]
  exact ⟨free (by decide) numberBody_callFree, free (by decide) .sym, free (by decide) .sym,
    free (by decide) .sym, alternative_aside (by decide) object, by simp⟩

/-- The rules on the way to an array, whose answers are not known before one is found. -/
def leadingRules : List Rule :=
  [topRule, containerRule .array, listRule .array, containerValue .array]

omit json in
/-- A rule on the way to an array never answers if its body does not. -/
theorem leading_unanswered {rule : Rule} (leading : rule ∈ leadingRules)
    (body
      : ∀ less,
          room = less + 1
          → env.Unanswered Ignorant (evalBody env less scope rule pos))
    : env.Unanswered Ignorant (applyRule env room scope rule pos) := by
  refine .applyRule_stuck (fun memo ignorant => ignorant.unknown fun answer aside => ?_) body
  simp only [leadingRules, List.mem_cons, List.not_mem_nil, or_false] at leading
  rcases aside with ⟨isValue, notArray⟩ | ⟨isObject, -⟩
  · rcases leading with rfl | rfl | rfl | rfl
    · cases isValue
    · cases isValue
    · cases isValue
    · exact notArray rfl
  · rcases leading with rfl | rfl | rfl | rfl <;> cases isObject

/-- A value is not matched where an array is opened that is not matched with less room. -/
theorem value_unanswered (leaves : env.subject.Leaves pos (CodePoint.ofChar '[' :: rest))
    (inside
      : ∀ less scope,
          room = less + 1
          → env.Unanswered Ignorant (callWithin env less scope "array" pos))
    : env.Unanswered Ignorant (callWithin env room scope "value" pos) := by
  have applied : env.Unanswered Ignorant (applyRule env room scope (containerValue .array) pos) :=
    leading_unanswered (by simp [leadingRules]) fun less same =>
      .reference_stuck (inside less _ same)
  exact .callName_stuck (json ▸ speaks_grammar.lookup_value)
    (show value.alternatives = beforeArray ++ containerValue .array :: _ from rfl)
    (beforeArray_aside json leaves (by decide)) applied

/-- An array is not matched if the one that is opened first in it is not matched with the room that
three more rules leave.
-/
theorem outer_array_unanswered
    (leaves : env.subject.Leaves pos (CodePoint.ofChar '[' :: CodePoint.ofChar '[' :: rest))
    (inside
      : ∀ less scope,
          room = less + 3
          → env.Unanswered Ignorant (callWithin env less scope "array" (pos + 1)))
    : env.Unanswered Ignorant (callWithin env room scope "array" pos) := by
  have opened := leaves.advance_one
  have holds : env.subject.holds Kind.array.opener pos = true :=
    leaves.holds_iff.mpr (List.prefix_append _ _)
  have list (more : Nat) (scope : Scope) (same : room = more + 1)
      : env.Unanswered Ignorant (callWithin env more scope Kind.array.listRule (pos + 1)) := by
    refine .callName_rule (json ▸ speaks_grammar.lookup_list .array)
      (leading_unanswered (by simp [leadingRules]) fun less same' => ?_)
    refine .repetition_stuck rfl (.reference_stuck (value_unanswered json opened ?_))
    intro least scope same''
    exact inside least scope (by omega)
  refine .callName_rule (json ▸ speaks_grammar.lookup_container .array)
    (leading_unanswered (by simp [leadingRules]) fun less same => ?_)
  exact .goal_stuck ((Ensures.literal _).mono fun r found => found.trans (if_pos holds))
    (.skipSpace (ws_stays json opened rfl rfl)) (.reference_stuck (list less _ same))

/-- An array is never matched where more arrays are opened than there is room for, by induction on
those inside.
-/
theorem array_unanswered {inner : Nat}
    (leaves : env.subject.Leaves pos (List.replicate (inner + 1) (CodePoint.ofChar '[') ++ rest))
    (low : room ≤ 3 * inner)
    : env.Unanswered Ignorant (callWithin env room scope "array" pos) := by
  induction inner generalizing room scope pos with
  | zero =>
      refine .callName_rule (json ▸ speaks_grammar.lookup_container .array)
        (leading_unanswered (by simp [leadingRules]) fun less same => ?_)
      omega
  | succ inner ih =>
      refine outer_array_unanswered json leaves fun less scope same => ih ?_ (by omega)
      exact leaves.advance_one

/-- A whole text is never matched if it opens more arrays at its start than there is room for. -/
theorem top_unanswered {inner : Nat}
    (leaves : env.subject.Leaves 0 (List.replicate (inner + 1) (CodePoint.ofChar '[') ++ rest))
    (low : room ≤ 3 * inner + 1)
    : env.Unanswered Ignorant (callWithin env room scope "TOP" 0) := by
  have opened : env.subject.Leaves 0 (CodePoint.ofChar '[' :: _) := leaves
  refine .callName_rule (json ▸ speaks_grammar.lookup_top)
    (leading_unanswered (by simp [leadingRules]) fun less same => ?_)
  let site : Site := ⟨env.subject, topRule, scope.enter topRule 0, callWithin env less⟩
  have space : env.Ensures Ignorant (site.skipSpace 0) fun stop => stop = 0 :=
    .skipSpace (ws_stays json opened rfl rfl)
  have missed : env.Ensures Ignorant (eval site (call "object") 0) fun r => r = none := by
    refine (Ensures.reference (object_missed json opened (by decide))).mono fun r found => ?_
    obtain ⟨m, rfl, same⟩ := found
    simpa using same.symm
  have choice : env.Unanswered Ignorant (eval site (.choice [call "object", call "array"]) 0) :=
    .choice_stuck [call "object"] (by simpa using missed)
      (.reference_stuck (array_unanswered json leaves (by omega)))
  exact .items_stuck_later .inputStart (.items_stuck space choice)

end Calls

-----------------------------------------------------------------------------------------
-- Texts that open arrays
-----------------------------------------------------------------------------------------

/-- Under a ceiling, a text that opens too many arrays at its start is never matched. -/
theorem not_matched_of_openers {t rest : Text} {config : MatchConfig} {ceiling inner : Nat}
    {root : Match} (openers : t = List.replicate (inner + 1) (CodePoint.ofChar '[') ++ rest)
    (limited : config.ceiling = some ceiling) (low : ceiling ≤ 3 * inner + 1)
    : parse ⟨grammar, .ofText t, config⟩ "TOP" true ≠ .ok (.matched root) := by
  let env : MatchEnv := ⟨grammar, .ofText t, config⟩
  intro matched
  obtain ⟨⟨state, called⟩, -⟩ := MatchEnv.call_of_run matched
  have leaves : env.subject.Leaves 0
      (List.replicate (inner + 1) (CodePoint.ofChar '[') ++ rest) := openers ▸ .start t
  have low : env.room [] 0 ≤ 3 * inner + 1 := by
    simp only [MatchEnv.room, env, limited]
    omega
  have unanswered : env.Unanswered Ignorant (callWithin env (env.room [] 0) {} "TOP" 0) :=
    top_unanswered rfl leaves low
  exact (unanswered {} (.initial grammar) .empty _ _ called).2.2

/-- The content of an array of empty arrays, one inside the other, so many of them. -/
def nestedContent : Nat → Content whiteSpace .array
  | 0 => .empty noGap
  | inner + 1 => .filled noGap (.last (.item (.container .array (nestedContent inner)))) noGap

/-- An array with so many arrays inside, each in the one before. -/
def nested (inner : Nat) : Document whiteSpace where
  before := noGap
  kind := .array
  content := nestedContent inner
  after := noGap

theorem nestedContent_text (inner : Nat)
    : (nestedContent inner).text
      = List.replicate inner (CodePoint.ofChar '[')
        ++ List.replicate inner (CodePoint.ofChar ']') := by
  induction inner with
  | zero => rfl
  | succ inner ih =>
      have opener : Kind.array.opener = [CodePoint.ofChar '['] := rfl
      have closer : Kind.array.closer = [CodePoint.ofChar ']'] := rfl
      simp only [nestedContent, Content.text, Chain.text, Entry.text, Tree.text, ih, opener, closer,
        noGap_val, List.nil_append, List.append_nil]
      rw [List.replicate_succ, List.replicate_succ' (n := inner) (a := CodePoint.ofChar ']')]
      simp

theorem nested_text (inner : Nat)
    : (nested inner).text
      = List.replicate (inner + 1) (CodePoint.ofChar '[')
        ++ List.replicate (inner + 1) (CodePoint.ofChar ']') := by
  rw [← nestedContent_text (inner + 1)]
  rfl

theorem nested_isReadable (inner : Nat) : (nested inner).IsReadable := by
  suffices content : (nestedContent inner).IsReadable from content
  induction inner with
  | zero => trivial
  | succ inner ih => exact ih

/-- Under a ceiling, a limit stops the match of arrays that nest too deep. -/
theorem decodeWith_nested {config : MatchConfig} {ceiling inner : Nat}
    (limited : config.ceiling = some ceiling) (low : ceiling ≤ 3 * inner + 1)
    : ∃ fault,
        decodeWith config grammar (nested inner).text = .error (.fault fault)
        ∧ fault.isLimit = true := by
  rcases parse_document speaks_grammar spaces_grammar (nested inner) config with
    ⟨root, matched, -⟩ | ⟨fault, stopped, isLimit, -⟩
  · exact absurd matched (not_matched_of_openers (nested_text inner) limited low)
  · refine ⟨fault, ?_, isLimit⟩
    simp only [decodeWith, stopped]

/-- The default limits stop the match of 870 arrays, each in the one before. -/
theorem exists_not_decoded
    : ∃ d : Document whiteSpace,
        d.IsReadable
        ∧ d.text
          = List.replicate 870 (CodePoint.ofChar '[')
            ++ List.replicate 870 (CodePoint.ofChar ']')
        ∧ decode grammar d.text ≠ .ok d.value := by
  have deep (inner : Nat) (low : 2500 ≤ 3 * inner + 1)
      : ∃ d : Document whiteSpace,
          d.IsReadable
          ∧ d.text
            = List.replicate (inner + 1) (CodePoint.ofChar '[')
              ++ List.replicate (inner + 1) (CodePoint.ofChar ']')
          ∧ decode grammar d.text ≠ .ok d.value := by
    have limited : MatchConfig.ceiling {} = some 2500 := rfl
    obtain ⟨fault, stopped, -⟩ := decodeWith_nested limited low
    refine ⟨nested inner, nested_isReadable inner, nested_text inner, ?_⟩
    rw [decode, stopped]
    exact nofun
  exact deep 869 (by decide)

end RuleGrammar.Json
