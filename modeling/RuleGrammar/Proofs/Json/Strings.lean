import RuleGrammar.Proofs.Json.Nodes
import RuleGrammar.Proofs.Json.Numbers
import RuleGrammar.Proofs.Json.Rules

/-! Strings as the grammar matches them: each run of plain code points and each escape is one node,
and whatever is read is a string.
-/

namespace RuleGrammar.Json

variable {g : Grammar} {subject : Subject} {rule : Rule} {pos : Int} {rest : Text}

-----------------------------------------------------------------------------------------
-- Calls that capture
-----------------------------------------------------------------------------------------

/-- What the body of a rule reads, a call of the rule captures as a node. -/
theorem call_read {called : Rule} {t : Text} {log : List Caught}
    (stands : g.lookup called.name = some (.rule called))
    (body : Derives g subject (.expr called called.expr pos (some ⟨pos + t.length, log⟩)))
    : Derives g subject
        (.call called.name pos (some (nodeAt called.name called.tag pos t log))) :=
  .call_of_rule stands body

/-- A call that is captured under its own name. -/
theorem captured_read {name : Name} {m : Match} (named : name ≠ [])
    (called : Derives g subject (.call name pos (some m)))
    : Derives g subject
        (.expr rule (.reference name (some name)) pos (some ⟨m.stop, [once name m]⟩)) := by
  have capturing : Expr.capturing (some name) = [name] := by
    simp [Expr.capturing, List.isEmpty_iff, named]
  have derived : Derives g subject (.expr rule (.reference name (some name)) pos _) :=
    .reference called
  rwa [capturing] at derived

theorem captured_missed {called : Rule} {capture : Option Name}
    (stands : g.lookup called.name = some (.rule called))
    (body : Derives g subject (.expr called called.expr pos none))
    : Derives g subject (.expr rule (.reference called.name capture) pos none) :=
  .reference (.call_of_rule stands body)

-----------------------------------------------------------------------------------------
-- The rules of strings
-----------------------------------------------------------------------------------------

/-- One run of a string. -/
def strOrEscape : Expr :=
  .choice [call "str", call "str_escape"]

def stringRule : Rule where
  name := "string"
  expr := .goal (.literal quote) (.literal quote) (many strOrEscape)

def strRule : Rule where
  name := "str"
  expr := plainBody

def escapeRule : Rule where
  name := "str_escape"
  expr := escapeBody

/-- The four digits of a hexadecimal escape. -/
def fourDigits : Expr :=
  .repetition (call "xdigit") 4 (some 4) none false

/-- What stands behind a backslash. -/
def afterBackslash : Expr :=
  .choice [oneOf "\"\\/bfnrt", .sequence [lit "u", fourDigits]]

def xdigitRule : Rule :=
  Grammar.builtin "xdigit" (.charClass { ranges := [('0', '9'), ('A', 'F'), ('a', 'f')] })

section Lookups

variable (speaks : Speaks g)

include speaks

theorem Speaks.lookup_string : g.lookup "string" = some (.rule stringRule) :=
  (speaks.same _ (by decide)).trans rfl

theorem Speaks.lookup_str : g.lookup "str" = some (.rule strRule) :=
  (speaks.same _ (by decide)).trans rfl

theorem Speaks.lookup_escape : g.lookup "str_escape" = some (.rule escapeRule) :=
  (speaks.same _ (by decide)).trans rfl

theorem Speaks.lookup_xdigit : g.lookup "xdigit" = some (.rule xdigitRule) :=
  (speaks.same _ (by decide)).trans rfl

end Lookups

-----------------------------------------------------------------------------------------
-- Escapes, read
-----------------------------------------------------------------------------------------

variable (speaks : Speaks g)

include speaks

/-- Hexadecimal digits are read one by one, as many as there have to be. Induction on them. -/
theorem hex_rounds (digits : List HexDigit) (p : Progress)
    (leaves : subject.Leaves p.stop (digits.map Subtype.val ++ rest))
    (count : p.rounds + digits.length = 4)
    : ∃ q : Progress,
        Derives g subject
          (.rounds escapeRule ⟨call "xdigit", 4, some 4, none⟩ p q)
        ∧ q.stop = p.stop + digits.length
        ∧ q.rounds = 4
        ∧ q.log = p.log ++ hexLog p.stop digits := by
  induction digits generalizing p with
  | nil =>
      have full : belowMax (some 4) p.rounds = false := by simp [belowMax, ← count]
      exact ⟨p, .roundsFull full, by simp, by simpa using count, by simp [hexLog]⟩
  | cons d digits ih =>
      have below : belowMax (some 4) p.rounds = true := by
        simp only [belowMax, decide_eq_true_eq]
        simp only [List.length_cons] at count
        omega
      have digit : Derives g subject (.expr xdigitRule xdigitRule.expr p.stop
          (some ⟨p.stop + [d.val].length, []⟩)) :=
        .class_read xdigit_compiles leaves d.property
      have round : Derives g subject (.expr escapeRule (call "xdigit") p.stop
          (some ⟨p.stop + 1, [once "xdigit" (nodeAt "xdigit" none p.stop [d.val] [])]⟩)) :=
        captured_read (by decide) (call_read speaks.lookup_xdigit digit)
      have moved : p.stop + 1 ≠ p.stop := by omega
      obtain ⟨q, later, stop, rounds, log⟩ := ih
        (p.round (p.stop + 1) [among "xdigit" (nodeAt "xdigit" none p.stop [d.val] [])])
        leaves.advance_one (by
          simp only [Progress.round]
          simp only [List.length_cons] at count
          omega)
      refine ⟨q, .rounds_next rfl below round moved later, ?_, rounds, ?_⟩
      · rw [stop, List.length_cons]
        simp only [Progress.round]
        omega
      · rw [log, Progress.log_round, List.append_assoc]
        rfl

theorem fourDigits_read {digits : List HexDigit} (four : digits.length = 4)
    (leaves : subject.Leaves pos (digits.map Subtype.val ++ rest))
    : Derives g subject (.expr escapeRule fourDigits pos
        (some ⟨pos + 4, hexLog pos digits ++ [.mark "xdigit"]⟩)) := by
  obtain ⟨q, rounds, stop, count, log⟩ :=
    hex_rounds speaks digits ⟨pos, 0, []⟩ leaves (by simpa using four)
  have finished : q.finish (some 4) fourDigits.captureNames ⟨q.stop, []⟩
      = ⟨pos + 4, hexLog pos digits ++ [.mark "xdigit"]⟩ := by
    simp only [Progress.finish, stop, log, four, List.append_nil]
    rfl
  rw [← finished]
  exact .repetition_of_rounds rounds (Nat.le_of_eq count.symm)

omit speaks in
theorem shortEscape_read (mark : ShortEscape)
    (leaves : subject.Leaves pos (CodePoint.ofChar mark.mark :: rest))
    : Derives g subject (.expr escapeRule afterBackslash pos (some ⟨pos + 1, []⟩)) := by
  have compiled := oneOf_compiles "\"\\/bfnrt" (List.cons_ne_nil _ _)
  have member : (Text.ofString "\"\\/bfnrt").any (· = CodePoint.ofChar mark.mark) = true := by
    cases mark <;> rfl
  exact .choice (.choiceHere (.class_read compiled leaves member))

theorem hexEscape_read {digits : List HexDigit} (four : digits.length = 4)
    (leaves : subject.Leaves pos (CodePoint.ofChar 'u' :: (digits.map Subtype.val ++ rest)))
    : Derives g subject (.expr escapeRule afterBackslash pos
        (some ⟨pos + 1 + 4, hexLog (pos + 1) digits ++ [.mark "xdigit"]⟩)) := by
  have compiled := oneOf_compiles "\"\\/bfnrt" (List.cons_ne_nil _ _)
  have notShort : Derives g subject (.expr escapeRule (oneOf "\"\\/bfnrt") pos none) := by
    refine .class_missed compiled leaves fun c first => ?_
    obtain rfl : CodePoint.ofChar 'u' = c := Option.some.inj first
    rfl
  have letter : Derives g subject (.expr escapeRule (lit "u") pos (some ⟨pos + 1, []⟩)) :=
    .literal_read leaves
  have behind := fourDigits_read speaks four leaves.advance_one
  have both : Derives g subject (.items escapeRule true [lit "u", fourDigits] pos
      (some ⟨pos + 1 + 4, [] ++ ((hexLog (pos + 1) digits ++ [.mark "xdigit"]) ++ [])⟩)) :=
    .items_next rfl letter (.items_next rfl behind .itemsDone)
  rw [List.append_nil, List.nil_append] at both
  exact .choice (.choiceLater notShort (.choiceHere (.sequence both)))

/-- The body of an escape reads it and captures its digits. -/
theorem Escape.read (e : Escape) (leaves : subject.Leaves pos (e.text ++ rest))
    : Derives g subject
        (.expr escapeRule escapeBody pos (some ⟨pos + e.text.length, e.log pos⟩)) := by
  have backslash {t : Text} (leaves : subject.Leaves pos (CodePoint.ofChar '\\' :: t))
      : Derives g subject (.expr escapeRule (lit "\\") pos (some ⟨pos + 1, []⟩)) :=
    .literal_read leaves
  have whole {stop : Int} {log : List Caught} (opening : Derives g subject
        (.expr escapeRule (lit "\\") pos (some ⟨pos + 1, []⟩)))
      (behind : Derives g subject (.expr escapeRule afterBackslash (pos + 1) (some ⟨stop, log⟩)))
      : Derives g subject (.expr escapeRule escapeBody pos (some ⟨stop, log⟩)) := by
    have both : Derives g subject (.items escapeRule true [lit "\\", afterBackslash] pos
        (some ⟨stop, [] ++ (log ++ [])⟩)) :=
      .items_next rfl opening (.items_next rfl behind .itemsDone)
    rw [List.append_nil, List.nil_append] at both
    exact .sequence both
  cases e with
  | short mark =>
      have stop : pos + 1 + 1 = pos + ((Escape.short mark).text.length : Int) := by
        have two : (Escape.short mark).text.length = 2 := rfl
        omega
      rw [← stop]
      exact whole (backslash leaves) (shortEscape_read mark leaves.advance_one)
  | hex a b c d =>
      have four : [a, b, c, d].length = 4 := rfl
      have stop : pos + 1 + 1 + 4 = pos + ((Escape.hex a b c d).text.length : Int) := by
        have six : (Escape.hex a b c d).text.length = 6 := rfl
        omega
      have behind := hexEscape_read speaks four leaves.advance_one
      rw [← stop, Escape.log, show pos + 2 = pos + 1 + 1 by omega]
      exact whole (backslash leaves) behind

-----------------------------------------------------------------------------------------
-- Strings, read
-----------------------------------------------------------------------------------------

omit speaks in
theorem Run.text_ne_nil (run : Run) : run.text ≠ [] := by
  cases run with
  | plain first rest => exact List.cons_ne_nil _ _
  | escape e => cases e <;> exact List.cons_ne_nil _ _

omit speaks in
/-- What a run starts with tells the two kinds of runs apart. -/
theorem Run.head (run : Run) (t : Text)
    : ∀ c ∈ (run.text ++ t).head?, Json.isPlain c = run.isPlain := by
  intro c first
  cases run with
  | plain c' rest =>
      obtain rfl : c'.val = c := Option.some.inj first
      exact c'.property
  | escape e =>
      cases e <;>
      · obtain rfl : CodePoint.ofChar '\\' = c := Option.some.inj first
        rfl

/-- A run is read as one node, if no plain code point follows a plain run. -/
theorem Run.read (run : Run) (leaves : subject.Leaves pos (run.text ++ rest))
    (ends : run.isPlain = true → ∀ c ∈ rest.head?, Json.isPlain c = false)
    : Derives g subject (.expr stringRule strOrEscape pos
        (some ⟨pos + run.text.length, [once run.rule (run.node pos)]⟩)) := by
  cases run with
  | plain first others =>
      have body : Derives g subject (.expr strRule strRule.expr pos
          (some ⟨pos + (Run.plain first others).text.length, []⟩)) := by
        refine .class_many plain_compiles rfl (by simp [Run.text]) leaves (fun c member => ?_)
          (ends rfl)
        rcases List.mem_cons.mp member with rfl | later
        · exact first.property
        · obtain ⟨plain, -, rfl⟩ := List.mem_map.mp later
          exact plain.property
      exact .choice (.choiceHere (captured_read (by decide)
        (call_read speaks.lookup_str body)))
  | escape e =>
      have notPlain : Derives g subject (.expr strRule strRule.expr pos none) :=
        .class_many_missed plain_compiles rfl leaves fun c first =>
          (Run.escape e).head rest c first
      have body := e.read speaks leaves
      exact .choice (.choiceLater (captured_missed speaks.lookup_str notPlain)
        (.choiceHere (captured_read (by decide) (call_read speaks.lookup_escape body))))

/-- Runs are read one after the other up to the closing mark, by induction on them. -/
theorem runs_rounds {runs : List Run} (maximal : AreMaximal runs) (p : Progress)
    (leaves : subject.Leaves p.stop (runs.flatMap Run.text ++ (quote ++ rest)))
    : ∃ q : Progress,
        Derives g subject (.rounds stringRule ⟨strOrEscape, 0, none, none⟩ p q)
        ∧ q.stop = p.stop + (runs.flatMap Run.text).length
        ∧ q.log = p.log ++ runsLog p.stop runs := by
  induction runs generalizing p with
  | nil =>
      have notPlain : Derives g subject (.expr strRule strRule.expr p.stop none) := by
        refine .class_many_missed plain_compiles rfl leaves fun c first => ?_
        obtain rfl : CodePoint.ofChar '"' = c := Option.some.inj first
        rfl
      have noEscape : Derives g subject (.expr escapeRule escapeRule.expr p.stop none) := by
        refine .sequence (.items_missed rfl (.literal_missed leaves ?_))
        rintro ⟨more, same⟩
        exact absurd (List.cons.inj same).1 (by decide)
      have missed : Derives g subject (.expr stringRule strOrEscape p.stop none) :=
        .choice (.choiceLater (captured_missed speaks.lookup_str notPlain)
          (.choiceLater (captured_missed speaks.lookup_escape noEscape) .choiceNone))
      exact ⟨p, .rounds_done rfl missed, by simp, by simp [runsLog]⟩
  | cons run runs ih =>
      rw [List.flatMap_cons, List.append_assoc] at leaves
      have ends : run.isPlain = true
          → ∀ c ∈ (runs.flatMap Run.text ++ (quote ++ rest)).head?, Json.isPlain c = false := by
        intro plain c first
        cases runs with
        | nil =>
            obtain rfl : CodePoint.ofChar '"' = c := Option.some.inj first
            rfl
        | cons next runs =>
            rw [List.flatMap_cons, List.append_assoc] at first
            rw [next.head _ c first]
            have apart := (List.isChain_cons_cons.mp maximal).1
            simpa [plain] using apart
      have round := run.read speaks leaves ends
      have moved : p.stop + (run.text.length : Int) ≠ p.stop := by
        have := List.length_pos_iff.mpr run.text_ne_nil
        omega
      obtain ⟨q, later, stop, log⟩ := ih (List.IsChain.tail maximal)
        (p.round (p.stop + run.text.length) [among run.rule (run.node p.stop)]) leaves.advance
      refine ⟨q, .rounds_next rfl rfl round moved later, ?_, ?_⟩
      · rw [stop, List.flatMap_cons, List.length_append]
        simp only [Progress.round]
        omega
      · rw [log, Progress.log_round, List.append_assoc]
        rfl

/-- A string is read whole, as one node. -/
theorem string_read (pieces : List Piece)
    (leaves : subject.Leaves pos (stringText pieces ++ rest))
    : Derives g subject (.call "string" pos (some (stringNode pos pieces))) := by
  have leaves : subject.Leaves pos (quote ++ (piecesText pieces ++ (quote ++ rest))) := by
    simpa [stringText] using leaves
  have opened : Derives g subject (.expr stringRule (.literal quote) pos (some ⟨pos + 1, []⟩)) :=
    .literal_read leaves
  have inside : subject.Leaves (pos + 1) ((runsOf pieces).flatMap Run.text ++ (quote ++ rest)) := by
    rw [runsOf_text]
    exact leaves.advance_one
  obtain ⟨q, rounds, stop, log⟩ :=
    runs_rounds speaks (areMaximal_runsOf pieces) ⟨pos + 1, 0, []⟩ inside
  have stop : q.stop = pos + 1 + (piecesText pieces).length := by rw [stop, runsOf_text]
  have log : q.log = runsLog (pos + 1) (runsOf pieces) := log
  have after : subject.Leaves (pos + 1) (piecesText pieces ++ (quote ++ rest)) := leaves.advance_one
  have closed : Derives g subject (.expr stringRule (.literal quote) q.stop
      (some ⟨q.stop + 1, []⟩)) :=
    .literal_read (stop.symm ▸ after.advance)
  have filled : Derives g subject (.expr stringRule (many strOrEscape) (pos + 1)
      (some ⟨q.stop, stringLog pos pieces⟩)) := by
    have finished : q.finish none (many strOrEscape).captureNames ⟨q.stop, []⟩
        = ⟨q.stop, stringLog pos pieces⟩ := by
      simp only [Progress.finish, log, List.append_nil]
      rfl
    rw [← finished]
    exact .repetition_of_rounds rounds (Nat.zero_le _)
  have body : Derives g subject (.expr stringRule stringRule.expr pos
      (some ⟨q.stop + 1, [] ++ stringLog pos pieces ++ []⟩)) :=
    .goal opened (.spaceless rfl) filled (.spaceless rfl) closed
  have whole : q.stop + 1 = pos + ((stringText pieces).length : Int) := by
    have length : (stringText pieces).length = 1 + (piecesText pieces).length + 1 := by
      rw [stringText, List.length_append, List.length_append]
      rfl
    omega
  rw [List.append_nil, List.nil_append, whole] at body
  exact call_read speaks.lookup_string body

-----------------------------------------------------------------------------------------
-- What is read is a string
-----------------------------------------------------------------------------------------

variable {limit : Nat}

theorem consumes_xdigit
    : Consumes g subject limit escapeRule (call "xdigit")
        (fun t _ => ∃ d : HexDigit, t = [d.val]) := by
  have body : Consumes g subject limit xdigitRule xdigitRule.expr _ :=
    consumes_class xdigit_compiles
  refine (consumes_reference _ (callConsumes_rule speaks.lookup_xdigit body)).mono ?_
  rintro t more ⟨c, rfl, digit⟩
  exact ⟨⟨c, digit⟩, rfl⟩

omit speaks in
/-- Digits taken one by one are a list of as many digits, by induction on them. -/
theorem exists_digits {n : Nat} {t more : Text}
    (took : Takes.times (fun t _ => ∃ d : HexDigit, t = [d.val]) n t more)
    : ∃ digits : List HexDigit, digits.length = n ∧ t = digits.map Subtype.val := by
  induction took with
  | none => exact ⟨[], rfl, rfl⟩
  | next first _ ih =>
      obtain ⟨d, rfl⟩ := first
      obtain ⟨digits, length, rfl⟩ := ih
      exact ⟨d :: digits, congrArg (· + 1) length, rfl⟩

theorem consumes_fourDigits
    : Consumes g subject limit escapeRule fourDigits
        (fun t _ => ∃ a b c d : HexDigit, t = [a.val, b.val, c.val, d.val]) := by
  refine (consumes_times rfl (consumes_xdigit speaks)).mono ?_
  rintro t more ⟨n, enough, few, took⟩
  obtain ⟨digits, length, rfl⟩ := exists_digits took
  have four : digits.length = 4 := by
    have := few 4 rfl
    omega
  match digits, four with
  | [a, b, c, d], _ => exact ⟨a, b, c, d, rfl⟩

omit speaks in
/-- The eight marks of short escapes. -/
theorem exists_shortEscape {c : CodePoint}
    (member : (Text.ofString "\"\\/bfnrt").any (· = c) = true)
    : ∃ mark : ShortEscape, c = mark.mark := by
  have marks : Text.ofString "\"\\/bfnrt"
      = [ShortEscape.quote, .backslash, .slash, .backspace, .formFeed, .newline,
          .carriageReturn, .tab].map fun mark => CodePoint.ofChar mark.mark := rfl
  rw [marks, List.any_map, List.any_eq_true] at member
  obtain ⟨mark, -, same⟩ := member
  exact ⟨mark, (of_decide_eq_true same).symm⟩

theorem consumes_escape
    : Consumes g subject limit escapeRule escapeBody (fun t _ => ∃ e : Escape, t = e.text) := by
  have behind : Consumes g subject limit escapeRule afterBackslash
      (fun t _ => ∃ e : Escape, CodePoint.ofChar '\\' :: t = e.text) := by
    refine consumes_choice fun e member => ?_
    rcases List.mem_cons.mp member with rfl | member
    · refine (consumes_class (oneOf_compiles "\"\\/bfnrt" (List.cons_ne_nil _ _))).mono ?_
      rintro t more ⟨c, rfl, member⟩
      obtain ⟨mark, rfl⟩ := exists_shortEscape member
      exact ⟨.short mark, rfl⟩
    · obtain rfl := List.mem_singleton.mp member
      refine (consumes_sequence (itemsConsume_first (consumes_literal _)
        (itemsConsume_token rfl (consumes_fourDigits speaks) itemsConsume_nil))).mono ?_
      rintro t more ⟨_, _, rfl, rfl, _, _, rfl, ⟨a, b, c, d, rfl⟩, rfl⟩
      exact ⟨.hex a b c d, rfl⟩
  refine (consumes_sequence (itemsConsume_first (consumes_literal _)
    (itemsConsume_token rfl behind itemsConsume_nil))).mono ?_
  rintro t more ⟨_, _, rfl, rfl, u, _, rfl, ⟨e, same⟩, rfl⟩
  exact ⟨e, by rw [← same, List.append_nil]; rfl⟩

/-- One round of a string takes pieces of it. -/
theorem consumes_strOrEscape
    : Consumes g subject limit stringRule strOrEscape
        (fun t _ => ∃ pieces, t = piecesText pieces) := by
  refine consumes_choice fun e member => ?_
  rcases List.mem_cons.mp member with rfl | member
  · have body : Consumes g subject limit strRule strRule.expr _ :=
      consumes_class_many rfl plain_compiles
    refine (consumes_reference _ (callConsumes_rule speaks.lookup_str body)).mono ?_
    rintro t more ⟨-, all, -⟩
    obtain ⟨plains, rfl⟩ := exists_map_val all
    refine ⟨plains.map Piece.plain, ?_⟩
    rw [piecesText, List.flatMap_map]
    exact List.map_eq_flatMap
  · obtain rfl := List.mem_singleton.mp member
    have body : Consumes g subject limit escapeRule escapeRule.expr _ := consumes_escape speaks
    refine (consumes_reference _ (callConsumes_rule speaks.lookup_escape body)).mono ?_
    rintro t more ⟨e, rfl⟩
    exact ⟨[.escape e], by simp [piecesText, Piece.text]⟩

omit speaks in
/-- Pieces taken round by round are pieces, by induction on the rounds. -/
theorem exists_pieces {n : Nat} {t more : Text}
    (took : Takes.times (fun t _ => ∃ pieces, t = piecesText pieces) n t more)
    : ∃ pieces, t = piecesText pieces := by
  induction took with
  | none => exact ⟨[], rfl⟩
  | next first _ ih =>
      obtain ⟨pieces, rfl⟩ := first
      obtain ⟨others, rfl⟩ := ih
      exact ⟨pieces ++ others, by simp [piecesText]⟩

/-- Whatever is read as a string is the text of one. -/
theorem consumes_string
    : CallConsumes g subject limit "string" (fun t _ => ∃ pieces, t = stringText pieces) := by
  have inside (less : Nat) (_ : less < limit)
      : Consumes g subject less stringRule (many strOrEscape)
          (fun t _ => ∃ pieces, t = piecesText pieces) := by
    refine (consumes_times rfl (consumes_strOrEscape speaks)).mono ?_
    rintro t more ⟨n, -, -, took⟩
    exact exists_pieces took
  have body : Consumes g subject limit stringRule stringRule.expr
      (fun t _ => ∃ pieces, t = stringText pieces) := by
    have opens : quote ≠ [] := List.cons_ne_nil _ _
    refine (consumes_goal (spaceConsumes_token rfl) opens inside).mono ?_
    rintro t more ⟨_, _, rfl, rfl, _, _, rfl, rfl, _, _, rfl, ⟨pieces, rfl⟩, _, _, rfl, rfl, rfl⟩
    exact ⟨pieces, by simp only [stringText, List.nil_append, List.append_assoc]⟩
  exact callConsumes_rule speaks.lookup_string body

end RuleGrammar.Json
