import Mathlib.Data.List.TakeWhile
import RuleGrammar.Notation.Document

/-! Readers stay within their source. A reader with a result leaves the cursor where it stood or
further on, and never past the end; a fault lies at an offset of the source. The one exception are
hexadecimal digits, which are passed over before they are checked: an escape that the source cuts
short is refused behind the end.
-/

namespace RuleGrammar.Notation

-----------------------------------------------------------------------------------------
-- Where cursors stand and faults lie
-----------------------------------------------------------------------------------------

/-- The cursor stands in a source and has left to read what follows there. -/
def Cursor.In (source : Text) (cursor : Cursor) : Prop :=
  ∃ before, source = before ++ cursor.rest ∧ cursor.offset = before.length

/-- The cursor stands in a source right behind a certain code point. -/
def Cursor.Behind (source : Text) (c : CodePoint) (cursor : Cursor) : Prop :=
  ∃ before, source = before ++ c :: cursor.rest ∧ cursor.offset = before.length + 1

/-- A source ends within a hexadecimal escape, and reading the escape goes so far past the end. -/
inductive CutShort (source : Text) : Nat → Prop
  | noDigit (before : Text) (ends : source = before ++ Text.ofString "\\x") : CutShort source 2
  | oneDigit (before : Text) (c : CodePoint)
      (ends : source = before ++ Text.ofString "\\x" ++ [c])
    : CutShort source 1
  | fewDigits (before digits : Text) (ends : source = before ++ Text.ofString "\\u" ++ digits)
      (few : digits.length < 4)
    : CutShort source 1

/-- A fault lies at an offset of a source, or behind a hexadecimal escape that it cuts short. -/
def Fault.LiesIn (source : Text) : Fault → Prop
  | .malformed offset cause =>
      offset ≤ source.length
        ∨ cause = .invalidHexDigit
            ∧ ∃ past, CutShort source past ∧ offset = source.length + past
  | .numeralTooLong => True
  | .grammar _ => True

namespace Cursor

variable {source : Text} {cursor : Cursor}

/-- What is read and what is left make up the source. -/
theorem In.length (within : cursor.In source)
    : cursor.offset + cursor.rest.length = source.length := by
  obtain ⟨before, rfl, offset⟩ := within
  rw [List.length_append, offset]

/-- A cursor that has read on stands in the source too. -/
theorem In.past {rest : Text} (within : cursor.In source) (passed : Text)
    (parts : cursor.rest = passed ++ rest)
    : In source ⟨cursor.offset + passed.length, rest⟩ := by
  obtain ⟨before, same, offset⟩ := within
  exact ⟨before ++ passed, by rw [same, parts, List.append_assoc], by simp [offset]⟩

theorem In.drop {n : Nat} (within : cursor.In source) (enough : n ≤ cursor.rest.length)
    : In source ⟨cursor.offset + n, cursor.rest.drop n⟩ := by
  have past := within.past _ (List.take_append_drop n cursor.rest).symm
  rwa [List.length_take_of_le enough] at past

theorem Behind.toIn {c : CodePoint} (behind : cursor.Behind source c) : cursor.In source := by
  obtain ⟨before, same, offset⟩ := behind
  exact ⟨before ++ [c], by rw [same, List.append_assoc]; rfl, by simp [offset]⟩

end Cursor

-----------------------------------------------------------------------------------------
-- Runs at the start of a text
-----------------------------------------------------------------------------------------

theorem length_identifierAt_le (t : Text) : (Reader.identifierAt t).length ≤ t.length := by
  cases t with
  | nil => exact Nat.le_refl _
  | cons c t =>
      simp only [Reader.identifierAt]
      split
      · exact Nat.succ_le_succ (List.takeWhile_prefix _).length_le
      · exact Nat.zero_le _

theorem length_takeWhile_lt {t : Text} {c : CodePoint} (member : c ∈ t)
    : (t.takeWhile (· ≠ c)).length < t.length := by
  have run : t.takeWhile (· ≠ c) <+: t := List.takeWhile_prefix _
  refine Nat.lt_of_le_of_ne run.length_le fun same => ?_
  simpa using List.takeWhile_eq_self_iff.mp (run.eq_of_length same) c member

-----------------------------------------------------------------------------------------
-- Readers that stay in a source
-----------------------------------------------------------------------------------------

/-- A reader that started at a cursor ended in a source: further on with a result of a kind, or in a
fault that lies in the source.
-/
inductive EndedIn (source : Text) (start : Cursor) {α : Type} (post : α → Cursor → Prop)
    : Except Fault (α × Cursor) → Prop
  | ok {a after} (within : after.In source) (onward : start.offset ≤ after.offset)
      (holds : post a after)
    : EndedIn source start post (.ok (a, after))
  | error {fault} (lies : fault.LiesIn source) : EndedIn source start post (.error fault)

/-- What started further on started earlier as well. -/
theorem EndedIn.earlier {source : Text} {start middle : Cursor} {α : Type}
    {post : α → Cursor → Prop} {result : Except Fault (α × Cursor)}
    (ended : EndedIn source middle post result) (onward : start.offset ≤ middle.offset)
    : EndedIn source start post result := by
  cases ended with
  | ok within later holds => exact .ok within (Nat.le_trans onward later) holds
  | error lies => exact .error lies

/-- From a cursor in a source, a reader stays in the source. -/
def Reader.StaysIn {α : Type} (source : Text) (cursor : Cursor) (reader : Reader α)
    (post : α → Cursor → Prop) : Prop :=
  cursor.In source → EndedIn source cursor post (reader cursor)

namespace Reader.StaysIn

variable {source : Text} {cursor : Cursor}

section Rules

variable {α β : Type} {reader : Reader α} {post : α → Cursor → Prop}

theorem pure {a : α} (holds : post a cursor) : StaysIn source cursor (Pure.pure a) post :=
  fun within => .ok within (Nat.le_refl _) holds

theorem fail (cause : Cause) : StaysIn source cursor (Reader.fail cause) post := by
  refine fun within => .error (.inl ?_)
  have := within.length
  omega

theorem bind {next : α → Reader β} {further : β → Cursor → Prop}
    (first : StaysIn source cursor reader post)
    (then_
      : ∀ a after, cursor.offset ≤ after.offset → post a after
          → StaysIn source after (next a) further)
    : StaysIn source cursor (reader >>= next) further := by
  intro within
  change EndedIn source cursor further (do
    let (a, after) ← reader cursor
    next a after)
  have ended := first within
  generalize reader cursor = result at ended ⊢
  cases ended with
  | ok within onward holds => exact (then_ _ _ onward holds within).earlier onward
  | error lies => exact .error lies

/-- What follows may not ask where the first reader stopped. -/
theorem andThen {next : α → Reader β} {further : β → Cursor → Prop}
    (first : StaysIn source cursor reader post)
    (then_ : ∀ a after, StaysIn source after (next a) further)
    : StaysIn source cursor (reader >>= next) further :=
  first.bind fun a after _ _ => then_ a after

theorem mono {wider : α → Cursor → Prop} (stays : StaysIn source cursor reader post)
    (weaken : ∀ a after, cursor.offset ≤ after.offset → post a after → wider a after)
    : StaysIn source cursor reader wider := by
  intro within
  have ended := stays within
  generalize reader cursor = result at ended ⊢
  cases ended with
  | ok within onward holds => exact .ok within onward (weaken _ _ onward holds)
  | error lies => exact .error lies

theorem ite {p : Prop} [Decidable p] {other : Reader α}
    (yes : p → StaysIn source cursor reader post) (no : ¬p → StaysIn source cursor other post)
    : StaysIn source cursor (if p then reader else other) post := by
  split
  · exact yes ‹p›
  · exact no ‹¬p›

end Rules

-----------------------------------------------------------------------------------------
-- Steps of a cursor
-----------------------------------------------------------------------------------------

theorem peek
    : StaysIn source cursor Reader.peek fun c after => c = cursor.rest.head? ∧ cursor = after :=
  fun within => .ok within (Nat.le_refl _) ⟨rfl, rfl⟩

theorem rounds
    : StaysIn source cursor Reader.rounds fun bound after =>
        source.length < after.offset + bound ∧ cursor = after := by
  refine fun within => .ok within (Nat.le_refl _) ⟨?_, rfl⟩
  have := within.length
  omega

theorem starts (literal : Text)
    : StaysIn source cursor (Reader.starts literal) fun found after =>
        (found = true → literal.length ≤ cursor.rest.length) ∧ cursor = after := by
  refine fun within => .ok within (Nat.le_refl _) ⟨fun found => ?_, rfl⟩
  exact (List.isPrefixOf_iff_prefix.mp found).length_le

theorem bump {count : Nat} (enough : count ≤ cursor.rest.length)
    : StaysIn source cursor (Reader.bump count) fun _ after =>
        after.offset = cursor.offset + count :=
  fun within => .ok (within.drop enough) (Nat.le_add_right _ _) rfl

/-- A code point that was looked at can be passed over. -/
theorem bump_one {c : CodePoint} (ahead : cursor.rest.head? = some c)
    : StaysIn source cursor (Reader.bump 1) fun _ after =>
        after.Behind source c
          ∧ cursor.rest = c :: after.rest
          ∧ after.offset = cursor.offset + 1 := by
  rintro ⟨before, same, offset⟩
  have rest : cursor.rest = c :: cursor.rest.drop 1 := by
    obtain ⟨rest, more⟩ := List.head?_eq_some_iff.mp ahead
    rw [more, List.drop_one, List.tail_cons]
  have behind : Cursor.Behind source c ⟨cursor.offset + 1, cursor.rest.drop 1⟩ :=
    ⟨before, same.trans (congrArg _ rest), congrArg (· + 1) offset⟩
  exact .ok behind.toIn (Nat.le_succ _) ⟨behind, rest, rfl⟩

/-- Skipping stays in a source, by induction on the text that is left. -/
theorem skipBlank : StaysIn source cursor Reader.skipBlank fun _ _ => True := by
  have skips (inComment : Bool) (offset : Nat) (rest : Text)
      (within : Cursor.In source ⟨offset, rest⟩)
      : (Cursor.skip inComment offset rest).In source
        ∧ offset ≤ (Cursor.skip inComment offset rest).offset := by
    induction rest generalizing inComment offset with
    | nil => exact ⟨within, Nat.le_refl _⟩
    | cons c rest ih =>
        have passed := within.drop (n := 1) (Nat.succ_le_succ (Nat.zero_le _))
        have further (inside : Bool)
            : (Cursor.skip inside (offset + 1) rest).In source
              ∧ offset ≤ (Cursor.skip inside (offset + 1) rest).offset :=
          ⟨(ih inside _ passed).1, Nat.le_of_succ_le (ih inside _ passed).2⟩
        simp only [Cursor.skip]
        split
        · exact further _
        · split
          · exact further _
          · split
            · exact further _
            · exact ⟨within, Nat.le_refl _⟩
  intro within
  obtain ⟨within, onward⟩ := skips false cursor.offset cursor.rest within
  exact .ok within onward trivial

theorem tryEat (literal : Text)
    : StaysIn source cursor (Reader.tryEat literal) fun found after =>
        found = true → cursor.offset + literal.length ≤ after.offset := by
  refine skipBlank.bind fun _ after onward _ => (starts literal).bind ?_
  rintro found _ - ⟨enough, rfl⟩
  cases found with
  | false => exact .pure nofun
  | true => exact (bump (enough rfl)).bind fun _ last _ offset => .pure fun _ => by omega

theorem eat (literal : Text) : StaysIn source cursor (Reader.eat literal) fun _ _ => True :=
  (tryEat literal).andThen fun _ _ => .ite (fun _ => .pure trivial) fun _ => .fail _

theorem span (test : CodePoint → Bool)
    : StaysIn source cursor (Reader.span test) fun run after =>
        after.offset = cursor.offset + run.length := by
  intro within
  have past := within.past _ (List.takeWhile_append_dropWhile (p := test)).symm
  exact .ok past (Nat.le_add_right _ _) rfl

-----------------------------------------------------------------------------------------
-- Names and numerals
-----------------------------------------------------------------------------------------

theorem identifier?
    : StaysIn source cursor Reader.identifier? fun name after =>
        name.length ≤ after.rest.length := by
  refine skipBlank.bind fun _ after _ _ within => ?_
  exact .ok within (Nat.le_refl _) (length_identifierAt_le after.rest)

theorem identifier
    : StaysIn source cursor Reader.identifier fun _ after => cursor.offset < after.offset := by
  refine identifier?.bind fun name after onward enough => .ite (fun _ => .fail _) fun named => ?_
  refine (bump enough).bind fun _ last _ offset => .pure ?_
  have := List.length_pos_iff.mpr (mt List.isEmpty_iff.mpr named)
  omega

theorem keyword (word : Text)
    : StaysIn source cursor (Reader.keyword word) fun found after =>
        found = true → cursor.offset + word.length ≤ after.offset := by
  refine identifier?.bind fun name after onward enough => .ite ?_ fun _ => .pure nofun
  rintro rfl
  exact (bump enough).bind fun _ last _ offset => .pure fun _ => by omega

theorem numeral (missing : Cause)
    : StaysIn source cursor (Reader.numeral missing) fun _ _ => True := by
  refine (span _).bind fun digits after _ _ => .ite (fun _ => .fail _) fun _ => ?_
  exact .ite (fun _ _ => .error trivial) fun _ => .pure trivial

-----------------------------------------------------------------------------------------
-- Escapes
-----------------------------------------------------------------------------------------

theorem hexDigit (c : Option CodePoint)
    : StaysIn source cursor (Reader.hexDigit c) fun _ after => cursor = after := by
  unfold Reader.hexDigit
  cases c.bind CodePoint.hexDigit? with
  | none => exact .fail _
  | some d => exact .pure rfl

/-- Further digits of an escape, each passed over before it is checked, so that at the end of the
source the first one that is missing is refused behind it. By induction on their number.
-/
theorem hexDigits (before read : Text) {count : Nat} (value : Nat) (few : read.length + count ≤ 4)
    (ends : source = before ++ Text.ofString "\\u" ++ read ++ cursor.rest)
    : StaysIn source cursor (Reader.hexDigits count value) fun _ _ => True := by
  induction count generalizing cursor read value with
  | zero => exact .pure trivial
  | succ count ih =>
      obtain ⟨offset, rest⟩ := cursor
      intro within
      cases rest with
      | nil =>
          have length := within.length
          have short := CutShort.fewDigits before read (ends.trans (List.append_nil _)) (by omega)
          exact .error (.inr ⟨rfl, 1, short, congrArg (· + 1) length⟩)
      | cons c rest =>
          have fewer : (read ++ [c]).length + count ≤ 4 := by
            rw [List.length_append, List.length_singleton]
            omega
          have further : source = before ++ Text.ofString "\\u" ++ (read ++ [c]) ++ rest := by
            simp only [ends, List.append_assoc, List.singleton_append]
          have digits : StaysIn source ⟨offset + 1, rest⟩ (do
              let d ← Reader.hexDigit (some c)
              Reader.hexDigits count (value * 16 + d)) fun _ _ => True := by
            refine (hexDigit (some c)).bind ?_
            rintro d _ - rfl
            exact ih _ _ fewer further
          exact (digits (within.past [c] rfl)).earlier (Nat.le_succ _)

/-- Two digits of an escape, both passed over before either is checked. -/
theorem twoHexDigits (before : Text) (value : Nat → Nat → CodePoint)
    (ends : source = before ++ Text.ofString "\\x" ++ cursor.rest)
    : StaysIn source cursor
        (do
          let high ← next
          let low ← next
          let high ← Reader.hexDigit high
          let low ← Reader.hexDigit low
          return value high low)
        fun _ _ => True := by
  obtain ⟨offset, rest⟩ := cursor
  intro within
  have length := within.length
  match rest with
  | [] =>
      have short := CutShort.noDigit before (ends.trans (List.append_nil _))
      exact .error (.inr ⟨rfl, 2, short, congrArg (· + 2) length⟩)
  | [c] =>
      have lies : (Fault.malformed (offset + 2) .invalidHexDigit).LiesIn source :=
        .inr ⟨rfl, 1, .oneDigit before c ends, congrArg (· + 1) length⟩
      change EndedIn source _ _ ((do
        let high ← Reader.hexDigit (some c)
        let low ← Reader.hexDigit none
        return value high low : Reader CodePoint) ⟨offset + 2, []⟩)
      simp only [Reader.hexDigit, Option.bind_some]
      cases c.hexDigit? with
      | none => exact .error lies
      | some high => exact .error lies
  | c :: d :: rest =>
      have digits : StaysIn source ⟨offset + 2, rest⟩ (do
          let high ← Reader.hexDigit (some c)
          let low ← Reader.hexDigit (some d)
          return value high low) fun _ _ => True :=
        (hexDigit _).andThen fun _ _ => (hexDigit _).andThen fun _ _ => .pure trivial
      exact (digits (within.past [c, d] rfl)).earlier (Nat.le_add_right _ _)

theorem escape (behind : cursor.Behind source '\\')
    : StaysIn source cursor Reader.escape fun _ _ => True := by
  refine peek.bind ?_
  rintro _ _ - ⟨rfl, rfl⟩
  cases ahead : cursor.rest.head? with
  | none => exact .fail _
  | some c =>
      obtain ⟨before, ends, -⟩ := behind
      refine (bump_one ahead).bind fun _ after _ ⟨_, rest, _⟩ => ?_
      refine .ite (fun _ => .pure trivial) fun _ => ?_
      refine .ite (fun _ => .pure trivial) fun _ => ?_
      refine .ite (fun _ => .pure trivial) fun _ => ?_
      rw [rest] at ends
      refine .ite (fun two => ?_) fun _ => .ite (fun four => ?_) fun _ => .pure trivial
      · refine twoHexDigits before _ ?_
        rw [ends, two]
        simp [Text.ofString]
      · refine (hexDigits before [] 0 (by simp) ?_).andThen fun _ _ => .pure trivial
        rw [ends, four]
        simp [Text.ofString]

-----------------------------------------------------------------------------------------
-- Items, quantifiers and words
-----------------------------------------------------------------------------------------

theorem classItem
    : StaysIn source cursor Notation.classItem fun _ after => cursor.offset < after.offset := by
  refine peek.bind ?_
  rintro _ _ - ⟨rfl, rfl⟩
  cases ahead : cursor.rest.head? with
  | none => exact .fail _
  | some c =>
      refine (bump_one ahead).bind fun _ after _ ⟨behind, _, offset⟩ => ?_
      refine .ite (fun backslash => ?_) fun _ => .pure (by omega)
      refine peek.bind ?_
      rintro _ _ - ⟨rfl, rfl⟩
      rw [backslash] at behind
      cases ahead : after.rest.head? with
      | none => exact (escape behind).bind fun _ last _ _ => .pure (by omega)
      | some d =>
          rw [Option.bind_some]
          cases ClassEscape.ofLetter? d with
          | none => exact (escape behind).bind fun _ last _ _ => .pure (by omega)
          | some e => exact (bump_one ahead).bind fun _ last _ _ => .pure (by omega)

theorem propertyName : StaysIn source cursor Notation.propertyName fun _ _ => True := by
  refine peek.bind ?_
  rintro _ _ - ⟨rfl, rfl⟩
  cases cursor.rest.head? with
  | none => exact .fail _
  | some c => exact .ite (fun _ => (span _).mono fun _ _ _ _ => trivial) fun _ => .fail _

theorem count : StaysIn source cursor Notation.count fun _ _ => True := by
  refine skipBlank.andThen fun _ _ => (numeral _).andThen fun least _ => (starts "..").bind ?_
  rintro dotted after - ⟨enough, rfl⟩
  refine .ite (fun dots => ?_) fun _ => .pure trivial
  refine (bump (enough dots)).andThen fun _ _ => (starts "*").bind ?_
  rintro starred after - ⟨enough, rfl⟩
  refine .ite (fun star => (bump (enough star)).andThen fun _ _ => .pure trivial) fun _ => ?_
  exact (numeral _).andThen fun _ _ => .ite (fun _ => .fail _) fun _ => .pure trivial

theorem quantifier : StaysIn source cursor Notation.quantifier fun _ _ => True := by
  refine (tryEat "**").andThen fun _ _ => .ite (fun _ => ?_) fun _ => ?_
  · exact count.andThen fun _ _ => .pure trivial
  · refine (tryEat "?").andThen fun _ _ => .ite (fun _ => .pure trivial) fun _ => ?_
    refine (tryEat "*").andThen fun _ _ => .ite (fun _ => .pure trivial) fun _ => ?_
    exact (tryEat "+").andThen fun _ _ => .ite (fun _ => .pure trivial) fun _ => .pure trivial

theorem tryBar
    : StaysIn source cursor Notation.tryBar fun found after =>
        found = true → cursor.offset < after.offset := by
  refine skipBlank.bind fun _ middle onward _ => (starts "|").bind ?_
  rintro single _ - ⟨enough, rfl⟩
  refine (starts "||").bind ?_
  rintro double _ - ⟨-, rfl⟩
  refine .ite (fun bar => ?_) fun _ => .pure nofun
  have one : 1 ≤ middle.rest.length := enough (Bool.and_eq_true_iff.mp bar).1
  exact (bump one).bind fun _ last _ offset => .pure fun _ => by omega

theorem backslashAtom (behind : cursor.Behind source '\\')
    : StaysIn source cursor Notation.backslashAtom fun _ _ => True := by
  refine peek.bind ?_
  rintro _ _ - ⟨rfl, rfl⟩
  cases ahead : cursor.rest.head? with
  | none => exact (escape behind).andThen fun _ _ => .pure trivial
  | some c =>
      rw [Option.bind_some]
      cases bodyClass? c with
      | none => exact (escape behind).andThen fun _ _ => .pure trivial
      | some cls => exact (bump_one ahead).andThen fun _ _ => .pure trivial

theorem wordAtom (c : CodePoint)
    : StaysIn source cursor (Notation.wordAtom c) fun _ after => cursor.offset < after.offset := by
  refine (span _).bind fun word after _ offset => .ite (fun _ => .fail _) fun some => .pure ?_
  have := List.length_pos_iff.mpr (mt List.isEmpty_iff.mpr some)
  omega

-----------------------------------------------------------------------------------------
-- Parts of declarations
-----------------------------------------------------------------------------------------

theorem ruleTag : StaysIn source cursor Notation.ruleTag fun _ _ => True := by
  refine (starts ":sym<").bind ?_
  rintro tagged after - ⟨enough, rfl⟩
  refine .ite (fun tag => (bump (enough tag)).bind fun _ after _ _ => ?_) fun _ => .pure trivial
  intro within
  change EndedIn source after _ (if _ then _ else _)
  split
  · next closed =>
      have member := List.contains_iff_mem.mp closed
      have past := within.drop (length_takeWhile_lt member)
      exact .ok past (Nat.le_add_right after.offset (_ + 1)) trivial
  · exact .error (.inl (by have := within.length; omega))

theorem ruleKind : StaysIn source cursor Notation.ruleKind fun _ _ => True := by
  refine identifier.andThen fun word _ => ?_
  cases RuleKind.ofKeyword? word with
  | none => exact .fail _
  | some kind => exact .pure trivial

theorem protoDeclaration (layer : Layer)
    : StaysIn source cursor (Notation.protoDeclaration layer) fun _ _ => True := by
  refine ruleKind.andThen fun _ _ => identifier.andThen fun name _ => ?_
  refine (eat _).andThen fun _ _ => (tryEat "*").andThen fun _ _ => ?_
  have closing (cursor : Cursor)
      : StaysIn source cursor (do
          Reader.eat "\x7d"
          return (layer.declareProto name).2) fun _ _ => True :=
    (eat _).andThen fun _ _ => .pure trivial
  exact .ite (fun _ => closing _) fun _ => (eat _).andThen fun _ _ => closing _

/-- A rule is entered in its grammar, or refused. -/
theorem entered (layer : Layer) (name : Name) (rule : Rule) (tag : Option Name)
    : StaysIn source cursor
        (match tag, layer.find? name with
          | none, some (.rule _) => Reader.fail (.duplicateRule name)
          | _, _ =>
              match layer.register name rule with
              | .ok (_, layer) => return layer
              | .error error => throw (.grammar error))
        fun _ _ => True := by
  split
  · exact .fail _
  · split
    · exact .pure trivial
    · exact fun _ => .error trivial

end Reader.StaysIn

end RuleGrammar.Notation
