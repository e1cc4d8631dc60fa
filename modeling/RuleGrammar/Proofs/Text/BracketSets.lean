import Mathlib.Data.List.Basic
import Mathlib.Data.List.TakeWhile
import RuleGrammar.CharClass

/-! Bracket sets: a reader for them, written for their syntax alone, and what the pieces that
class patterns are made of are read as. What an item is read as depends on its neighbours, so
each piece is read in front of whatever may follow it in a pattern. Which code points a backslash
class or a property stands for is left to a vocabulary.
-/

namespace RuleGrammar

-----------------------------------------------------------------------------------------
-- Vocabularies
-----------------------------------------------------------------------------------------

/-- The classes of code points with letters of their own in bracket sets. -/
inductive Shorthand
  | digit
  | word
  | space

/-- What bracket sets are read with: the code points that a letter of a class and the name of a
property stand for.
-/
structure Vocabulary where
  shorthand : Shorthand → CodePoint → Bool
  property : Text → CodePoint → Bool

/-- The code points that a backslash class stands for. -/
def ClassEscape.declares (vocabulary : Vocabulary) : ClassEscape → CodePoint → Bool
  | digit, c => vocabulary.shorthand .digit c
  | word, c => vocabulary.shorthand .word c
  | space, c => vocabulary.shorthand .space c
  | horizontal, c => c.isHorizontalSpace

-----------------------------------------------------------------------------------------
-- Bracket sets
-----------------------------------------------------------------------------------------

/-- An item of a bracket set. -/
inductive SetItem
  | point (c : CodePoint)
  | range (lo hi : CodePoint)
  | shorthand (kind : Shorthand) (negated : Bool)
  | property (name : Text)

/-- What stands between brackets: items, with or without a circumflex in front. -/
structure BracketSet where
  negated : Bool
  items : List SetItem

def SetItem.holds (vocabulary : Vocabulary) : SetItem → CodePoint → Bool
  | point a, c => a = c
  | range lo hi, c => decide (lo.value ≤ c.value) && decide (c.value ≤ hi.value)
  | shorthand kind negated, c => vocabulary.shorthand kind c != negated
  | property name, c => vocabulary.property name c

def BracketSet.holds (vocabulary : Vocabulary) (set : BracketSet) (c : CodePoint) : Bool :=
  set.items.any (·.holds vocabulary c) != set.negated

namespace BracketSet

/-- The code point that a backslash and what follows it stand for: two hexadecimal digits after
an x, a tab for a t, and itself for what is neither a letter nor a digit.
-/
def readEscaped? : Text → Option (CodePoint × Text)
  | [] => none
  | c :: rest =>
      if c = 'x' then
        match rest with
        | high :: low :: rest => do
            let point ← CodePoint.ofNat? (16 * (← high.hexDigit?) + (← low.hexDigit?))
            return (point, rest)
        | _ => none
      else if c = 't' then some ('\t', rest)
      else if c.isAsciiLetter || c.isAsciiDigit then none
      else some (c, rest)

/-- A code point at the start of a text, and the rest. Brackets do not stand for themselves. -/
def readPoint? : Text → Option (CodePoint × Text)
  | [] => none
  | c :: rest =>
      if c = '\\' then readEscaped? rest
      else if c = '[' || c = ']' then none
      else some (c, rest)

/-- The other end of a range, behind a hyphen. -/
def readRangeEnd? : Text → Option (CodePoint × Text)
  | [] => none
  | mark :: rest => if mark = '-' then readPoint? rest else none

/-- The name of a property between braces. -/
def readProperty? : Text → Option (SetItem × Text)
  | [] => none
  | mark :: rest =>
      let name := rest.takeWhile (· ≠ CodePoint.ofChar '\x7d')
      if mark = '\x7b' && rest.contains (CodePoint.ofChar '\x7d') && !name.isEmpty then
        some (.property name, rest.drop (name.length + 1))
      else none

/-- The letters that stand for a backslash class, as capitals for its complement. -/
def shorthand? (c : CodePoint) : Option SetItem :=
  if c = 'd' then some (.shorthand .digit false)
  else if c = 'D' then some (.shorthand .digit true)
  else if c = 'w' then some (.shorthand .word false)
  else if c = 'W' then some (.shorthand .word true)
  else if c = 's' then some (.shorthand .space false)
  else if c = 'S' then some (.shorthand .space true)
  else none

/-- An item that stands for more than a code point, and the rest. -/
def readClass? : Text → Option (SetItem × Text)
  | mark :: letter :: rest =>
      if mark = '\\' then
        if letter = 'p' then readProperty? rest else (shorthand? letter).map (·, rest)
      else none
  | _ => none

/-- The first item of a text, and the rest. A hyphen between two code points makes a range of
them, which must not run backwards; elsewhere it stands for itself.
-/
def readItem? (t : Text) : Option (SetItem × Text) :=
  match readClass? t with
  | some found => some found
  | none =>
      match readPoint? t with
      | none => none
      | some (lo, rest) =>
          match readRangeEnd? rest with
          | none => some (.point lo, rest)
          | some (hi, rest) => if lo.value ≤ hi.value then some (.range lo hi, rest) else none

/-- The items up to the closing bracket, behind which nothing is left. Each takes up at least
one code point, so the length of the text bounds their number.
-/
def readItems? : Nat → Text → Option (List SetItem)
  | 0, _ => none
  | bound + 1, t =>
      match readItem? t with
      | some (item, rest) => (readItems? bound rest).map (item :: ·)
      | none => if t = "]" then some [] else none

/-- Reads a bracket set that is the whole of a text. It has at least one item. -/
def read? : Text → Option BracketSet
  | opening :: circumflex :: rest =>
      if opening ≠ '[' then none
      else
        let negated := decide (circumflex = '^')
        let listed := if negated then rest else circumflex :: rest
        match readItems? listed.length listed with
        | some (item :: items) => some ⟨negated, item :: items⟩
        | _ => none
  | _ => none

end BracketSet

-----------------------------------------------------------------------------------------
-- Spelled items
-----------------------------------------------------------------------------------------

/-- What may follow an item: neither a hyphen, which would make it the start of a range, nor a
circumflex, which would turn around the set that it starts.
-/
def IsClear (t : Text) : Prop :=
  t.head? ≠ some (CodePoint.ofChar '-') ∧ t.head? ≠ some (CodePoint.ofChar '^')

theorem isClear_cons {c : CodePoint} (noHyphen : c ≠ CodePoint.ofChar '-')
    (noCircumflex : c ≠ CodePoint.ofChar '^') (rest : Text) : IsClear (c :: rest) := by
  simp [IsClear, noHyphen, noCircumflex]

/-- A text is read as some items, whatever may follow it. -/
structure Spells (t : Text) (items : List SetItem) : Prop where
  long : items.length ≤ t.length
  clear : ∀ rest, IsClear rest → IsClear (t ++ rest)
  read : ∀ rest bound, IsClear rest →
    BracketSet.readItems? (items.length + bound) (t ++ rest)
      = (BracketSet.readItems? bound rest).map (items ++ ·)

namespace Spells

theorem nil : Spells [] [] where
  long := Nat.le_refl _
  clear := fun rest clear => clear
  read := fun rest bound _ => by simp

theorem append {t u : Text} {items more : List SetItem} (first : Spells t items)
    (second : Spells u more) : Spells (t ++ u) (items ++ more) where
  long := by
    simpa using Nat.add_le_add first.long second.long
  clear := fun rest clear => by
    simpa using first.clear _ (second.clear rest clear)
  read := fun rest bound clear => by
    rw [List.append_assoc, List.length_append, Nat.add_assoc,
      first.read _ _ (second.clear rest clear), second.read rest bound clear, Option.map_map]
    simp [Function.comp_def]

/-- Texts one after the other spell the items of all of them. -/
theorem flatMap {α : Type} {text : α → Text} {items : α → List SetItem} {list : List α}
    (each : ∀ a ∈ list, Spells (text a) (items a))
    : Spells (list.map text).flatten (list.flatMap items) := by
  induction list with
  | nil => exact .nil
  | cons a list ih =>
      obtain ⟨here, later⟩ := List.forall_mem_cons.mp each
      simpa using here.append (ih later)

/-- A single item, by what its reader makes of the text. -/
theorem single {t : Text} {item : SetItem} (nonempty : t ≠ [])
    (clear : ∀ rest, IsClear (t ++ rest))
    (read : ∀ rest, IsClear rest → BracketSet.readItem? (t ++ rest) = some (item, rest))
    : Spells t [item] where
  long := List.length_pos_iff.mpr nonempty
  clear := fun rest _ => clear rest
  read := fun rest bound clear => by
    rw [List.length_singleton, Nat.add_comm, BracketSet.readItems?, read rest clear]
    rfl

end Spells

/-- A control code point is spelled with two hexadecimal digits, which stand for it. -/
theorem Text.hex_of_small {n : Nat} (small : n < 0x80)
    : ∃ high low h l, Text.padZeros 2 (Text.ofNatBase 16 n) = [high, low]
        ∧ high.hexDigit? = some h ∧ low.hexDigit? = some l ∧ 16 * h + l = n := by
  have digits : ∀ n < 0x80, (Text.padZeros 2 (Text.ofNatBase 16 n)).length = 2 := by
    decide +kernel
  have values : ∀ n < 0x80,
      ((Text.padZeros 2 (Text.ofNatBase 16 n))[0]?.bind CodePoint.hexDigit?).bind (fun h =>
        ((Text.padZeros 2 (Text.ofNatBase 16 n))[1]?.bind CodePoint.hexDigit?).map (16 * h + ·))
      = some n := by
    decide +kernel
  obtain ⟨high, low, spelled⟩ := List.length_eq_two.mp (digits n small)
  have value := values n small
  rw [spelled, Option.bind_eq_some_iff] at value
  obtain ⟨h, first, value⟩ := value
  obtain ⟨l, second, value⟩ := Option.map_eq_some_iff.mp value
  exact ⟨high, low, h, l, spelled, first, second, value⟩

/-- The three ways in which patterns spell a code point. -/
theorem CharClass.patternPoint_cases (c : CodePoint)
    : (isPatternMark c = true ∧ patternPoint c = [CodePoint.ofChar '\\', c])
      ∨ (∃ high low h l,
        patternPoint c = [CodePoint.ofChar '\\', CodePoint.ofChar 'x', high, low]
        ∧ high.hexDigit? = some h
        ∧ low.hexDigit? = some l
        ∧ 16 * h + l = c.value)
      ∨ (isPatternMark c = false ∧ patternPoint c = [c]) := by
  unfold patternPoint
  split
  case isTrue mark => exact .inl ⟨mark, rfl⟩
  case isFalse mark =>
    split
    case isTrue control =>
      obtain ⟨high, low, h, l, spelled, rest⟩ := Text.hex_of_small (n := c.value) (by
        simp only [Bool.or_eq_true, decide_eq_true_eq] at control; omega)
      exact .inr (.inl ⟨high, low, h, l, by rw [spelled]; rfl, rest⟩)
    case isFalse => exact .inr (.inr ⟨by simpa using mark, rfl⟩)

theorem CharClass.isPatternMark_iff (c : CodePoint)
    : isPatternMark c = true
      ↔ c = CodePoint.ofChar '\\' ∨ c = CodePoint.ofChar ']' ∨ c = CodePoint.ofChar '^'
        ∨ c = CodePoint.ofChar '-' ∨ c = CodePoint.ofChar '[' := by
  simp [isPatternMark, or_assoc]

theorem CharClass.not_isPatternMark_iff (c : CodePoint)
    : isPatternMark c = false
      ↔ c ≠ CodePoint.ofChar '\\' ∧ c ≠ CodePoint.ofChar ']' ∧ c ≠ CodePoint.ofChar '^'
        ∧ c ≠ CodePoint.ofChar '-' ∧ c ≠ CodePoint.ofChar '[' := by
  simp [isPatternMark, and_assoc]

namespace BracketSet

/-- A code point of a pattern is read as itself. -/
theorem readPoint?_patternPoint (c : CodePoint) (rest : Text)
    : readPoint? (CharClass.patternPoint c ++ rest) = some (c, rest) := by
  obtain ⟨mark, spelled⟩ | ⟨high, low, h, l, spelled, first, second, value⟩ | ⟨plain, spelled⟩ :=
    CharClass.patternPoint_cases c
  · rw [spelled]
    rcases (CharClass.isPatternMark_iff c).mp mark with rfl | rfl | rfl | rfl | rfl <;> rfl
  · have point : CodePoint.ofNat? (16 * h + l) = some c := by
      rw [value, CodePoint.ofNat?, dif_pos c.isLt]
    simp [spelled, readPoint?, readEscaped?, first, second, point]
  · rw [spelled]
    obtain ⟨noBackslash, noClosing, -, -, noOpening⟩ :=
      (CharClass.not_isPatternMark_iff c).mp plain
    simp [readPoint?, noBackslash, noClosing, noOpening]

/-- No code point of a pattern is taken for a backslash class. -/
theorem readClass?_patternPoint (c : CodePoint) (rest : Text)
    : readClass? (CharClass.patternPoint c ++ rest) = none := by
  obtain ⟨mark, spelled⟩ | ⟨high, low, -, -, spelled, -⟩ | ⟨plain, spelled⟩ :=
    CharClass.patternPoint_cases c
  · rw [spelled]
    rcases (CharClass.isPatternMark_iff c).mp mark with rfl | rfl | rfl | rfl | rfl <;> rfl
  · rw [spelled]
    rfl
  · rw [spelled]
    have noBackslash := ((CharClass.not_isPatternMark_iff c).mp plain).1
    cases rest <;> simp [readClass?, noBackslash]

theorem isClear_patternPoint (c : CodePoint) (rest : Text)
    : IsClear (CharClass.patternPoint c ++ rest) := by
  obtain ⟨-, spelled⟩ | ⟨high, low, -, -, spelled, -⟩ | ⟨plain, spelled⟩ :=
    CharClass.patternPoint_cases c
  · rw [spelled]
    exact isClear_cons (by decide) (by decide) _
  · rw [spelled]
    exact isClear_cons (by decide) (by decide) _
  · rw [spelled]
    obtain ⟨-, -, noCircumflex, noHyphen, -⟩ := (CharClass.not_isPatternMark_iff c).mp plain
    exact isClear_cons noHyphen noCircumflex _

theorem patternPoint_nonempty (c : CodePoint) : CharClass.patternPoint c ≠ [] := by
  obtain ⟨-, spelled⟩ | ⟨_, _, _, _, spelled, -⟩ | ⟨-, spelled⟩ :=
    CharClass.patternPoint_cases c <;> simp [spelled]

theorem readRangeEnd?_of_clear {rest : Text} (clear : IsClear rest)
    : readRangeEnd? rest = none := by
  cases rest with
  | nil => rfl
  | cons c rest => exact if_neg fun hyphen => clear.1 (congrArg some hyphen)

theorem spells_patternPoint (c : CodePoint) : Spells (CharClass.patternPoint c) [.point c] := by
  refine .single (patternPoint_nonempty c) (isClear_patternPoint c) fun rest clear => ?_
  simp only [readItem?, readClass?_patternPoint, readPoint?_patternPoint,
    readRangeEnd?_of_clear clear]

theorem spells_patternRange {range : CodePoint × CodePoint}
    (forward : range.1.value ≤ range.2.value)
    : Spells (CharClass.patternRange range) [.range range.1 range.2] := by
  have parts (rest : Text) : CharClass.patternRange range ++ rest
      = CharClass.patternPoint range.1
        ++ (CodePoint.ofChar '-' :: (CharClass.patternPoint range.2 ++ rest)) := by
    simp [CharClass.patternRange, Text.ofString]
  refine .single (by simp [CharClass.patternRange, patternPoint_nonempty])
    (fun rest => parts rest ▸ isClear_patternPoint _ _) fun rest clear => ?_
  simp only [parts, readItem?, readClass?_patternPoint, readPoint?_patternPoint, readRangeEnd?,
    if_true, if_pos forward]

theorem readProperty?_patternProp {name : Text} (named : name ≠ [])
    (unbroken : CodePoint.ofChar '\x7d' ∉ name) (rest : Text)
    : readProperty? (CodePoint.ofChar '\x7b' :: (name ++ CodePoint.ofChar '\x7d' :: rest))
      = some (.property name, rest) := by
  have spelled : (name ++ CodePoint.ofChar '\x7d' :: rest).takeWhile
      (· ≠ CodePoint.ofChar '\x7d') = name := by
    have inside : ∀ c ∈ name, decide (c ≠ CodePoint.ofChar '\x7d') = true :=
      fun c member => decide_eq_true fun same => unbroken (same ▸ member)
    rw [List.takeWhile_append_of_pos inside]
    simp
  simp only [readProperty?, spelled]
  simp [named, ← List.drop_drop]

theorem spells_patternProp {name : Text} (named : name ≠ [])
    (unbroken : CodePoint.ofChar '\x7d' ∉ name)
    : Spells (CharClass.patternProp name) [.property name] := by
  have parts (rest : Text) : CharClass.patternProp name ++ rest
      = CodePoint.ofChar '\\' :: CodePoint.ofChar 'p' :: CodePoint.ofChar '\x7b'
        :: (name ++ CodePoint.ofChar '\x7d' :: rest) := by
    simp [CharClass.patternProp, Text.ofString]
  refine .single (by simp [CharClass.patternProp, Text.ofString])
    (fun rest => parts rest ▸ isClear_cons (by decide) (by decide) _) fun rest clear => ?_
  rw [parts]
  simp only [readItem?, readClass?, if_true, readProperty?_patternProp named unbroken]

/-- The items that a backslash class is spelled with. -/
def escapeItems : ClassEscape → List SetItem
  | .digit => [.shorthand .digit false]
  | .word => [.shorthand .word false]
  | .space => [.shorthand .space false]
  | .horizontal => [.point '\t', .property "Zs"]

theorem spells_escape (escape : ClassEscape) : Spells escape.pattern (escapeItems escape) := by
  have pair {letter : CodePoint} {item : SetItem}
      (read : ∀ rest, IsClear rest →
        readItem? (CodePoint.ofChar '\\' :: letter :: rest) = some (item, rest))
      : Spells [CodePoint.ofChar '\\', letter] [item] :=
    .single (List.cons_ne_nil _ _) (fun _ => isClear_cons (by decide) (by decide) _) read
  cases escape with
  | digit => exact pair fun rest _ => rfl
  | word => exact pair fun rest _ => rfl
  | space => exact pair fun rest _ => rfl
  | horizontal =>
      have tab : Spells [CodePoint.ofChar '\\', CodePoint.ofChar 't'] [.point '\t'] :=
        pair fun rest clear => by
          have point : readPoint? (CodePoint.ofChar '\\' :: CodePoint.ofChar 't' :: rest)
              = some (CodePoint.ofChar '\t', rest) := rfl
          have wide : readClass? (CodePoint.ofChar '\\' :: CodePoint.ofChar 't' :: rest)
              = none := rfl
          simp only [readItem?, wide, point, readRangeEnd?_of_clear clear]
      exact tab.append (@spells_patternProp "Zs" (by decide) (by decide))

/-- A set is read back from what spells its items, between brackets. -/
theorem read?_of_spells {t : Text} {items : List SetItem} (spelled : Spells t items)
    (listed : items ≠ []) (negated : Bool)
    : read? (CodePoint.ofChar '[' ::
        ((if negated then [CodePoint.ofChar '^'] else []) ++ t ++ [CodePoint.ofChar ']']))
      = some ⟨negated, items⟩ := by
  have closing : IsClear [CodePoint.ofChar ']'] := isClear_cons (by decide) (by decide) _
  have done (bound : Nat) : readItems? (bound + 1) [CodePoint.ofChar ']'] = some [] := rfl
  obtain ⟨item, items, rfl⟩ := List.exists_cons_of_ne_nil listed
  have read : readItems? (t.length + 1) (t ++ [CodePoint.ofChar ']'])
      = some (item :: items) := by
    obtain ⟨more, length⟩ := Nat.exists_eq_add_of_le spelled.long
    rw [length, Nat.add_assoc, spelled.read _ _ closing, done, Option.map_some, List.append_nil]
  cases negated with
  | true => simp [read?, read]
  | false =>
      have clear := spelled.clear _ closing
      cases start : t ++ [CodePoint.ofChar ']'] with
      | nil => simp at start
      | cons c rest =>
          have length : t.length + 1 = rest.length + 1 := by simpa using congrArg List.length start
          rw [start] at read clear
          rw [length] at read
          have straight : c ≠ CodePoint.ofChar '^' := by simpa [IsClear] using clear.2
          simp [read?, start, straight, read]

end BracketSet

end RuleGrammar
