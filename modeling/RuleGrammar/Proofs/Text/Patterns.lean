import RuleGrammar.Proofs.Json.Classes
import RuleGrammar.Proofs.Text.BracketSets

/-! The patterns of character classes. Read as a bracket set, the pattern of a class holds what
the class declares, and so a package that matches patterns as bracket sets tests just that. The
classes of the matcher are held against the same declaration.
-/

namespace RuleGrammar

-----------------------------------------------------------------------------------------
-- Patterns are read back
-----------------------------------------------------------------------------------------

/-- Whether a code point lies in a range of the class, is one of its single code points,
satisfies one of its backslash classes or has one of its properties, all of it turned around
if the class is negated.
-/
def CharClass.declares (vocabulary : Vocabulary) (cls : CharClass) (c : CodePoint) : Bool :=
  (cls.ranges.any (fun range =>
      decide (range.1.value ≤ c.value) && decide (c.value ≤ range.2.value))
    || cls.singles.any (· = c)
    || cls.escapes.any (·.declares vocabulary c)
    || cls.props.any (vocabulary.property · c)) != cls.negated

namespace CharClass

/-- The items of the pattern of a class. -/
def setItems (cls : CharClass) : List SetItem :=
  cls.ranges.map (fun range => .range range.1 range.2) ++ cls.singles.map .point
    ++ cls.escapes.flatMap BracketSet.escapeItems ++ cls.props.map .property

/-- A class of forward ranges whose properties have names that can be spelled. -/
structure Spelled (cls : CharClass) : Prop where
  forward : ∀ range ∈ cls.ranges, range.1.value ≤ range.2.value
  named : ∀ prop ∈ cls.props, prop ≠ [] ∧ CodePoint.ofChar '\x7d' ∉ prop

theorem Spelled.spells {cls : CharClass} (spelled : cls.Spelled)
    : Spells cls.patternItems.flatten cls.setItems := by
  have ranges : Spells (cls.ranges.map patternRange).flatten
      (cls.ranges.flatMap fun range => [.range range.1 range.2]) :=
    .flatMap fun range member => BracketSet.spells_patternRange (spelled.forward range member)
  have singles : Spells (cls.singles.map patternPoint).flatten
      (cls.singles.flatMap fun c => [.point c]) :=
    .flatMap fun c _ => BracketSet.spells_patternPoint c
  have escapes : Spells (cls.escapes.map ClassEscape.pattern).flatten
      (cls.escapes.flatMap BracketSet.escapeItems) :=
    .flatMap fun escape _ => BracketSet.spells_escape escape
  have props : Spells (cls.props.map patternProp).flatten
      (cls.props.flatMap fun name => [.property name]) :=
    .flatMap fun name member =>
      BracketSet.spells_patternProp (spelled.named name member).1 (spelled.named name member).2
  simpa only [patternItems, setItems, List.flatten_append, List.flatMap_singleton,
    ← List.map_eq_flatMap] using ((ranges.append singles).append escapes).append props

theorem setItems_ne_nil {cls : CharClass} (listed : cls.isEmpty = false)
    : cls.setItems ≠ [] := by
  intro none
  simp only [setItems, List.append_eq_nil_iff, List.map_eq_nil_iff, List.flatMap_eq_nil_iff]
    at none
  obtain ⟨⟨⟨ranges, singles⟩, escapes⟩, props⟩ := none
  have noEscapes : cls.escapes = [] :=
    List.eq_nil_iff_forall_not_mem.mpr fun escape member => by
      have := escapes escape member
      cases escape <;> cases this
  simp [isEmpty, ranges, singles, noEscapes, props] at listed

/-- The set that the pattern of a class is read as. -/
theorem read?_pattern {cls : CharClass} (spelled : cls.Spelled)
    : BracketSet.read? cls.pattern
      = some (if cls.isEmpty
          then ⟨!cls.negated, [.shorthand .space false, .shorthand .space true]⟩
          else ⟨cls.negated, cls.setItems⟩) := by
  unfold pattern
  cases listed : cls.isEmpty with
  | true => cases cls.negated <;> rfl
  | false =>
      have read := BracketSet.read?_of_spells spelled.spells (setItems_ne_nil listed) cls.negated
      cases negated : cls.negated <;> simpa [negated, Text.ofString] using read

end CharClass

/-- A vocabulary in which the category of space separators is a property under its usual name. -/
def Vocabulary.KnowsSeparators (vocabulary : Vocabulary) : Prop :=
  ∀ c, vocabulary.property "Zs" c = decide (c.category = .zs)

theorem CodePoint.tab_eq_iff (c : CodePoint) : CodePoint.ofChar '\t' = c ↔ c.value = 0x09 := by
  obtain ⟨value, isLt⟩ := c
  rw [CodePoint.mk.injEq]
  exact eq_comm

section Vocabularies

variable {vocabulary : Vocabulary} (separators : vocabulary.KnowsSeparators)

include separators

theorem BracketSet.any_escapeItems (escape : ClassEscape) (c : CodePoint)
    : (escapeItems escape).any (·.holds vocabulary c) = escape.declares vocabulary c := by
  cases escape with
  | horizontal =>
      have separator := separators c
      simp [escapeItems, SetItem.holds, ClassEscape.declares, CodePoint.isHorizontalSpace,
        separator, CodePoint.tab_eq_iff]
  | _ => simp [escapeItems, SetItem.holds, ClassEscape.declares]

namespace CharClass

/-- The items of a pattern hold what the class declares. -/
theorem any_setItems (cls : CharClass) (c : CodePoint)
    : (cls.setItems.any (·.holds vocabulary c) != cls.negated) = cls.declares vocabulary c := by
  simp only [setItems, List.any_append, List.any_map, List.any_flatMap,
    BracketSet.any_escapeItems separators, declares]
  rfl

/-- The set that the pattern of a class is read as holds what the class declares: a class that
lists nothing is written with white space and its complement.
-/
theorem exists_read?_pattern {cls : CharClass} (spelled : cls.Spelled)
    : ∃ set,
        BracketSet.read? cls.pattern = some set
        ∧ ∀ c, set.holds vocabulary c = cls.declares vocabulary c := by
  refine ⟨_, read?_pattern spelled, fun c => ?_⟩
  cases listed : cls.isEmpty with
  | true =>
      have empty : cls.ranges = [] ∧ cls.singles = [] ∧ cls.escapes = [] ∧ cls.props = [] := by
        simpa [isEmpty, and_assoc] using listed
      simp [BracketSet.holds, SetItem.holds, declares, empty]
  | false => exact any_setItems separators cls c

end CharClass

end Vocabularies

-----------------------------------------------------------------------------------------
-- Packages for patterns
-----------------------------------------------------------------------------------------

/-- A package that matches patterns: the vocabulary that it reads them with, and whether a pattern
matches a code point.
-/
structure PatternPackage extends Vocabulary where
  tests : Text → CodePoint → Bool

/-- What is relied on of a package: it knows space separators as `Zs`, and a pattern that is a
bracket set matches what the set holds.
-/
structure PatternPackage.ReadsSets (package : PatternPackage) : Prop where
  separators : package.KnowsSeparators
  sets
    : ∀ {pattern set},
        BracketSet.read? pattern = some set
        → ∀ c, package.tests pattern c = set.holds package.toVocabulary c

namespace CharClass

/-- The pattern of a class denotes the class: it is a bracket set, which holds what the class
declares, and that is what a package for patterns tests.
-/
theorem pattern_denotes {package : PatternPackage} (documented : package.ReadsSets)
    {cls : CharClass} (spelled : cls.Spelled)
    : (∃ set,
        BracketSet.read? cls.pattern = some set
        ∧ ∀ c, set.holds package.toVocabulary c = cls.declares package.toVocabulary c)
      ∧ ∀ c, package.tests cls.pattern c = cls.declares package.toVocabulary c := by
  obtain ⟨set, read, holds⟩ := exists_read?_pattern documented.separators spelled
  exact ⟨⟨set, read, holds⟩, fun c => (documented.sets read c).trans (holds c)⟩

/-- Marks of patterns among the members and at the end of a range, in a negated class. -/
def marks : CharClass where
  negated := true
  ranges := [('[', ']')]
  singles := "^-"
  escapes := [.horizontal]
  props := ["Lu"]

end CharClass

/-- The condition that the name of a property stands for, if it stands for one. -/
def Unicode.Condition.named? (name : Text) : Option Unicode.Condition :=
  (Unicode.PropertyName.read? name).bind fun asked => (Unicode.Condition.find asked).toOption

/-- The vocabulary of the tables. No code point has a property that is unknown. -/
def Vocabulary.tables : Vocabulary where
  shorthand
    | .digit => CodePoint.isDecimalDigit
    | .word => CodePoint.isWord
    | .space => CodePoint.isWhiteSpace
  property name c := (Unicode.Condition.named? name).any (·.holds c)

theorem Vocabulary.tables_knowsSeparators : tables.KnowsSeparators := by
  intro c
  have found : Unicode.Condition.named? "Zs"
      = some {
        property := "GC"
        value := "ZS"
        contains := fun c => [Unicode.Category.zs].contains c.category } := rfl
  simp [tables, found, Unicode.Condition.holds]

/-- The package that goes by the tables. It matches bracket sets alone. -/
def PatternPackage.tables : PatternPackage where
  toVocabulary := Vocabulary.tables
  tests pattern c := (BracketSet.read? pattern).any (·.holds Vocabulary.tables c)

theorem PatternPackage.tables_readsSets : tables.ReadsSets where
  separators := Vocabulary.tables_knowsSeparators
  sets read c := by simp only [tables, read, Option.any_some]

namespace CharClass

/-- Behind the circumflex the marks are members, and so is everything between the brackets. -/
theorem pattern_denotes_marks
    : marks.pattern = Text.ofString "[^\\[-\\]\\^\\-\\t\\p\x7bZs\x7d\\p\x7bLu\x7d]"
      ∧ PatternPackage.tables.ReadsSets
      ∧ marks.Spelled
      ∧ (∀ c, PatternPackage.tables.tests marks.pattern c = marks.declares .tables c)
      ∧ ("az]\\^-A \t" : Text).map (PatternPackage.tables.tests marks.pattern)
        = [true, true, false, false, false, false, false, false, false] := by
  have spelled : marks.Spelled := ⟨by decide, by decide⟩
  obtain ⟨-, tested⟩ := pattern_denotes PatternPackage.tables_readsSets spelled
  refine ⟨by decide, PatternPackage.tables_readsSets, spelled, tested, ?_⟩
  rw [funext tested]
  decide +kernel

end CharClass

-----------------------------------------------------------------------------------------
-- The classes of the matcher
-----------------------------------------------------------------------------------------

namespace CharClass

/-- The conditions that the backslash classes and the properties of a class ask for. -/
def conditions (cls : CharClass) : List Unicode.Condition :=
  cls.escapes.map escapeCondition ++ cls.props.filterMap Unicode.Condition.named?

/-- Whether the class asks for a property and rules it out. -/
def isContradictory (cls : CharClass) : Bool :=
  cls.conditions.any fun asked => cls.conditions.any asked.opposes

theorem propMembers_of_named {prop : Text} {condition : Unicode.Condition}
    (unbroken : CodePoint.ofChar '\x7d' ∉ prop)
    (named : Unicode.Condition.named? prop = some condition) (offset : Nat)
    : propMembers offset prop = .ok [.condition condition] := by
  have whole : prop.takeWhile (· ≠ CodePoint.ofChar '\x7d') = prop := by
    refine List.takeWhile_eq_self_iff.mpr fun c member => ?_
    exact decide_eq_true fun same => unbroken (same ▸ member)
  obtain ⟨asked, read, found⟩ := Option.bind_eq_some_iff.mp named
  cases sought : Unicode.Condition.find asked with
  | error fault => rw [sought] at found; cases found
  | ok known =>
      obtain rfl : known = condition := by rw [sought] at found; exact Option.some.inj found
      simp only [propMembers, whole, read, sought, if_true]
      rfl

theorem propsMembers_of_named {props : List Text}
    (unbroken : ∀ prop ∈ props, CodePoint.ofChar '\x7d' ∉ prop)
    (named : ∀ prop ∈ props, (Unicode.Condition.named? prop).isSome = true) (offset : Nat)
    : propsMembers offset props
      = .ok ((props.filterMap Unicode.Condition.named?).map .condition) := by
  induction props generalizing offset with
  | nil => rfl
  | cons prop props ih =>
      obtain ⟨unbrokenHere, unbrokenLater⟩ := List.forall_mem_cons.mp unbroken
      obtain ⟨namedHere, namedLater⟩ := List.forall_mem_cons.mp named
      obtain ⟨condition, found⟩ := Option.isSome_iff_exists.mp namedHere
      simp only [propsMembers, propMembers_of_named unbrokenHere found,
        ih unbrokenLater namedLater, bind, Except.bind, pure, Except.pure,
        List.filterMap_cons_some found, List.map_cons]
      rfl

/-- The members of a class whose properties are known. -/
theorem members_of_named {cls : CharClass} (spelled : cls.Spelled)
    (named : ∀ prop ∈ cls.props, (Unicode.Condition.named? prop).isSome = true)
    : cls.members
      = .ok (cls.ranges.map (fun range => .range range.1 range.2)
          ++ cls.singles.map .point ++ cls.escapes.flatMap escapeMembers
          ++ (cls.props.filterMap Unicode.Condition.named?).map .condition) := by
  simp only [members, rangeMembers_eq spelled.forward,
    propsMembers_of_named (fun prop member => (spelled.named prop member).2) named, bind,
    Except.bind, pure, Except.pure]

theorem filterMap_escapeMembers (escapes : List ClassEscape)
    : (escapes.flatMap escapeMembers).filterMap Member.condition?
      = escapes.map escapeCondition := by
  induction escapes with
  | nil => rfl
  | cons escape escapes ih =>
      rw [List.flatMap_cons, List.filterMap_append, ih, List.map_cons]
      cases escape <;> rfl

theorem any_escapeMembers (escape : ClassEscape) (c : CodePoint)
    : (escapeMembers escape).any (·.contains c) = escape.declares .tables c := by
  cases escape with
  | horizontal =>
      simp [escapeMembers, escapeCondition, Member.contains, Unicode.Condition.holds,
        ClassEscape.declares, CodePoint.isHorizontalSpace, CodePoint.tab_eq_iff]
  | _ => simp [escapeMembers, escapeCondition, Member.contains, Unicode.Condition.holds,
      ClassEscape.declares, Vocabulary.tables]

/-- What the matcher takes a class for: everything, if it lists nothing or contradicts itself,
and otherwise what it declares.
-/
theorem compile_of_named {cls : CharClass} (spelled : cls.Spelled)
    (named : ∀ prop ∈ cls.props, (Unicode.Condition.named? prop).isSome = true)
    : ∃ holds, cls.compile = .ok holds
        ∧ ∀ c, holds c = (cls.isEmpty || cls.isContradictory || cls.declares .tables c) := by
  have opposed : areOpposed (cls.ranges.map (fun range => .range range.1 range.2)
        ++ cls.singles.map .point ++ cls.escapes.flatMap escapeMembers
        ++ (cls.props.filterMap Unicode.Condition.named?).map .condition)
      = cls.isContradictory := by
    have props : ((cls.props.filterMap Unicode.Condition.named?).map Member.condition).filterMap
        Member.condition? = cls.props.filterMap Unicode.Condition.named? := by
      rw [List.filterMap_map]
      exact List.filterMap_some
    simp only [areOpposed, List.filterMap_append, filterMap_ranges, filterMap_points, props,
      filterMap_escapeMembers, List.nil_append, isContradictory, conditions]
  simp only [compile, members_of_named spelled named, bind, Except.bind, opposed]
  split
  case isTrue taken => exact ⟨_, rfl, fun c => by simp [taken]⟩
  case isFalse taken =>
    refine ⟨_, rfl, fun c => ?_⟩
    rw [Bool.not_eq_true] at taken
    have props : ((cls.props.filterMap Unicode.Condition.named?).map Member.condition).any
        (·.contains c) = cls.props.any (Vocabulary.tables.property · c) := by
      rw [List.any_map, List.any_filterMap]
      congr 1
    rw [taken, Bool.false_or, declares]
    simp only [List.any_append, List.any_flatMap, any_escapeMembers, props, List.any_map]
    rfl

end CharClass

end RuleGrammar
