import Mathlib.Data.List.Forall2
import RuleGrammar.Proofs.Part

/-! White space written out. Between the parts of its body a rule tries white space by itself; a
token does the same if the optional call of white space is written wherever a rule would try it.
Grammars that differ in rules written out as tokens look up names alike.
-/

namespace RuleGrammar

-----------------------------------------------------------------------------------------
-- Expressions and rules
-----------------------------------------------------------------------------------------

namespace Expr

/-- White space called like any other rule, if there is any. -/
def optionalSpace : Expr :=
  .repetition (.reference "ws" none) 0 (some 1) none false

mutual

/-- An expression with white space written out: between the items of sequences, between the rounds
of repetitions, around separators, and around the bodies of goals.
-/
def spaced : Expr → Expr
  | literal text => literal text
  | charClass cls => charClass cls
  | anyChar => anyChar
  | anchor a => anchor a
  | reference rule name => reference rule name
  | sym => sym
  | lookahead body negated => lookahead body.spaced negated
  | repetition body min max sep trailing =>
      repetition body.spaced min max (some (spacedSeparator sep)) trailing
  | sequence items => sequence (spacedItems true items)
  | choice alternatives => choice (spacedList alternatives)
  | longest alternatives => longest (spacedList alternatives)
  | goal opener closer body =>
      goal opener.spaced closer.spaced (sequence [optionalSpace, body.spaced, optionalSpace])
  | capture body name => capture body.spaced name

/-- What stands between two rounds when white space is written out. -/
def spacedSeparator : Option Expr → Expr
  | none => optionalSpace
  | some sep => sequence [optionalSpace, sep.spaced, optionalSpace]

/-- The items of a sequence, with white space before all but the first. -/
def spacedItems (first : Bool) : List Expr → List Expr
  | [] => []
  | e :: rest =>
      if first then e.spaced :: spacedItems false rest
      else optionalSpace :: e.spaced :: spacedItems false rest

def spacedList : List Expr → List Expr
  | [] => []
  | e :: rest => e.spaced :: spacedList rest

end

/-- No repetition in an expression takes one more separator at its end. -/
def Untrailed (e : Expr) : Prop :=
  ∀ {body min max sep trailing},
    (Expr.repetition body min max sep trailing).Part e
    → trailing = false

theorem Untrailed.part {part whole : Expr} (untrailed : whole.Untrailed)
    (inside : part.Part whole)
    : part.Untrailed :=
  fun repetition => untrailed (inside.trans repetition)

/-- Reports call an expression the same with white space written out, by induction on what comes
first in it.
-/
theorem describe_spaced (e : Expr) : e.spaced.describe = e.describe := by
  cases e with
  | sequence items =>
      cases items with
      | nil => rfl
      | cons first rest => simpa [spaced, spacedItems, describe] using describe_spaced first
  | capture body name => simpa only [spaced, describe] using describe_spaced body
  | _ => simp only [spaced, describe]
termination_by sizeOf e

theorem captures_optionalSpace : optionalSpace.captures = [] := rfl

mutual

/-- Writing white space out adds no names that are captured, by induction on the expression. -/
theorem captures_spaced (e : Expr) : e.spaced.captures = e.captures := by
  cases e with
  | repetition body min max sep trailing =>
      simp only [spaced, captures, capturesOfOption, captures_spaced body]
      cases sep with
      | none => rfl
      | some sep =>
          simp [spacedSeparator, captures, capturesOfList, capturesOfOption,
            captures_optionalSpace, captures_spaced sep]
  | sequence items => simp only [spaced, captures, captures_spacedItems true items]
  | choice alternatives => simp only [spaced, captures, captures_spacedList alternatives]
  | longest alternatives => simp only [spaced, captures, captures_spacedList alternatives]
  | goal opener closer body =>
      simp [spaced, captures, capturesOfList, captures_optionalSpace, captures_spaced opener,
        captures_spaced closer, captures_spaced body]
  | _ => simp only [spaced, captures]
termination_by sizeOf e

theorem captures_spacedItems (first : Bool) (items : List Expr)
    : capturesOfList (spacedItems first items) = capturesOfList items := by
  cases items with
  | nil => rfl
  | cons e rest =>
      cases first <;>
        simp [spacedItems, capturesOfList, captures_optionalSpace, captures_spaced e,
          captures_spacedItems false rest]
termination_by sizeOf items

theorem captures_spacedList (alternatives : List Expr)
    : capturesOfList (spacedList alternatives) = capturesOfList alternatives := by
  cases alternatives with
  | nil => rfl
  | cons e rest =>
      simp only [spacedList, capturesOfList, captures_spaced e, captures_spacedList rest]
termination_by sizeOf alternatives

end

end Expr

/-- A rule as a token, with white space written out in its body. -/
def Rule.spaced (rule : Rule) : Rule :=
  { rule with expr := rule.expr.spaced, kind := .token }

/-- A rule and what may stand in its place when white space is written out: the rule itself, or a
token for a rule that tries white space and has no trailing separators.
-/
inductive Rule.SpacedOut : Rule → Rule → Prop
  | unchanged (rule : Rule) : rule.SpacedOut rule
  | spaced {rule : Rule} (kind : rule.kind = .rule) (untrailed : rule.expr.Untrailed)
    : rule.SpacedOut rule.spaced

namespace Rule.SpacedOut

variable {rule rule' : Rule} (spaced : rule.SpacedOut rule')

include spaced

theorem name_eq : rule'.name = rule.name := by
  cases spaced <;> rfl

theorem tag_eq : rule'.tag = rule.tag := by
  cases spaced <;> rfl

theorem qualified_eq : rule'.qualified = rule.qualified := by
  cases spaced <;> rfl

end Rule.SpacedOut

-----------------------------------------------------------------------------------------
-- Grammars
-----------------------------------------------------------------------------------------

/-- Two groups of one name whose alternatives stand for each other one by one. -/
def ProtoGroup.SpacedOut (group group' : ProtoGroup) : Prop :=
  group'.name = group.name
  ∧ List.Forall₂ Rule.SpacedOut group.alternatives group'.alternatives

/-- Two entries whose rules stand for each other. -/
inductive Entry.SpacedOut : Entry → Entry → Prop
  | rule {rule rule' : Rule} (spaced : rule.SpacedOut rule')
    : Entry.SpacedOut (.rule rule) (.rule rule')
  | group {group group' : ProtoGroup} (spaced : group.SpacedOut group')
    : Entry.SpacedOut (.group group) (.group group')

/-- Two layers of one name with the same declarations, but for rules that are written out. -/
def Layer.SpacedOut (layer layer' : Layer) : Prop :=
  layer'.name = layer.name
  ∧ List.Forall₂ (fun row row' => row'.1 = row.1 ∧ row.2.SpacedOut row'.2) layer.entries
      layer'.entries

/-- Two grammars with the same declarations layer by layer, but for rules that are written out. -/
def Grammar.SpacedOut (g h : Grammar) : Prop :=
  List.Forall₂ Layer.SpacedOut g.lineage h.lineage

theorem Grammar.SpacedOut.name_eq {g h : Grammar} (spaced : g.SpacedOut h) : h.name = g.name := by
  obtain ⟨own, -⟩ := List.forall₂_cons.mp spaced
  exact own.1

/-- A layer finds what stands for what the other one finds, by induction on their entries. -/
theorem Layer.SpacedOut.find? {layer layer' : Layer} (spaced : layer.SpacedOut layer')
    (name : Name)
    : Option.Rel Entry.SpacedOut (layer.find? name) (layer'.find? name) := by
  have along {entries entries' : List (Name × Entry)}
      (rows
        : List.Forall₂ (fun row row' => row'.1 = row.1 ∧ row.2.SpacedOut row'.2) entries
            entries')
      : Option.Rel Entry.SpacedOut (lookupIn name entries) (lookupIn name entries') := by
    induction rows with
    | nil => exact .none
    | @cons row row' _ _ same _ ih =>
        obtain ⟨key, entry⟩ := row
        obtain ⟨key', entry'⟩ := row'
        obtain ⟨rfl, same⟩ := same
        by_cases here : key' = name
        · simpa only [lookupIn, here, if_true] using .some same
        · simpa only [lookupIn, here, if_false] using ih
  exact along spaced.2

/-- Alternatives that stand for each other are put in their places alike: they have one tag. -/
theorem ProtoGroup.place_spacedOut {alternative alternative' : Rule}
    {alternatives alternatives' : List Rule} (same : alternative.SpacedOut alternative')
    (others : List.Forall₂ Rule.SpacedOut alternatives alternatives')
    : List.Forall₂ Rule.SpacedOut (place alternative alternatives)
        (place alternative' alternatives') := by
  induction others with
  | nil => exact .cons same .nil
  | cons first rest ih =>
      simp only [place, first.tag_eq, same.tag_eq]
      split
      · exact .cons same rest
      · exact .cons first ih

/-- Groups that stand for each other are merged alike, by induction on the nearer alternatives. -/
theorem ProtoGroup.SpacedOut.extended {group group' nearer nearer' : ProtoGroup}
    (spaced : group.SpacedOut group') (spacedNearer : nearer.SpacedOut nearer')
    : (group.extended nearer).SpacedOut (group'.extended nearer') := by
  have merges {alternatives alternatives' : List Rule}
      (others : List.Forall₂ Rule.SpacedOut alternatives alternatives')
      : ProtoGroup.SpacedOut (alternatives.foldl withAlternative group)
          (alternatives'.foldl withAlternative group') := by
    induction others generalizing group group' with
    | nil => exact spaced
    | cons first _ ih => exact ih ⟨spaced.1, place_spacedOut first spaced.2⟩
  exact merges spacedNearer.2

namespace Grammar

section Layers

variable {layers layers' : List Layer} (spaced : List.Forall₂ Layer.SpacedOut layers layers')
  (name : Name)

include spaced

theorem groupsAlong_spacedOut
    : List.Forall₂ ProtoGroup.SpacedOut (groupsAlong name layers) (groupsAlong name layers') := by
  induction spaced with
  | nil => exact .nil
  | @cons layer layer' _ _ same _ ih =>
      have found := same.find? name
      unfold groupsAlong
      generalize layer.find? name = entry at found
      generalize layer'.find? name = entry' at found
      cases found with
      | none => exact ih
      | some same =>
          cases same with
          | rule _ => exact .nil
          | group same => exact .cons same ih

omit spaced in
theorem mergeGroups_spacedOut {group group' : ProtoGroup} {older older' : List ProtoGroup}
    (same : group.SpacedOut group') (others : List.Forall₂ ProtoGroup.SpacedOut older older')
    : (mergeGroups group older).SpacedOut (mergeGroups group' older') := by
  induction others generalizing group group' with
  | nil => exact same
  | cons first _ ih => exact (ih first).extended same

theorem lookupAlong_spacedOut
    : Option.Rel Entry.SpacedOut (lookupAlong name layers) (lookupAlong name layers') := by
  induction spaced with
  | nil =>
      unfold lookupAlong
      cases builtin? name with
      | none => exact .none
      | some rule => exact .some (.rule (.unchanged rule))
  | @cons layer layer' _ _ same older ih =>
      have found := same.find? name
      unfold lookupAlong
      generalize layer.find? name = entry at found
      generalize layer'.find? name = entry' at found
      cases found with
      | none => exact ih
      | some same =>
          cases same with
          | rule same => exact .some (.rule same)
          | group same =>
              exact .some (.group (mergeGroups_spacedOut same (groupsAlong_spacedOut older name)))

end Layers

/-- What a name stands for is written out where the grammar is. -/
theorem SpacedOut.lookup {g h : Grammar} (spaced : g.SpacedOut h) (name : Name)
    : Option.Rel Entry.SpacedOut (g.lookup name) (h.lookup name) :=
  lookupAlong_spacedOut spaced name

end Grammar

end RuleGrammar
