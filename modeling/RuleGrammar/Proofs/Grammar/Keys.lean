import Mathlib.Data.List.Nodup
import RuleGrammar.Matcher.Memo
import RuleGrammar.Proofs.Grammar.Provenance

/-! Names and tags as keys. In whatever order grammars are made and changed, their entries stay
named for the keys that they stand under, so no two rules that a grammar can apply have one name and
one tag, and the keys under which a matcher keeps answers tell all of them apart.
-/

namespace RuleGrammar

-----------------------------------------------------------------------------------------
-- Entries
-----------------------------------------------------------------------------------------

/-- The entries of a layer are named for their keys. A plain rule has no tag, and a group has
alternatives of its name that all have different tags.
-/
structure Layer.NamedByKey (layer : Layer) : Prop where
  plain
    : ∀ {name rule}, layer.find? name = some (.rule rule) → rule.name = name ∧ rule.tag = none
  group
    : ∀ {name group},
        layer.find? name = some (.group group)
        → group.name = name ∧ RuleGrammar.Keyed name group.alternatives

/-- An entry that has a name if it is a group. -/
def Entry.GroupNamed (name : Name) : Entry → Prop
  | .rule _ => True
  | .group g => g.name = name

/-- A group of a layer that was built is named for its key: it was declared under it, and keeps its
name when it gets an alternative.
-/
theorem Layer.Built.group_name {layer : Layer} (built : layer.Built) {name : Name}
    {group : ProtoGroup} (found : layer.find? name = some (.group group))
    : group.name = name := by
  have named : ∀ name entry, layer.find? name = some entry → entry.GroupNamed name :=
    built.forall_entries (fun _ => rfl) (fun before _ _ => before) fun _ _ => trivial
  exact named name _ found

theorem Layer.Built.namedByKey {layer : Layer} (built : layer.Built) : layer.NamedByKey where
  plain found := by
    cases built.keyed _ _ found with
    | rule named untagged => exact ⟨named, untagged⟩
  group found := by
    cases built.keyed _ _ found with
    | group keyed => exact ⟨built.group_name found, keyed⟩

-----------------------------------------------------------------------------------------
-- Rules
-----------------------------------------------------------------------------------------

namespace Grammar

/-- Rules have keys of their own: of all that names stand for, no two have one name and one tag, so
that the keys of different rules differ wherever they are applied.
-/
structure KeysApart (g : Grammar) : Prop where
  once : (g.visibleRules.map fun rule => (rule.name, rule.tag)).Nodup
  apart
    : ∀ {name other entry otherEntry rule otherRule},
        g.lookup name = some entry
        → rule ∈ entry.rules
        → g.lookup other = some otherEntry
        → otherRule ∈ otherEntry.rules
        → rule ≠ otherRule
        → ∀ pos otherPos,
          (⟨rule.name, rule.tag, pos⟩ : Key) ≠ ⟨otherRule.name, otherRule.tag, otherPos⟩

end Grammar

/-- The rules of an entry under its name have different tags. -/
theorem Entry.Under.nodup_tags {name : Name} {entry : Entry} (under : entry.Under name)
    : (entry.rules.map Rule.tag).Nodup := by
  cases under with
  | rule _ _ => exact List.nodup_singleton _
  | group keyed => exact keyed.distinct

/-- A row of the table of a grammar that was built holds rules of its name with different tags. -/
theorem Grammar.Built.keyed_row {g : Grammar} (built : g.Built) {row : Name × List Rule}
    (member : row ∈ g.ruleTable)
    : (∀ rule ∈ row.2, rule.name = row.1) ∧ (row.2.map Rule.tag).Nodup := by
  obtain ⟨name, -, rfl⟩ := List.mem_map.mp member
  cases found : g.lookup name with
  | none => exact ⟨nofun, List.nodup_nil⟩
  | some entry =>
      have under := built.under found
      exact ⟨fun rule => under.name_eq, under.nodup_tags⟩

/-- In a grammar that was built no name and tag stand for two rules: each name is in the table once,
and so is each tag among its rules.
-/
theorem Grammar.Built.nodup_keys {g : Grammar} (built : g.Built)
    : (g.visibleRules.map fun rule => (rule.name, rule.tag)).Nodup := by
  rw [visibleRules, List.map_flatMap]
  refine List.nodup_flatMap.mpr ⟨fun row member => ?_, ?_⟩
  · refine List.Nodup.of_map Prod.snd ?_
    rw [List.map_map]
    exact (built.keyed_row member).2
  · have once : g.ruleTable.Pairwise fun row other => row.1 ≠ other.1 :=
      List.pairwise_map.mpr (nodup_distinct _)
    refine once.imp_of_mem fun {row other} inTable otherInTable apart key here there => ?_
    obtain ⟨rule, inRow, rfl⟩ := List.mem_map.mp here
    obtain ⟨otherRule, inOther, same⟩ := List.mem_map.mp there
    refine apart ?_
    rw [← (built.keyed_row inTable).1 rule inRow,
      ← (built.keyed_row otherInTable).1 otherRule inOther]
    exact (Prod.mk.inj same).1.symm

theorem Grammar.Built.keysApart {g : Grammar} (built : g.Built) : g.KeysApart where
  once := built.nodup_keys
  apart found member otherFound otherMember different pos otherPos := by
    intro same
    obtain ⟨sameName, sameTag, -⟩ := Key.mk.inj same
    exact different (built.eq_of_key (mem_visibleRules.mpr ⟨_, _, found, member⟩)
      (mem_visibleRules.mpr ⟨_, _, otherFound, otherMember⟩) sameName sameTag)

-----------------------------------------------------------------------------------------
-- Changes
-----------------------------------------------------------------------------------------

namespace Registry

/-- What can be done to the grammars of a registry: one is made, with a parent or without, or one
that is there gets a rule, a group or an alternative.
-/
inductive Change
  | new (name : Name) (parent : Option Nat)
  | derive (parent : Nat) (name : Name)
  | register (id : Nat) (name : Name) (rule : Rule)
  | declareProto (id : Nat) (name : Name)
  | addAlternative (id : Nat) (group tag : Name) (rule : Rule)

/-- The registry that a change of a rule leaves, which is the one before if it was refused. -/
def orUnchanged (registry : Registry) : Except GrammarError (Rule × Registry) → Registry
  | .ok (_, next) => next
  | .error _ => registry

/-- The registry after a change. A grammar that is not there cannot be changed. -/
def change (registry : Registry) : Change → Registry
  | .new name parent => (registry.add { name } parent).2
  | .derive parent name => (registry.add { name } (some parent)).2
  | .register id name rule =>
      match registry.grammar? id with
      | some grammar => registry.orUnchanged (registry.register id grammar name rule)
      | none => registry
  | .declareProto id name =>
      match registry.grammar? id with
      | some grammar => (registry.declareProto id grammar name).2
      | none => registry
  | .addAlternative id group tag rule =>
      match registry.grammar? id with
      | some grammar => registry.orUnchanged (registry.addAlternative id grammar group tag rule)
      | none => registry

/-- The registry after changes that begin without any grammar. -/
def after (changes : List Change) : Registry :=
  changes.foldl change {}

theorem Built.orUnchanged {registry : Registry} (built : registry.Built)
    {done : Except GrammarError (Rule × Registry)}
    (accepted : ∀ made next, done = .ok (made, next) → next.Built)
    : (registry.orUnchanged done).Built := by
  cases done with
  | ok result => exact accepted result.1 result.2 rfl
  | error _ => exact built

/-- Every change keeps a registry built. -/
theorem Built.change {registry : Registry} (built : registry.Built) (change : Change)
    : (registry.change change).Built := by
  cases change with
  | new name parent => exact built.add (.empty name) parent
  | derive parent name => exact built.add (.empty name) (some parent)
  | register id name rule =>
      simp only [Registry.change]
      split
      · rename_i grammar found
        exact built.orUnchanged fun _ _ => built.register (built.grammar found)
      · exact built
  | declareProto id name =>
      simp only [Registry.change]
      split
      · rename_i grammar found
        exact built.declareProto (built.grammar found)
      · exact built
  | addAlternative id group tag rule =>
      simp only [Registry.change]
      split
      · rename_i grammar found
        exact built.orUnchanged fun _ _ => built.addAlternative (built.grammar found)
      · exact built

/-- So do any number of them one after the other. -/
theorem built_after (changes : List Change) : (after changes).Built := by
  have along {registry : Registry} (built : registry.Built)
      : (changes.foldl Registry.change registry).Built := by
    induction changes generalizing registry with
    | nil => exact built
    | cons change rest ih => exact ih (built.change change)
  exact along built_empty

/-- Whatever is done to grammars, their own entries are named for their keys, and the rules that any
of them can apply, be they inherited, merged or built in, have keys of their own.
-/
theorem keysApart_after (changes : List Change)
    : (∀ node ∈ (after changes).nodes, node.layer.NamedByKey)
      ∧ ∀ id g, (after changes).grammar? id = some g → g.KeysApart :=
  ⟨fun node member => (built_after changes node member).namedByKey,
    fun _ _ found => ((built_after changes).grammar found).keysApart⟩

def inheritedAlternative : Rule :=
  { name := "v", expr := .literal "x", tag := some "inherited" }

def ownAlternative : Rule :=
  { name := "v", expr := .literal "x", tag := some "own" }

/-- One of them is registered under another name, and a derived grammar adds the other. -/
def derivedAlternative : List Change :=
  [.new "base" none,
    .register 0 "v" { inheritedAlternative with name := "w" },
    .derive 0 "leaf",
    .addAlternative 1 "v" "own" { ownAlternative with name := "w", tag := none }]

/-- The grammar that these changes end with. -/
def derivedGrammar : Grammar where
  own := ⟨"leaf", [("v", .group ⟨"v", [ownAlternative]⟩)]⟩
  ancestors := [⟨"base", [("v", .group ⟨"v", [inheritedAlternative]⟩)]⟩]

theorem keysApart_after_derivedAlternative
    : (after derivedAlternative).grammar? 1 = some derivedGrammar
      ∧ derivedGrammar.lookup "v"
        = some (.group ⟨"v", [inheritedAlternative, ownAlternative]⟩)
      ∧ inheritedAlternative ≠ ownAlternative
      ∧ ∀ pos otherPos,
        (⟨inheritedAlternative.name, inheritedAlternative.tag, pos⟩ : Key)
          ≠ ⟨ownAlternative.name, ownAlternative.tag, otherPos⟩ := by
  have made : (after derivedAlternative).grammar? 1 = some derivedGrammar := rfl
  have found : derivedGrammar.lookup "v"
      = some (.group ⟨"v", [inheritedAlternative, ownAlternative]⟩) := rfl
  have different : inheritedAlternative ≠ ownAlternative :=
    fun same => absurd (congrArg Rule.tag same) (by decide)
  refine ⟨made, found, different, ?_⟩
  exact ((keysApart_after derivedAlternative).2 1 _ made).apart found (by simp [Entry.rules]) found
    (by simp [Entry.rules]) different

end Registry

end RuleGrammar
