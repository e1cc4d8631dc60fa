import Mathlib.Data.List.Nodup
import RuleGrammar.Proofs.Grammar.Visible

/-! Grammars that were made by registering rules. In their layers every entry stands under its own
name, and the alternatives of a group differ in their tags, so a rule that is visible is told from
all others by its name and its tag.
-/

namespace RuleGrammar

-----------------------------------------------------------------------------------------
-- Layers that were built
-----------------------------------------------------------------------------------------

/-- The layers that come about by registering rules, adding alternatives and declaring groups. -/
inductive Layer.Built : Layer → Prop
  | empty (name : Name) : Layer.Built { name }
  | registered {layer next : Layer} {name : Name} {rule made : Rule} (before : layer.Built)
    (done : layer.register name rule = .ok (made, next))
    : next.Built
  | extended {layer next : Layer} {group tag : Name} {rule made : Rule}
    (before : layer.Built) (done : layer.addAlternative group tag rule = .ok (made, next))
    : next.Built
  | declared {layer : Layer} (before : layer.Built) (name : Name)
    : (layer.declareProto name).2.Built

/-- A grammar all of whose layers were built. -/
def Grammar.Built (g : Grammar) : Prop :=
  ∀ layer ∈ g.lineage, layer.Built

-----------------------------------------------------------------------------------------
-- Entries under their own names
-----------------------------------------------------------------------------------------

/-- The alternatives of a name: each has that name and a tag, and no two have one tag. -/
structure Keyed (name : Name) (alternatives : List Rule) : Prop where
  named : ∀ rule ∈ alternatives, rule.name = name ∧ rule.tag.isSome = true
  distinct : (alternatives.map Rule.tag).Nodup

theorem Keyed.empty (name : Name) : Keyed name [] :=
  ⟨by simp, by simp⟩

theorem ProtoGroup.mem_place {alternative rule : Rule} {alternatives : List Rule}
    (member : rule ∈ place alternative alternatives)
    : rule = alternative ∨ rule ∈ alternatives := by
  induction alternatives with
  | nil => simpa [place] using member
  | cons first rest ih =>
      by_cases same : first.tag = alternative.tag
      · rcases List.mem_cons.mp (by simpa [place, same] using member) with here | later
        · exact Or.inl here
        · exact Or.inr (List.mem_cons_of_mem _ later)
      · rcases List.mem_cons.mp (by simpa [place, same] using member) with here | later
        · exact Or.inr (here ▸ List.mem_cons_self)
        · exact (ih later).imp_right (List.mem_cons_of_mem _)

/-- An alternative that is put in its place leaves tags distinct, by induction on the
alternatives.
-/
theorem ProtoGroup.nodup_place {alternative : Rule} {alternatives : List Rule}
    (distinct : (alternatives.map Rule.tag).Nodup)
    : ((place alternative alternatives).map Rule.tag).Nodup := by
  induction alternatives with
  | nil => simp [place]
  | cons first rest ih =>
      rw [List.map_cons, List.nodup_cons] at distinct
      by_cases same : first.tag = alternative.tag
      · simpa [place, same] using distinct
      · simp only [place, same, if_false, List.map_cons]
        refine List.nodup_cons.mpr ⟨?_, ih distinct.2⟩
        intro member
        obtain ⟨rule, inside, sameTag⟩ := List.mem_map.mp member
        rcases mem_place inside with rfl | old
        · exact same sameTag.symm
        · exact distinct.1 (List.mem_map.mpr ⟨rule, old, sameTag⟩)

theorem Keyed.place {name : Name} {alternative : Rule} {alternatives : List Rule}
    (keyed : Keyed name alternatives) (named : alternative.name = name)
    (tagged : alternative.tag.isSome = true)
    : Keyed name (ProtoGroup.place alternative alternatives) where
  named rule member := by
    rcases ProtoGroup.mem_place member with rfl | old
    · exact ⟨named, tagged⟩
    · exact keyed.named rule old
  distinct := ProtoGroup.nodup_place keyed.distinct

/-- Merging a nearer group into an older one keeps both keyed, by induction on what is merged. -/
theorem Keyed.extended {name : Name} {group nearer : ProtoGroup}
    (keyed : Keyed name group.alternatives) (keyedNearer : Keyed name nearer.alternatives)
    : Keyed name (group.extended nearer).alternatives := by
  have merges (alternatives : List Rule)
      (named : ∀ rule ∈ alternatives, rule.name = name ∧ rule.tag.isSome = true)
      : Keyed name (alternatives.foldl ProtoGroup.withAlternative group).alternatives := by
    induction alternatives generalizing group with
    | nil => exact keyed
    | cons first rest ih =>
        have here := named first (by simp)
        have placed : Keyed name (group.withAlternative first).alternatives :=
          keyed.place here.1 here.2
        exact ih placed fun rule member => named rule (by simp [member])
  exact merges nearer.alternatives keyedNearer.named

/-- An entry stands under its own name. -/
inductive Entry.Under (name : Name) : Entry → Prop
  | rule {rule : Rule} (named : rule.name = name) (plain : rule.tag = none)
    : Entry.Under name (.rule rule)
  | group {group : ProtoGroup} (keyed : Keyed name group.alternatives)
    : Entry.Under name (.group group)

/-- Every entry of a layer stands under its own name. -/
def Layer.Keyed (layer : Layer) : Prop :=
  ∀ name entry, layer.find? name = some entry → entry.Under name

theorem Layer.lookupIn_insertIn (name key : Name) (entry : Entry)
    (entries : List (Name × Entry))
    : lookupIn name (insertIn key entry entries)
      = if key = name then some entry else lookupIn name entries := by
  induction entries with
  | nil => rfl
  | cons first rest ih =>
      obtain ⟨head, old⟩ := first
      by_cases here : head = key
      · by_cases same : key = name <;> simp [insertIn, lookupIn, here, same]
      · by_cases found : head = name
        · subst found
          simp [insertIn, lookupIn, here, Ne.symm here]
        · simp [insertIn, lookupIn, here, found, ih]

namespace Layer

section Entries

variable {holds : Name → Entry → Prop} {layer next : Layer}

theorem forall_insert {key : Name} {entry : Entry}
    (before : ∀ name found, layer.find? name = some found → holds name found)
    (new : holds key entry)
    : ∀ name found, (layer.insert key entry).find? name = some found → holds name found := by
  intro name found lookup
  simp only [find?, insert, lookupIn_insertIn] at lookup
  split at lookup
  · rename_i same
    cases lookup
    exact same ▸ new
  · exact before name found lookup

variable (fresh : ∀ name, holds name (.group { name }))
  (added
    : ∀ {name group alternative},
        holds name (.group group)
        → alternative.name = name
        → alternative.tag.isSome = true
        → holds name (.group (group.withAlternative alternative)))

include fresh added

theorem forall_addAlternative {group tag : Name} {rule made : Rule}
    (before : ∀ name found, layer.find? name = some found → holds name found)
    (done : layer.addAlternative group tag rule = .ok (made, next))
    : ∀ name found, next.find? name = some found → holds name found := by
  unfold Layer.addAlternative at done
  split at done
  · cases done
  · rename_i known found
    cases done
    exact forall_insert before (added (before group _ found) rfl rfl)
  · cases done
    exact forall_insert before (added (fresh group) rfl rfl)

/-- What holds of plain rules and of new groups under their names, and still holds of a group that
gets an alternative, holds of all entries of a layer that was built: induction on the steps.
-/
theorem Built.forall_entries
    (plain : ∀ {name rule}, rule.name = name → rule.tag = none → holds name (.rule rule))
    (built : layer.Built)
    : ∀ name found, layer.find? name = some found → holds name found := by
  induction built with
  | empty name => intro other entry found; cases found
  | registered _ done before =>
      simp only [Layer.register] at done
      split at done
      · exact forall_addAlternative fresh added before done
      · rename_i untagged
        cases done
        exact forall_insert before (plain rfl untagged)
  | extended _ done before => exact forall_addAlternative fresh added before done
  | declared _ name before =>
      unfold Layer.declareProto
      split
      · exact before
      · exact forall_insert before (fresh name)

end Entries

/-- Building a layer keeps its entries under their own names. -/
theorem Built.keyed {layer : Layer} (built : layer.Built) : layer.Keyed := by
  refine built.forall_entries (fun name => .group (.empty name)) ?_ .rule
  rintro _ _ _ ⟨⟩ named tagged
  exact .group (RuleGrammar.Keyed.place ‹_› named tagged)

end Layer

-----------------------------------------------------------------------------------------
-- Names and tags tell visible rules apart
-----------------------------------------------------------------------------------------

namespace Grammar

/-- A group of a name along layers is the entry of that name in one of them. -/
theorem exists_of_mem_groupsAlong {name : Name} {layers : List Layer} {group : ProtoGroup}
    (member : group ∈ groupsAlong name layers)
    : ∃ layer ∈ layers, layer.find? name = some (.group group) := by
  induction layers with
  | nil => cases member
  | cons layer older ih =>
      have later (member : group ∈ groupsAlong name older)
          : ∃ other ∈ layer :: older, other.find? name = some (.group group) :=
        (ih member).imp fun _ found => ⟨List.mem_cons_of_mem _ found.1, found.2⟩
      unfold groupsAlong at member
      split at member
      · exact later member
      · cases member
      · rename_i nearest found
        rcases List.mem_cons.mp member with rfl | member
        · exact ⟨layer, List.mem_cons_self, found⟩
        · exact later member

theorem keyed_of_mem_groupsAlong {name : Name} {layers : List Layer}
    (keyed : ∀ layer ∈ layers, layer.Keyed) {group : ProtoGroup}
    (member : group ∈ groupsAlong name layers)
    : Keyed name group.alternatives := by
  obtain ⟨layer, inLayers, found⟩ := exists_of_mem_groupsAlong member
  cases keyed layer inLayers name _ found with
  | group alternatives => exact alternatives

theorem keyed_mergeGroups {name : Name} {nearest : ProtoGroup} {older : List ProtoGroup}
    (keyed : Keyed name nearest.alternatives)
    (keyedOlder : ∀ group ∈ older, Keyed name group.alternatives)
    : Keyed name (mergeGroups nearest older).alternatives := by
  induction older generalizing nearest with
  | nil => exact keyed
  | cons group oldest ih =>
      refine Keyed.extended (ih (keyedOlder group (by simp)) ?_) keyed
      exact fun other member => keyedOlder other (by simp [member])

theorem under_of_builtin {name : Name} {entry : Entry}
    (found : (builtin? name).map Entry.rule = some entry)
    : entry.Under name := by
  obtain ⟨rule, isBuiltin, rfl⟩ := Option.map_eq_some_iff.mp found
  have plain : ∀ rule ∈ builtins, rule.tag = none := by
    simp [builtins, builtin]
  exact .rule (by simpa using List.find?_some isBuiltin)
    (plain rule (List.mem_of_find?_eq_some isBuiltin))

theorem under_of_lookupAlong {name : Name} {entry : Entry} {layers : List Layer}
    (keyed : ∀ layer ∈ layers, layer.Keyed) (found : lookupAlong name layers = some entry)
    : entry.Under name := by
  induction layers with
  | nil => exact under_of_builtin found
  | cons layer older ih =>
      have keyedOlder : ∀ other ∈ older, other.Keyed :=
        fun other inside => keyed other (by simp [inside])
      unfold lookupAlong at found
      split at found
      · exact ih keyedOlder found
      · rename_i rule own
        cases found
        exact keyed layer (by simp) name _ own
      · rename_i group own
        cases found
        cases keyed layer (by simp) name _ own with
        | group alternatives =>
            exact .group (keyed_mergeGroups alternatives
              fun other => keyed_of_mem_groupsAlong keyedOlder)

/-- In a grammar that was built, what a name stands for has that name. -/
theorem Built.under {g : Grammar} (built : g.Built) {name : Name} {entry : Entry}
    (found : g.lookup name = some entry)
    : entry.Under name :=
  under_of_lookupAlong (fun layer member => (built layer member).keyed) found

end Grammar

theorem Entry.Under.name_eq {name : Name} {entry : Entry} (under : entry.Under name)
    {rule : Rule} (member : rule ∈ entry.rules)
    : rule.name = name := by
  cases under with
  | rule named _ =>
      obtain rfl := List.mem_singleton.mp member
      exact named
  | group keyed => exact (keyed.named rule member).1

/-- Two rules of one entry with one tag are one rule. -/
theorem Entry.Under.eq_of_tag {name : Name} {entry : Entry} (under : entry.Under name)
    {rule other : Rule} (member : rule ∈ entry.rules) (otherMember : other ∈ entry.rules)
    (sameTag : rule.tag = other.tag)
    : rule = other := by
  cases under with
  | rule _ _ =>
      rw [List.mem_singleton.mp member, List.mem_singleton.mp otherMember]
  | group keyed => exact List.inj_on_of_nodup_map keyed.distinct member otherMember sameTag

/-- In a grammar that was built, visible rules with one name and one tag are one rule. -/
theorem Grammar.Built.eq_of_key {g : Grammar} (built : g.Built) {rule other : Rule}
    (visible : rule ∈ g.visibleRules) (otherVisible : other ∈ g.visibleRules)
    (sameName : rule.name = other.name) (sameTag : rule.tag = other.tag)
    : rule = other := by
  obtain ⟨name, entry, found, member⟩ := mem_visibleRules.mp visible
  obtain ⟨otherName, otherEntry, otherFound, otherMember⟩ := mem_visibleRules.mp otherVisible
  have under := built.under found
  have names : otherName = name := by
    rw [← (built.under otherFound).name_eq otherMember, ← sameName, under.name_eq member]
  rw [names, found] at otherFound
  cases otherFound
  exact under.eq_of_tag member otherMember sameTag

end RuleGrammar
