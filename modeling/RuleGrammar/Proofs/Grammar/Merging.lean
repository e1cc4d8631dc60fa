import RuleGrammar.Proofs.Grammar.Keys

/-! What a name stands for along a chain of grammars of any length. The nearest entry decides: a
plain rule stands for itself, and a group takes in the older groups up to the first plain rule, each
of their tags once, with the alternative of the nearest grammar, in the order in which the tags
first appear from the oldest grammar on.
-/

namespace RuleGrammar

-----------------------------------------------------------------------------------------
-- First appearances
-----------------------------------------------------------------------------------------

section Appearances

variable {α : Type} [BEq α] [LawfulBEq α]

theorem eraseDups_of_nodup {items : List α} (distinct : items.Nodup)
    : items.eraseDups = items := by
  induction items with
  | nil => rfl
  | cons item rest ih =>
      obtain ⟨fresh, distinct⟩ := List.nodup_cons.mp distinct
      have others : (rest.filter fun other => !other == item) = rest := by
        refine List.filter_eq_self.mpr fun other member => ?_
        have apart : other ≠ item := fun same => fresh (same ▸ member)
        simpa using apart
      rw [List.eraseDups_cons, others, ih distinct]

theorem eraseDups_append_cons_of_mem {item : α} {known rest : List α} (member : item ∈ known)
    : (known ++ item :: rest).eraseDups = (known ++ rest).eraseDups := by
  simp [List.eraseDups_append, List.removeAll, member]

end Appearances

-----------------------------------------------------------------------------------------
-- Groups that are merged
-----------------------------------------------------------------------------------------

namespace ProtoGroup

/-- The tags of a group, in the order of its alternatives. -/
def tags (group : ProtoGroup) : List (Option Name) :=
  group.alternatives.map Rule.tag

/-- A group that merges others, given nearest first: each of their tags is in it once, they stand
in the order in which they first appear from the oldest group on, and the alternative of each is the
first one that comes up when the groups are read from the nearest on.
-/
structure Merges (merged : ProtoGroup) (groups : List ProtoGroup) : Prop where
  once : merged.tags.Nodup
  ordered : merged.tags = (groups.reverse.flatMap tags).eraseDups
  nearest
    : ∀ rule ∈ merged.alternatives,
        (groups.flatMap alternatives).find? (·.tag = rule.tag) = some rule

/-- There is one way to merge groups: the order fixes the tags, and each tag fixes its alternative.
-/
theorem Merges.alternatives_eq {merged : ProtoGroup} {groups : List ProtoGroup}
    (merges : merged.Merges groups)
    : merged.alternatives
      = (groups.reverse.flatMap tags).eraseDups.filterMap fun tag =>
          (groups.flatMap alternatives).find? (·.tag = tag) := by
  rw [← merges.ordered, tags, List.filterMap_map]
  symm
  calc merged.alternatives.filterMap _
      = merged.alternatives.filterMap some := List.filterMap_congr merges.nearest
    _ = merged.alternatives := List.filterMap_some

section Placing

variable {alternative rule : Rule} {alternatives : List Rule}

/-- An alternative that is put in its place adds its tag behind the others if it is new. -/
theorem tags_place
    : (place alternative alternatives).map Rule.tag
      = if alternative.tag ∈ alternatives.map Rule.tag then alternatives.map Rule.tag
        else alternatives.map Rule.tag ++ [alternative.tag] := by
  induction alternatives with
  | nil => rfl
  | cons first rest ih =>
      by_cases same : first.tag = alternative.tag
      · simp [place, same]
      · simp only [place, same, if_false, List.map_cons, ih, List.mem_cons, Ne.symm same, false_or]
        split <;> rfl

theorem mem_place_self : alternative ∈ place alternative alternatives := by
  induction alternatives with
  | nil => exact List.mem_singleton_self _
  | cons first rest ih =>
      unfold place
      split
      · exact List.mem_cons_self
      · exact List.mem_cons_of_mem _ ih

/-- It leaves only the others that have another tag. -/
theorem mem_place_of_nodup (distinct : (alternatives.map Rule.tag).Nodup)
    (member : rule ∈ place alternative alternatives)
    : rule = alternative ∨ rule ∈ alternatives ∧ rule.tag ≠ alternative.tag := by
  by_cases same : rule.tag = alternative.tag
  · exact Or.inl (List.inj_on_of_nodup_map (nodup_place distinct) member mem_place_self same)
  · exact (mem_place member).imp_right fun old => ⟨old, same⟩

end Placing

/-- The tags of a group that is extended come first, by induction on what it is extended by. -/
theorem tags_extended {group nearer : ProtoGroup} (distinct : group.tags.Nodup)
    : (group.extended nearer).tags = (group.tags ++ nearer.tags).eraseDups := by
  have along (alternatives : List Rule)
      : (alternatives.foldl withAlternative group).tags
        = (group.tags ++ alternatives.map Rule.tag).eraseDups := by
    induction alternatives generalizing group with
    | nil => simpa using (eraseDups_of_nodup distinct).symm
    | cons first rest ih =>
        have placed : (group.withAlternative first).tags.Nodup := nodup_place distinct
        rw [List.foldl_cons, ih placed, List.map_cons]
        rw [tags, withAlternative, tags_place]
        split
        · rename_i known
          exact (eraseDups_append_cons_of_mem known).symm
        · rw [List.append_assoc]
          rfl
  exact along nearer.alternatives

/-- Where a group is extended, nearer alternatives hide those of their tags, by induction on the
nearer ones.
-/
theorem mem_extended {group nearer : ProtoGroup} (distinct : group.tags.Nodup)
    : ∀ rule ∈ (group.extended nearer).alternatives,
        rule ∈ nearer.alternatives ∨ rule ∈ group.alternatives ∧ rule.tag ∉ nearer.tags := by
  have along (alternatives : List Rule)
      : ∀ rule ∈ (alternatives.foldl withAlternative group).alternatives,
          rule ∈ alternatives
          ∨ rule ∈ group.alternatives ∧ rule.tag ∉ alternatives.map Rule.tag := by
    induction alternatives generalizing group with
    | nil => exact fun rule member => Or.inr ⟨member, List.not_mem_nil⟩
    | cons first rest ih =>
        have placed : (group.withAlternative first).tags.Nodup := nodup_place distinct
        intro rule member
        rcases ih placed rule member with later | ⟨before, other⟩
        · exact Or.inl (List.mem_cons_of_mem _ later)
        · rcases mem_place_of_nodup distinct before with rfl | ⟨old, otherTag⟩
          · exact Or.inl List.mem_cons_self
          · exact Or.inr ⟨old, fun member => (List.mem_cons.mp member).elim otherTag other⟩
  exact along nearer.alternatives

theorem nodup_extended {group nearer : ProtoGroup} (distinct : group.tags.Nodup)
    : (group.extended nearer).tags.Nodup :=
  List.foldlRecOn nearer.alternatives withAlternative distinct
    fun _ kept _ _ => nodup_place kept

theorem extended_name {group nearer : ProtoGroup}
    : (group.extended nearer).name = group.name := by
  have along (alternatives : List Rule)
      : (alternatives.foldl withAlternative group).name = group.name := by
    induction alternatives generalizing group with
    | nil => rfl
    | cons _ rest ih => exact ih
  exact along nearer.alternatives

/-- The first alternative of a tag is the only one of it. -/
theorem find?_tag {alternatives : List Rule} (distinct : (alternatives.map Rule.tag).Nodup)
    {rule : Rule} (member : rule ∈ alternatives)
    : alternatives.find? (·.tag = rule.tag) = some rule := by
  cases found : alternatives.find? (·.tag = rule.tag) with
  | none => simpa using List.find?_eq_none.mp found rule member
  | some other =>
      have same : other.tag = rule.tag := by simpa using List.find?_some found
      rw [List.inj_on_of_nodup_map distinct (List.mem_of_find?_eq_some found) member same]

/-- A group that merges others, extended by a nearer one, merges that one too. -/
theorem Merges.extended {merged nearer : ProtoGroup} {groups : List ProtoGroup}
    (merges : merged.Merges groups) (distinct : nearer.tags.Nodup)
    : (merged.extended nearer).Merges (nearer :: groups) where
  once := nodup_extended merges.once
  ordered := by
    have known : nearer.tags.removeAll merged.tags
        = nearer.tags.removeAll (groups.reverse.flatMap tags) := by
      refine List.filter_congr fun tag _ => ?_
      rw [merges.ordered]
      simp
    calc (merged.extended nearer).tags
        = (merged.tags ++ nearer.tags).eraseDups := tags_extended merges.once
      _ = merged.tags ++ (nearer.tags.removeAll merged.tags).eraseDups := by
          rw [List.eraseDups_append, eraseDups_of_nodup merges.once]
      _ = (groups.reverse.flatMap tags ++ nearer.tags).eraseDups := by
          rw [known, List.eraseDups_append, merges.ordered]
      _ = ((nearer :: groups).reverse.flatMap tags).eraseDups := by simp
  nearest rule member := by
    rw [List.flatMap_cons, List.find?_append]
    rcases mem_extended merges.once rule member with own | ⟨inherited, other⟩
    · rw [find?_tag distinct own, Option.some_or]
    · have hidden : nearer.alternatives.find? (·.tag = rule.tag) = none := by
        refine List.find?_eq_none.mpr fun near inNearer => ?_
        simpa using fun same => other (List.mem_map.mpr ⟨near, inNearer, same⟩)
      rw [hidden, Option.none_or, merges.nearest rule inherited]

theorem Merges.single {group : ProtoGroup} (distinct : group.tags.Nodup)
    : group.Merges [group] where
  once := distinct
  ordered := by simpa using (eraseDups_of_nodup distinct).symm
  nearest rule member := by simpa using find?_tag distinct member

end ProtoGroup

-----------------------------------------------------------------------------------------
-- Entries along a chain
-----------------------------------------------------------------------------------------

/-- The groups that entries begin with, up to the first plain rule. -/
def leadingGroups : List Entry → List ProtoGroup
  | .group group :: older => group :: leadingGroups older
  | _ => []

/-- What a name stands for, given its entries along a chain, nearest first. -/
inductive StandsFor (name : Name) : List Entry → Option Entry → Prop
  | builtin : StandsFor name [] ((Grammar.builtin? name).map .rule)
  | plain {rule older} : StandsFor name (.rule rule :: older) (some (.rule rule))
  | merged {nearest merged : ProtoGroup} {older} (named : merged.name = name)
    (merges : merged.Merges (nearest :: leadingGroups older))
    : StandsFor name (.group nearest :: older) (some (.group merged))

theorem StandsFor.unique {name : Name} {entries : List Entry} {result result' : Option Entry}
    (stands : StandsFor name entries result) (stands' : StandsFor name entries result')
    : result = result' := by
  cases stands with
  | builtin => cases stands'; rfl
  | plain => cases stands'; rfl
  | @merged _ merged _ named merges =>
      cases stands' with
      | @merged _ merged' _ named' merges' =>
          have sameName : merged.name = merged'.name := named.trans named'.symm
          have sameAlternatives : merged.alternatives = merged'.alternatives :=
            merges.alternatives_eq.trans merges'.alternatives_eq.symm
          obtain ⟨_, _⟩ := merged
          obtain ⟨_, _⟩ := merged'
          cases sameName
          cases sameAlternatives
          rfl

/-- What a name stands for, given its own entry in a grammar and what it stands for in the parent.
-/
def Entry.over : Option Entry → Option Entry → Option Entry
  | none, inherited => inherited
  | some (.group own), some (.group inherited) => some (.group (inherited.extended own))
  | some own, _ => some own

namespace Grammar

/-- The entries that the grammars of a chain have of their own for a name, nearest first. -/
def ownEntries (g : Grammar) (name : Name) : List Entry :=
  g.lineage.filterMap (·.find? name)

section Layers

variable {name : Name} {layers : List Layer}

/-- Groups that have their tags once merge into one that merges them, and have its name if it is
that of all: induction from the oldest on.
-/
theorem mergeGroups_merges {nearest : ProtoGroup} {older : List ProtoGroup}
    (named : ∀ group ∈ nearest :: older, group.name = name)
    (distinct : ∀ group ∈ nearest :: older, group.tags.Nodup)
    : (mergeGroups nearest older).name = name
      ∧ (mergeGroups nearest older).Merges (nearest :: older) := by
  induction older generalizing nearest with
  | nil =>
      obtain ⟨here, -⟩ := List.forall_mem_cons.mp distinct
      exact ⟨named nearest List.mem_cons_self, .single here⟩
  | cons group oldest ih =>
      obtain ⟨-, namedOlder⟩ := List.forall_mem_cons.mp named
      obtain ⟨here, distinctOlder⟩ := List.forall_mem_cons.mp distinct
      obtain ⟨sameName, merges⟩ := ih namedOlder distinctOlder
      exact ⟨ProtoGroup.extended_name.trans sameName, merges.extended here⟩

/-- The groups of a name along layers are those that its entries begin with. -/
theorem groupsAlong_eq (name : Name) (layers : List Layer)
    : groupsAlong name layers = leadingGroups (layers.filterMap (·.find? name)) := by
  induction layers with
  | nil => rfl
  | cons layer older ih =>
      cases own : layer.find? name with
      | none => simpa [groupsAlong, own] using ih
      | some entry => cases entry <;> simp [groupsAlong, own, leadingGroups, ih]

/-- Along layers whose entries are named for their keys, a name is looked up as its entries have it:
induction on the layers.
-/
theorem standsFor_lookupAlong (keyed : ∀ layer ∈ layers, layer.NamedByKey)
    : StandsFor name (layers.filterMap (·.find? name)) (lookupAlong name layers) := by
  induction layers with
  | nil => exact .builtin
  | cons layer older ih =>
      obtain ⟨here, keyedOlder⟩ := List.forall_mem_cons.mp keyed
      unfold lookupAlong
      split
      · rename_i own
        simp only [List.filterMap_cons, own]
        exact ih keyedOlder
      · rename_i rule own
        simp only [List.filterMap_cons, own]
        exact .plain
      · rename_i nearest own
        have groups : ∀ group ∈ nearest :: groupsAlong name older,
            group.name = name ∧ Keyed name group.alternatives :=
          List.forall_mem_cons.mpr ⟨here.group own, fun group member => by
            obtain ⟨layer, inOlder, found⟩ := exists_of_mem_groupsAlong member
            exact (keyedOlder layer inOlder).group found⟩
        obtain ⟨named, merges⟩ := mergeGroups_merges (fun group member => (groups group member).1)
          fun group member => (groups group member).2.distinct
        simp only [List.filterMap_cons, own]
        exact .merged named (groupsAlong_eq name older ▸ merges)

/-- A group that takes in the older groups of its name stands over what the name stands for in the
older layers, by induction on the layers that have no entry.
-/
theorem over_lookupAlong (name : Name) (own : ProtoGroup) (older : List Layer)
    : some (.group (mergeGroups own (groupsAlong name older)))
      = Entry.over (some (.group own)) (lookupAlong name older) := by
  induction older with
  | nil =>
      cases found : builtin? name <;>
        simp only [lookupAlong, groupsAlong, mergeGroups, found, Entry.over, Option.map]
  | cons layer older ih =>
      cases found : layer.find? name with
      | none => simpa only [lookupAlong, groupsAlong, found] using ih
      | some entry =>
          cases entry <;> simp only [lookupAlong, groupsAlong, mergeGroups, found, Entry.over]

/-- The nearest layer decides by its own entry and by what the name stands for in the older ones. -/
theorem lookupAlong_cons (name : Name) (layer : Layer) (older : List Layer)
    : lookupAlong name (layer :: older)
      = Entry.over (layer.find? name) (lookupAlong name older) := by
  cases own : layer.find? name with
  | none => simp only [lookupAlong, own, Entry.over]
  | some entry =>
      cases entry with
      | rule rule => simp only [lookupAlong, own, Entry.over]
      | group group =>
          simp only [lookupAlong, own]
          exact over_lookupAlong name group older

end Layers

/-- Along a chain of grammars of any length, built in any way, a name stands for what its own
entries in these grammars have it stand for and for nothing else; grammar by grammar, its own entry
there stands over what the name stands for in the parent.
-/
theorem lookup_iff_standsFor {g : Grammar} (built : g.Built) (name : Name)
    : (∀ result, g.lookup name = result ↔ StandsFor name (g.ownEntries name) result)
      ∧ ∀ parent,
        g.parent? = some parent
        → g.lookup name = Entry.over (g.own.find? name) (parent.lookup name) := by
  have stands : StandsFor name (g.ownEntries name) (g.lookup name) :=
    standsFor_lookupAlong fun layer member => (built layer member).namedByKey
  refine ⟨fun result => ⟨fun found => found ▸ stands, stands.unique⟩, fun parent isParent => ?_⟩
  obtain ⟨own, ancestors⟩ := g
  cases ancestors with
  | nil => cases isParent
  | cons layer older =>
      cases isParent
      exact lookupAlong_cons name own (layer :: older)

def taggedLiteral (tag text : Name) : Rule :=
  { name := "v", expr := .literal text, tag := some tag }

/-- A grammar with alternatives, one that puts a plain rule in their place, one with alternatives
again, one that says nothing, and one that replaces an alternative and adds another.
-/
def interrupted : List Registry.Change :=
  [.new "root" none,
    .addAlternative 0 "v" "z" (taggedLiteral "z" "far"),
    .derive 0 "plain",
    .register 1 "v" { name := "v", expr := .literal "far" },
    .derive 1 "middle",
    .addAlternative 2 "v" "a" (taggedLiteral "a" "far"),
    .addAlternative 2 "v" "b" (taggedLiteral "b" "far"),
    .derive 2 "gap",
    .derive 3 "leaf",
    .addAlternative 4 "v" "c" (taggedLiteral "c" "near"),
    .addAlternative 4 "v" "b" (taggedLiteral "b" "near")]

/-- The ancestors of the last of these grammars. -/
def interruptedAncestors : List Layer :=
  [⟨"gap", []⟩,
    ⟨"middle", [("v", .group ⟨"v", [taggedLiteral "a" "far", taggedLiteral "b" "far"]⟩)]⟩,
    ⟨"plain", [("v", .rule { name := "v", expr := .literal "far" })]⟩,
    ⟨"root", [("v", .group ⟨"v", [taggedLiteral "z" "far"]⟩)]⟩]

def interruptedLeaf : Grammar where
  own := ⟨"leaf", [("v", .group ⟨"v", [taggedLiteral "c" "near", taggedLiteral "b" "near"]⟩)]⟩
  ancestors := interruptedAncestors

theorem lookup_iff_standsFor_interruptedLeaf
    : (Registry.after interrupted).grammar? 4 = some interruptedLeaf
      ∧ interruptedLeaf.Built
      ∧ interruptedLeaf.lookup "v"
        = some (.group ⟨"v",
          [taggedLiteral "a" "far", taggedLiteral "b" "near", taggedLiteral "c" "near"]⟩) := by
  have made : (Registry.after interrupted).grammar? 4 = some interruptedLeaf := rfl
  have built : interruptedLeaf.Built := (Registry.built_after interrupted).grammar made
  refine ⟨made, built, ((lookup_iff_standsFor built "v").1 _).mpr (.merged rfl ⟨?_, ?_, ?_⟩)⟩
  · decide
  · decide
  · exact List.forall_mem_cons.mpr ⟨rfl, List.forall_mem_cons.mpr ⟨rfl,
      List.forall_mem_cons.mpr ⟨rfl, by simp⟩⟩⟩

end Grammar

end RuleGrammar
