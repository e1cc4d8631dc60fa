import RuleGrammar.Grammar.Program
import RuleGrammar.Proofs.Grammar.Built
import RuleGrammar.Proofs.Grammar.Visible
import RuleGrammar.Proofs.Notation.Normal

/-! Layers that are read from notation. They come about by declaring groups and by registering
rules with normal bodies; what these steps keep holds of every layer that a source declares.
-/

namespace RuleGrammar

namespace Notation

open Reader

-----------------------------------------------------------------------------------------
-- Layers that are read
-----------------------------------------------------------------------------------------

/-- A property of layers that declarations keep. -/
structure Kept (property : Layer → Prop) : Prop where
  empty : ∀ name, property { name }
  declared : ∀ {layer} name, property layer → property (layer.declareProto name).2
  registered
    : ∀ {layer next : Layer} {name : Name} {rule made : Rule},
        rule.expr.Normal
        → property layer
        → layer.register name rule = .ok (made, next)
        → property next

namespace Kept

variable {property : Layer → Prop} {layer : Layer}

theorem protoDeclaration (kept : Kept property) (holds : property layer)
    : (protoDeclaration layer).Yields property := by
  unfold Notation.protoDeclaration
  refine .after fun _ => .after fun name => .after fun _ => .after fun _ => ?_
  split
  · exact .after fun _ => .pure (kept.declared name holds)
  · exact .after fun _ => .after fun _ => .pure (kept.declared name holds)

theorem ruleDeclaration (kept : Kept property) (holds : property layer) (kind : RuleKind)
    : (ruleDeclaration layer kind).Yields property := by
  unfold Notation.ruleDeclaration
  refine .after fun name => .after fun tag => .after fun _ => ?_
  refine .bind body_yields fun expr normal => .after fun _ => ?_
  split
  · exact .fail _
  · split
    · rename_i done
      exact .pure (kept.registered normal holds done)
    · exact .throw _

theorem declaration (kept : Kept property) (holds : property layer)
    : (declaration layer).Yields property := by
  unfold Notation.declaration
  refine .after fun word => ?_
  split
  · exact kept.protoDeclaration holds
  · split
    · exact kept.ruleDeclaration holds _
    · exact .fail _

/-- The declarations of a grammar keep the property, by induction on how many there may be. -/
theorem declarations (kept : Kept property) (rounds : Nat) (holds : property layer)
    : (declarations rounds layer).Yields property := by
  induction rounds generalizing layer with
  | zero => exact .fail _
  | succ rounds ih =>
      unfold Notation.declarations
      refine .after fun closed => ?_
      split
      · exact .pure holds
      · refine .after fun ahead => ?_
        split
        · exact .fail _
        · exact .bind (kept.declaration holds) fun _ => ih

theorem grammarDeclaration (kept : Kept property) (known declared : List Name)
    : (grammarDeclaration known declared).Yields fun d => property d.layer := by
  have rest (name : Name) (parent : Option Name) (rounds : Nat)
      : Yields (fun d : Declaration => property d.layer) (do
          let layer ← Notation.declarations rounds { name }
          let _ ← tryEat ";"
          if declared.contains name then fail (.duplicateGrammar name)
          else return { parent, layer }) := by
    refine .bind (kept.declarations rounds (kept.empty name)) fun layer holds => .after fun _ => ?_
    split
    · exact .fail _
    · exact .pure holds
  unfold Notation.grammarDeclaration
  refine .after fun isGrammar => ?_
  split
  · exact .after fun name => .after fun parent => .after fun _ => .after fun rounds =>
      rest name parent rounds
  · refine .after fun _ => ?_
    exact .after fun name => .after fun parent => .after fun _ => .after fun rounds =>
      rest name parent rounds

/-- Every declared grammar has the property, by induction on how many there may be. -/
theorem grammarDeclarations (kept : Kept property) (known : List Name) (rounds : Nat)
    {read : List Declaration} (holds : ∀ d ∈ read, property d.layer)
    : (grammarDeclarations known rounds read).Yields fun declared =>
        ∀ d ∈ declared, property d.layer := by
  induction rounds generalizing read with
  | zero => exact .pure holds
  | succ rounds ih =>
      unfold Notation.grammarDeclarations
      refine .after fun _ => .after fun ahead => ?_
      split
      · exact .pure holds
      · refine .bind (kept.grammarDeclaration known _) fun next holdsNext => ih ?_
        exact List.forall_mem_append.mpr ⟨holds, by simpa using holdsNext⟩

/-- Whatever a source declares has the property. -/
theorem read (kept : Kept property) {known : List Name} {source : Text}
    {declared : List Declaration} (done : read known source = .ok declared)
    : ∀ d ∈ declared, property d.layer := by
  have yields : (document known).Yields fun declared => ∀ d ∈ declared, property d.layer := by
    unfold document
    refine .after fun rounds => .bind (kept.grammarDeclarations known rounds (by simp)) ?_
    intro declared holds
    split
    · exact .fail _
    · exact .pure holds
  unfold Notation.read at done
  cases ran : document known ⟨0, source⟩ with
  | error fault =>
      rw [ran] at done
      cases done
  | ok result =>
      rw [ran] at done
      cases done
      exact yields _ _ _ ran

end Kept

end Notation

-----------------------------------------------------------------------------------------
-- Grammars that are read
-----------------------------------------------------------------------------------------

namespace Grammars

variable {property : Layer → Prop} {known declared : Grammars}

theorem lineage_of_find? (holds : ∀ row ∈ known, ∀ layer ∈ row.2.lineage, property layer)
    {name : Name} {grammar : Grammar} (found : known.find? name = some grammar)
    : ∀ layer ∈ grammar.lineage, property layer := by
  obtain ⟨row, isRow, rfl⟩ := Option.map_eq_some_iff.mp found
  exact holds row (List.mem_of_find?_eq_some isRow)

/-- A declared grammar has its own layer and those of its parent. -/
theorem lineage_of_link (knownHolds : ∀ row ∈ known, ∀ layer ∈ row.2.lineage, property layer)
    (declaredHolds : ∀ row ∈ declared, ∀ layer ∈ row.2.lineage, property layer)
    {d : Notation.Declaration} (own : property d.layer)
    : ∀ layer ∈ (link known declared d).lineage, property layer := by
  unfold link
  split
  · rename_i parent found
    obtain ⟨name, -, sought⟩ := Option.bind_eq_some_iff.mp found
    refine List.forall_mem_cons.mpr ⟨own, ?_⟩
    rcases Option.or_eq_some_iff.mp sought with here | ⟨-, there⟩
    · exact lineage_of_find? declaredHolds here
    · exact lineage_of_find? knownHolds there
  · simpa [Grammar.lineage] using own

/-- Declared grammars that are linked in their order have only such layers, by induction on
them.
-/
theorem lineage_of_linkAll (holds : ∀ row ∈ known, ∀ layer ∈ row.2.lineage, property layer)
    {declarations : List Notation.Declaration} (own : ∀ d ∈ declarations, property d.layer)
    : ∀ row ∈ linkAll known declarations, ∀ layer ∈ row.2.lineage, property layer := by
  have links (declarations : List Notation.Declaration)
      (own : ∀ d ∈ declarations, property d.layer) (before : Grammars)
      (past : ∀ row ∈ before, ∀ layer ∈ row.2.lineage, property layer)
      : ∀ row ∈ declarations.foldl
          (fun declared d => declared ++ [(d.name, link known declared d)]) before,
          ∀ layer ∈ row.2.lineage, property layer := by
    induction declarations generalizing before with
    | nil => exact past
    | cons d rest ih =>
        have here := lineage_of_link holds past (own d (by simp))
        refine ih (fun other member => own other (by simp [member])) _ ?_
        exact List.forall_mem_append.mpr ⟨past, by simpa using here⟩
  exact links declarations own [] (by simp)

theorem own_of_link (known declared : Grammars) (d : Notation.Declaration)
    : (link known declared d).own = d.layer := by
  unfold link
  split <;> rfl

/-- The own layers of declared grammars are those declared, by induction on the declarations. -/
theorem own_of_linkAll {declarations : List Notation.Declaration}
    (own : ∀ d ∈ declarations, property d.layer)
    : ∀ row ∈ linkAll known declarations, property row.2.own := by
  have links (declarations : List Notation.Declaration)
      (own : ∀ d ∈ declarations, property d.layer) (before : Grammars)
      (past : ∀ row ∈ before, property row.2.own)
      : ∀ row ∈ declarations.foldl
          (fun declared d => declared ++ [(d.name, link known declared d)]) before,
          property row.2.own := by
    induction declarations generalizing before with
    | nil => exact past
    | cons d rest ih =>
        refine ih (fun other member => own other (by simp [member])) _ ?_
        refine List.forall_mem_append.mpr ⟨past, ?_⟩
        simpa [own_of_link] using own d (by simp)
  exact links declarations own [] (by simp)

theorem declarations_of_read {grammars : Grammars} {source : Text}
    (done : read known source = .ok grammars)
    : ∃ declarations,
        Notation.read (known.map (·.1)) source = .ok declarations
          ∧ grammars = linkAll known declarations := by
  unfold read at done
  cases declarations : Notation.read (known.map (·.1)) source with
  | error error =>
      rw [declarations] at done
      cases done
  | ok declarations' =>
      rw [declarations] at done
      cases done
      exact ⟨declarations', rfl, rfl⟩

end Grammars

-----------------------------------------------------------------------------------------
-- Layers with normal bodies
-----------------------------------------------------------------------------------------

namespace Layer

variable {name : Name} {entry : Entry} {layer : Layer}

theorem mem_insertIn {row : Name × Entry} {entries : List (Name × Entry)}
    (member : row ∈ insertIn name entry entries)
    : row = (name, entry) ∨ row ∈ entries := by
  induction entries with
  | nil => simpa [insertIn] using member
  | cons first rest ih =>
      unfold insertIn at member
      split at member
      · exact (List.mem_cons.mp member).imp_right (List.mem_cons_of_mem _)
      · rcases List.mem_cons.mp member with here | later
        · exact Or.inr (by simp [here])
        · exact (ih later).imp_right (List.mem_cons_of_mem _)

theorem Normal.insert (normal : layer.Normal) (own : ∀ rule ∈ entry.rules, rule.expr.Normal)
    : (layer.insert name entry).Normal := by
  intro row member
  rcases mem_insertIn member with rfl | old
  · exact own
  · exact normal row old

theorem Normal.of_find? (normal : layer.Normal) (found : layer.find? name = some entry)
    : ∀ rule ∈ entry.rules, rule.expr.Normal :=
  normal (name, entry) (mem_of_lookupIn found)

theorem Normal.declareProto (normal : layer.Normal) (name : Name)
    : (layer.declareProto name).2.Normal := by
  unfold Layer.declareProto
  split
  · exact normal
  · exact normal.insert (by simp [Entry.rules])

theorem Normal.addAlternative {group tag : Name} {rule made : Rule} {next : Layer}
    (normal : layer.Normal) (body : rule.expr.Normal)
    (done : layer.addAlternative group tag rule = .ok (made, next))
    : next.Normal := by
  unfold Layer.addAlternative at done
  split at done
  · cases done
  · rename_i known found
    cases done
    refine normal.insert fun other member => ?_
    rcases ProtoGroup.mem_place member with rfl | old
    · exact body
    · exact normal.of_find? found other old
  · cases done
    refine normal.insert fun other member => ?_
    obtain rfl := List.mem_singleton.mp member
    exact body

/-- What declarations do to a layer keeps its bodies normal. -/
theorem Normal.kept : Notation.Kept Layer.Normal where
  empty name := by simp [Layer.Normal]
  declared name normal := normal.declareProto name
  registered {layer next name rule made} body normal done := by
    simp only [Layer.register] at done
    split at done
    · exact normal.addAlternative body done
    · cases done
      refine normal.insert fun other member => ?_
      obtain rfl := List.mem_singleton.mp member
      exact body

end Layer

namespace Grammars

variable {property : Layer → Prop} {known : Grammars}

/-- The layers of the grammars that a source declares are layers that it declares and layers of
grammars known before.
-/
theorem lineage_of_read {grammars : Grammars} {source : Text}
    (holds : ∀ row ∈ known, ∀ layer ∈ row.2.lineage, property layer)
    (own : ∀ declarations, Notation.read (known.map (·.1)) source = .ok declarations →
      ∀ d ∈ declarations, property d.layer)
    (done : read known source = .ok grammars)
    : ∀ row ∈ grammars, ∀ layer ∈ row.2.lineage, property layer := by
  obtain ⟨declarations, read, rfl⟩ := declarations_of_read done
  exact lineage_of_linkAll holds (own declarations read)

/-- Layers that a grammar gets from a source have normal bodies: its own, and those it inherits
unless they belong to a grammar known before.
-/
theorem normal_of_read {grammars : Grammars} {source : Text}
    (done : read known source = .ok grammars)
    : ∀ row ∈ grammars,
        row.2.own.Normal
          ∧ ∀ layer ∈ row.2.ancestors,
              layer.Normal ∨ ∃ other ∈ known, layer ∈ other.2.lineage := by
  have own : ∀ declarations, Notation.read (known.map (·.1)) source = .ok declarations →
      ∀ d ∈ declarations, d.layer.Normal := fun _ => Layer.Normal.kept.read
  have layers : ∀ row ∈ grammars, ∀ layer ∈ row.2.lineage,
      layer.Normal ∨ ∃ other ∈ known, layer ∈ other.2.lineage :=
    lineage_of_read (fun other isKnown layer member => Or.inr ⟨other, isKnown, member⟩)
      (fun declarations read d declared => Or.inl (own declarations read d declared)) done
  obtain ⟨declarations, read, rfl⟩ := declarations_of_read done
  exact fun row member => ⟨own_of_linkAll (own declarations read) row member,
    fun layer inherited => layers row member layer (List.mem_cons_of_mem _ inherited)⟩

end Grammars

end RuleGrammar
