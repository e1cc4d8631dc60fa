import Mathlib.Tactic.Common
import RuleGrammar.Grammar.Program
import RuleGrammar.Proofs.Notation.Yields

/-! The outline of a source: what its declarations say, read without entering them in a grammar.
A source is accepted exactly when it has an outline and every grammar can take its declarations in
turn.
-/

namespace RuleGrammar

namespace Notation

open Reader

-----------------------------------------------------------------------------------------
-- Declarations as they are read
-----------------------------------------------------------------------------------------

/-- What one declaration of a grammar says. -/
inductive Item
  | proto (name : Name)
  | rule (rule : Rule)

/-- A group declaration after its keyword. -/
def protoItem : Reader Item := do
  let _ ← ruleKind
  let name ← identifier
  eat "\x7b"
  unless ← tryEat "*" do
    eat "<...>"
  eat "\x7d"
  return .proto name

/-- A rule declaration after its keyword. -/
def ruleItem (kind : RuleKind) : Reader Item := do
  let name ← identifier
  let tag ← ruleTag
  eat "\x7b"
  let expr ← body
  eat "\x7d"
  return .rule { name, expr, kind, tag }

def item : Reader Item := do
  let word ← identifier
  if word = Text.ofString "proto" then protoItem
  else
    match RuleKind.ofKeyword? word with
    | some kind => ruleItem kind
    | none => fail (.expectedRule word)

/-- The declarations of a grammar of the given name up to its closing brace. -/
def items (grammar : Name) : Nat → Reader (List Item)
  | 0 => fail (.unclosedGrammar grammar)
  | round + 1 => do
      if ← tryEat "\x7d" then return []
      else if (← peek).isNone then fail (.unclosedGrammar grammar)
      else
        let first ← item
        let later ← items grammar round
        return first :: later

/-- A grammar as it is declared. -/
structure Outline where
  name : Name
  parent : Option Name
  items : List Item

/-- One grammar. The names known are those it may inherit from, those declared are taken. -/
def grammarOutline (known declared : List Name) : Reader Outline := do
  unless ← keyword "grammar" do
    fail .expectedGrammar
  let name ← qualifiedName
  let parent ← parentName (known ++ declared)
  eat "\x7b"
  let items ← items name (← rounds)
  let _ ← tryEat ";"
  if declared.contains name then fail (.duplicateGrammar name)
  else return { name, parent, items }

/-- The grammars up to the end of the source, after those already read. -/
def grammarOutlines (known : List Name) : Nat → List Outline → Reader (List Outline)
  | 0, read => return read
  | round + 1, read => do
      skipBlank
      if (← peek).isNone then return read
      else
        let next ← grammarOutline known (read.map Outline.name)
        grammarOutlines known round (read ++ [next])

def documentOutline (known : List Name) : Reader (List Outline) := do
  let read ← grammarOutlines known (← rounds) []
  if read.isEmpty then fail .noGrammar
  else return read

/-- The outlines of the grammars that a source declares. -/
def outline (known : List Name) (source : Text) : Except Error (List Outline) :=
  match documentOutline known ⟨0, source⟩ with
  | .ok (outlines, _) => .ok outlines
  | .error fault => .error (.ofFault source fault)

-----------------------------------------------------------------------------------------
-- Entering declarations
-----------------------------------------------------------------------------------------

/-- A layer with a declaration entered, unless the layer cannot take it. -/
def Item.enter (layer : Layer) : Item → Option Layer
  | .proto name => some (layer.declareProto name).2
  | .rule made =>
      match made.tag, layer.find? made.name with
      | none, some (.rule _) => none
      | _, _ =>
          match layer.register made.name made with
          | .ok (_, next) => some next
          | .error _ => none

/-- A layer with declarations entered in turn, if it can take them. -/
def enterAll (layer : Layer) (read : List Item) : Option Layer :=
  read.foldlM Item.enter layer

/-- What an outline declares, if the grammar can take its declarations. -/
def Outline.declared? (outline : Outline) : Option Declaration :=
  (enterAll { name := outline.name } outline.items).map fun layer =>
    { parent := outline.parent, layer }

theorem Item.name_of_enter {read : Item} {layer next : Layer}
    (entered : read.enter layer = some next)
    : next.name = layer.name := by
  cases read with
  | proto name =>
      cases entered
      unfold Layer.declareProto
      split <;> rfl
  | rule made =>
      simp only [enter] at entered
      split at entered
      · cases entered
      · split at entered
        · rename_i alternative grown registered
          cases entered
          simp only [Layer.register, Layer.addAlternative] at registered
          repeat' split at registered
          all_goals cases registered
          all_goals rfl
        · cases entered

/-- Entering declarations keeps the name of a layer, by induction on them. -/
theorem name_of_enterAll {read : List Item} {layer next : Layer}
    (entered : enterAll layer read = some next)
    : next.name = layer.name := by
  induction read generalizing layer with
  | nil =>
      cases entered
      rfl
  | cons first later ih =>
      obtain ⟨middle, here, rest⟩ := Option.bind_eq_some_iff.mp entered
      exact (ih rest).trans (Item.name_of_enter here)

theorem Outline.name_of_declared? {outline : Outline} {d : Declaration}
    (declared : outline.declared? = some d)
    : d.name = outline.name := by
  obtain ⟨layer, entered, rfl⟩ := Option.map_eq_some_iff.mp declared
  exact name_of_enterAll entered

-----------------------------------------------------------------------------------------
-- Readers with an outline
-----------------------------------------------------------------------------------------

/-- A reader results in what is made of what another one reads of the same text, and stops with a
fault where nothing can be made of it.
-/
def Reader.Outlined {α β : Type} (make : α → Option β) (sketch : Reader α) (reader : Reader β)
    : Prop :=
  ∀ start b stop,
    reader start = .ok (b, stop) ↔ ∃ a, sketch start = .ok (a, stop) ∧ make a = some b

theorem Reader.bind_eq_ok {α β : Type} {first : Reader α} {next : α → Reader β}
    {start stop : Cursor} {b : β}
    : (first >>= next) start = .ok (b, stop)
      ↔ ∃ a middle, first start = .ok (a, middle) ∧ next a middle = .ok (b, stop) := by
  change (do
    let (a, middle) ← first start
    next a middle) = .ok (b, stop) ↔ _
  cases read : first start with
  | error fault => simp [bind, Except.bind]
  | ok result =>
      obtain ⟨a, middle⟩ := result
      simp [bind, Except.bind]

namespace Reader.Outlined

variable {α β γ δ ε : Type} {make : α → Option β} {makeLater : γ → Option δ}

theorem pure {a : α} {b : β} (made : make a = some b)
    : Outlined make (Pure.pure a) (Pure.pure b) := by
  intro start other stop
  constructor
  · intro ran
    cases ran
    exact ⟨a, rfl, made⟩
  · rintro ⟨_, ran, same⟩
    cases ran
    cases made.symm.trans same
    rfl

theorem fail (cause : Cause) : Outlined make (Reader.fail cause) (Reader.fail cause) := by
  intro start b stop
  constructor
  · intro ran
    cases ran
  · rintro ⟨a, ran, -⟩
    cases ran

/-- What nothing can be made of is refused. -/
theorem refused {a : α} {reader : Reader β} (stops : ∀ start, ∃ fault, reader start = .error fault)
    (nothing : make a = none)
    : Outlined make (Pure.pure a) reader := by
  intro start b stop
  obtain ⟨fault, ran⟩ := stops start
  rw [ran]
  constructor
  · intro done
    cases done
  · rintro ⟨_, read, made⟩
    cases read
    cases nothing.symm.trans made

/-- Where both read the same first, only the rest matters. -/
theorem after {first : Reader ε} {sketch : ε → Reader α} {reader : ε → Reader β}
    (later : ∀ e, Outlined make (sketch e) (reader e))
    : Outlined make (first >>= sketch) (first >>= reader) := by
  intro start b stop
  simp only [bind_eq_ok]
  constructor
  · rintro ⟨e, middle, read, rest⟩
    obtain ⟨a, sketched, made⟩ := (later e middle b stop).mp rest
    exact ⟨a, ⟨e, middle, read, sketched⟩, made⟩
  · rintro ⟨a, ⟨e, middle, read, sketched⟩, made⟩
    exact ⟨e, middle, read, (later e middle b stop).mpr ⟨a, sketched, made⟩⟩

/-- What was read before may be put to what is read. -/
theorem mapped {sketch : Reader α} {reader : Reader δ} {f : α → γ}
    (outlined : Outlined (fun a => makeLater (f a)) sketch reader)
    : Outlined makeLater (do return f (← sketch)) reader := by
  intro start d stop
  rw [outlined start d stop]
  constructor
  · rintro ⟨a, sketched, made⟩
    exact ⟨f a, bind_eq_ok.mpr ⟨a, stop, sketched, rfl⟩, made⟩
  · rintro ⟨_, ran, made⟩
    obtain ⟨a, middle, sketched, done⟩ := bind_eq_ok.mp ran
    cases done
    exact ⟨a, sketched, made⟩

/-- One reader after another has an outline if each has one. Where nothing can be made of what is
read first, nothing may be made of what is read after it.
-/
theorem bind {sketch : Reader α} {reader : Reader β} {further : α → Reader γ}
    {next : β → Reader δ} (first : Outlined make sketch reader)
    (later : ∀ a b, make a = some b → Outlined makeLater (further a) (next b))
    (needed : ∀ a, make a = none → (further a).Yields fun c => makeLater c = none)
    : Outlined makeLater (sketch >>= further) (reader >>= next) := by
  intro start d stop
  simp only [bind_eq_ok]
  constructor
  · rintro ⟨b, middle, read, rest⟩
    obtain ⟨a, sketched, made⟩ := (first start b middle).mp read
    obtain ⟨c, more, madeLater⟩ := (later a b made middle d stop).mp rest
    exact ⟨c, ⟨a, middle, sketched, more⟩, madeLater⟩
  · rintro ⟨c, ⟨a, middle, sketched, more⟩, madeLater⟩
    cases made : make a with
    | none => cases (needed a made middle c stop more).symm.trans madeLater
    | some b =>
        exact ⟨b, middle, (first start b middle).mpr ⟨a, sketched, made⟩,
          (later a b made middle d stop).mpr ⟨c, more, madeLater⟩⟩

end Reader.Outlined

-----------------------------------------------------------------------------------------
-- Declarations and grammars have an outline
-----------------------------------------------------------------------------------------

theorem protoDeclaration_outlined (layer : Layer)
    : Outlined (Item.enter layer) protoItem (protoDeclaration layer) := by
  have ends (name : Name)
      : Outlined (Item.enter layer)
          (do eat "\x7d"; return .proto name)
          (do eat "\x7d"; return (layer.declareProto name).2) :=
    .after fun _ => .pure rfl
  unfold protoItem protoDeclaration
  refine .after fun _ => .after fun name => .after fun _ => .after fun star => ?_
  split
  · exact ends name
  · exact .after fun _ => ends name

theorem ruleDeclaration_outlined (layer : Layer) (kind : RuleKind)
    : Outlined (Item.enter layer) (ruleItem kind) (ruleDeclaration layer kind) := by
  unfold ruleItem ruleDeclaration
  refine .after fun name => .after fun tag => .after fun _ => .after fun expr => .after fun _ => ?_
  generalize made : ({ name, expr, kind, tag } : Rule) = rule
  obtain ⟨rfl, rfl⟩ : rule.name = name ∧ rule.tag = tag := by simp [← made]
  split
  · rename_i old plain found
    exact .refused (fun start => ⟨_, rfl⟩) (by simp [Item.enter, plain, found])
  · split
    · rename_i alternative next registered
      exact .pure (by simp [Item.enter, registered])
    · rename_i error registered
      exact .refused (fun start => ⟨_, rfl⟩) (by simp [Item.enter, registered])

theorem declaration_outlined (layer : Layer)
    : Outlined (Item.enter layer) item (declaration layer) := by
  unfold item declaration
  refine .after fun word => ?_
  split
  · exact protoDeclaration_outlined layer
  · cases RuleKind.ofKeyword? word with
    | some kind => exact ruleDeclaration_outlined layer kind
    | none => exact .fail _

/-- The declarations of a grammar, by induction on how many there may be. -/
theorem declarations_outlined (rounds : Nat) (layer : Layer)
    : Outlined (enterAll layer) (items layer.name rounds) (declarations rounds layer) := by
  induction rounds generalizing layer with
  | zero => exact .fail _
  | succ rounds ih =>
      unfold items declarations
      refine .after fun closed => ?_
      split
      · exact .pure rfl
      · refine .after fun ahead => ?_
        split
        · exact .fail _
        · refine .bind (declaration_outlined layer) ?_ ?_
          · intro first next entered
            have more : (fun later => enterAll layer (first :: later)) = enterAll next := by
              funext later
              simp [enterAll, entered]
            rw [← Item.name_of_enter entered]
            exact .mapped (more ▸ ih next)
          · intro first refused
            exact .after fun later => .pure (by simp [enterAll, refused])

theorem grammarDeclaration_outlined (known declared : List Name)
    : Outlined Outline.declared? (grammarOutline known declared)
        (grammarDeclaration known declared) := by
  have rest (name : Name) (parent : Option Name) (rounds : Nat)
      : Outlined Outline.declared?
          (do
            let items ← items name rounds
            let _ ← tryEat ";"
            if declared.contains name then fail (.duplicateGrammar name)
            else return { name, parent, items })
          (do
            let layer ← declarations rounds { name }
            let _ ← tryEat ";"
            if declared.contains name then fail (.duplicateGrammar name)
            else return { parent, layer }) := by
    refine .bind (declarations_outlined rounds { name }) ?_ ?_
    · intro items layer entered
      refine .after fun _ => ?_
      split
      · exact .fail _
      · exact .pure (by simp [Outline.declared?, entered])
    · intro items refused
      refine .after fun _ => ?_
      split
      · exact .fail _
      · exact .pure (by simp [Outline.declared?, refused])
  unfold grammarOutline grammarDeclaration
  refine .after fun isGrammar => ?_
  split
  · exact .after fun name => .after fun parent => .after fun _ => .after fun rounds =>
      rest name parent rounds
  · refine .after fun _ => ?_
    exact .after fun name => .after fun parent => .after fun _ => .after fun rounds =>
      rest name parent rounds

theorem map_name_of_declared? {outlines : List Outline} {read : List Declaration}
    (declared : outlines.mapM Outline.declared? = some read)
    : read.map Declaration.name = outlines.map Outline.name := by
  induction outlines generalizing read with
  | nil =>
      cases declared
      rfl
  | cons first later ih =>
      simp only [List.mapM_cons, Option.pure_def, Option.bind_eq_bind, Option.bind_eq_some_iff]
        at declared
      obtain ⟨d, here, rest, others, same⟩ := declared
      cases same
      simp [Outline.name_of_declared? here, ih others]

/-- Outlines that are read follow those read before, by induction on how many there may be. -/
theorem grammarOutlines_yields (known : List Name) (rounds : Nat) (before : List Outline)
    : (grammarOutlines known rounds before).Yields (before <+: ·) := by
  induction rounds generalizing before with
  | zero => exact .pure (List.prefix_refl _)
  | succ rounds ih =>
      unfold grammarOutlines
      refine .after fun _ => .after fun ahead => ?_
      split
      · exact .pure (List.prefix_refl _)
      · refine .after fun next => ?_
        intro cursor all stop ran
        exact (List.prefix_append before [next]).trans (ih _ cursor all stop ran)

/-- The grammars of a source, by induction on how many there may be. -/
theorem grammarDeclarations_outlined (known : List Name) (rounds : Nat) {before : List Outline}
    {read : List Declaration} (declared : before.mapM Outline.declared? = some read)
    : Outlined (List.mapM Outline.declared?) (grammarOutlines known rounds before)
        (grammarDeclarations known rounds read) := by
  induction rounds generalizing before read with
  | zero => exact .pure declared
  | succ rounds ih =>
      unfold grammarOutlines grammarDeclarations
      refine .after fun _ => .after fun ahead => ?_
      split
      · exact .pure declared
      · rw [map_name_of_declared? declared]
        refine .bind (grammarDeclaration_outlined known _) ?_ ?_
        · intro next d here
          exact ih (by simp [List.mapM_append, declared, here])
        · intro next refused cursor all stop ran
          obtain ⟨later, rfl⟩ := grammarOutlines_yields known rounds _ cursor all stop ran
          simp [List.mapM_append, declared, refused]

theorem document_outlined (known : List Name)
    : Outlined (List.mapM Outline.declared?) (documentOutline known) (document known) := by
  unfold documentOutline document
  refine .after fun rounds => ?_
  refine .bind (grammarDeclarations_outlined known rounds rfl) ?_ ?_
  · intro outlines read declared
    have empty : outlines.isEmpty = read.isEmpty := by
      have names := map_name_of_declared? declared
      simpa using congrArg List.isEmpty names.symm
    rw [empty]
    split
    · exact .fail _
    · exact .pure declared
  · intro outlines refused
    split
    · exact .fail _
    · exact .pure refused

/-- A source declares grammars exactly when it has outlines and what they declare can be entered.
-/
theorem read_eq_ok_iff {known : List Name} {source : Text} {declared : List Declaration}
    : read known source = .ok declared
      ↔ ∃ outlines,
          outline known source = .ok outlines
            ∧ outlines.mapM Outline.declared? = some declared := by
  unfold read outline
  constructor
  · intro done
    cases ran : document known ⟨0, source⟩ with
    | error fault =>
        rw [ran] at done
        cases done
    | ok result =>
        rw [ran] at done
        cases done
        obtain ⟨outlines, sketched, made⟩ := (document_outlined known _ _ _).mp ran
        exact ⟨outlines, by rw [sketched], made⟩
  · rintro ⟨outlines, sketched, made⟩
    cases ran : documentOutline known ⟨0, source⟩ with
    | error fault =>
        rw [ran] at sketched
        cases sketched
    | ok result =>
        rw [ran] at sketched
        cases sketched
        rw [(document_outlined known _ _ _).mpr ⟨_, ran, made⟩]

end Notation

end RuleGrammar
