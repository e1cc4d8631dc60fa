import Mathlib.Data.List.Induction
import RuleGrammar.Proofs.Notation.Declarations
import RuleGrammar.Proofs.Notation.Outline

/-! Declarations that get into each other's way. A group declaration takes the place of a plain
rule, a plain rule that of a group, and an alternative that of an older one with its tag; any other
declaration stays in its layer. Only a rule after a plain rule of its name is refused.
-/

namespace RuleGrammar

/-- Whether an entry is a group. -/
def Entry.isGroup : Entry → Bool
  | .rule _ => false
  | .group _ => true

namespace ProtoGroup

/-- The alternative of a tag. -/
def find? (group : ProtoGroup) (tag : Option Name) : Option Rule :=
  group.alternatives.find? (·.tag = tag)

theorem find?_withAlternative (group : ProtoGroup) (alternative : Rule) (tag : Option Name)
    : (group.withAlternative alternative).find? tag
      = if alternative.tag = tag then some alternative else group.find? tag := by
  obtain ⟨name, alternatives⟩ := group
  simp only [find?, withAlternative]
  induction alternatives with
  | nil => by_cases same : alternative.tag = tag <;> simp [place, same]
  | cons first rest ih =>
      by_cases here : first.tag = alternative.tag
      · by_cases same : alternative.tag = tag <;> simp [place, here, same]
      · by_cases found : first.tag = tag
        · have other : alternative.tag ≠ tag := fun same => here (found.trans same.symm)
          rw [if_neg other, place, if_neg here]
          simp [found]
        · simp only [place, here, if_false, List.find?_cons, found, decide_false]
          exact ih

end ProtoGroup

namespace Notation

-----------------------------------------------------------------------------------------
-- Declarations in each other's place
-----------------------------------------------------------------------------------------

def Item.name : Item → Name
  | .proto name => name
  | .rule made => made.name

/-- Whether a rule of a name and a tag is declared. -/
def Item.isRuleOf (name : Name) (tag : Option Name) : Item → Bool
  | .proto _ => false
  | .rule made => made.name = name && made.tag = tag

theorem Item.exists_rule_of_any {read : List Item} {name : Name} {tag : Option Name}
    (declared : read.any (isRuleOf name tag) = true)
    : ∃ made, .rule made ∈ read ∧ made.name = name ∧ made.tag = tag := by
  obtain ⟨one, member, isRule⟩ := List.any_eq_true.mp declared
  cases one with
  | proto other => cases isRule
  | rule made => exact ⟨made, member, by simpa [isRuleOf] using isRule⟩

/-- A declaration takes the place of an earlier one. -/
inductive Item.Overrides : Item → Item → Prop
  | proto {name : Name} {plain : Rule} (isPlain : plain.tag = none) (named : plain.name = name)
    : Overrides (.proto name) (.rule plain)
  | plain {made : Rule} {name : Name} (isPlain : made.tag = none) (named : made.name = name)
    : Overrides (.rule made) (.proto name)
  | rule {made alternative : Rule} (tagged : alternative.tag ≠ none)
    (named : made.name = alternative.name) (replaces : made.tag = none ∨ made.tag = alternative.tag)
    : Overrides (.rule made) (.rule alternative)

/-- A declaration in whose place none of the later ones is. -/
def Remains (read : List Item) (one : Item) : Prop :=
  ∃ before after, read = before ++ one :: after ∧ ∀ later ∈ after, ¬ later.Overrides one

/-- A rule comes after a plain rule of its name, with no group declared in between. -/
def Clashing (read : List Item) : Prop :=
  ∃ before plain made after,
    read = before ++ .rule made :: after
      ∧ Remains before (.rule plain)
      ∧ plain.tag = none
      ∧ plain.name = made.name

/-- A list of declarations is split at the last one or before it. -/
theorem concat_eq_split_iff {read before after : List Item} {last one : Item}
    : read ++ [last] = before ++ one :: after
      ↔ read = before ∧ last = one ∧ after = []
        ∨ ∃ middle, after = middle ++ [last] ∧ read = before ++ one :: middle := by
  constructor
  · intro same
    rcases List.eq_nil_or_concat' after with rfl | ⟨middle, final, rfl⟩
    · obtain ⟨first, second⟩ := List.append_inj' same rfl
      exact Or.inl ⟨first, by simpa using second, rfl⟩
    · rw [← List.cons_append, ← List.append_assoc] at same
      obtain ⟨first, second⟩ := List.append_inj' same rfl
      exact Or.inr ⟨middle, by rw [List.singleton_inj.mp second], first⟩
  · rintro (⟨rfl, rfl, rfl⟩ | ⟨middle, rfl, rfl⟩) <;> simp

theorem remains_concat {read : List Item} {last one : Item}
    : Remains (read ++ [last]) one ↔ one = last ∨ Remains read one ∧ ¬ last.Overrides one := by
  simp only [Remains, concat_eq_split_iff]
  constructor
  · rintro ⟨before, after, ⟨rfl, rfl, rfl⟩ | ⟨middle, rfl, rfl⟩, aside⟩
    · exact Or.inl rfl
    · obtain ⟨earlier, final⟩ := List.forall_mem_append.mp aside
      exact Or.inr ⟨⟨before, middle, rfl, earlier⟩, by simpa using final⟩
  · rintro (rfl | ⟨⟨before, after, rfl, aside⟩, final⟩)
    · exact ⟨read, [], Or.inl ⟨rfl, rfl, rfl⟩, by simp⟩
    · refine ⟨before, after ++ [last], Or.inr ⟨after, rfl, rfl⟩, ?_⟩
      exact List.forall_mem_append.mpr ⟨aside, by simpa using final⟩

theorem clashing_concat {read : List Item} {last : Item}
    : Clashing (read ++ [last])
      ↔ Clashing read
        ∨ ∃ plain made,
            last = .rule made
              ∧ Remains read (.rule plain)
              ∧ plain.tag = none
              ∧ plain.name = made.name := by
  simp only [Clashing, concat_eq_split_iff]
  constructor
  · rintro ⟨before, plain, made, after, ⟨rfl, rfl, rfl⟩ | ⟨middle, rfl, rfl⟩, clash⟩
    · exact Or.inr ⟨plain, made, rfl, clash⟩
    · exact Or.inl ⟨before, plain, made, middle, rfl, clash⟩
  · rintro (⟨before, plain, made, after, rfl, clash⟩ | ⟨plain, made, rfl, clash⟩)
    · exact ⟨before, plain, made, after ++ [last], Or.inr ⟨after, rfl, rfl⟩, clash⟩
    · exact ⟨read, plain, made, [], Or.inl ⟨rfl, rfl, rfl⟩, clash⟩

-----------------------------------------------------------------------------------------
-- One declaration
-----------------------------------------------------------------------------------------

/-- What entering a declaration does to a layer. -/
inductive Item.Enters (own : Layer) : Item → Layer → Prop
  | known {name : Name} {group : ProtoGroup} (found : own.find? name = some (.group group))
    : Enters own (.proto name) own
  | proto {name : Name} (free : ∀ group, own.find? name ≠ some (.group group))
    : Enters own (.proto name) (own.insert name (.group { name }))
  | plain {made : Rule} (isPlain : made.tag = none)
    (free : ∀ plain, own.find? made.name ≠ some (.rule plain))
    : Enters own (.rule made) (own.insert made.name (.rule made))
  | alternative {made : Rule} {group : ProtoGroup} (tagged : made.tag ≠ none)
    (found
      : own.find? made.name = some (.group group)
        ∨ own.find? made.name = none ∧ group = { name := made.name })
    : Enters own (.rule made)
        (own.insert made.name (.group (group.withAlternative made)))

variable {own next : Layer} {one : Item}

/-- Entering a rule depends on what its name stands for. -/
theorem Item.enter_rule (own : Layer) (made : Rule)
    : enter own (.rule made)
      = match own.find? made.name, made.tag with
        | some (.rule _), _ => none
        | _, none => some (own.insert made.name (.rule made))
        | some (.group group), some _ =>
            some (own.insert made.name (.group (group.withAlternative made)))
        | none, some _ =>
            let group : ProtoGroup := { name := made.name }
            some (own.insert made.name (.group (group.withAlternative made))) := by
  obtain ⟨name, expr, kind, tag⟩ := made
  cases tag with
  | none =>
      cases found : own.find? name with
      | none => simp [enter, found, Layer.register]
      | some entry => cases entry <;> simp [enter, found, Layer.register]
  | some tag =>
      cases found : own.find? name with
      | none => simp [enter, found, Layer.register, Layer.addAlternative]
      | some entry => cases entry <;> simp [enter, found, Layer.register, Layer.addAlternative]

theorem Item.enters_of_enter (entered : one.enter own = some next) : one.Enters own next := by
  cases one with
  | proto name =>
      cases entered
      unfold Layer.declareProto
      split
      · rename_i known found
        exact .known found
      · rename_i other
        exact .proto other
  | rule made =>
      rw [enter_rule] at entered
      split at entered
      · cases entered
      · rename_i isPlain free
        cases entered
        exact .plain isPlain free
      · rename_i group tag found tagged
        cases entered
        exact .alternative (by simp [tagged]) (Or.inl found)
      · rename_i tag found tagged
        cases entered
        exact .alternative (by simp [tagged]) (Or.inr ⟨found, rfl⟩)

/-- Only a rule is refused, and only where its name has a plain rule. -/
theorem Item.enter_eq_none_iff
    : one.enter own = none
      ↔ ∃ made plain, one = .rule made ∧ own.find? made.name = some (.rule plain) := by
  cases one with
  | proto name => simp [enter]
  | rule made =>
      rw [enter_rule]
      split <;> simp_all

/-- A declaration is what a layer has under its name. -/
inductive Item.StandsIn (own : Layer) : Item → Prop
  | plain {made : Rule} (isPlain : made.tag = none)
    (found : own.find? made.name = some (.rule made))
    : StandsIn own (.rule made)
  | alternative {made : Rule} {group : ProtoGroup} (tagged : made.tag ≠ none)
    (found : own.find? made.name = some (.group group))
    (member : group.find? made.tag = some made)
    : StandsIn own (.rule made)
  | proto {name : Name} {group : ProtoGroup} (found : own.find? name = some (.group group))
    : StandsIn own (.proto name)

theorem find?_insert (own : Layer) (name key : Name) (entry : Entry)
    : (own.insert key entry).find? name = if key = name then some entry else own.find? name :=
  Layer.lookupIn_insertIn name key entry own.entries

theorem Item.Enters.standsIn (enters : one.Enters own next) : one.StandsIn next := by
  cases enters with
  | known found => exact .proto found
  | proto free => exact .proto (by rw [find?_insert, if_pos rfl])
  | plain isPlain free => exact .plain isPlain (by rw [find?_insert, if_pos rfl])
  | @alternative made group tagged found =>
      refine .alternative tagged (by rw [find?_insert, if_pos rfl]) ?_
      rw [ProtoGroup.find?_withAlternative, if_pos rfl]

theorem Item.StandsIn.insert (stands : one.StandsIn own) {key : Name} (other : key ≠ one.name)
    (entry : Entry)
    : one.StandsIn (own.insert key entry) := by
  have same : (own.insert key entry).find? one.name = own.find? one.name := by
    rw [find?_insert, if_neg other]
  cases stands with
  | plain isPlain found => exact .plain isPlain (same.trans found)
  | alternative tagged found member => exact .alternative tagged (same.trans found) member
  | proto found => exact .proto (same.trans found)

/-- A declaration stays as long as no other takes its place. -/
theorem Item.StandsIn.enter (stands : one.StandsIn own) {later : Item}
    (enters : later.Enters own next) (aside : ¬ later.Overrides one)
    : one.StandsIn next := by
  by_cases other : later.name ≠ one.name
  · cases enters with
    | known _ => exact stands
    | proto _ | plain _ _ | alternative _ _ => exact stands.insert other _
  · have same : later.name = one.name := not_not.mp other
    have sought : own.find? later.name = own.find? one.name := by rw [same]
    cases enters with
    | known _ => exact stands
    | proto free =>
        cases stands with
        | plain isPlain _ => exact (aside (.proto isPlain same.symm)).elim
        | alternative _ found _ => exact (free _ (sought.trans found)).elim
        | proto found => exact (free _ (sought.trans found)).elim
    | plain isPlain free =>
        cases stands with
        | plain _ found => exact (free _ (sought.trans found)).elim
        | alternative tagged _ _ => exact (aside (.rule tagged same (Or.inl isPlain))).elim
        | proto _ => exact (aside (.plain isPlain same)).elim
    | @alternative made group tagged before =>
        change made.name = one.name at same
        have grown : (own.insert made.name (.group (group.withAlternative made))).find? one.name
            = some (.group (group.withAlternative made)) := by
          rw [find?_insert, if_pos same]
        rw [same] at before
        cases stands with
        | plain _ found => simp [Item.name, found] at before
        | @alternative old known taggedOld found member =>
            obtain rfl : known = group := by simpa [Item.name, found] using before
            have apart : made.tag ≠ old.tag :=
              fun sameTag => aside (.rule taggedOld same (Or.inr sameTag))
            refine .alternative taggedOld grown ?_
            rwa [ProtoGroup.find?_withAlternative, if_neg apart]
        | proto _ => exact .proto grown

-----------------------------------------------------------------------------------------
-- All declarations of a grammar
-----------------------------------------------------------------------------------------

theorem enterAll_concat (layer : Layer) (read : List Item) (last : Item)
    : enterAll layer (read ++ [last]) = (enterAll layer read).bind last.enter := by
  simp [enterAll, List.foldlM_append]

/-- Every declaration that remains stands in the layer, by induction on the declarations from the
last one.
-/
theorem standsIn_of_enterAll {grammar : Name} {read : List Item}
    (entered : enterAll { name := grammar } read = some own)
    (remains : Remains read one)
    : one.StandsIn own := by
  induction read using List.reverseRec generalizing own with
  | nil =>
      obtain ⟨before, after, nothing, -⟩ := remains
      simp at nothing
  | append_singleton read last ih =>
      rw [enterAll_concat] at entered
      obtain ⟨middle, earlier, final⟩ := Option.bind_eq_some_iff.mp entered
      have enters := Item.enters_of_enter final
      rcases remains_concat.mp remains with rfl | ⟨older, aside⟩
      · exact enters.standsIn
      · exact (ih earlier older).enter enters aside

/-- A plain rule of the layer is one that remains, by induction on the declarations from the last
one.
-/
theorem remains_of_find? {grammar name : Name} {read : List Item} {plain : Rule}
    (entered : enterAll { name := grammar } read = some own)
    (found : own.find? name = some (.rule plain))
    : plain.name = name ∧ plain.tag = none ∧ Remains read (.rule plain) := by
  induction read using List.reverseRec generalizing own with
  | nil =>
      cases entered
      cases found
  | append_singleton read last ih =>
      rw [enterAll_concat] at entered
      obtain ⟨middle, earlier, final⟩ := Option.bind_eq_some_iff.mp entered
      have older (before : middle.find? name = some (.rule plain)) (aside : plain.name = name →
          plain.tag = none → ¬ last.Overrides (.rule plain))
          : plain.name = name ∧ plain.tag = none ∧ Remains (read ++ [last]) (.rule plain) := by
        obtain ⟨named, isPlain, remains⟩ := ih earlier before
        exact ⟨named, isPlain, remains_concat.mpr (Or.inr ⟨remains, aside named isPlain⟩)⟩
      cases Item.enters_of_enter final with
      | @known key group isGroup =>
          refine older found ?_
          rintro rfl - (⟨_, rfl⟩ | _)
          rw [isGroup] at found
          cases found
      | @proto key free =>
          rw [find?_insert] at found
          split at found
          · cases found
          · rename_i apart
            refine older found ?_
            rintro rfl - (⟨_, rfl⟩ | _)
            exact apart rfl
      | @plain made isPlain free =>
          rw [find?_insert] at found
          split at found
          · rename_i same
            cases found
            exact ⟨same, isPlain, remains_concat.mpr (Or.inl rfl)⟩
          · refine older found ?_
            rintro - untagged (_ | _ | tagged)
            exact tagged untagged
      | @alternative made group tagged before =>
          rw [find?_insert] at found
          split at found
          · cases found
          · refine older found ?_
            rintro - untagged (_ | _ | tagged)
            exact tagged untagged

/-- A grammar can take its declarations exactly when no two of them clash, by induction on the
declarations from the last one.
-/
theorem enterAll_eq_none_iff (grammar : Name) (read : List Item)
    : enterAll { name := grammar } read = none ↔ Clashing read := by
  induction read using List.reverseRec with
  | nil => simp [enterAll, Clashing]
  | append_singleton read last ih =>
      rw [enterAll_concat, clashing_concat, ← ih]
      cases entered : enterAll { name := grammar } read with
      | none => simp
      | some own =>
          simp only [Option.bind_some, Item.enter_eq_none_iff, reduceCtorEq, false_or]
          constructor
          · rintro ⟨made, plain, rfl, found⟩
            obtain ⟨named, isPlain, remains⟩ := remains_of_find? entered found
            exact ⟨plain, made, rfl, remains, isPlain, named⟩
          · rintro ⟨plain, made, rfl, remains, isPlain, named⟩
            cases standsIn_of_enterAll entered remains with
            | plain _ found => exact ⟨made, plain, rfl, named ▸ found⟩
            | alternative tagged _ _ => exact (tagged isPlain).elim

/-- Outlines declare something exactly when none of them clashes, by induction on them. -/
theorem isSome_mapM_declared?_iff (outlines : List Outline)
    : (outlines.mapM Outline.declared?).isSome ↔ ∀ o ∈ outlines, ¬ Clashing o.items := by
  induction outlines with
  | nil => simp
  | cons first later ih =>
      have here : first.declared? = none ↔ Clashing first.items := by
        simp [Outline.declared?, enterAll_eq_none_iff]
      rw [List.forall_mem_cons, ← ih, ← here, List.mapM_cons]
      cases first.declared? <;> cases List.mapM Outline.declared? later <;> simp

end Notation

-----------------------------------------------------------------------------------------
-- Grammars
-----------------------------------------------------------------------------------------

namespace Grammars

open Notation

theorem read_eq_ok_iff {known grammars : Grammars} {source : Text}
    : read known source = .ok grammars
      ↔ ∃ outlines declarations,
          outline (known.map (·.1)) source = .ok outlines
            ∧ outlines.mapM Outline.declared? = some declarations
            ∧ grammars = linkAll known declarations := by
  constructor
  · intro done
    obtain ⟨declarations, declared, linked⟩ := declarations_of_read done
    obtain ⟨outlines, sketched, made⟩ := Notation.read_eq_ok_iff.mp declared
    exact ⟨outlines, declarations, sketched, made, linked⟩
  · rintro ⟨outlines, declarations, sketched, made, rfl⟩
    unfold read
    rw [Notation.read_eq_ok_iff.mpr ⟨outlines, sketched, made⟩]
    rfl

/-- A grammar has the name and the layer of its declaration, by induction on the declarations. -/
theorem map_own_linkAll (known : Grammars) (declarations : List Declaration)
    : (linkAll known declarations).map (fun row => (row.1, row.2.own))
      = declarations.map fun d => (d.name, d.layer) := by
  have links (before : Grammars)
      : (declarations.foldl
          (fun declared d => declared ++ [(d.name, link known declared d)]) before).map
            (fun row => (row.1, row.2.own))
        = before.map (fun row => (row.1, row.2.own))
          ++ declarations.map fun d => (d.name, d.layer) := by
    induction declarations generalizing before with
    | nil => simp
    | cons d rest ih => simp [ih, own_of_link]
  simpa [linkAll] using links []

/-- A row of a table of grammars has what an outline says. -/
structure Outlined (outline : Outline) (row : Name × Grammar) : Prop where
  name : row.1 = outline.name
  stands : ∀ one, Remains outline.items one → one.StandsIn row.2.own

/-- Declared grammars have what their outlines say, by induction on the outlines. -/
theorem outlined_of_declared {outlines : List Outline} {declarations : List Declaration}
    {grammars : Grammars} (declared : outlines.mapM Outline.declared? = some declarations)
    (rows : grammars.map (fun row => (row.1, row.2.own))
      = declarations.map fun d => (d.name, d.layer))
    : List.Forall₂ Outlined outlines grammars := by
  induction outlines generalizing declarations grammars with
  | nil =>
      cases declared
      obtain rfl := List.map_eq_nil_iff.mp rows
      exact .nil
  | cons first later ih =>
      simp only [List.mapM_cons, Option.pure_def, Option.bind_eq_bind, Option.bind_eq_some_iff]
        at declared
      obtain ⟨d, here, rest, others, same⟩ := declared
      cases same
      obtain ⟨row, more, rfl, head, tail⟩ := List.map_eq_cons_iff.mp rows
      obtain ⟨layer, entered, rfl⟩ := Option.map_eq_some_iff.mp here
      obtain ⟨name, own⟩ := Prod.mk.inj head
      refine .cons ⟨?_, fun one remains => ?_⟩ (ih others tail)
      · exact name.trans (Outline.name_of_declared? here)
      · rw [own]
        exact standsIn_of_enterAll entered remains

/-- What becomes of the declarations of a source. It is accepted exactly when it has outlines in
which no rule comes after a plain rule of its name, unless a group of that name is declared in
between. Every declaration of an accepted grammar then stands in the grammar's own layer, unless a
later one takes its place: a group declaration that of a plain rule, a plain rule that of a group
and of its alternatives, and an alternative that of an older one with its tag.
-/
theorem read_outlined (known : Grammars) (source : Text)
    : ((∃ grammars, read known source = .ok grammars)
          ↔ ∃ outlines,
              outline (known.map (·.1)) source = .ok outlines
                ∧ ∀ o ∈ outlines, ¬ Clashing o.items)
        ∧ ∀ grammars,
            read known source = .ok grammars
            → ∃ outlines,
                outline (known.map (·.1)) source = .ok outlines
                  ∧ List.Forall₂ Outlined outlines grammars := by
  refine ⟨⟨?_, ?_⟩, ?_⟩
  · rintro ⟨grammars, done⟩
    obtain ⟨outlines, declarations, sketched, made, -⟩ := read_eq_ok_iff.mp done
    exact ⟨outlines, sketched, (isSome_mapM_declared?_iff outlines).mp (by simp [made])⟩
  · rintro ⟨outlines, sketched, apart⟩
    obtain ⟨declarations, made⟩ := Option.isSome_iff_exists.mp
      ((isSome_mapM_declared?_iff outlines).mpr apart)
    exact ⟨_, read_eq_ok_iff.mpr ⟨outlines, declarations, sketched, made, rfl⟩⟩
  · intro grammars done
    obtain ⟨outlines, declarations, sketched, made, rfl⟩ := read_eq_ok_iff.mp done
    exact ⟨outlines, sketched, outlined_of_declared made (map_own_linkAll known declarations)⟩

/-- A plain rule with a group declared after it, and an alternative with a plain rule after it. -/
def overridden : Text :=
  "grammar G \x7b token a \x7b 'x' \x7d proto token a \x7b*\x7d "
    ++ "token b:sym<y> \x7b 'y' \x7d token b \x7b 'z' \x7d \x7d"

/-- A computation that gives a single result with a decidable property. -/
theorem exists_single {ε α : Type} {results : Except ε (List α)} {P : α → Prop} [DecidablePred P]
    (holds
      : (match results with
          | .ok [a] => decide (P a)
          | _ => false)
        = true)
    : ∃ a, results = .ok [a] ∧ P a := by
  split at holds
  · exact ⟨_, rfl, of_decide_eq_true holds⟩
  · cases holds

theorem read_outlined_overridden
    : ∃ row outline,
        read [] overridden = .ok [row]
          ∧ Notation.outline [] overridden = .ok [outline]
          ∧ Outlined outline row := by
  obtain ⟨row, accepted, -⟩ : ∃ row, read [] overridden = .ok [row] ∧ row.1 = Text.ofString "G" :=
    exists_single (by decide +kernel)
  obtain ⟨outlines, sketched, rows⟩ := (read_outlined [] overridden).2 _ accepted
  cases rows with
  | cons first rest =>
      cases rest
      exact ⟨row, _, accepted, sketched, first⟩

/-- Rules of an accepted source are lost: a plain rule to a group declared after it, and an
alternative to a plain rule after it.
-/
theorem exists_read_lost
    : ∃ source outline row plain alternative,
        read [] source = .ok [row]
          ∧ Notation.outline [] source = .ok [outline]
          ∧ .rule plain ∈ outline.items
          ∧ plain.tag = none
          ∧ row.2.own.find? plain.name ≠ some (.rule plain)
          ∧ .rule alternative ∈ outline.items
          ∧ alternative.tag ≠ none
          ∧ ∀ group, row.2.own.find? alternative.name ≠ some (.group group) := by
  obtain ⟨row, accepted, lostPlain, lostAlternative⟩
      : ∃ row,
          read [] overridden = .ok [row]
            ∧ (row.2.own.find? "a").map Entry.isGroup = some true
            ∧ (row.2.own.find? "b").map Entry.isGroup = some false :=
    exists_single (by decide +kernel)
  obtain ⟨outline, sketched, plain, alternative⟩
      : ∃ outline,
          Notation.outline [] overridden = .ok [outline]
            ∧ outline.items.any (Item.isRuleOf "a" none) = true
            ∧ outline.items.any (Item.isRuleOf "b" (some (Text.ofString "y"))) = true :=
    exists_single (by decide +kernel)
  obtain ⟨plain, declared, named, isPlain⟩ := Item.exists_rule_of_any plain
  obtain ⟨alternative, declared', named', tagged⟩ := Item.exists_rule_of_any alternative
  refine ⟨overridden, outline, row, plain, alternative, accepted, sketched, declared, isPlain, ?_,
    declared', by simp [tagged], fun group found => ?_⟩
  · intro found
    rw [← named, found] at lostPlain
    cases lostPlain
  · rw [← named', found] at lostAlternative
    cases lostAlternative

end Grammars

end RuleGrammar
