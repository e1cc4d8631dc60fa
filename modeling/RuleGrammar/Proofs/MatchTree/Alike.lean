import RuleGrammar.Proofs.MatchTree.Views

/-! Logs that capture alike. A log says more than the node that it folds into shows: which entry
made a name a list, and how often. Logs that differ only there give nodes with the same captures,
wherever in the log of an enclosing node they come to stand.
-/

namespace RuleGrammar

-----------------------------------------------------------------------------------------
-- Nodes with the same captures
-----------------------------------------------------------------------------------------

/-- Two nodes say the same of themselves and have the same captures, by name and by position. The
empty name, which no capture is asked for by, may stand for anything.
-/
structure Match.SameCaptures (m n : Match) : Prop where
  info : m.info = n.info
  named : ∀ name ≠ [], m.get? name = n.get? name
  positional : m.positional = n.positional

/-- How the captures of an expression come to stand in the log of the node that encloses it: among
others, listed by a round of a repetition, or reduced to the named ones by the closer of a goal.
-/
inductive Encloses : (List Caught → List Caught) → Prop
  | itself : Encloses id
  | among {way} (before after : List Caught) (inner : Encloses way)
    : Encloses fun log => before ++ way log ++ after
  | round {way} (max : Option Nat) (inner : Encloses way)
    : Encloses fun log => roundLog max (way log)
  | closer {way} (inner : Encloses way)
    : Encloses fun log => (way log).filter fun entry => entry.name.isSome

-----------------------------------------------------------------------------------------
-- Logs
-----------------------------------------------------------------------------------------

/-- Whether a log makes the captures of a name a list, whatever their number. -/
def listsName (log : List Caught) (key : Name) : Bool :=
  log.any fun entry => entry.name = some key && entry.makesList

/-- Two logs have the same nodes in the same order, by name and without. The same names stand in
both, and both make lists of the same ones, the empty name aside.
-/
structure CaptureAlike (log log' : List Caught) : Prop where
  nodes
    : ∀ key, log.filterMap (Caught.nodeNamed? key) = log'.filterMap (Caught.nodeNamed? key)
  positional : log.filterMap Caught.positional? = log'.filterMap Caught.positional?
  names : ∀ key ≠ [], key ∈ log.filterMap Caught.name ↔ key ∈ log'.filterMap Caught.name
  lists : ∀ key ≠ [], listsName log key = listsName log' key

namespace Caught

@[simp] theorem name_listed (entry : Caught) : entry.listed.name = entry.name := by
  cases entry <;> rfl

@[simp] theorem makesList_listed (entry : Caught) : entry.listed.makesList = true := by
  cases entry <;> rfl

@[simp] theorem nodeNamed?_listed (key : Name) (entry : Caught)
    : entry.listed.nodeNamed? key = entry.nodeNamed? key := by
  cases entry with
  | mark name => rfl
  | node name m listed => cases name <;> rfl

@[simp] theorem positional?_listed (entry : Caught)
    : entry.listed.positional? = entry.positional? := by
  cases entry with
  | mark name => rfl
  | node name m listed => cases name <;> rfl

end Caught

/-- Every name that stands in a round of a repetition is made a list. -/
theorem listsName_map_listed (log : List Caught) (key : Name)
    : listsName (log.map Caught.listed) key = decide (key ∈ log.filterMap Caught.name) := by
  rw [listsName, Bool.eq_iff_iff]
  simp [List.mem_filterMap]

theorem listsName_append (log later : List Caught) (key : Name)
    : listsName (log ++ later) key = (listsName log key || listsName later key) :=
  List.any_append

theorem listsName_marks (names : List Name) (key : Name)
    : listsName (names.map Caught.mark) key = decide (key ∈ names) := by
  rw [listsName, Bool.eq_iff_iff]
  simp [Caught.name, Caught.makesList]

theorem nodesNamed_listed (log : List Caught) (key : Name)
    : (log.map Caught.listed).filterMap (Caught.nodeNamed? key)
      = log.filterMap (Caught.nodeNamed? key) := by
  simp only [List.filterMap_map, Function.comp_def, Caught.nodeNamed?_listed]

theorem positionals_listed (log : List Caught)
    : (log.map Caught.listed).filterMap Caught.positional? = log.filterMap Caught.positional? := by
  simp only [List.filterMap_map, Function.comp_def, Caught.positional?_listed]

theorem names_listed (log : List Caught)
    : (log.map Caught.listed).filterMap Caught.name = log.filterMap Caught.name := by
  simp only [List.filterMap_map, Function.comp_def, Caught.name_listed]

theorem nodesNamed_marks (names : List Name) (key : Name)
    : (names.map Caught.mark).filterMap (Caught.nodeNamed? key) = [] := by
  rw [List.filterMap_map]
  exact List.filterMap_eq_nil_iff.mpr fun _ _ => rfl

theorem positionals_marks (names : List Name)
    : (names.map Caught.mark).filterMap Caught.positional? = [] := by
  rw [List.filterMap_map]
  exact List.filterMap_eq_nil_iff.mpr fun _ _ => rfl

/-- The nodes under a name are among what the closer of a goal keeps. -/
theorem nodesNamed_closer (log : List Caught) (key : Name)
    : (log.filter fun entry => entry.name.isSome).filterMap (Caught.nodeNamed? key)
      = log.filterMap (Caught.nodeNamed? key) := by
  rw [List.filterMap_filter]
  congr 1
  funext entry
  cases entry with
  | mark name => rfl
  | node name m listed => cases name <;> rfl

theorem positionals_closer (log : List Caught)
    : (log.filter fun entry => entry.name.isSome).filterMap Caught.positional? = [] := by
  refine List.filterMap_eq_nil_iff.mpr fun entry member => ?_
  have named := (List.mem_filter.mp member).2
  cases entry with
  | mark name => rfl
  | node name m listed => cases name with
    | none => cases named
    | some name => rfl

theorem names_closer (log : List Caught)
    : (log.filter fun entry => entry.name.isSome).filterMap Caught.name
      = log.filterMap Caught.name := by
  rw [List.filterMap_filter]
  congr 1
  funext entry
  cases entry.name <;> rfl

theorem listsName_closer (log : List Caught) (key : Name)
    : listsName (log.filter fun entry => entry.name.isSome) key = listsName log key := by
  rw [listsName, listsName, List.any_filter]
  congr 1
  funext entry
  cases entry.name <;> simp

/-- A name of which a log makes a list stands in it. -/
theorem mem_names_of_listsName {log : List Caught} {key : Name}
    (lists : listsName log key = true)
    : key ∈ log.filterMap Caught.name := by
  obtain ⟨entry, inLog, found⟩ := List.any_eq_true.mp lists
  exact List.mem_filterMap.mpr ⟨entry, inLog, of_decide_eq_true (Bool.and_eq_true_iff.mp found).1⟩

namespace CaptureAlike

variable {log log' : List Caught}

theorem refl (log : List Caught) : CaptureAlike log log :=
  ⟨fun _ => rfl, rfl, fun _ _ => Iff.rfl, fun _ _ => rfl⟩

theorem append {more more' : List Caught} (alike : CaptureAlike log log')
    (later : CaptureAlike more more')
    : CaptureAlike (log ++ more) (log' ++ more') where
  nodes key := by rw [List.filterMap_append, List.filterMap_append, alike.nodes, later.nodes]
  positional := by
    rw [List.filterMap_append, List.filterMap_append, alike.positional, later.positional]
  names key counts := by
    rw [List.filterMap_append, List.filterMap_append, List.mem_append, List.mem_append,
      alike.names key counts, later.names key counts]
  lists key counts := by
    rw [listsName_append, listsName_append, alike.lists key counts, later.lists key counts]

theorem round (alike : CaptureAlike log log') (max : Option Nat)
    : CaptureAlike (roundLog max log) (roundLog max log') := by
  unfold roundLog
  by_cases repeated : Expr.repeats max = true
  · rw [if_pos repeated, if_pos repeated]
    exact {
      nodes := fun key => by rw [nodesNamed_listed, nodesNamed_listed, alike.nodes]
      positional := by rw [positionals_listed, positionals_listed, alike.positional]
      names := fun key counts => by rw [names_listed, names_listed, alike.names key counts]
      lists := fun key counts => by
        rw [listsName_map_listed, listsName_map_listed, Bool.eq_iff_iff, decide_eq_true_iff,
          decide_eq_true_iff, alike.names key counts]
    }
  · rwa [if_neg repeated, if_neg repeated]

/-- The closer of a goal drops what has no name, in both logs. -/
theorem closer (alike : CaptureAlike log log')
    : CaptureAlike (log.filter fun entry => entry.name.isSome)
        (log'.filter fun entry => entry.name.isSome) where
  nodes key := by rw [nodesNamed_closer, nodesNamed_closer, alike.nodes]
  positional := by rw [positionals_closer, positionals_closer]
  names key counts := by rw [names_closer, names_closer, alike.names key counts]
  lists key counts := by rw [listsName_closer, listsName_closer, alike.lists key counts]

/-- Wherever logs that capture alike come to stand, they do so there, by induction on the way. -/
theorem enclosed (alike : CaptureAlike log log') {way : List Caught → List Caught}
    (encloses : Encloses way)
    : CaptureAlike (way log) (way log') := by
  induction encloses with
  | itself => exact alike
  | among before after _ ih => exact ((refl before).append ih).append (refl after)
  | round max _ ih => exact ih.round max
  | closer _ ih => exact ih.closer

/-- Logs that capture alike fold into nodes with the same captures. -/
theorem ofLog (alike : CaptureAlike log log') (info : NodeInfo)
    : (Match.ofLog info log).SameCaptures (Match.ofLog info log') where
  info := rfl
  positional := alike.positional
  named key counts := by
    by_cases stands : key ∈ log.filterMap Caught.name
    · have stands' := (alike.names key counts).mp stands
      have lists := alike.lists key counts
      unfold listsName at lists
      rw [Match.get?_ofLog stands, Match.get?_ofLog stands', Capture.ofLog, Capture.ofLog, lists,
        alike.nodes]
    · have absent' := mt (alike.names key counts).mpr stands
      rw [Match.get?_ofLog_of_absent stands, Match.get?_ofLog_of_absent absent']

end CaptureAlike

end RuleGrammar
