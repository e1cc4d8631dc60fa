import Mathlib.Data.List.Pairwise
import RuleGrammar.MatchTree.View
import RuleGrammar.Proofs.Grammar.Visible

/-! Nodes in order. What an evaluation captures follows one another from its start to where it
stops, and the node that such a log folds into has captures that lie inside it, apart from one
another, and in order wherever they form a list.
-/

namespace RuleGrammar

-----------------------------------------------------------------------------------------
-- Logs in order
-----------------------------------------------------------------------------------------

/-- The node of an entry, named or not. -/
def Caught.node? : Caught → Option Match
  | node _ m _ => some m
  | mark _ => none

/-- The nodes of a log in order. -/
abbrev logNodes (log : List Caught) : List Match :=
  log.filterMap Caught.node?

/-- The nodes of a log follow one another inside a span. -/
inductive InOrder : Int → Int → List Caught → Prop
  | nil {start stop} (ahead : start ≤ stop) : InOrder start stop []
  | node {start stop name m listed rest} (begins : start ≤ m.start) (span : m.start ≤ m.stop)
    (later : InOrder m.stop stop rest)
    : InOrder start stop (.node name m listed :: rest)
  | mark {start stop name rest} (later : InOrder start stop rest)
    : InOrder start stop (.mark name :: rest)

namespace InOrder

variable {start middle stop : Int} {log more : List Caught}

theorem le (order : InOrder start stop log) : start ≤ stop := by
  induction order with
  | nil ahead => exact ahead
  | node begins span _ ih => omega
  | mark _ ih => exact ih

/-- A log in order may begin earlier. -/
theorem earlier {earlier : Int} (order : InOrder start stop log) (before : earlier ≤ start)
    : InOrder earlier stop log := by
  induction order with
  | nil ahead => exact .nil (Int.le_trans before ahead)
  | node begins span later _ => exact .node (Int.le_trans before begins) span later
  | mark _ ih => exact .mark (ih before)

/-- Logs in order of adjacent spans are in order one after the other, by induction on the first.
-/
theorem append (order : InOrder start middle log) (later : InOrder middle stop more)
    : InOrder start stop (log ++ more) := by
  induction order with
  | nil ahead => exact later.earlier ahead
  | node begins span _ ih => exact .node begins span (ih later)
  | mark _ ih => exact .mark (ih later)

/-- Closing a round of a repetition leaves its log in order: only list marks change. -/
theorem roundLog (order : InOrder start stop log) (max : Option Nat)
    : InOrder start stop (RuleGrammar.roundLog max log) := by
  unfold RuleGrammar.roundLog
  split
  · induction order with
    | nil ahead => exact .nil ahead
    | node begins span _ ih => exact .node begins span ih
    | mark _ ih => exact .mark ih
  · exact order

/-- Leaving entries out of a log leaves it in order. -/
theorem filter (order : InOrder start stop log) (kept : Caught → Bool)
    : InOrder start stop (log.filter kept) := by
  induction order with
  | nil ahead => exact .nil ahead
  | @node start stop name m listed rest begins span _ ih =>
      by_cases keep : kept (.node name m listed) = true
      · rw [List.filter_cons_of_pos keep]
        exact .node begins span ih
      · rw [List.filter_cons_of_neg keep]
        exact ih.earlier (Int.le_trans begins span)
  | @mark start stop name rest _ ih =>
      by_cases keep : kept (.mark name) = true
      · rw [List.filter_cons_of_pos keep]
        exact .mark ih
      · rw [List.filter_cons_of_neg keep]
        exact ih

theorem marks (ahead : start ≤ stop) (names : List Name)
    : InOrder start stop (names.map Caught.mark) := by
  induction names with
  | nil => exact .nil ahead
  | cons name rest ih => exact .mark ih

/-- The nodes of a log in order lie inside its span. -/
theorem inside (order : InOrder start stop log)
    : ∀ m ∈ logNodes log, start ≤ m.start ∧ m.start ≤ m.stop ∧ m.stop ≤ stop := by
  induction order with
  | nil _ => simp
  | @node start stop name m listed rest begins span later ih =>
      intro n member
      rcases List.mem_cons.mp member with rfl | member
      · exact ⟨begins, span, later.le⟩
      · obtain ⟨after, within, before⟩ := ih n member
        exact ⟨by omega, within, before⟩
  | mark _ ih => exact ih

/-- In a log in order every node ends before the later ones start. -/
theorem pairwise (order : InOrder start stop log)
    : log.Pairwise fun first second =>
        ∀ m ∈ first.node?, ∀ n ∈ second.node?, m.stop ≤ n.start := by
  induction order with
  | nil _ => exact .nil
  | @node start stop name m listed rest begins span later ih =>
      refine List.pairwise_cons.mpr ⟨?_, ih⟩
      rintro entry inRest _ ⟨⟩ n found
      exact (later.inside n (List.mem_filterMap.mpr ⟨entry, inRest, found⟩)).1
  | mark later ih =>
      refine List.pairwise_cons.mpr ⟨?_, ih⟩
      rintro entry inRest _ ⟨⟩

end InOrder

theorem logNodes_roundLog (max : Option Nat) (log : List Caught)
    : logNodes (roundLog max log) = logNodes log := by
  have listed (entry : Caught) : entry.listed.node? = entry.node? := by cases entry <;> rfl
  unfold roundLog
  split
  · simp only [logNodes, List.filterMap_map, Function.comp_def, listed]
  · rfl

theorem logNodes_marks (names : List Name) : logNodes (names.map Caught.mark) = [] := by
  simp [logNodes, List.filterMap_map, Function.comp_def, Caught.node?]

theorem Caught.node?_of_nodeNamed? {key : Name} {entry : Caught} {m : Match}
    (found : entry.nodeNamed? key = some m)
    : entry.name = some key ∧ entry.node? = some m := by
  cases entry with
  | mark name => cases found
  | node name n listed =>
      cases name with
      | none => cases found
      | some name =>
          by_cases same : name = key
          · subst same
            simpa [nodeNamed?, Caught.name, node?] using found
          · simp [nodeNamed?, same] at found

theorem Caught.node?_of_positional? {entry : Caught} {m : Match}
    (found : entry.positional? = some m)
    : entry.name = none ∧ entry.node? = some m := by
  cases entry with
  | mark name => cases found
  | node name n listed =>
      cases name with
      | none => simpa [positional?, Caught.name, node?] using found
      | some name => cases found

-----------------------------------------------------------------------------------------
-- Placed nodes
-----------------------------------------------------------------------------------------

namespace Match

/-- The nodes that a node captured, named ones first. -/
def captured (m : Match) : List Match :=
  m.named.flatMap Capture.nodes ++ m.positional

theorem mem_children {m child : Match} : child ∈ m.children ↔ child ∈ m.captured := by
  simp only [children, captured, List.mem_mergeSort]

/-- One of two nodes ends before the other starts, or where it starts. -/
def Apart (a b : Match) : Prop :=
  a.stop ≤ b.start ∨ b.stop ≤ a.start

theorem Apart.symm {a b : Match} (apart : Apart a b) : Apart b a :=
  Or.symm apart

/-- A node with its captures lies as it should in a subject of some size: inside the subject, with
its captures inside itself, any two of them apart, and those of a list or without a name in order.
-/
structure Placed (size : Int) (m : Match) : Prop where
  span : 0 ≤ m.start ∧ m.start ≤ m.stop ∧ m.stop ≤ size
  inside : ∀ child ∈ m.captured, m.start ≤ child.start ∧ child.stop ≤ m.stop
  apart : m.captured.Pairwise Apart
  listed
    : ∀ name nodes,
        .listed name nodes ∈ m.named
        → nodes.Pairwise fun a b => a.stop ≤ b.start
  positional : m.positional.Pairwise fun a b => a.stop ≤ b.start

end Match

-----------------------------------------------------------------------------------------
-- Folding a log in order
-----------------------------------------------------------------------------------------

/-- The nodes that a log has under a name are those that it captures under it. -/
theorem Capture.nodes_ofLog (log : List Caught) (key : Name)
    : (Capture.ofLog log key).nodes = log.filterMap (Caught.nodeNamed? key) := by
  unfold Capture.ofLog
  split
  · rfl
  · cases log.filterMap (Caught.nodeNamed? key) with
    | nil => rfl
    | cons first rest => cases rest <;> rfl

theorem Match.captured_ofLog (info : NodeInfo) (log : List Caught)
    : (Match.ofLog info log).captured
      = (Expr.distinct (log.filterMap Caught.name)).flatMap
          (fun key => log.filterMap (Caught.nodeNamed? key))
        ++ log.filterMap Caught.positional? := by
  simp only [captured, ofLog, named, positional, List.flatMap_map,
    Capture.nodes_ofLog]

/-- What a log folds into captures nothing but its nodes. -/
theorem Match.mem_logNodes_of_captured {info : NodeInfo} {log : List Caught} {child : Match}
    (member : child ∈ (Match.ofLog info log).captured)
    : child ∈ logNodes log := by
  rw [captured_ofLog] at member
  rcases List.mem_append.mp member with named | positional
  · obtain ⟨key, -, inKey⟩ := List.mem_flatMap.mp named
    obtain ⟨entry, inLog, found⟩ := List.mem_filterMap.mp inKey
    exact List.mem_filterMap.mpr ⟨entry, inLog, (Caught.node?_of_nodeNamed? found).2⟩
  · obtain ⟨entry, inLog, found⟩ := List.mem_filterMap.mp positional
    exact List.mem_filterMap.mpr ⟨entry, inLog, (Caught.node?_of_positional? found).2⟩

namespace InOrder

variable {start stop : Int} {log : List Caught}

/-- The nodes that a choice of entries yields are in order where the log is. -/
theorem pairwise_filterMap (order : InOrder start stop log) (pick : Caught → Option Match)
    (picks : ∀ entry m, pick entry = some m → entry.node? = some m)
    : (log.filterMap pick).Pairwise fun a b => a.stop ≤ b.start := by
  rw [List.pairwise_filterMap]
  refine order.pairwise.imp fun {first second} follows m found n found' => ?_
  exact follows m (picks _ _ found) n (picks _ _ found')

/-- Nodes of entries under different names are apart: the entries differ, and one of them comes
first in the log.
-/
theorem apart_of_names (order : InOrder start stop log) {first second : Caught}
    (inLog : first ∈ log) (inLog' : second ∈ log) (different : first.name ≠ second.name)
    {m n : Match} (found : first.node? = some m) (found' : second.node? = some n)
    : m.Apart n := by
  let apartEntries (first second : Caught) : Prop :=
    ∀ m ∈ first.node?, ∀ n ∈ second.node?, m.Apart n
  have apart : log.Pairwise apartEntries :=
    order.pairwise.imp fun follows m here n there => Or.inl (follows m here n there)
  have symmetric : Std.Symm apartEntries :=
    ⟨fun _ _ apart m here n there => (apart n there m here).symm⟩
  have ne : first ≠ second := fun same => different (congrArg Caught.name same)
  exact apart.forall inLog inLog' ne m found n found'

/-- The node that a log in order folds into is placed. -/
theorem placed {info : NodeInfo} {size : Int} (order : InOrder info.start info.stop log)
    (inside : 0 ≤ info.start ∧ info.stop ≤ size)
    : (Match.ofLog info log).Placed size where
  span := ⟨inside.1, order.le, inside.2⟩
  inside child member := by
    obtain ⟨after, -, before⟩ := order.inside child (Match.mem_logNodes_of_captured member)
    exact ⟨after, before⟩
  apart := by
    have named key := order.pairwise_filterMap (Caught.nodeNamed? key)
      fun _ _ found => (Caught.node?_of_nodeNamed? found).2
    have positional := order.pairwise_filterMap Caught.positional?
      fun _ _ found => (Caught.node?_of_positional? found).2
    rw [Match.captured_ofLog, List.pairwise_append, List.pairwise_flatMap]
    refine ⟨⟨fun key _ => (named key).imp Or.inl, ?_⟩, positional.imp Or.inl, ?_⟩
    · refine (nodup_distinct (log.filterMap Caught.name)).imp ?_
      intro key other ne m inKey n inOther
      obtain ⟨first, inLog, found⟩ := List.mem_filterMap.mp inKey
      obtain ⟨second, inLog', found'⟩ := List.mem_filterMap.mp inOther
      obtain ⟨isKey, found⟩ := Caught.node?_of_nodeNamed? found
      obtain ⟨isOther, found'⟩ := Caught.node?_of_nodeNamed? found'
      refine order.apart_of_names inLog inLog' ?_ found found'
      rw [isKey, isOther]
      exact fun same => ne (Option.some.inj same)
    · intro m inNamed n inPositional
      obtain ⟨key, -, inKey⟩ := List.mem_flatMap.mp inNamed
      obtain ⟨first, inLog, found⟩ := List.mem_filterMap.mp inKey
      obtain ⟨second, inLog', found'⟩ := List.mem_filterMap.mp inPositional
      obtain ⟨isKey, found⟩ := Caught.node?_of_nodeNamed? found
      obtain ⟨isNone, found'⟩ := Caught.node?_of_positional? found'
      refine order.apart_of_names inLog inLog' ?_ found found'
      rw [isKey, isNone]
      exact Option.some_ne_none key
  listed name nodes member := by
    simp only [Match.ofLog, Match.named, List.mem_map] at member
    obtain ⟨key, -, same⟩ := member
    have nodes_eq := congrArg Capture.nodes same
    rw [Capture.nodes_ofLog] at nodes_eq
    rw [show nodes = log.filterMap (Caught.nodeNamed? key) from nodes_eq.symm]
    exact order.pairwise_filterMap _ fun _ _ found => (Caught.node?_of_nodeNamed? found).2
  positional :=
    order.pairwise_filterMap _ fun _ _ found => (Caught.node?_of_positional? found).2

end InOrder

end RuleGrammar
