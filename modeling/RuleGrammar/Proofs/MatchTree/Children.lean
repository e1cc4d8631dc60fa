import Mathlib.Data.List.Nodup
import Mathlib.Data.List.Perm.Basic
import RuleGrammar.Proofs.MatchTree.Views

/-! Children in order. A node has all that it captured as its children, by the offsets where they
start. Those that start at one offset stand as the node keeps them, by name; they stand as they
were captured where they were captured under one name.
-/

namespace RuleGrammar

-----------------------------------------------------------------------------------------
-- Stable order
-----------------------------------------------------------------------------------------

/-- Nodes that start one after the other or at the same offset. -/
abbrev Ascending (nodes : List Match) : Prop :=
  nodes.Pairwise fun a b => a.start ≤ b.start

/-- The nodes that start at an offset. -/
abbrev startingAt (q : Int) (nodes : List Match) : List Match :=
  nodes.filter fun m => m.start = q

/-- Ascending nodes are told by those at each offset, by induction on them: the first of both lists
start at the same offset.
-/
theorem Ascending.eq_of_startingAt {nodes others : List Match} (ascending : Ascending nodes)
    (ascending' : Ascending others) (same : ∀ q, startingAt q nodes = startingAt q others)
    : nodes = others := by
  induction nodes generalizing others with
  | nil =>
      cases others with
      | nil => rfl
      | cons b rest => simpa using same b.start
  | cons a rest ih =>
      cases others with
      | nil => simpa using same a.start
      | cons b rest' =>
          have inOthers : a ∈ startingAt a.start (b :: rest') := by
            rw [← same]
            simp
          have inNodes : b ∈ startingAt b.start (a :: rest) := by
            rw [same]
            simp
          have starts : a.start = b.start := by
            have below : ∀ m ∈ b :: rest', b.start ≤ m.start := by
              simpa using (List.pairwise_cons.mp ascending').1
            have above : ∀ m ∈ a :: rest, a.start ≤ m.start := by
              simpa using (List.pairwise_cons.mp ascending).1
            exact Int.le_antisymm (above b (List.mem_of_mem_filter inNodes))
              (below a (List.mem_of_mem_filter inOthers))
          have first := same a.start
          simp only [startingAt, List.filter_cons, starts, decide_true, if_true,
            List.cons.injEq] at first
          obtain ⟨rfl, -⟩ := first
          refine congrArg (a :: ·) (ih ascending.of_cons ascending'.of_cons fun q => ?_)
          have here := same q
          by_cases at_ : a.start = q <;> simpa [startingAt, List.filter_cons, at_] using here

namespace Match

theorem ascending_children (m : Match) : Ascending m.children := by
  have sorted : m.children.Pairwise fun a b => decide (a.start ≤ b.start) = true :=
    List.pairwise_mergeSort (fun a b c => by simpa using Int.le_trans)
      (fun a b => by simpa using Int.le_total _ _) _
  exact sorted.imp fun below => of_decide_eq_true below

theorem children_perm_captured (m : Match) : m.children.Perm m.captured :=
  List.mergeSort_perm _ _

/-- Sorting is stable: the children at an offset stand as the node keeps them. -/
theorem startingAt_children (m : Match) (q : Int)
    : startingAt q m.children = startingAt q m.captured := by
  have alike : (startingAt q m.captured).Pairwise fun a b => decide (a.start ≤ b.start) = true := by
    refine List.pairwise_of_forall_mem_list fun a inA b inB => ?_
    have startA := (List.mem_filter.mp inA).2
    have startB := (List.mem_filter.mp inB).2
    simp only [decide_eq_true_eq] at startA startB ⊢
    omega
  have kept : (startingAt q m.captured).Sublist m.children :=
    List.sublist_mergeSort (fun a b c => by simpa using Int.le_trans)
      (fun a b => by simpa using Int.le_total _ _) alike List.filter_sublist
  have within := kept.filter fun m => m.start = q
  rw [List.filter_filter] at within
  simp only [Bool.and_self] at within
  exact (within.eq_of_length ((m.children_perm_captured.filter _).length_eq).symm).symm

/-- Children that all start at one offset stand as the node keeps them. -/
theorem children_of_start {m : Match} {q : Int} (same : ∀ child ∈ m.captured, child.start = q)
    : m.children = m.captured := by
  have all (nodes : List Match) (within : ∀ child ∈ nodes, child.start = q)
      : startingAt q nodes = nodes :=
    List.filter_eq_self.mpr fun child member => decide_eq_true (within child member)
  rw [← all m.children fun child member => same child (mem_children.mp member),
    startingAt_children, all m.captured same]

end Match

-----------------------------------------------------------------------------------------
-- Children of a log
-----------------------------------------------------------------------------------------

namespace Caught

@[simp] theorem nodeNamed?_mark (key name : Name) : (mark name).nodeNamed? key = none := rfl

@[simp] theorem nodeNamed?_unnamed (key : Name) (m : Match) (listed : Bool)
    : (node none m listed).nodeNamed? key = none := rfl

@[simp] theorem nodeNamed?_named (key name : Name) (m : Match) (listed : Bool)
    : (node (some name) m listed).nodeNamed? key = if name = key then some m else none := rfl

@[simp] theorem positional?_mark (name : Name) : (mark name).positional? = none := rfl

@[simp] theorem positional?_unnamed (m : Match) (listed : Bool)
    : (node none m listed).positional? = some m := rfl

@[simp] theorem positional?_named (name : Name) (m : Match) (listed : Bool)
    : (node (some name) m listed).positional? = none := rfl

end Caught

/-- A node keeps what a log captured, each node once, by induction on the log: an entry adds its
node to what its name has, or to what has no name.
-/
theorem perm_logNodes_of_names {names : List Name} (distinct : names.Nodup) (log : List Caught)
    (all : ∀ entry ∈ log, ∀ key ∈ entry.name, key ∈ names)
    : (names.flatMap (fun key => log.filterMap (Caught.nodeNamed? key))
        ++ log.filterMap Caught.positional?).Perm (logNodes log) := by
  induction log with
  | nil => simp
  | cons entry rest ih =>
      have others := ih fun entry member => all entry (List.mem_cons_of_mem _ member)
      match entry with
      | .mark name => simpa [List.filterMap_cons, Caught.node?] using others
      | .node none m listed =>
          have behind : (names.flatMap (fun key => rest.filterMap (Caught.nodeNamed? key))
              ++ m :: rest.filterMap Caught.positional?).Perm (m :: logNodes rest) :=
            List.perm_middle.trans (others.cons m)
          simpa [List.filterMap_cons, Caught.node?] using behind
      | .node (some key) m listed =>
          obtain ⟨before, after, rfl⟩ :=
            List.append_of_mem (all (.node (some key) m listed) (by simp) key rfl)
          have apart := List.nodup_middle.mp distinct
          have unnamed (names : List Name) (absent : key ∉ names)
              : names.flatMap (fun other =>
                  (Caught.node (some key) m listed :: rest).filterMap (Caught.nodeNamed? other))
                = names.flatMap fun other => rest.filterMap (Caught.nodeNamed? other) := by
            refine List.flatMap_congr fun other member => ?_
            have ne : key ≠ other := fun same => absent (same ▸ member)
            simp [ne]
          have absent := (List.nodup_cons.mp apart).1
          simp only [List.mem_append, not_or] at absent
          simp only [List.flatMap_append, List.flatMap_cons, unnamed before absent.1,
            unnamed after absent.2] at others ⊢
          simp only [List.append_assoc] at others
          simpa [List.filterMap_cons, Caught.node?] using
            List.perm_middle.trans (others.cons m)

theorem Match.captured_ofLog_perm (info : NodeInfo) (log : List Caught)
    : (Match.ofLog info log).captured.Perm (logNodes log) := by
  rw [Match.captured_ofLog]
  refine perm_logNodes_of_names (nodup_distinct _) log fun entry member key named => ?_
  exact mem_distinct.mpr (List.mem_filterMap.mpr ⟨entry, member, named⟩)

theorem Match.children_ofLog_perm (info : NodeInfo) (log : List Caught)
    : (Match.ofLog info log).children.Perm (logNodes log) :=
  (Match.children_perm_captured _).trans (Match.captured_ofLog_perm info log)

/-- The starts of the children are those of the nodes of an ascending log. -/
theorem Match.map_start_children_ofLog {info : NodeInfo} {log : List Caught}
    (ascending : Ascending (logNodes log))
    : (Match.ofLog info log).children.map Match.start = (logNodes log).map Match.start :=
  ((Match.children_ofLog_perm info log).map Match.start).eq_of_pairwise
    (fun _ _ _ _ => Int.le_antisymm) (List.pairwise_map.mpr (ascending_children _))
    (List.pairwise_map.mpr ascending)

/-- Ascending nodes of a log are the children in order exactly if those of each offset are kept in
order.
-/
theorem Match.children_ofLog_iff {info : NodeInfo} {log : List Caught}
    (ascending : Ascending (logNodes log))
    : (Match.ofLog info log).children = logNodes log
      ↔ ∀ q, startingAt q (Match.ofLog info log).captured = startingAt q (logNodes log) := by
  constructor
  · intro same q
    rw [← startingAt_children, same]
  · intro same
    refine (ascending_children _).eq_of_startingAt ascending fun q => ?_
    rw [startingAt_children, same]

/-- What a log captured at one offset it captured under one name, or without one. -/
def NamedByStart (log : List Caught) : Prop :=
  ∀ first ∈ log, ∀ second ∈ log, ∀ m ∈ first.node?, ∀ n ∈ second.node?,
    m.start = n.start → first.name = second.name

namespace NamedByStart

variable {log : List Caught}

/-- The entries at an offset yield the same by name as they do by node. -/
theorem startingAt_filterMap {q : Int} {pick : Caught → Option Match}
    (picks
      : ∀ entry ∈ log, ∀ m ∈ entry.node?, m.start = q → pick entry = some m)
    (picked : ∀ entry m, pick entry = some m → entry.node? = some m)
    : startingAt q (log.filterMap pick) = startingAt q (logNodes log) := by
  simp only [startingAt, logNodes, List.filter_filterMap]
  refine List.filterMap_congr fun entry member => ?_
  cases isNode : entry.node? with
  | none =>
      cases found : pick entry with
      | none => rfl
      | some m =>
          rw [picked entry m found] at isNode
          cases isNode
  | some m =>
      by_cases here : m.start = q
      · rw [picks entry member m isNode here]
      · cases found : pick entry with
        | none => simp [Option.filter, here]
        | some n =>
            rw [picked entry n found] at isNode
            rw [isNode]

/-- What a node has at an offset stands as it was captured: it is all under the name of one entry
there.
-/
theorem startingAt_captured (named : NamedByStart log) (info : NodeInfo) (q : Int)
    : startingAt q (Match.ofLog info log).captured = startingAt q (logNodes log) := by
  have lengths : (startingAt q (Match.ofLog info log).captured).length
      = (startingAt q (logNodes log)).length :=
    ((Match.captured_ofLog_perm info log).filter _).length_eq
  have of_sublist {nodes : List Match} (kept : nodes.Sublist (Match.ofLog info log).captured)
      (same : startingAt q nodes = startingAt q (logNodes log))
      : startingAt q (Match.ofLog info log).captured = startingAt q (logNodes log) := by
    have within : (startingAt q nodes).Sublist (startingAt q (Match.ofLog info log).captured) :=
      kept.filter _
    rw [← same] at lengths ⊢
    exact (within.eq_of_length lengths.symm).symm
  by_cases present : ∃ entry ∈ log, ∃ m ∈ entry.node?, m.start = q
  · obtain ⟨entry, member, m, isNode, here⟩ := present
    have alike (other : Caught) (inLog : other ∈ log) (n : Match) (isOther : n ∈ other.node?)
        (there : n.start = q)
        : other.name = entry.name :=
      named other inLog entry member n isOther m isNode (there.trans here.symm)
    rw [Match.captured_ofLog] at of_sublist ⊢
    cases name : entry.name with
    | none =>
        refine of_sublist (List.sublist_append_right _ _) (startingAt_filterMap ?_
          fun _ _ found => (Caught.node?_of_positional? found).2)
        intro other inLog n isOther there
        have unnamed := (alike other inLog n isOther there).trans name
        match other, unnamed, isOther with
        | .node none _ _, rfl, isOther => exact isOther
    | some key =>
        have isKey : key ∈ Expr.distinct (log.filterMap Caught.name) :=
          mem_distinct.mpr (List.mem_filterMap.mpr ⟨entry, member, name⟩)
        have bucket : (log.filterMap (Caught.nodeNamed? key)).Sublist
            ((Expr.distinct (log.filterMap Caught.name)).flatMap fun key =>
              log.filterMap (Caught.nodeNamed? key)) :=
          List.sublist_flatten_of_mem (List.mem_map_of_mem isKey)
        refine of_sublist (bucket.trans (List.sublist_append_left _ _)) (startingAt_filterMap ?_
          fun _ _ found => (Caught.node?_of_nodeNamed? found).2)
        intro other inLog n isOther there
        have isNamed := (alike other inLog n isOther there).trans name
        match other, isNamed, isOther with
        | .node (some _) _ _, rfl, isOther => simpa [Caught.node?] using isOther
  · have absent : startingAt q (logNodes log) = [] := by
      refine List.filter_eq_nil_iff.mpr fun m member here => present ?_
      obtain ⟨entry, inLog, isNode⟩ := List.mem_filterMap.mp member
      exact ⟨entry, inLog, m, isNode, of_decide_eq_true here⟩
    rw [absent] at lengths ⊢
    exact List.length_eq_zero_iff.mp lengths

end NamedByStart

/-- The children of a node folded from ascending nodes stand in the order of the log, if what starts
at one offset has one name.
-/
theorem Match.children_ofLog {info : NodeInfo} {log : List Caught}
    (ascending : Ascending (logNodes log)) (named : NamedByStart log)
    : (Match.ofLog info log).children = logNodes log :=
  (Match.children_ofLog_iff ascending).mpr (named.startingAt_captured info)

namespace InOrder

variable {start stop : Int} {log : List Caught}

/-- The nodes of a log in order follow one another. -/
theorem follow (order : InOrder start stop log)
    : (logNodes log).Pairwise fun a b => a.stop ≤ b.start :=
  order.pairwise_filterMap Caught.node? fun _ _ found => found

theorem ascending (order : InOrder start stop log) : Ascending (logNodes log) := by
  refine order.follow.imp_of_mem fun {a b} inA _ follows => ?_
  have span := (order.inside a inA).2.1
  omega

/-- Nodes that are not empty start at offsets of their own. -/
theorem namedByStart (order : InOrder start stop log)
    (filled : ∀ m ∈ logNodes log, m.start < m.stop)
    : NamedByStart log := by
  intro first inLog second inLog' m isNode n isNode' same
  by_contra different
  have filledM := filled m (List.mem_filterMap.mpr ⟨first, inLog, isNode⟩)
  have filledN := filled n (List.mem_filterMap.mpr ⟨second, inLog', isNode'⟩)
  rcases order.apart_of_names inLog inLog' different isNode isNode' with before | behind <;> omega

end InOrder

end RuleGrammar
