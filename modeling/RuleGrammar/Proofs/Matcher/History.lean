import RuleGrammar.Matcher.Apply
import RuleGrammar.Proofs.MatchTree.Order
import RuleGrammar.Proofs.Matcher.Offset

/-! The history of a match: the nodes that it has made, one after the other. Every node is folded
from a log in order of nodes made before, and its identity counts those. What the matcher answers
or knows is always one of them, so that two nodes of one identity are one node.
-/

namespace RuleGrammar

-----------------------------------------------------------------------------------------
-- Nodes made one after the other
-----------------------------------------------------------------------------------------

/-- Nodes made inside a subject of some size, each from a log in order of earlier ones. -/
inductive History (size : Int) : List Match → Prop
  | empty : History size []
  | make {nodes info log} (before : History size nodes) (fresh : info.id = nodes.length)
    (inside : 0 ≤ info.start ∧ info.stop ≤ size)
    (order : InOrder info.start info.stop log) (known : logNodes log ⊆ nodes)
    : History size (nodes ++ [.ofLog info log])

namespace History

variable {size : Int} {nodes : List Match}

theorem placed (history : History size nodes) : ∀ m ∈ nodes, m.Placed size := by
  induction history with
  | empty => simp
  | make _ _ inside order _ ih =>
      intro m member
      rcases List.mem_append.mp member with earlier | new
      · exact ih m earlier
      · rw [List.mem_singleton.mp new]
        exact order.placed inside

/-- What a node of a history captured was made before it. -/
theorem captured_subset (history : History size nodes) : ∀ m ∈ nodes, m.captured ⊆ nodes := by
  induction history with
  | empty => simp
  | make _ _ _ _ known ih =>
      intro m member child captured
      refine List.mem_append_left _ ?_
      rcases List.mem_append.mp member with earlier | new
      · exact ih m earlier captured
      · rw [List.mem_singleton.mp new] at captured
        exact known (Match.mem_logNodes_of_captured captured)

/-- All nodes of a tree are in the history that its root is in, by induction on the tree. -/
theorem walk_subset (history : History size nodes) (m : Match) (member : m ∈ nodes)
    : m.walk ⊆ nodes := by
  intro node inTree
  rw [Match.walk] at inTree
  rcases List.mem_cons.mp inTree with rfl | below
  · exact member
  · obtain ⟨⟨child, isChild⟩, -, inChild⟩ := List.mem_flatMap.mp below
    have smaller := Match.sizeOf_lt_of_mem_children isChild
    exact history.walk_subset child
      (history.captured_subset m member (Match.mem_children.mp isChild)) inChild
termination_by sizeOf m

/-- The identity of a node is its place in the history. -/
theorem id_of_getElem? (history : History size nodes) {k : Nat} {m : Match}
    (found : nodes[k]? = some m)
    : m.id = k := by
  induction history with
  | empty => simp at found
  | @make nodes info log _ fresh _ _ _ ih =>
      rcases Nat.lt_trichotomy k nodes.length with earlier | rfl | beyond
      · rw [List.getElem?_append_left earlier] at found
        exact ih found
      · simp only [List.getElem?_concat_length, Option.some.injEq] at found
        subst found
        exact fresh
      · have none : (nodes ++ [Match.ofLog info log])[k]? = none :=
          List.getElem?_eq_none (by simp; omega)
        rw [none] at found
        cases found

/-- Nodes of one identity are one node. -/
theorem eq_of_id (history : History size nodes) {m n : Match} (member : m ∈ nodes)
    (member' : n ∈ nodes) (same : m.id = n.id)
    : m = n := by
  obtain ⟨i, found⟩ := List.mem_iff_getElem?.mp member
  obtain ⟨j, found'⟩ := List.mem_iff_getElem?.mp member'
  have index : i = j :=
    (history.id_of_getElem? found).symm.trans (same.trans (history.id_of_getElem? found'))
  rw [index, found'] at found
  exact (Option.some.inj found).symm

end History

/-- A matcher has made these nodes: it counts them, and known answers are among them. -/
structure MatcherState.Made (s : MatcherState) (size : Int) (nodes : List Match) : Prop where
  history : History size nodes
  counted : s.nextId = nodes.length
  known
    : ∀ key m,
        s.memo.find? key = some (some m)
        → m ∈ nodes ∧ m.start = key.pos

theorem MatcherState.Made.initial (size : Int) : MatcherState.Made {} size [] where
  history := .empty
  counted := rfl
  known := by
    intro key m found
    rw [Memo.find?_empty] at found
    cases found

-----------------------------------------------------------------------------------------
-- Computations that extend a history
-----------------------------------------------------------------------------------------

/-- When a computation that starts with some nodes made gives a value, the history has grown, if
at all, and the value is of a kind that may depend on it. A fault promises nothing.
-/
def Grows (size : Int) (nodes : List Match) {α : Type} (m : MatchM α)
    (holds : List Match → α → Prop)
    : Prop :=
  ∀ s, MatcherState.Made s size nodes → ∀ a t, m s = .ok a t →
    ∃ later, nodes ⊆ later ∧ t.Made size later ∧ holds later a

namespace Grows

variable {size : Int} {nodes : List Match} {α β : Type}

theorem pure {holds : List Match → α → Prop} {a : α} (value : holds nodes a)
    : Grows size nodes (Pure.pure a) holds := by
  rintro s made _ _ ⟨⟩
  exact ⟨nodes, List.Subset.refl nodes, made, value⟩

theorem throw {holds : List Match → α → Prop} (fault : Fault)
    : Grows size nodes (MonadExcept.throw fault) holds := by
  rintro s made a t ⟨⟩

/-- What follows a computation extends the history that the computation leaves. -/
theorem bind {m : MatchM α} {next : α → MatchM β} {holds : List Match → α → Prop}
    {wider : List Match → β → Prop} (first : Grows size nodes m holds)
    (then_ : ∀ later a, nodes ⊆ later → holds later a → Grows size later (next a) wider)
    : Grows size nodes (m >>= next) wider := by
  intro s made b u ran
  simp only [Bind.bind, EStateM.bind] at ran
  cases ended : m s with
  | error fault t =>
      rw [ended] at ran
      cases ran
  | ok a t =>
      rw [ended] at ran
      obtain ⟨later, more, after, value⟩ := first s made a t ended
      obtain ⟨last, more', after', value'⟩ := then_ later a more value t after b u ran
      exact ⟨last, List.Subset.trans more more', after', value'⟩

/-- A step that makes no node and learns no answer leaves the history as it is. -/
theorem quiet {m : MatchM α} {holds : List Match → α → Prop}
    (keeps
      : ∀ s a t,
          m s = .ok a t
          → t.nextId = s.nextId ∧ t.memo = s.memo ∧ holds nodes a)
    : Grows size nodes m holds := by
  intro s made a t ran
  obtain ⟨counted, memo, value⟩ := keeps s a t ran
  refine ⟨nodes, List.Subset.refl nodes, ⟨made.history, ?_, ?_⟩, value⟩
  · rw [counted, made.counted]
  · rw [memo]
    exact made.known

theorem expect (scope : Scope) (pos : Int) (what : Text)
    : Grows size nodes (MatchM.expect scope pos what) fun _ _ => True := by
  refine quiet fun s a t ran => ?_
  unfold MatchM.expect at ran
  split at ran <;> cases ran <;> exact ⟨rfl, rfl, trivial⟩

theorem expectGoal (scope : Scope) (pos : Int) (what : Text)
    : Grows size nodes (MatchM.expectGoal scope pos what) fun _ _ => True := by
  refine quiet fun s a t ran => ?_
  unfold MatchM.expectGoal at ran
  split at ran <;> cases ran <;> exact ⟨rfl, rfl, trivial⟩

theorem traceStart (env : MatchEnv) (scope : Scope) (rule : Rule) (pos : Int)
    : Grows size nodes (RuleGrammar.traceStart env scope rule pos) fun _ _ => True := by
  refine quiet fun s a t ran => ?_
  unfold RuleGrammar.traceStart at ran
  split at ran <;> cases ran <;> exact ⟨rfl, rfl, trivial⟩

theorem traceEnd (env : MatchEnv) (scope : Scope) (rule : Rule) (pos : Int)
    (answer : Option Match)
    : Grows size nodes (RuleGrammar.traceEnd env scope rule pos answer) fun _ _ => True := by
  refine quiet fun s a t ran => ?_
  unfold RuleGrammar.traceEnd at ran
  split at ran <;> cases ran <;> exact ⟨rfl, rfl, trivial⟩

theorem resolveOnce (env : MatchEnv) (name : Name)
    : Grows size nodes (RuleGrammar.resolveOnce env name) fun _ _ => True := by
  refine quiet fun s a t ran => ?_
  rw [RuleGrammar.resolveOnce, MatchM.get_bind] at ran
  cases known : Layer.lookupIn name s.resolved with
  | some entry =>
      simp only [known] at ran
      cases ran
      exact ⟨rfl, rfl, trivial⟩
  | none =>
      simp only [known] at ran
      cases found : env.grammar.resolve name with
      | error error =>
          simp only [found] at ran
          cases ran
      | ok entry =>
          simp only [found] at ran
          cases ran
          exact ⟨rfl, rfl, trivial⟩

/-- A node made of a log in order of known nodes joins the history. -/
theorem make (rule : Name) (tag : Option Name) {start stop : Int} {log : List Caught}
    (inside : 0 ≤ start ∧ stop ≤ size) (order : InOrder start stop log)
    (known : logNodes log ⊆ nodes)
    : Grows size nodes
        (do return .ofLog { id := ← MatchM.freshId, start, stop, rule, tag } log)
        fun later m => m ∈ later ∧ m.start = start ∧ m.stop = stop := by
  rintro s made _ _ ⟨⟩
  have history : History size (nodes ++ [.ofLog ⟨s.nextId, start, stop, rule, tag⟩ log]) :=
    .make made.history made.counted inside order known
  refine ⟨_, List.subset_append_left _ _, ⟨history, ?_, ?_⟩, ?_, rfl, rfl⟩
  · simp [made.counted]
  · intro key m found
    obtain ⟨member, starts⟩ := made.known key m found
    exact ⟨List.mem_append_left _ member, starts⟩
  · exact List.mem_append_right _ List.mem_cons_self

end Grows

-----------------------------------------------------------------------------------------
-- Answers in a history
-----------------------------------------------------------------------------------------

/-- An offset inside a subject or at its end. -/
def Subject.Inside (subject : Subject) (pos : Int) : Prop :=
  0 ≤ pos ∧ pos ≤ subject.size

/-- An offset reached from another by captures in order of nodes made so far. -/
structure Reached.From (r : Reached) (size : Int) (nodes : List Match) (pos : Int) : Prop where
  order : InOrder pos r.stop r.caught
  inside : r.stop ≤ size
  known : logNodes r.caught ⊆ nodes

/-- A match made so far that starts at an offset and ends ahead. -/
structure Match.From (m : Match) (size : Int) (nodes : List Match) (pos : Int) : Prop where
  member : m ∈ nodes
  start : m.start = pos
  ahead : pos ≤ m.stop
  inside : m.stop ≤ size

/-- A node of a history that starts at an offset is a match from there. -/
theorem History.from {size : Int} {nodes : List Match} (history : History size nodes)
    {m : Match} {pos : Int} (member : m ∈ nodes) (starts : m.start = pos)
    : m.From size nodes pos := by
  obtain ⟨-, ahead, inside⟩ := (history.placed m member).span
  exact ⟨member, starts, starts ▸ ahead, inside⟩

namespace Reached.From

variable {size pos middle : Int} {nodes later : List Match} {r s : Reached}

/-- An offset reached without captures. -/
theorem bare {stop : Int} (ahead : pos ≤ stop) (inside : stop ≤ size)
    : Reached.From ⟨stop, []⟩ size nodes pos :=
  ⟨.nil ahead, inside, by simp⟩

theorem mono (reached : r.From size nodes pos) (more : nodes ⊆ later)
    : r.From size later pos :=
  ⟨reached.order, reached.inside, List.Subset.trans reached.known more⟩

theorem earlier (reached : r.From size nodes middle) (before : pos ≤ middle)
    : r.From size nodes pos :=
  ⟨reached.order.earlier before, reached.inside, reached.known⟩

theorem ahead (reached : r.From size nodes pos) : pos ≤ r.stop :=
  reached.order.le

/-- What is reached from where another evaluation stopped adds to its captures. -/
theorem append (reached : r.From size nodes pos) (further : s.From size nodes r.stop)
    : Reached.From ⟨s.stop, r.caught ++ s.caught⟩ size nodes pos where
  order := reached.order.append further.order
  inside := further.inside
  known := by
    rw [logNodes, List.filterMap_append]
    exact List.append_subset.mpr ⟨reached.known, further.known⟩

/-- The node of a match as the only capture. -/
theorem single {m : Match} {stop : Int} (found : m.From size nodes pos) (stops : m.stop = stop)
    (name : Option Name) (listed : Bool)
    : Reached.From ⟨stop, [.node name m listed]⟩ size nodes pos where
  order := by
    have ahead := found.ahead
    refine .node (Int.le_of_eq found.start.symm) ?_ (.nil (Int.le_of_eq stops))
    rw [found.start]
    exact ahead
  inside := stops ▸ found.inside
  known := by simpa [Caught.node?] using found.member

/-- Leaving out entries leaves the captures of an offset reached in order. -/
theorem filter (reached : r.From size nodes pos) (kept : Caught → Bool)
    : Reached.From ⟨r.stop, r.caught.filter kept⟩ size nodes pos where
  order := reached.order.filter kept
  inside := reached.inside
  known := List.Subset.trans ((List.filter_sublist.filterMap _).subset) reached.known

end Reached.From

end RuleGrammar
