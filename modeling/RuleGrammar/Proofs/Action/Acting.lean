import RuleGrammar.Action.Dispatch

/-! What actions leave at the nodes of a tree. A node takes its payload from those of its children,
whatever else has one; and dispatch, which does every node once and children first, leaves just
these payloads, also at nodes that several captures share.
-/

namespace RuleGrammar

-----------------------------------------------------------------------------------------
-- Payloads
-----------------------------------------------------------------------------------------

namespace Payloads

variable {p : Payloads} {m n : Match} {v : Value}

theorem find?_empty (m : Match) : ({} : Payloads).find? m = none := by
  simp [find?]

theorem find?_insert_self : (p.insert m v).find? m = some v := by
  simp [find?, insert]

theorem find?_insert_of_ne (other : n.id ≠ m.id) : (p.insert m v).find? n = p.find? n := by
  simp [find?, insert, Std.TreeMap.getElem?_insert, Ne.symm other]

theorem find?_insert_of_id (same : n.id = m.id) : (p.insert m v).find? n = some v := by
  simp [find?, insert, same]

end Payloads

/-- A payload is left at a node that has none. -/
theorem make_unset {subject : Subject} {m : Match} {v : Value} {s : ActionState}
    (unset : s.payloads.find? m = none)
    : make subject m v s = .ok () { s with payloads := s.payloads.insert m v } := by
  have free : s.payloads.isSet m = false := by rw [Payloads.isSet, unset]; rfl
  have read
      : make subject m v s
        = (if s.payloads.isSet m then throw (.alreadyMade (m.describe subject))
          else modify fun s => { s with payloads := s.payloads.insert m v } : ActionM Unit) s := rfl
  rw [read, free]
  rfl

-----------------------------------------------------------------------------------------
-- Trees of nodes with identities
-----------------------------------------------------------------------------------------

namespace Match

theorem mem_walk_self (m : Match) : m ∈ m.walk := by
  rw [walk]
  exact List.mem_cons_self

theorem walk_subset_of_mem_children {m child : Match} (member : child ∈ m.children)
    : child.walk ⊆ m.walk := by
  intro n inTree
  rw [walk]
  exact List.mem_cons_of_mem m
    (List.mem_flatMap.mpr ⟨⟨child, member⟩, List.mem_attach _ _, inTree⟩)

/-- What is not the root of a tree is in the tree of one of its children. -/
theorem mem_walk {m n : Match} (member : n ∈ m.walk)
    : n = m ∨ ∃ child ∈ m.children, n ∈ child.walk := by
  rw [walk] at member
  rcases List.mem_cons.mp member with same | below
  · exact Or.inl same
  · obtain ⟨⟨child, isChild⟩, -, inChild⟩ := List.mem_flatMap.mp below
    exact Or.inr ⟨child, isChild, inChild⟩

/-- The tree of a node in a tree is a part of it, by induction on trees. -/
theorem walk_subset {m n : Match} (member : n ∈ m.walk) : n.walk ⊆ m.walk := by
  rcases mem_walk member with rfl | ⟨child, isChild, inChild⟩
  · exact List.Subset.refl _
  · have smaller := sizeOf_lt_of_mem_children isChild
    exact fun k below => walk_subset_of_mem_children isChild (walk_subset inChild below)
termination_by sizeOf m

theorem sizeOf_le_of_mem_walk {m n : Match} (member : n ∈ m.walk) : sizeOf n ≤ sizeOf m := by
  rcases mem_walk member with rfl | ⟨child, isChild, inChild⟩
  · exact Nat.le_refl _
  · have smaller := sizeOf_lt_of_mem_children isChild
    have below := sizeOf_le_of_mem_walk inChild
    omega
termination_by sizeOf m

/-- No node is below one of its children. -/
theorem not_mem_walk_of_mem_children {m child : Match} (member : child ∈ m.children)
    : m ∉ child.walk := by
  intro inside
  have smaller := sizeOf_lt_of_mem_children member
  have below := sizeOf_le_of_mem_walk inside
  omega

/-- In a tree, nodes of one identity are one node. -/
def Coherent (root : Match) : Prop :=
  ∀ m ∈ root.walk, ∀ n ∈ root.walk, m.id = n.id → m = n

theorem Coherent.below {root m : Match} (coherent : root.Coherent) (member : m ∈ root.walk)
    : m.Coherent :=
  fun a inTree b inTree' => coherent a (walk_subset member inTree) b (walk_subset member inTree')

end Match

-----------------------------------------------------------------------------------------
-- What is left at a node
-----------------------------------------------------------------------------------------

/-- What actions leave at a node: nothing where no callback belongs to it, and otherwise the value
that its callback makes wherever its children have what actions leave at them.
-/
inductive Acts (subject : Subject) (table : ActionTable) : Match → Option Value → Prop
  | idle {m} {below : Match → Option Value}
    (each : ∀ child ∈ m.children, Acts subject table child (below child))
    (silent : table.callbackFor m = none)
    : Acts subject table m none
  | made {m v callback} {below : Match → Option Value}
    (each : ∀ child ∈ m.children, Acts subject table child (below child))
    (found : table.callbackFor m = some callback)
    (makes
      : ∀ s : ActionState,
          (∀ child ∈ m.children, s.payloads.find? child = below child)
          → callback subject m s = make subject m v s)
    : Acts subject table m (some v)

variable {subject : Subject} {table : ActionTable} {root m : Match}

/-- There are payloads that give some nodes what is wanted at them, and others nothing. -/
theorem exists_payloads {nodes : List Match} (below : Match → Option Value)
    (coherent : ∀ a ∈ nodes, ∀ b ∈ nodes, a.id = b.id → a = b)
    : ∃ p : Payloads,
        (∀ n ∈ nodes, p.find? n = below n)
        ∧ ∀ n : Match, (∀ k ∈ nodes, k.id ≠ n.id) → p.find? n = none := by
  induction nodes with
  | nil => exact ⟨{}, by simp, fun n _ => Payloads.find?_empty n⟩
  | cons first rest ih =>
      obtain ⟨p, holds, others⟩ := ih fun a inRest b inRest' =>
        coherent a (List.mem_cons_of_mem _ inRest) b (List.mem_cons_of_mem _ inRest')
      cases wanted : below first with
      | none =>
          refine ⟨p, fun n member => ?_, fun n apart => others n fun k inRest => ?_⟩
          · rcases List.mem_cons.mp member with rfl | inRest
            · by_cases known : ∃ k ∈ rest, k.id = n.id
              · obtain ⟨k, inRest, same⟩ := known
                have one := coherent k (List.mem_cons_of_mem _ inRest) n List.mem_cons_self same
                exact holds n (one ▸ inRest)
              · rw [others n fun k inRest same => known ⟨k, inRest, same⟩, wanted]
            · exact holds n inRest
          · exact apart k (List.mem_cons_of_mem _ inRest)
      | some v =>
          refine ⟨p.insert first v, fun n member => ?_, fun n apart => ?_⟩
          · by_cases same : n.id = first.id
            · rw [Payloads.find?_insert_of_id same,
                coherent n member first List.mem_cons_self same, wanted]
            · rcases List.mem_cons.mp member with rfl | inRest
              · exact absurd rfl same
              · rw [Payloads.find?_insert_of_ne same, holds n inRest]
          · rw [Payloads.find?_insert_of_ne (Ne.symm (apart first List.mem_cons_self))]
            exact others n fun k inRest => apart k (List.mem_cons_of_mem _ inRest)

/-- Actions leave one thing at a node, by induction on the tree: its children have one thing each,
and there are payloads that say so.
-/
theorem Acts.unique {v w : Option Value} (coherent : m.Coherent)
    (acts : Acts subject table m v) (acts' : Acts subject table m w)
    : v = w := by
  induction acts generalizing w with
  | idle _ silent =>
      cases acts' with
      | idle _ _ => rfl
      | made _ found _ =>
          rw [silent] at found
          cases found
  | @made m v callback below each found makes ih =>
      cases acts' with
      | idle _ silent =>
          rw [silent] at found
          cases found
      | @made _ w callback' below' each' found' makes' =>
          obtain rfl : callback = callback' := Option.some.inj (found.symm.trans found')
          have inside {child : Match} (isChild : child ∈ m.children) : child ∈ m.walk :=
            Match.walk_subset_of_mem_children isChild child.mem_walk_self
          obtain ⟨p, holds, others⟩ := exists_payloads below fun a isChild b isChild' =>
            coherent a (inside isChild) b (inside isChild')
          have unset : p.find? m = none := by
            refine others m fun child isChild same => ?_
            have one := coherent child (inside isChild) m m.mem_walk_self same
            exact Match.not_mem_walk_of_mem_children isChild (one ▸ child.mem_walk_self)
          let s : ActionState := ⟨p, []⟩
          have first := makes s holds
          have second := makes' s fun child isChild => by
            rw [show s.payloads.find? child = below child from holds child isChild]
            exact ih child isChild (coherent.below (inside isChild)) (each' child isChild)
          rw [first, make_unset unset, make_unset unset] at second
          have same := congrArg (fun s => s.payloads.find? m) (EStateM.Result.ok.inj second).2
          simpa only [Payloads.find?_insert_self] using same

/-- What actions leave at a node depends on its children through what they leave there. -/
theorem exists_below (coherent : m.Coherent)
    (each : ∀ child ∈ m.children, ∃ v, Acts subject table child v)
    : ∃ below : Match → Option Value,
        (∀ child ∈ m.children, Acts subject table child (below child))
        ∧ ∀ child ∈ m.children, ∀ v, Acts subject table child v → below child = v := by
  classical
  let below (child : Match) : Option Value :=
    if some : ∃ v, Acts subject table child v then some.choose else none
  have chosen {child : Match} (some : ∃ v, Acts subject table child v)
      : below child = some.choose := dif_pos some
  refine ⟨below, fun child isChild => ?_, fun child isChild v acts => ?_⟩
  · rw [chosen (each child isChild)]
    exact (each child isChild).choose_spec
  · have inside := Match.walk_subset_of_mem_children isChild child.mem_walk_self
    rw [chosen ⟨v, acts⟩]
    exact (each child isChild).choose_spec.unique (coherent.below inside) acts

theorem Acts.of_silent (coherent : m.Coherent)
    (each : ∀ child ∈ m.children, ∃ v, Acts subject table child v)
    (silent : table.callbackFor m = none)
    : Acts subject table m none := by
  obtain ⟨below, eachBelow, -⟩ := exists_below coherent each
  exact .idle eachBelow silent

/-- A callback leaves the value that it makes wherever the children have their payloads. -/
theorem Acts.of_makes {callback : Callback} {v : Value} (coherent : m.Coherent)
    (each : ∀ child ∈ m.children, ∃ v, Acts subject table child v)
    (found : table.callbackFor m = some callback)
    (makes
      : ∀ s : ActionState,
          (∀ child ∈ m.children,
            ∀ v, Acts subject table child v → s.payloads.find? child = v)
          → callback subject m s = make subject m v s)
    : Acts subject table m (some v) := by
  obtain ⟨below, eachBelow, same⟩ := exists_below coherent each
  refine .made eachBelow found fun s holds => makes s fun child isChild v acts => ?_
  rw [holds child isChild, same child isChild v acts]

-----------------------------------------------------------------------------------------
-- Dispatch
-----------------------------------------------------------------------------------------

variable (subject table) in
/-- A tree is done: it was seen whole, and its nodes have what actions leave at them. -/
def IsDone (seen : Std.TreeMap Nat Unit) (p : Payloads) (m : Match) : Prop :=
  ∀ n ∈ m.walk,
    seen.contains n.id = true
    ∧ ∀ v, Acts subject table n v → p.find? n = v

variable (subject table) in
/-- Every node of a tree is done with what is below it, or neither seen nor does it have a payload.
-/
def IsReady (seen : Std.TreeMap Nat Unit) (p : Payloads) (m : Match) : Prop :=
  ∀ n ∈ m.walk,
    IsDone subject table seen p n
    ∨ seen.contains n.id = false ∧ p.find? n = none

variable (subject table) in
/-- Dispatch has moved on inside a tree: what was seen stays as it was, what is newly seen is done,
and what is not has no new payload.
-/
structure MovedOn (root : Match) (seen : Std.TreeMap Nat Unit) (p : Payloads)
    (seen' : Std.TreeMap Nat Unit) (p' : Payloads) : Prop where
  kept : ∀ id, seen.contains id = true → seen'.contains id = true
  new
    : ∀ n ∈ root.walk,
        seen'.contains n.id = true
        → seen.contains n.id = true ∨ IsDone subject table seen' p' n
  frame
    : ∀ n ∈ root.walk,
        seen.contains n.id = true ∨ seen'.contains n.id = false
        → p'.find? n = p.find? n

namespace MovedOn

variable {seen seen' seen'' : Std.TreeMap Nat Unit} {p p' p'' : Payloads}

theorem refl : MovedOn subject table root seen p seen p where
  kept _ known := known
  new _ _ known := Or.inl known
  frame _ _ _ := rfl

/-- What is done stays done. -/
theorem isDone (moved : MovedOn subject table root seen p seen' p') (inTree : m ∈ root.walk)
    (done : IsDone subject table seen p m)
    : IsDone subject table seen' p' m := by
  intro n below
  obtain ⟨known, holds⟩ := done n below
  refine ⟨moved.kept _ known, fun v acts => ?_⟩
  rw [moved.frame n (Match.walk_subset inTree below) (Or.inl known)]
  exact holds v acts

theorem isReady (moved : MovedOn subject table root seen p seen' p') (inTree : m ∈ root.walk)
    (ready : IsReady subject table seen p m)
    : IsReady subject table seen' p' m := by
  intro n below
  have inside := Match.walk_subset inTree below
  rcases ready n below with done | ⟨unknown, unset⟩
  · exact Or.inl (moved.isDone inside done)
  · cases known : seen'.contains n.id with
    | true =>
        refine Or.inl ((moved.new n inside known).resolve_left fun already => ?_)
        rw [unknown] at already
        cases already
    | false => exact Or.inr ⟨rfl, (moved.frame n inside (Or.inr known)).trans unset⟩

theorem trans (first : MovedOn subject table root seen p seen' p')
    (second : MovedOn subject table root seen' p' seen'' p'')
    : MovedOn subject table root seen p seen'' p'' where
  kept id known := second.kept id (first.kept id known)
  new n inTree known := by
    rcases second.new n inTree known with before | done
    · exact (first.new n inTree before).imp_right fun done => second.isDone inTree done
    · exact Or.inr done
  frame n inTree known := by
    rcases known with before | unseen
    · rw [second.frame n inTree (Or.inl (first.kept _ before)),
        first.frame n inTree (Or.inl before)]
    · have earlier : seen'.contains n.id = false := by
        cases earlier : seen'.contains n.id with
        | false => rfl
        | true =>
            rw [second.kept _ earlier] at unseen
            cases unseen
      rw [second.frame n inTree (Or.inr unseen), first.frame n inTree (Or.inr earlier)]

end MovedOn

variable (subject table) in
/-- Entering a node leads to a state in which its tree is done, and the tasks below it go on. -/
def Completes (root : Match) (m : Match) : Prop :=
  ∀ (seen : Std.TreeMap Nat Unit) (s : ActionState) (tasks : List Task),
    IsReady subject table seen s.payloads m
    → ∃ seen' t,
        workOff subject table seen (.enter m :: tasks) s
          = workOff subject table seen' tasks t
        ∧ IsDone subject table seen' t.payloads m
        ∧ MovedOn subject table root seen s.payloads seen' t.payloads

/-- Nodes that complete one by one complete one after the other, by induction on them. -/
theorem completes_all {nodes : List Match} {seen : Std.TreeMap Nat Unit} {s : ActionState}
    (tasks : List Task) (each : ∀ m ∈ nodes, Completes subject table root m)
    (inTree : ∀ m ∈ nodes, m ∈ root.walk)
    (ready : ∀ m ∈ nodes, IsReady subject table seen s.payloads m)
    : ∃ seen' t,
        workOff subject table seen (nodes.map Task.enter ++ tasks) s
          = workOff subject table seen' tasks t
        ∧ (∀ m ∈ nodes, IsDone subject table seen' t.payloads m)
        ∧ MovedOn subject table root seen s.payloads seen' t.payloads := by
  induction nodes generalizing seen s with
  | nil => exact ⟨seen, s, rfl, by simp, .refl⟩
  | cons m rest ih =>
      obtain ⟨seen', t, first, done, moved⟩ := each m List.mem_cons_self seen s
        (rest.map Task.enter ++ tasks) (ready m List.mem_cons_self)
      have inRest (n : Match) (member : n ∈ rest) := List.mem_cons_of_mem m member
      obtain ⟨seen'', u, second, doneRest, movedRest⟩ := ih
        (fun n member => each n (inRest n member)) (fun n member => inTree n (inRest n member))
        fun n member => moved.isReady (inTree n (inRest n member)) (ready n (inRest n member))
      refine ⟨seen'', u, ?_, fun n member => ?_, moved.trans movedRest⟩
      · rw [List.map_cons, List.cons_append, first, second]
      · rcases List.mem_cons.mp member with rfl | later
        · exact movedRest.isDone (inTree n List.mem_cons_self) done
        · exact doneRest n later

/-- A node whose children have what actions leave at them gets it itself, and no other node does. -/
theorem exists_act {v : Option Value} (acts : Acts subject table m v)
    : ∃ below : Match → Option Value,
        (∀ child ∈ m.children, Acts subject table child (below child))
        ∧ ∀ s : ActionState,
            (∀ child ∈ m.children, s.payloads.find? child = below child)
            → s.payloads.find? m = none
            → ∃ t : ActionState,
                act subject table m s = .ok () t
                ∧ t.payloads.find? m = v
                ∧ ∀ n : Match, n.id ≠ m.id → t.payloads.find? n = s.payloads.find? n := by
  cases acts with
  | @idle _ below each silent =>
      refine ⟨below, each, fun s _ unset => ⟨s, ?_, unset, fun _ _ => rfl⟩⟩
      rw [act, silent]
      rfl
  | @made _ v callback below each found makes =>
      refine ⟨below, each, fun s holds unset => ?_⟩
      let called : ActionState := { s with called := m :: s.called }
      have made : callback subject m called
          = .ok () { called with payloads := s.payloads.insert m v } :=
        (makes called holds).trans (make_unset unset)
      refine ⟨{ called with payloads := s.payloads.insert m v }, ?_, Payloads.find?_insert_self,
        fun n other => Payloads.find?_insert_of_ne other⟩
      rw [act, found]
      exact made

section Node

variable {seen seen' : Std.TreeMap Nat Unit} {p p' p'' : Payloads}

theorem contains_insert_iff (m : Match) (id : Nat)
    : (seen.insert m.id ()).contains id = true ↔ id = m.id ∨ seen.contains id = true := by
  simp only [Std.TreeMap.contains_insert, Bool.or_eq_true, beq_iff_eq, Nat.compare_eq_eq]
  exact or_congr_left eq_comm

variable (coherent : root.Coherent) (inTree : m ∈ root.walk)

include coherent inTree

/-- Once a node was seen, its children are as ready as it was: it is none of the nodes below them.
-/
theorem isReady_below (ready : IsReady subject table seen p m) {child : Match}
    (isChild : child ∈ m.children)
    : IsReady subject table (seen.insert m.id ()) p child := by
  intro n inChild
  have inside := Match.walk_subset_of_mem_children isChild inChild
  rcases ready n inside with done | ⟨unseen, free⟩
  · refine Or.inl fun k inN => ?_
    obtain ⟨seenK, holds⟩ := done k inN
    exact ⟨(contains_insert_iff m k.id).mpr (Or.inr seenK), holds⟩
  · refine Or.inr ⟨Bool.eq_false_iff.mpr fun seenN => ?_, free⟩
    rcases (contains_insert_iff m n.id).mp seenN with same | seenN
    · have one := coherent n (Match.walk_subset inTree inside) m inTree same
      exact Match.not_mem_walk_of_mem_children isChild (one ▸ inChild)
    · rw [unseen] at seenN
      cases seenN

variable {v : Option Value} (acts : Acts subject table m v) (left : p''.find? m = v)
  (others : ∀ n : Match, n.id ≠ m.id → p''.find? n = p'.find? n)

include acts left others

/-- A payload left at one node keeps what is done below another node done. -/
theorem holds_after {n : Match} (inRoot : n ∈ root.walk)
    (holds : n = m ∨ ∀ w, Acts subject table n w → p'.find? n = w)
    : ∀ w, Acts subject table n w → p''.find? n = w := by
  intro w actsN
  by_cases same : n.id = m.id
  · obtain rfl := coherent n inRoot m inTree same
    exact left.trans (acts.unique (coherent.below inTree) actsN)
  · rw [others n same]
    rcases holds with rfl | holds
    · exact absurd rfl same
    · exact holds w actsN

variable (moved : MovedOn subject table root (seen.insert m.id ()) p seen' p')

include moved

/-- A node is done when its children are and it was acted on. -/
theorem isDone_after (done : ∀ child ∈ m.children, IsDone subject table seen' p' child)
    : IsDone subject table seen' p'' m := by
  intro n inside
  have holds := holds_after coherent inTree acts left others (Match.walk_subset inTree inside)
  rcases Match.mem_walk inside with rfl | ⟨child, isChild, inChild⟩
  · have seenSelf : (seen.insert n.id ()).contains n.id = true :=
      (contains_insert_iff n n.id).mpr (Or.inl rfl)
    exact ⟨moved.kept _ seenSelf, holds (Or.inl rfl)⟩
  · obtain ⟨seenN, holdsBefore⟩ := done child isChild n inChild
    exact ⟨seenN, holds (Or.inr holdsBefore)⟩

/-- Working off a node that was not seen, down to acting on it, moves dispatch on. -/
theorem movedOn_after (unseen : seen.contains m.id = false)
    (done : ∀ child ∈ m.children, IsDone subject table seen' p' child)
    : MovedOn subject table root seen p seen' p'' where
  kept id seenId := moved.kept id ((contains_insert_iff m id).mpr (Or.inr seenId))
  new n inRoot seenN := by
    have doneSelf := isDone_after coherent inTree acts left others moved done
    rcases moved.new n inRoot seenN with before | doneN
    · rcases (contains_insert_iff m n.id).mp before with same | seenBefore
      · exact Or.inr (coherent n inRoot m inTree same ▸ doneSelf)
      · exact Or.inl seenBefore
    · refine Or.inr fun k inside => ?_
      obtain ⟨seenK, holds⟩ := doneN k inside
      have inRootK := Match.walk_subset inRoot inside
      exact ⟨seenK, holds_after coherent inTree acts left others inRootK (Or.inr holds)⟩
  frame n inRoot unchanged := by
    have other : n.id ≠ m.id := by
      intro same
      rw [same] at unchanged
      rcases unchanged with seenSelf | unseenSelf
      · rw [unseen] at seenSelf
        cases seenSelf
      · rw [moved.kept _ ((contains_insert_iff m m.id).mpr (Or.inl rfl))] at unseenSelf
        cases unseenSelf
    rw [others n other]
    refine moved.frame n inRoot (unchanged.imp_left fun seenN => ?_)
    exact (contains_insert_iff m n.id).mpr (Or.inr seenN)

end Node

/-- A node completes if its children do: they are done when it is acted on. -/
theorem completes_node {v : Option Value} (coherent : root.Coherent) (inTree : m ∈ root.walk)
    (acts : Acts subject table m v)
    (each : ∀ child ∈ m.children, Completes subject table root child)
    : Completes subject table root m := by
  intro seen s tasks ready
  cases known : seen.contains m.id with
  | true =>
      have done : IsDone subject table seen s.payloads m := by
        refine (ready m m.mem_walk_self).resolve_right fun unseen => ?_
        rw [known] at unseen
        cases unseen.1
      refine ⟨seen, s, ?_, done, .refl⟩
      rw [workOff, if_pos known]
  | false =>
      have unset : s.payloads.find? m = none := by
        rcases ready m m.mem_walk_self with done | unseen
        · have seenSelf := (done m m.mem_walk_self).1
          rw [known] at seenSelf
          cases seenSelf
        · exact unseen.2
      have inside (child : Match) (isChild : child ∈ m.children) : child ∈ root.walk :=
        Match.walk_subset inTree (Match.walk_subset_of_mem_children isChild child.mem_walk_self)
      obtain ⟨seen', t, worked, done, moved⟩ := completes_all (.act m :: tasks) each inside
        fun child isChild => isReady_below coherent inTree ready isChild
      have seenSelf : (seen.insert m.id ()).contains m.id = true :=
        (contains_insert_iff m m.id).mpr (Or.inl rfl)
      have unsetStill := (moved.frame m inTree (Or.inl seenSelf)).trans unset
      obtain ⟨values, eachActs, acting⟩ := exists_act acts
      have holds (child : Match) (isChild : child ∈ m.children)
          : t.payloads.find? child = values child :=
        (done child isChild child child.mem_walk_self).2 _ (eachActs child isChild)
      obtain ⟨u, acted, left, others⟩ := acting t holds unsetStill
      refine ⟨seen', u, ?_, isDone_after coherent inTree acts left others moved done,
        movedOn_after coherent inTree acts left others moved known done⟩
      rw [workOff, if_neg (by simp [known]), worked, workOff]
      simp only [bind, EStateM.bind, acted]

/-- Every node of a tree completes, by induction on what actions leave at it. -/
theorem Acts.completes {v : Option Value} (acts : Acts subject table m v)
    (coherent : root.Coherent) (inTree : m ∈ root.walk)
    : Completes subject table root m := by
  have inside {m child : Match} (inTree : m ∈ root.walk) (isChild : child ∈ m.children)
      : child ∈ root.walk :=
    Match.walk_subset inTree (Match.walk_subset_of_mem_children isChild child.mem_walk_self)
  induction acts with
  | idle each silent ih =>
      exact completes_node coherent inTree (.idle each silent) fun child isChild =>
        ih child isChild (inside inTree isChild)
  | made each found makes ih =>
      exact completes_node coherent inTree (.made each found makes) fun child isChild =>
        ih child isChild (inside inTree isChild)

/-- Dispatch over a tree does not fail, and every node has then what actions leave at it. -/
theorem applyActions_of_acts {v : Option Value} (coherent : root.Coherent)
    (acts : Acts subject table root v)
    : ∃ t,
        applyActions subject table root {} = .ok () t
        ∧ ∀ n ∈ root.walk, ∀ w, Acts subject table n w → t.payloads.find? n = w := by
  have ready : IsReady subject table {} ({} : ActionState).payloads root := by
    intro n _
    exact Or.inr ⟨by simp, Payloads.find?_empty n⟩
  obtain ⟨seen, t, worked, done, -⟩ :=
    acts.completes coherent root.mem_walk_self {} {} [] ready
  refine ⟨t, ?_, fun n inTree => (done n inTree).2⟩
  rw [applyActions, worked, workOff]
  rfl

end RuleGrammar
