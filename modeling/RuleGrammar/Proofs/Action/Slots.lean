import RuleGrammar.Action.Stock
import RuleGrammar.Proofs.Action.PostOrder

/-! Callbacks and the slots that they write to. Callbacks that write to the node they are called
for, and to no other, leave a state that says which were called; when one fails, what those before
it left stays.
-/

namespace RuleGrammar

variable {subject : Subject} {table : ActionTable} {root m : Match} {nodes : List Match}

-----------------------------------------------------------------------------------------
-- Callbacks that keep to their slots
-----------------------------------------------------------------------------------------

/-- The state that actions end in, whether they fail or not. -/
def ActionM.leaves {α : Type} (actions : ActionM α) (s : ActionState) : ActionState :=
  match actions s with
  | .ok _ t | .error _ t => t

/-- Payloads change at some nodes only. -/
def Payloads.SameBut (nodes : List Match) (p q : Payloads) : Prop :=
  ∀ n : Match, (∀ m ∈ nodes, n.id ≠ m.id) → q.find? n = p.find? n

/-- Actions that leave a payload at one node, or none. -/
def KeepsToSlot {α : Type} (m : Match) (actions : ActionM α) : Prop :=
  ∀ s : ActionState,
    (actions.leaves s).called = s.called
    ∧ s.payloads.SameBut [m] (actions.leaves s).payloads

/-- The callbacks of a table write to the node that they are called for, and to no other. -/
def ActionTable.KeepsToSlots (table : ActionTable) : Prop :=
  ∀ rule tag callback,
    table.lookup rule tag = some callback → ∀ subject m, KeepsToSlot m (callback subject m)

/-- A table keeps to slots if each of its rows does. -/
theorem ActionTable.KeepsToSlots.of_rows
    (each : ∀ row ∈ table.rows, ∀ subject m, KeepsToSlot m (row.2 subject m))
    : table.KeepsToSlots := by
  intro rule tag callback found
  obtain ⟨row, member, -, rfl⟩ := ActionTable.exists_row_of_lookup found
  exact each row member

namespace KeepsToSlot

variable {α β : Type} {actions : ActionM α}

/-- Actions that only look at the state. -/
theorem of_reads (reads : ∀ s, actions.leaves s = s) : KeepsToSlot m actions := by
  intro s
  rw [reads s]
  exact ⟨rfl, fun _ _ => rfl⟩

theorem pure (a : α) : KeepsToSlot m (Pure.pure a : ActionM α) :=
  of_reads fun _ => rfl

theorem throw (fault : ActionFault) : KeepsToSlot m (MonadExcept.throw fault : ActionM α) :=
  of_reads fun _ => rfl

theorem get : KeepsToSlot m (MonadState.get : ActionM ActionState) :=
  of_reads fun _ => rfl

theorem bind {rest : α → ActionM β} (first : KeepsToSlot m actions)
    (then_ : ∀ a, KeepsToSlot m (rest a))
    : KeepsToSlot m (actions >>= rest) := by
  intro s
  have sameFirst := first s
  have read : (actions >>= rest).leaves s
      = match actions s with
        | .ok a t => (rest a).leaves t
        | .error _ t => t := by
    simp only [ActionM.leaves, Bind.bind, EStateM.bind]
    cases actions s <;> rfl
  rw [read]
  simp only [ActionM.leaves] at sameFirst
  cases acted : actions s with
  | error fault t => simpa only [acted] using sameFirst
  | ok a t =>
      simp only [acted] at sameFirst
      obtain ⟨called, others⟩ := then_ a t
      exact ⟨called.trans sameFirst.1, fun n apart => (others n apart).trans (sameFirst.2 n apart)⟩

theorem make (subject : Subject) (value : Value) : KeepsToSlot m (make subject m value) := by
  refine get.bind fun s => ?_
  split
  · exact .throw _
  · intro t
    refine ⟨rfl, fun n apart => ?_⟩
    exact Payloads.find?_insert_of_ne (apart m List.mem_cons_self)

theorem mapM {γ : Type} {f : γ → ActionM β} (items : List γ) (each : ∀ c, KeepsToSlot m (f c))
    : KeepsToSlot m (items.mapM f) := by
  induction items with
  | nil => exact .pure []
  | cons item rest ih =>
      rw [List.mapM_cons]
      exact (each item).bind fun b => ih.bind fun bs => .pure (b :: bs)

theorem foldlM {γ : Type} {f : β → γ → ActionM β} (items : List γ)
    (each : ∀ b c, KeepsToSlot m (f b c)) (b : β)
    : KeepsToSlot m (items.foldlM f b) := by
  induction items generalizing b with
  | nil => exact .pure b
  | cons item rest ih =>
      rw [List.foldlM_cons]
      exact (each b item).bind ih

end KeepsToSlot

namespace StockAction

variable {α : Type}

theorem orFault_keepsToSlot (fault : ActionFault) (a : Option α)
    : KeepsToSlot m (orFault fault a) := by
  cases a with
  | none => exact .throw fault
  | some a => exact .pure a

theorem madeOf_keepsToSlot (n : Match) : KeepsToSlot m (madeOf n) :=
  KeepsToSlot.get.bind fun _ => .pure _

theorem add_keepsToSlot (a b : Int ⊕ Double) : KeepsToSlot m (add a b) := by
  rcases a with i | d <;> rcases b with j | e
  · exact .pure _
  · exact (orFault_keepsToSlot _ _).bind fun _ => .pure _
  · exact (orFault_keepsToSlot _ _).bind fun _ => .pure _
  · exact .pure _

theorem sumOf_keepsToSlot (values : List Value) : KeepsToSlot m (sumOf values) := by
  refine KeepsToSlot.bind (.foldlM values (fun total value => ?_) _) fun total => ?_
  · exact (orFault_keepsToSlot _ _).bind fun _ => add_keepsToSlot _ _
  · cases total with
    | inl n => exact .pure _
    | inr d => exact .pure _

theorem madeAt_keepsToSlot (n : Match) (key : Option CaptureKey)
    : KeepsToSlot m (madeAt n key) := by
  cases key with
  | none => exact .throw _
  | some key =>
      rw [madeAt]
      split
      · exact madeOf_keepsToSlot _
      · exact .throw _
      · exact .throw _

/-- The ready-made callbacks keep to their slots. -/
theorem callback_keepsToSlot (action : StockAction) (subject : Subject) (m : Match)
    : KeepsToSlot m (action.callback subject m) := by
  cases action with
  | text | const => exact .make subject _
  | int | float => exact (orFault_keepsToSlot _ _).bind fun _ => .make subject _
  | children | pair | map | named =>
      exact (KeepsToSlot.mapM _ madeOf_keepsToSlot).bind fun _ => .make subject _
  | sum =>
      refine KeepsToSlot.bind (KeepsToSlot.get.bind fun _ => .pure _) fun nodes => ?_
      exact (sumOf_keepsToSlot nodes).bind fun _ => .make subject _
  | key k => exact (madeAt_keepsToSlot m k).bind fun _ => .make subject _
  | count => exact KeepsToSlot.get.bind fun _ => .make subject _
  | twice => exact (KeepsToSlot.make subject _).bind fun _ => .make subject _
  | ifUnset value =>
      refine KeepsToSlot.get.bind fun s => ?_
      split
      · exact .pure ()
      · exact .make subject value
  | fail => exact .throw _
  | nothing => exact .pure ()

end StockAction

-----------------------------------------------------------------------------------------
-- Faults
-----------------------------------------------------------------------------------------

variable {s t u : ActionState} {fault : ActionFault}

/-- Acting on nodes fails at the first one that fails, after those before it were done. -/
theorem exists_failing (failed : forM nodes (act subject table) s = .error fault t)
    : ∃ before m after mid,
        nodes = before ++ m :: after
        ∧ forM before (act subject table) s = .ok () mid
        ∧ act subject table m mid = .error fault t := by
  induction nodes generalizing s with
  | nil => cases failed
  | cons m rest ih =>
      rw [List.forM_cons] at failed
      cases acted : act subject table m s with
      | error fault' t' =>
          simp only [bind, EStateM.bind, acted] at failed
          cases failed
          exact ⟨[], m, rest, s, rfl, rfl, acted⟩
      | ok _ u =>
          simp only [bind, EStateM.bind, acted] at failed
          obtain ⟨before, n, after, mid, rfl, done, failing⟩ := ih failed
          refine ⟨m :: before, n, after, mid, rfl, ?_, failing⟩
          rw [List.forM_cons]
          simp only [bind, EStateM.bind, acted, done]

/-- Acting on a node with a callback records the call, and changes no payload of another node. -/
theorem ActionTable.KeepsToSlots.leaves_act (keeps : table.KeepsToSlots) (subject : Subject)
    (s : ActionState) (found : (table.callbackFor m).isSome = true)
    : ((act subject table m).leaves s).called = m :: s.called
      ∧ s.payloads.SameBut [m] ((act subject table m).leaves s).payloads := by
  obtain ⟨callback, found⟩ := Option.isSome_iff_exists.mp found
  have listed := ActionTable.lookup_of_callbackFor found
  have kept := keeps _ _ callback listed subject m { s with called := m :: s.called }
  rw [ActionM.leaves, act_of_found found]
  exact kept

/-- Acting on nodes with callbacks records the calls, and changes no payload of another node, by
induction on them.
-/
theorem ActionTable.KeepsToSlots.forM_act (keeps : table.KeepsToSlots)
    (found : ∀ m ∈ nodes, (table.callbackFor m).isSome = true)
    (done : forM nodes (act subject table) s = .ok () t)
    : t.called = nodes.reverse ++ s.called ∧ s.payloads.SameBut nodes t.payloads := by
  induction nodes generalizing s with
  | nil =>
      cases done
      exact ⟨rfl, fun _ _ => rfl⟩
  | cons m rest ih =>
      obtain ⟨called, others⟩ := keeps.leaves_act subject s (found m List.mem_cons_self)
      rw [List.forM_cons] at done
      simp only [ActionM.leaves] at called others
      cases acted : act subject table m s with
      | error fault u =>
          simp only [bind, EStateM.bind, acted] at done
          cases done
      | ok _ u =>
          simp only [bind, EStateM.bind, acted] at done called others
          obtain ⟨calledRest, othersRest⟩ :=
            ih (fun n inRest => found n (List.mem_cons_of_mem m inRest)) done
          refine ⟨by simp [calledRest, called], fun n apart => ?_⟩
          rw [othersRest n fun k inRest => apart k (List.mem_cons_of_mem m inRest)]
          exact others n fun k isFirst =>
            apart k (List.mem_singleton.mp isFirst ▸ List.mem_cons_self)

/-- Acting on nodes and then on others is acting on all of them. -/
theorem forM_act_append (first : List Match) {rest : List Match}
    (done : forM (first ++ rest) (act subject table) s = .ok () t)
    (doneFirst : forM first (act subject table) s = .ok () u)
    : forM rest (act subject table) u = .ok () t := by
  rw [List.forM_append] at done
  simpa only [bind, EStateM.bind, doneFirst] using done

/-- What the callbacks of some nodes left stays when the next one fails: their payloads are as they
were when they ended, the record holds them and the failing one, and no payload of another node
changed.
-/
theorem ActionTable.KeepsToSlots.left_at_failing {before after : List Match} {mid : ActionState}
    (keeps : table.KeepsToSlots)
    (found : ∀ n ∈ before ++ m :: after, (table.callbackFor n).isSome = true)
    (once : ((before ++ m :: after).map Match.id).Nodup)
    (done : forM before (act subject table) s = .ok () mid)
    (failing : act subject table m mid = .error fault t)
    : t.called = m :: before.reverse ++ s.called
      ∧ s.payloads.SameBut (before ++ [m]) t.payloads
      ∧ ∀ first n rest u,
          before = first ++ n :: rest
          → forM (first ++ [n]) (act subject table) s = .ok () u
          → t.payloads.find? n = u.payloads.find? n := by
  have foundBefore (n : Match) (member : n ∈ before) : (table.callbackFor n).isSome = true :=
    found n (List.mem_append_left _ member)
  obtain ⟨called, others⟩ := keeps.forM_act foundBefore done
  obtain ⟨calledLast, othersLast⟩ := keeps.leaves_act subject mid
    (found m (List.mem_append_right before List.mem_cons_self))
  simp only [ActionM.leaves, failing] at calledLast othersLast
  refine ⟨by rw [calledLast, called]; rfl, fun n apart => ?_, ?_⟩
  · rw [othersLast n fun k isLast => apart k (List.mem_append_right before isLast)]
    exact others n fun k earlier => apart k (List.mem_append_left [m] earlier)
  · rintro first n rest u rfl doneFirst
    -- The nodes after one of those done differ from it, as the failing one does.
    have apart : ∀ k ∈ rest ++ m :: after, n.id ≠ k.id := by
      intro k later same
      have twice := once
      rw [List.append_assoc, List.cons_append, List.map_append, List.map_cons] at twice
      have unique := (List.nodup_cons.mp (List.nodup_append.mp twice).2.1).1
      exact unique (same ▸ List.mem_map_of_mem later)
    have doneRest : forM rest (act subject table) u = .ok () mid :=
      forM_act_append (first ++ [n]) (by simpa using done) doneFirst
    have foundRest (k : Match) (inRest : k ∈ rest) : (table.callbackFor k).isSome = true :=
      foundBefore k (List.mem_append_right first (List.mem_cons_of_mem n inRest))
    rw [othersLast n fun k isLast => apart k
      (List.mem_append_right rest (List.mem_singleton.mp isLast ▸ List.mem_cons_self))]
    exact (keeps.forM_act foundRest doneRest).2 n fun k inRest =>
      apart k (List.mem_append_left _ inRest)

-----------------------------------------------------------------------------------------
-- A shared node
-----------------------------------------------------------------------------------------

/-- A node without captures. -/
def sharedNode : Match :=
  .node { id := 0, start := 0, stop := 0, rule := "e" } [] []

/-- A node that captures another one twice. -/
def sharingNode : Match :=
  .node { id := 1, start := 0, stop := 1, rule := "a" } [.listed "e" [sharedNode, sharedNode]] []

/-- Leaves a payload at a shared node, and fails above it. -/
def failingTable : ActionTable :=
  ⟨[(("e", none), (StockAction.const (.int 1)).callback), (("a", none), StockAction.fail.callback)]⟩

/-- Leaves two payloads at a node, which it must not. -/
def twiceTable : ActionTable :=
  ⟨[(("e", none), StockAction.twice.callback)]⟩

theorem sharedNode_children : sharedNode.children = [] := by
  simp [Match.children, sharedNode, Match.named, Match.positional]

theorem sharingNode_children : sharingNode.children = [sharedNode, sharedNode] := by
  simp [Match.children, sharingNode, Match.named, Match.positional, Capture.nodes, List.mergeSort]

theorem mem_sharedNode_walk : m ∈ sharedNode.walk ↔ m = sharedNode := by
  refine ⟨fun inTree => (Match.mem_walk inTree).resolve_right fun ⟨child, isChild, _⟩ => ?_, ?_⟩
  · simp [sharedNode_children] at isChild
  · rintro rfl
    exact Match.mem_walk_self _

theorem sharedNode_coherent : sharedNode.Coherent := by
  intro m inTree n inTree' _
  rw [mem_sharedNode_walk.mp inTree, mem_sharedNode_walk.mp inTree']

theorem sharingNode_coherent : sharingNode.Coherent := by
  have nodes (n : Match) (inTree : n ∈ sharingNode.walk) : n = sharingNode ∨ n = sharedNode := by
    refine (Match.mem_walk inTree).imp_right fun ⟨child, isChild, inChild⟩ => ?_
    obtain rfl : child = sharedNode := by simpa [sharingNode_children] using isChild
    exact mem_sharedNode_walk.mp inChild
  intro m inTree n inTree' same
  rcases nodes m inTree with rfl | rfl <;> rcases nodes n inTree' with rfl | rfl
  · rfl
  · cases same
  · cases same
  · rfl

theorem sharingNode_calls : failingTable.calls sharingNode = [sharedNode, sharingNode] := by
  have order : sharingNode.postOrder = [sharedNode, sharingNode] := by
    simp [Match.postOrder, Match.visit_eq, sharingNode_children, sharedNode_children]
  rw [ActionTable.calls, order]
  rfl

theorem sharedNode_calls : twiceTable.calls sharedNode = [sharedNode] := by
  have order : sharedNode.postOrder = [sharedNode] := by
    simp [Match.postOrder, Match.visit_eq, sharedNode_children]
  rw [ActionTable.calls, order]
  rfl

theorem failingTable_keepsToSlots : failingTable.KeepsToSlots := by
  refine .of_rows fun row member => ?_
  simp only [failingTable, List.mem_cons, List.not_mem_nil, or_false] at member
  rcases member with rfl | rfl
  · exact (StockAction.const (.int 1)).callback_keepsToSlot
  · exact StockAction.fail.callback_keepsToSlot

theorem twiceTable_keepsToSlots : twiceTable.KeepsToSlots := by
  refine .of_rows fun row member => ?_
  obtain rfl := List.mem_singleton.mp member
  exact StockAction.twice.callback_keepsToSlot

-----------------------------------------------------------------------------------------
-- Dispatch in post-order
-----------------------------------------------------------------------------------------

/-- Dispatch is the traversal in post-order. It acts on the reachable nodes that a callback belongs
to, each once and none before what is below it, in the order of the recursive traversal. If a
callback fails, those before it in that order have run to their end, and it ran up to its fault.
Callbacks that keep to their slots leave the payloads of all other nodes as they were, and what they
left stays. The tree itself is not part of the state that actions change.
-/
theorem applyActions_postOrder (subject : Subject) (table : ActionTable) (s : ActionState)
    (coherent : root.Coherent)
    : (∀ n,
          n ∈ table.calls root
          ↔ n ∈ root.walk ∧ n.rule ≠ [] ∧ (table.lookup n.rule n.tag).isSome = true)
      ∧ ((table.calls root).map Match.id).Nodup
      ∧ ((table.calls root).Pairwise fun earlier later => later ∉ earlier.walk)
      ∧ applyActions subject table root s = forM (table.calls root) (act subject table) s
      ∧ (∀ t,
          applyActions subject table root s = .ok () t
          → table.KeepsToSlots
          → t.called = (table.calls root).reverse ++ s.called
            ∧ s.payloads.SameBut (table.calls root) t.payloads)
      ∧ ∀ fault t,
          applyActions subject table root s = .error fault t
          → ∃ before m after mid callback,
              table.calls root = before ++ m :: after
              ∧ forM before (act subject table) s = .ok () mid
              ∧ table.callbackFor m = some callback
              ∧ callback subject m { mid with called := m :: mid.called } = .error fault t
              ∧ (table.KeepsToSlots
                → t.called = m :: before.reverse ++ s.called
                  ∧ s.payloads.SameBut (before ++ [m]) t.payloads
                  ∧ ∀ first n rest u,
                      before = first ++ n :: rest
                      → forM (first ++ [n]) (act subject table) s = .ok () u
                      → t.payloads.find? n = u.payloads.find? n) := by
  have found (n : Match) (called : n ∈ table.calls root) : (table.callbackFor n).isSome = true :=
    ((ActionTable.mem_calls coherent).mp called).2
  have once : ((table.calls root).map Match.id).Nodup := ActionTable.nodup_calls coherent
  rw [applyActions_eq_calls coherent]
  refine ⟨fun n => ?_, once, ActionTable.pairwise_calls coherent, rfl, fun t done keeps => ?_,
    fun fault t failed => ?_⟩
  · rw [ActionTable.mem_calls coherent, ActionTable.isSome_callbackFor]
  · exact keeps.forM_act found done
  · obtain ⟨before, m, after, mid, order, done, failing⟩ := exists_failing failed
    rw [order] at found once
    obtain ⟨callback, belongs⟩ := Option.isSome_iff_exists.mp
      (found m (List.mem_append_right before List.mem_cons_self))
    refine ⟨before, m, after, mid, callback, order, done, belongs, ?_, fun keeps => ?_⟩
    · rw [← act_of_found belongs, failing]
    · exact keeps.left_at_failing found once done failing

/-- A node that is captured twice is called once, its payload stays when its parent fails, and the
parent has none.
-/
theorem applyActions_postOrder_shared
    : sharingNode.Coherent
      ∧ failingTable.KeepsToSlots
      ∧ ∃ t,
          applyActions (.ofText "x") failingTable sharingNode {} = .error .badValue t
          ∧ t.called = [sharingNode, sharedNode]
          ∧ t.payloads.find? sharedNode = some (.int 1)
          ∧ ({} : ActionState).payloads.SameBut [sharedNode, sharingNode] t.payloads := by
  obtain ⟨-, -, -, same, -, fails⟩ :=
    applyActions_postOrder (.ofText "x") failingTable {} sharingNode_coherent
  have failed
      : applyActions (.ofText "x") failingTable sharingNode {}
        = .error .badValue
            { payloads := ({} : Payloads).insert sharedNode (.int 1),
              called := [sharingNode, sharedNode] } := by
    rw [same, sharingNode_calls]
    rfl
  obtain ⟨before, m, after, mid, callback, order, -, -, -, left⟩ := fails _ _ failed
  refine ⟨sharingNode_coherent, failingTable_keepsToSlots, _, failed, rfl,
    Payloads.find?_insert_self, ?_⟩
  rw [sharingNode_calls] at order
  obtain ⟨-, others, -⟩ := left failingTable_keepsToSlots
  intro n apart
  rw [order] at apart
  refine others n fun k called => apart k ?_
  rw [← List.singleton_append, ← List.append_assoc]
  exact List.mem_append_left after called

/-- A callback that fails after it left a payload is no exception: the payload stays, though the
callback did not end.
-/
theorem payload_left_by_failing
    : sharedNode.Coherent
      ∧ twiceTable.KeepsToSlots
      ∧ ∃ fault t,
          applyActions (.ofText "x") twiceTable sharedNode {} = .error fault t
          ∧ ∀ before m after,
              twiceTable.calls sharedNode = before ++ m :: after
              → ¬ ({} : ActionState).payloads.SameBut before t.payloads := by
  have failed
      : applyActions (.ofText "x") twiceTable sharedNode {}
        = .error (.alreadyMade (sharedNode.describe (.ofText "x")))
            { payloads := ({} : Payloads).insert sharedNode (.int 1),
              called := [sharedNode] } := by
    rw [applyActions_eq_calls sharedNode_coherent, sharedNode_calls]
    rfl
  refine ⟨sharedNode_coherent, twiceTable_keepsToSlots, _, _, failed,
    fun before m after order same => ?_⟩
  rw [sharedNode_calls] at order
  obtain rfl : before = [] := (List.append_eq_singleton_iff.mp order.symm).elim And.left
    fun last => absurd last.2 (List.cons_ne_nil m after)
  have unset := same sharedNode (by simp)
  rw [Payloads.find?_insert_self, Payloads.find?_empty] at unset
  cases unset

end RuleGrammar
