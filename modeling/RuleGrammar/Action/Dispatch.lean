import RuleGrammar.Action.Table

/-! Dispatch: the actions of a match tree, bottom up. The nodes still to do stand on a stack, a
node again below its children, and a node that two captures share is done once. -/

namespace RuleGrammar

mutual

/-- The number of nodes of a tree, shared ones counted as often as they occur. -/
def Match.nodeCount : Match → Nat
  | .node _ named positional => 1 + countNamed named + countNodes positional

def Capture.nodeCount : Capture → Nat
  | .single _ node => node.nodeCount
  | .listed _ nodes => countNodes nodes

def countNamed : List Capture → Nat
  | [] => 0
  | capture :: rest => capture.nodeCount + countNamed rest

def countNodes : List Match → Nat
  | [] => 0
  | node :: rest => node.nodeCount + countNodes rest

end

theorem countNodes_append (nodes more : List Match)
    : countNodes (nodes ++ more) = countNodes nodes + countNodes more := by
  induction nodes with
  | nil => simp [countNodes]
  | cons node rest ih => simp only [List.cons_append, countNodes, ih, Nat.add_assoc]

/-- The order of nodes does not matter for their number. -/
theorem countNodes_perm {nodes more : List Match} (same : nodes.Perm more)
    : countNodes nodes = countNodes more := by
  induction same with
  | nil => rfl
  | cons node _ ih => simp only [countNodes, ih]
  | swap first second rest => simp only [countNodes]; omega
  | trans _ _ left right => exact left.trans right

theorem countNamed_eq_countNodes (named : List Capture)
    : countNamed named = countNodes (named.flatMap Capture.nodes) := by
  induction named with
  | nil => rfl
  | cons capture rest ih =>
      cases capture with
      | single name node =>
          simp [countNamed, Capture.nodeCount, Capture.nodes, countNodes, ih]
      | listed name nodes =>
          simp [countNamed, Capture.nodeCount, Capture.nodes, countNodes_append, ih]

/-- The children hold all nodes of a tree but its root, since sorting keeps them. -/
theorem countNodes_children (m : Match) : countNodes m.children + 1 = m.nodeCount := by
  obtain ⟨info, named, positional⟩ := m
  have sorted := countNodes_perm (List.mergeSort_perm
    (named.flatMap Capture.nodes ++ positional) fun a b => decide (a.start ≤ b.start))
  simp only [Match.children, Match.named, Match.positional, Match.nodeCount,
    countNamed_eq_countNodes, sorted, countNodes_append]
  omega

/-- What is still to be done at a node: enter it, or call its callback. -/
inductive Task
  | enter (m : Match)
  | act (m : Match)

/-- Bounds the steps that a task takes. -/
def Task.cost : Task → Nat
  | enter m => 2 * m.nodeCount
  | act _ => 1

/-- Bounds the steps that a stack of tasks takes. -/
def totalCost : List Task → Nat
  | [] => 0
  | task :: rest => task.cost + totalCost rest

/-- The callback for a node. Nodes that no rule made have none. -/
def ActionTable.callbackFor (table : ActionTable) (m : Match) : Option Callback :=
  if m.rule.isEmpty then none else table.lookup m.rule m.tag

/-- Calls the callback of a node, if it has one. -/
def act (subject : Subject) (table : ActionTable) (m : Match) : ActionM Unit := do
  match table.callbackFor m with
  | none => return ()
  | some callback => do
      modify fun s => { s with called := m :: s.called }
      callback subject m

theorem totalCost_enter_append (nodes : List Match) (tasks : List Task)
    : totalCost (nodes.map Task.enter ++ tasks) = 2 * countNodes nodes + totalCost tasks := by
  induction nodes with
  | nil => simp [countNodes]
  | cons node rest ih =>
      simp only [List.map_cons, List.cons_append, totalCost, Task.cost, countNodes, ih]
      omega

/-- Works off the tasks on a stack. A node that was entered before is skipped; another one is
entered by putting its children on the stack, and its callback below them. -/
def workOff (subject : Subject) (table : ActionTable) (seen : Std.TreeMap Nat Unit)
    : List Task → ActionM Unit
  | [] => return ()
  | .act m :: rest => do
      act subject table m
      workOff subject table seen rest
  | .enter m :: rest =>
      if seen.contains m.id then workOff subject table seen rest
      else
        workOff subject table (seen.insert m.id ())
          (m.children.map Task.enter ++ .act m :: rest)
termination_by tasks => totalCost tasks
decreasing_by
  · simp [totalCost, Task.cost]
  · have := countNodes_children m
    simp only [totalCost, Task.cost]
    omega
  · have := countNodes_children m
    simp only [totalCost_enter_append, totalCost, Task.cost]
    omega

/-- Runs the actions of a tree: children from left to right, then their parent. -/
def applyActions (subject : Subject) (table : ActionTable) (m : Match) : ActionM Unit :=
  workOff subject table {} [.enter m]

end RuleGrammar
