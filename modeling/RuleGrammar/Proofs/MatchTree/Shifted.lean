import RuleGrammar.Proofs.MatchTree.Bare

/-! Match trees that are moved as a whole. Every span in a tree is moved by one distance, and the
tree stays as it is otherwise; folding a log of captures commutes with moving its nodes.
-/

namespace RuleGrammar

/-- A node that spans as much, further ahead by a distance. -/
def NodeInfo.shift (k : Int) (info : NodeInfo) : NodeInfo :=
  { info with start := info.start + k, stop := info.stop + k }

mutual

/-- A node with every span in it moved by a distance. -/
def Match.shift (k : Int) : Match → Match
  | .node info named positional =>
      .node (info.shift k) (shiftCaptures k named) (shiftNodes k positional)

def Capture.shift (k : Int) : Capture → Capture
  | .single name node => .single name (node.shift k)
  | .listed name nodes => .listed name (shiftNodes k nodes)

def shiftCaptures (k : Int) : List Capture → List Capture
  | [] => []
  | capture :: rest => capture.shift k :: shiftCaptures k rest

def shiftNodes (k : Int) : List Match → List Match
  | [] => []
  | node :: rest => node.shift k :: shiftNodes k rest

end

@[simp] theorem shiftNodes_eq_map (k : Int) (nodes : List Match)
    : shiftNodes k nodes = nodes.map (Match.shift k) := by
  induction nodes with
  | nil => rfl
  | cons node rest ih => simp [shiftNodes, ih]

@[simp] theorem shiftCaptures_eq_map (k : Int) (captures : List Capture)
    : shiftCaptures k captures = captures.map (Capture.shift k) := by
  induction captures with
  | nil => rfl
  | cons capture rest ih => simp [shiftCaptures, ih]

@[simp] theorem Match.shift_stop (k : Int) (m : Match) : (m.shift k).stop = m.stop + k := by
  obtain ⟨info, named, positional⟩ := m
  simp [Match.shift, NodeInfo.shift, Match.stop, Match.info]

theorem Capture.shift_eq_through (k : Int) (capture : Capture)
    : capture.shift k = capture.through (Match.shift k) := by
  cases capture <;> simp [Capture.shift, Capture.through]

/-- A node folded from a log is, moved, the node folded from the log with its nodes moved. -/
theorem Match.shift_ofLog (k : Int) (info : NodeInfo) (log : List Caught)
    : (Match.ofLog info log).shift k
      = Match.ofLog (info.shift k) (logThrough (Match.shift k) log) := by
  rw [Match.ofLog_through, Match.ofLog, Match.shift, shiftCaptures_eq_map, shiftNodes_eq_map,
    funext (Capture.shift_eq_through k)]
  rfl

end RuleGrammar
