import RuleGrammar.Matcher.Evaluate

/-! Match trees without the identities of their nodes. Two trees with one bare form agree in
rules, tags, spans and captures; folding a log of captures commutes with taking bare forms.
-/

namespace RuleGrammar

-----------------------------------------------------------------------------------------
-- Bare forms
-----------------------------------------------------------------------------------------

mutual

/-- A node with every identity in it replaced by zero. -/
def Match.bare : Match → Match
  | .node info named positional =>
      .node { info with id := 0 } (bareCaptures named) (bareNodes positional)

def Capture.bare : Capture → Capture
  | .single name node => .single name node.bare
  | .listed name nodes => .listed name (bareNodes nodes)

def bareCaptures : List Capture → List Capture
  | [] => []
  | capture :: rest => capture.bare :: bareCaptures rest

def bareNodes : List Match → List Match
  | [] => []
  | node :: rest => node.bare :: bareNodes rest

end

@[simp] theorem bareNodes_eq_map (nodes : List Match)
    : bareNodes nodes = nodes.map Match.bare := by
  induction nodes with
  | nil => rfl
  | cons node rest ih => simp [bareNodes, ih]

@[simp] theorem bareCaptures_eq_map (captures : List Capture)
    : bareCaptures captures = captures.map Capture.bare := by
  induction captures with
  | nil => rfl
  | cons capture rest ih => simp [bareCaptures, ih]

@[simp] theorem Match.bare_stop (m : Match) : m.bare.stop = m.stop := by
  obtain ⟨info, named, positional⟩ := m
  simp [Match.bare, Match.stop, Match.info]

@[simp] theorem Match.bare_info (m : Match) : m.bare.info = { m.info with id := 0 } := by
  obtain ⟨info, named, positional⟩ := m
  simp [Match.bare, Match.info]

-----------------------------------------------------------------------------------------
-- Logs seen through a change of their nodes
-----------------------------------------------------------------------------------------

/-- The entry with its node, if it has one, replaced by what a view makes of it. -/
def Caught.through (view : Match → Match) : Caught → Caught
  | node name m listed => node name (view m) listed
  | mark name => mark name

namespace Caught

variable (view : Match → Match)

@[simp] theorem through_name (entry : Caught) : (entry.through view).name = entry.name := by
  cases entry <;> rfl

@[simp] theorem through_makesList (entry : Caught)
    : (entry.through view).makesList = entry.makesList := by
  cases entry <;> rfl

@[simp] theorem through_listed (entry : Caught)
    : entry.listed.through view = (entry.through view).listed := by
  cases entry <;> rfl

@[simp] theorem through_mark (name : Name) : (mark name).through view = mark name := rfl

theorem nodeNamed?_through (key : Name) (entry : Caught)
    : (entry.through view).nodeNamed? key = (entry.nodeNamed? key).map view := by
  cases entry with
  | mark name => rfl
  | node name m listed =>
      cases name with
      | none => rfl
      | some name => by_cases same : name = key <;> simp [through, nodeNamed?, same]

theorem positional?_through (entry : Caught)
    : (entry.through view).positional? = entry.positional?.map view := by
  cases entry with
  | mark name => rfl
  | node name m listed => cases name <;> rfl

@[simp] theorem through_id (entry : Caught) : entry.through id = entry := by
  cases entry <;> rfl

end Caught

/-- A log with every node in it replaced by what a view makes of it. -/
abbrev logThrough (view : Match → Match) (log : List Caught) : List Caught :=
  log.map (Caught.through view)

@[simp] theorem logThrough_id (log : List Caught) : logThrough id log = log := by
  have same : Caught.through id = id := funext (Caught.through_id)
  rw [logThrough, same, List.map_id]

/-- Closing a round changes the list marks of a log and no node. -/
theorem logThrough_roundLog (view : Match → Match) (max : Option Nat) (log : List Caught)
    : logThrough view (roundLog max log) = roundLog max (logThrough view log) := by
  unfold roundLog
  split <;> simp [Function.comp_def]

-----------------------------------------------------------------------------------------
-- Folding a log into a node
-----------------------------------------------------------------------------------------

/-- The capture with every node in it replaced by what a view makes of it. -/
def Capture.through (view : Match → Match) : Capture → Capture
  | .single name node => .single name (view node)
  | .listed name nodes => .listed name (nodes.map view)

/-- What a log says of a name is, seen through a view, what the log seen through it says of the
name: names and list marks are the same, and so is the number of nodes.
-/
theorem Capture.through_ofLog (view : Match → Match) (log : List Caught) (key : Name)
    : (Capture.ofLog log key).through view = Capture.ofLog (logThrough view log) key := by
  have nodes : (logThrough view log).filterMap (Caught.nodeNamed? key)
      = (log.filterMap (Caught.nodeNamed? key)).map view := by
    simp only [List.filterMap_map, List.map_filterMap, Function.comp_def,
      Caught.nodeNamed?_through]
  unfold Capture.ofLog
  rw [nodes]
  simp only [List.any_map, Function.comp_def, Caught.through_name, Caught.through_makesList]
  split
  · rfl
  · cases log.filterMap (Caught.nodeNamed? key) with
    | nil => rfl
    | cons first rest => cases rest <;> rfl

/-- A log seen through a view folds into the captures that it folds into, seen through the view. -/
theorem Match.ofLog_through (view : Match → Match) (info : NodeInfo) (log : List Caught)
    : Match.ofLog info (logThrough view log)
      = .node info ((Match.ofLog info log).named.map (Capture.through view))
          ((Match.ofLog info log).positional.map view) := by
  simp [Match.ofLog, Match.named, Match.positional, List.filterMap_map, List.map_filterMap,
    Function.comp_def, Caught.positional?_through, Capture.through_ofLog]

theorem Capture.bare_eq_through (capture : Capture) : capture.bare = capture.through Match.bare := by
  cases capture <;> simp [Capture.bare, Capture.through]

/-- A node folded from a log is, bare, the node folded from the bare log. -/
theorem Match.bare_ofLog (info : NodeInfo) (log : List Caught)
    : (Match.ofLog info log).bare
      = Match.ofLog { info with id := 0 } (logThrough Match.bare log) := by
  rw [Match.ofLog_through, Match.ofLog, Match.bare, bareCaptures_eq_map, bareNodes_eq_map,
    funext Capture.bare_eq_through]
  rfl

@[simp] theorem Match.stop_ofLog (info : NodeInfo) (log : List Caught)
    : (Match.ofLog info log).stop = info.stop := rfl

/-- A reached offset with what was captured on the way, bare. -/
def Reached.bare (r : Reached) : Reached :=
  ⟨r.stop, logThrough Match.bare r.caught⟩

end RuleGrammar
