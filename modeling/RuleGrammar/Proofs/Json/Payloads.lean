import RuleGrammar.Proofs.Action.Acting
import RuleGrammar.Proofs.Action.Members
import RuleGrammar.Proofs.Json.Lexemes
import RuleGrammar.Proofs.Json.Nodes
import RuleGrammar.Proofs.MatchTree.Views
import RuleGrammar.Proofs.Matcher.Remaining

/-! What the actions of JSON texts leave at nodes of each shape, given what they leave at the nodes
below.
-/

namespace RuleGrammar.Json

-----------------------------------------------------------------------------------------
-- Payloads at hand
-----------------------------------------------------------------------------------------

section Payloads

variable {subject : Subject} {m : Match} {s : ActionState} {name : String}

theorem madeOf_eq {child : Match} {v : Value} (left : s.payloads.find? child = some v)
    : madeOf child s = .ok v s := by
  have made : s.payloads.made child = v := by rw [Payloads.made, left]; rfl
  rw [← made]
  rfl

/-- Payloads are taken from nodes one after the other, by induction on them. -/
theorem mapM_madeOf {nodes : List Match} {values : List Value}
    (left : List.Forall₂ (fun child v => s.payloads.find? child = some v) nodes values)
    : nodes.mapM madeOf s = .ok values s := by
  induction left with
  | nil => rfl
  | cons first _ ih =>
      simp only [List.mapM_cons, bind, EStateM.bind, madeOf_eq first, ih]
      rfl

theorem nodeOf_eq {child : Match} (found : m.get? name = some (.single name child))
    : nodeOf m name s = .ok child s := by
  rw [nodeOf, found]
  rfl

theorem nodesOf_eq {nodes : List Match} (found : m.get? name = some (.listed name nodes))
    : nodesOf m name s = .ok nodes s := by
  rw [nodesOf, found]
  rfl

theorem passOn_eq {child : Match} {v : Value} (found : m.get? name = some (.single name child))
    (left : s.payloads.find? child = some v)
    : passOn name subject m s = make subject m v s := by
  simp only [passOn, bind, EStateM.bind, nodeOf_eq found, madeOf_eq left]

theorem passOnFirst_eq {first : Match} {rest : List Match} {v : Value}
    (children : m.children = first :: rest) (left : s.payloads.find? first = some v)
    : passOnFirst subject m s = make subject m v s := by
  simp only [passOnFirst, children, bind, EStateM.bind, madeOf_eq left]

theorem collect_eq {nodes : List Match} {values : List Value}
    (found : m.get? name = some (.listed name nodes))
    (left : List.Forall₂ (fun child v => s.payloads.find? child = some v) nodes values)
    : collect name subject m s = make subject m (.list values) s := by
  simp only [collect, bind, EStateM.bind, nodesOf_eq found, mapM_madeOf left]

theorem buildPair_eq {key value : Match} {k v : Value}
    (foundKey : m.get? "string" = some (.single "string" key))
    (found : m.get? "value" = some (.single "value" value))
    (leftKey : s.payloads.find? key = some k) (left : s.payloads.find? value = some v)
    : buildPair subject m s = make subject m (.tuple [k, v]) s := by
  simp only [buildPair, bind, EStateM.bind, nodeOf_eq foundKey, madeOf_eq leftKey,
    nodeOf_eq found, madeOf_eq left]

theorem buildObject_eq {child : Match} {v w : Value}
    (found : m.get? "pairlist" = some (.single "pairlist" child))
    (left : s.payloads.find? child = some v) (dict : dictOf v = .ok w)
    : buildObject subject m s = make subject m w s := by
  simp only [buildObject, bind, EStateM.bind, nodeOf_eq found, madeOf_eq left, dict]
  rfl

theorem mapM_textOf (texts : List Text) : (texts.map Value.text).mapM textOf = some texts := by
  induction texts with
  | nil => rfl
  | cons t rest ih =>
      rw [List.map_cons, List.mapM_cons, ih]
      rfl

theorem buildString_eq {texts : List Text}
    (left
      : List.Forall₂ (fun child t => s.payloads.find? child = some (.text t)) m.children texts)
    : buildString subject m s = make subject m (.text texts.flatten) s := by
  have values : List.Forall₂ (fun child v => s.payloads.find? child = some v) m.children
      (texts.map Value.text) := List.forall₂_map_right_iff.mpr left
  simp only [buildString, bind, EStateM.bind, mapM_madeOf values, mapM_textOf]
  rfl

theorem buildNumber_eq {v : Value} (read : numberValue (m.text subject) = some v)
    : buildNumber subject m s = make subject m v s := by
  simp only [buildNumber, bind, EStateM.bind, read]
  rfl

theorem buildEscape_eq {t : Text} (read : escapeValue ((m.text subject).drop 1) = .ok t)
    : buildEscape subject m s = make subject m (.text t) s := by
  simp only [buildEscape, bind, EStateM.bind, read]
  rfl

end Payloads

-----------------------------------------------------------------------------------------
-- What nodes of a shape come to
-----------------------------------------------------------------------------------------

/-- Actions leave the same at every node of a tree with this bare form. -/
def Yields (subject : Subject) (node : Match) (v : Option Value) : Prop :=
  ∀ m : Match, m.Coherent → m.bare = node → Acts subject actions m v

variable {subject : Subject} {rule : Name} {tag : Option Name} {pos : Int} {t rest : Text}
  {log : List Caught} {m : Match}

/-- The children have what actions leave at nodes with their bare forms. -/
def HasBelow (subject : Subject) (m : Match) (s : ActionState) : Prop :=
  ∀ child ∈ m.children, ∀ v, Yields subject child.bare v → s.payloads.find? child = v

theorem mem_logNodes_of_bare {child : Match} (same : m.bare = nodeAt rule tag pos t log)
    (isChild : child ∈ m.children)
    : child.bare ∈ logNodes log := by
  have member : child.bare ∈ m.bare.children := by
    rw [Match.children_bare]
    exact List.mem_map_of_mem isChild
  rw [same] at member
  exact Match.mem_captured_ofLog.mp (Match.mem_children.mp member)

theorem exists_acts_below (same : m.bare = nodeAt rule tag pos t log) (coherent : m.Coherent)
    (each : ∀ node ∈ logNodes log, ∃ v, Yields subject node v)
    : ∀ child ∈ m.children, ∃ v, Acts subject actions child v := by
  intro child isChild
  obtain ⟨v, yields⟩ := each child.bare (mem_logNodes_of_bare same isChild)
  have inside := Match.walk_subset_of_mem_children isChild child.mem_walk_self
  exact ⟨v, yields child (coherent.below inside) rfl⟩

/-- Nothing is left at a node that no callback belongs to. -/
theorem Yields.of_silent (silent : rule = [] ∨ actions.lookup rule tag = none)
    (each : ∀ node ∈ logNodes log, ∃ v, Yields subject node v)
    : Yields subject (nodeAt rule tag pos t log) none := by
  intro m coherent same
  refine .of_silent coherent (exists_acts_below same coherent each) ?_
  have ruled : m.rule = rule := by rw [← Match.bare_rule, same]; rfl
  have tagged : m.tag = tag := by rw [← Match.bare_tag, same]; rfl
  rw [ActionTable.callbackFor, ruled, tagged]
  rcases silent with rfl | missing
  · rfl
  · split
    · rfl
    · exact missing

/-- The callback for a node leaves there what it makes of what is left below. -/
theorem Yields.of_makes {callback : Callback} {v : Value} (named : rule ≠ [])
    (found : actions.lookup rule tag = some callback)
    (each : ∀ node ∈ logNodes log, ∃ v, Yields subject node v)
    (makes
      : ∀ m s,
          m.bare = nodeAt rule tag pos t log → HasBelow subject m s
          → callback subject m s = make subject m v s)
    : Yields subject (nodeAt rule tag pos t log) (some v) := by
  intro m coherent same
  have ruled : m.rule = rule := by rw [← Match.bare_rule, same]; rfl
  have tagged : m.tag = tag := by rw [← Match.bare_tag, same]; rfl
  have called : actions.callbackFor m = some callback := by
    have filled : rule.isEmpty = false := by simpa using named
    rw [ActionTable.callbackFor, ruled, tagged, filled]
    exact found
  refine .of_makes coherent (exists_acts_below same coherent each) called fun s below => ?_
  refine makes m s same fun child isChild w yields => ?_
  have inside := Match.walk_subset_of_mem_children isChild child.mem_walk_self
  exact below child isChild w (yields child (coherent.below inside) rfl)

/-- A node spans the text that it is made of. -/
theorem text_of_bare (same : m.bare = nodeAt rule tag pos t log)
    (leaves : subject.Leaves pos (t ++ rest))
    : m.text subject = t := by
  have start : m.start = pos := by rw [← Match.bare_start, same]; rfl
  have stop : m.stop = pos + t.length := by rw [← Match.bare_stop, same]; rfl
  rw [Match.text, start, stop]
  exact leaves.slice_eq

-----------------------------------------------------------------------------------------
-- Captures under one name
-----------------------------------------------------------------------------------------

theorem get?_once (rule : Name) (tag : Option Name) (pos : Int) (t : Text) (name : Name)
    (node : Match)
    : (nodeAt rule tag pos t [once name node]).get? name = some (.single name node) := by
  rw [nodeAt, Match.get?_ofLog List.mem_cons_self]
  simp [Capture.ofLog, Caught.makesList, Caught.nodeNamed?]

/-- A log of one name that is marked for a list is that list. -/
theorem get?_list {name : Name} (names : ∀ entry ∈ log, entry.name = some name)
    : (nodeAt rule tag pos t (log ++ [.mark name])).get? name
      = some (.listed name (logNodes log)) := by
  have nodes : log.filterMap (Caught.nodeNamed? name) = logNodes log := by
    refine List.filterMap_congr fun entry member => ?_
    have named := names entry member
    cases entry with
    | mark key => rfl
    | node key node listed =>
        obtain rfl : key = some name := named
        exact if_pos rfl
  rw [nodeAt, Match.get?_ofLog (by simp [Caught.name])]
  simp [Capture.ofLog, Caught.makesList, Caught.name, Caught.nodeNamed?, nodes]

theorem exists_yields {nodes : List Match} {values : List Value}
    (below : List.Forall₂ (fun node v => Yields subject node (some v)) nodes values)
    : ∀ node ∈ nodes, ∃ v, Yields subject node v := by
  induction below with
  | nil => simp
  | cons first _ ih => exact List.forall_mem_cons.mpr ⟨⟨_, first⟩, ih⟩

/-- Some children have payloads one by one when nodes with their bare forms come to them. -/
theorem HasBelow.forall₂ {s : ActionState} {children : List Match} {values : List Value}
    (below : HasBelow subject m s) (inside : children ⊆ m.children)
    (yields
      : List.Forall₂ (fun node v => Yields subject node (some v)) (children.map Match.bare) values)
    : List.Forall₂ (fun child v => s.payloads.find? child = some v) children values := by
  induction children generalizing values with
  | nil =>
      cases yields
      exact .nil
  | cons child rest ih =>
      obtain ⟨isChild, inside⟩ := List.cons_subset.mp inside
      cases yields with
      | cons first later => exact .cons (below child isChild _ first) (ih inside later)

namespace Yields

variable {name : String} {node : Match} {v : Value}

theorem passOn (named : rule ≠ []) (found : actions.lookup rule tag = some (Json.passOn name))
    (below : Yields subject node (some v))
    : Yields subject (nodeAt rule tag pos t [once name node]) (some v) := by
  refine .of_makes named found (by simpa [Caught.node?] using ⟨_, below⟩) fun m s same has => ?_
  have single : m.bare.get? name = some (.single name node) := by
    rw [same]
    exact get?_once rule tag pos t name node
  obtain ⟨child, isChild, captured, rfl⟩ := Match.get?_single single
  exact passOn_eq captured (has child isChild _ below)

theorem collect {values : List Value} (named : rule ≠ [])
    (found : actions.lookup rule tag = some (Json.collect name))
    (names : ∀ entry ∈ log, entry.name = some (Text.ofString name))
    (below : List.Forall₂ (fun node v => Yields subject node (some v)) (logNodes log) values)
    : Yields subject (nodeAt rule tag pos t (log ++ [.mark name])) (some (.list values)) := by
  have nodes : logNodes (log ++ [.mark name]) = logNodes log := logNodes_append_marks log [name]
  refine .of_makes named found (nodes ▸ exists_yields below) fun m s same has => ?_
  have list : m.bare.get? name = some (.listed name (logNodes log)) := by
    rw [same]
    exact get?_list names
  obtain ⟨children, inside, captured, bare⟩ := Match.get?_listed list
  exact collect_eq captured (has.forall₂ inside (bare ▸ below))

end Yields

end RuleGrammar.Json
