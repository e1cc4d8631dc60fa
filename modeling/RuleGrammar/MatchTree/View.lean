import RuleGrammar.MatchTree.Basic
import RuleGrammar.Text.Quoted

/-! Looking into match trees: captures by name and position, children in order, the nodes from
the root down, and the printed forms. -/

namespace RuleGrammar

namespace Match

/-- The stretch of the subject that a node spans. -/
def text (subject : Subject) (m : Match) : Text :=
  subject.slice m.start m.stop

/-- What was captured under a name. -/
def get? (m : Match) (name : Name) : Option Capture :=
  m.named.find? (·.name = name)

/-- The nodes captured under a name, whatever their shape. -/
def all (m : Match) (name : Name) : List Match :=
  match m.get? name with
  | some capture => capture.nodes
  | none => []

/-- The names that captures stand under, in order of first capture. -/
def keys (m : Match) : List Name :=
  m.named.map Capture.name

/-- Every captured node in order of its start; equal starts keep the order of the captures,
named ones first. -/
def children (m : Match) : List Match :=
  (m.named.flatMap Capture.nodes ++ m.positional).mergeSort
    fun a b => decide (a.start ≤ b.start)

/-- A child is smaller than its node, being a part of one of its lists. -/
theorem sizeOf_lt_of_mem_children {m child : Match} (member : child ∈ m.children)
    : sizeOf child < sizeOf m := by
  obtain ⟨info, named, positional⟩ := m
  simp only [children, Match.named, Match.positional, List.mem_mergeSort, List.mem_append,
    List.mem_flatMap] at member
  rcases member with ⟨capture, inNamed, inNodes⟩ | inPositional
  · have below := List.sizeOf_lt_of_mem inNamed
    cases capture with
    | single name node =>
        simp only [Capture.nodes, List.mem_singleton] at inNodes
        subst inNodes
        simp at below ⊢
        omega
    | listed name nodes =>
        have within := List.sizeOf_lt_of_mem (show child ∈ nodes from inNodes)
        simp at below ⊢
        omega
  · have below := List.sizeOf_lt_of_mem inPositional
    simp
    omega

/-- A node and its descendants, each before those below it. -/
def walk (m : Match) : List Match :=
  m :: m.children.attach.flatMap fun child => walk child.1
termination_by sizeOf m
decreasing_by exact sizeOf_lt_of_mem_children child.2

/-- The tag of a node as its rule's name shows it. -/
def tagMark (m : Match) : Text :=
  match m.tag with
  | none => []
  | some tag => ":sym<" ++ tag ++ ">"

/-- One line about a node: rule, span and text. -/
def describe (subject : Subject) (m : Match) : Text :=
  "<Match " ++ (if m.rule.isEmpty then ("?" : Text) else m.rule) ++ m.tagMark
    ++ " [" ++ Text.ofInt m.start ++ "," ++ Text.ofInt m.stop ++ ") "
    ++ (m.text subject).quoted ++ ">"

end Match

/-! ### The printed tree -/

/-- A label and its number, as the nodes of a list are labelled. -/
def indexedLabel (label : Text) (i : Nat) : Text :=
  label ++ "[" ++ Text.ofNat i ++ "]"

mutual

/-- The lines of a node, its payload if it has one, and its captures below. -/
def Match.dumpLines (subject : Subject) (shown : Nat → Option Text) (indent : Nat)
    (label : Text) : Match → List Text
  | .node info named positional =>
      let pad := Text.spaces (2 * indent)
      (pad ++ label ++ (Match.node info named positional).describe subject)
        :: (match shown info.id with
            | some payload => [pad ++ "  => " ++ payload]
            | none => [])
          ++ dumpNamed subject shown (indent + 1) named
          ++ dumpNumbered subject shown (indent + 1) Text.ofNat 0 positional

def Capture.dumpLines (subject : Subject) (shown : Nat → Option Text) (indent : Nat)
    : Capture → List Text
  | .single name node => node.dumpLines subject shown indent (name ++ ": ")
  | .listed name [] => [Text.spaces (2 * indent) ++ name ++ ": []"]
  | .listed name (first :: rest) =>
      first.dumpLines subject shown indent (indexedLabel name 0 ++ ": ")
        ++ dumpNumbered subject shown indent (indexedLabel name) 1 rest

def dumpNamed (subject : Subject) (shown : Nat → Option Text) (indent : Nat)
    : List Capture → List Text
  | [] => []
  | capture :: rest =>
      capture.dumpLines subject shown indent ++ dumpNamed subject shown indent rest

/-- The lines of nodes whose labels count from a number. -/
def dumpNumbered (subject : Subject) (shown : Nat → Option Text) (indent : Nat)
    (label : Nat → Text) (i : Nat) : List Match → List Text
  | [] => []
  | node :: rest =>
      node.dumpLines subject shown indent (label i ++ ": ")
        ++ dumpNumbered subject shown indent label (i + 1) rest

end

/-- The tree in lines, each node under its parent and indented by its depth. -/
def Match.dump (subject : Subject) (shown : Nat → Option Text) (m : Match) : Text :=
  Text.joinWith "\n" (m.dumpLines subject shown 0 [])

end RuleGrammar
