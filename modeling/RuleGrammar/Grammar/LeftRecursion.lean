import RuleGrammar.Grammar.Nullable

/-! Calls at the left edge, which are made before anything has been consumed, and the cycles
among them. A cycle of such calls would never end. -/

namespace RuleGrammar

namespace Expr

mutual

/-- The names that an expression may call before it has consumed anything, in order and with
repetitions. With `sigspace` the name `ws` is called between the items of a sequence. -/
@[simp] def leftCalls (nullable : List Name) (sigspace : Bool) : Expr → List Name
  | literal _ | charClass _ | anyChar | anchor _ | sym => []
  | reference rule _ => [rule]
  | lookahead body _ => body.leftCalls nullable sigspace
  | repetition body _ _ sep _ =>
      body.leftCalls nullable sigspace
        ++ (if body.nullable nullable then leftCallsOfOption nullable sigspace sep else [])
  | sequence items => leftCallsOfItems nullable sigspace true items
  | choice alternatives => leftCallsOfList nullable sigspace alternatives
  | longest alternatives => leftCallsOfList nullable sigspace alternatives
  | goal opener closer body =>
      opener.leftCalls nullable sigspace
        ++ (if opener.nullable nullable then
            body.leftCalls nullable sigspace
              ++ (if body.nullable nullable then closer.leftCalls nullable sigspace else [])
          else [])
  | capture body _ => body.leftCalls nullable sigspace

/-- The items of a sequence count as long as those before them can be empty. -/
@[simp] def leftCallsOfItems (nullable : List Name) (sigspace first : Bool)
    : List Expr → List Name
  | [] => []
  | e :: rest =>
      (if sigspace && !first then [Text.ofString "ws"] else [])
        ++ e.leftCalls nullable sigspace
        ++ (if e.nullable nullable then leftCallsOfItems nullable sigspace false rest else [])

@[simp] def leftCallsOfList (nullable : List Name) (sigspace : Bool) : List Expr → List Name
  | [] => []
  | e :: rest => e.leftCalls nullable sigspace ++ leftCallsOfList nullable sigspace rest

@[simp] def leftCallsOfOption (nullable : List Name) (sigspace : Bool) : Option Expr → List Name
  | none => []
  | some e => e.leftCalls nullable sigspace

end

/-- The names that an expression may call at its left edge, sorted, each once. -/
def leftNames (nullable : List Name) (sigspace : Bool) (e : Expr) : List Name :=
  Text.sorted (distinct (e.leftCalls nullable sigspace))

end Expr

namespace RuleTable

/-- The rules of a name. -/
def rulesOf (table : RuleTable) (name : Name) : List Rule :=
  match table.find? (·.1 = name) with
  | some row => row.2
  | none => []

def names (table : RuleTable) : List Name :=
  table.map (·.1)

/-- The names of the table that a name may call at the left edge of one of its rules. -/
def leftEdges (table : RuleTable) (nullable : List Name) (name : Name) : List Name :=
  Text.sorted <| Expr.distinct <|
    ((table.rulesOf name).flatMap fun rule => rule.expr.leftCalls nullable rule.sigspace).filter
      table.names.contains

/-- Searches the names reachable from one that is not done, with the names on the way to it in
`path`. The answer is a cycle that comes back to the path, or all names done by now. No path
holds a name twice, so the number of names bounds its length. -/
def searchFrom (edges : Name → List Name)
    : Nat → List Name → List Name → Name → Except (List Name) (List Name)
  | 0, _, done, _ => .ok done
  | depth + 1, path, done, name => do
      let path := path ++ [name]
      let done ← (edges name).foldlM (fun done next =>
        if path.contains next then
          .error (path.dropWhile (· ≠ next) ++ [next])
        else if done.contains next then .ok done
        else searchFrom edges depth path done next) done
      return name :: done

/-- Searches from every name in turn that no earlier search has reached. -/
def search (edges : Name → List Name) (names : List Name)
    : Except (List Name) (List Name) :=
  names.foldlM (fun done name =>
    if done.contains name then .ok done
    else searchFrom edges names.length [] done name) []

/-- A cycle of calls at the left edge, its first name repeated at its end. -/
def leftCycle? (table : RuleTable) : Option (List Name) :=
  match search (table.leftEdges table.nullableNames) table.names with
  | .error cycle => some cycle
  | .ok _ => none

end RuleTable

/-- A cycle of names that the grammar can call without consuming anything, empty if there is
none. -/
def Grammar.leftCycle (g : Grammar) : List Name :=
  (RuleTable.leftCycle? g.ruleTable).getD []

end RuleGrammar
