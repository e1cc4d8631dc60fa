import RuleGrammar.Expr

/-! What can be wrong with a grammar itself, as opposed to the notation it is written in. -/

namespace RuleGrammar

/-- A cause for which a grammar or a rule of it is refused. -/
inductive GrammarError
  | unknownKind (kind rule : Name)
  | plainRule (group grammar tag : Name)
  | unknownRule (rule grammar : Name)
  | symOutsideAlternative (rule : Name)
  | leftRecursion (grammar : Name) (cycle : List Name)
deriving DecidableEq

namespace GrammarError

/-- The wording of a cause. A grammar without a name is not mentioned. -/
def message : GrammarError → Text
  | unknownKind kind rule => "unknown rule kind " ++ kind.quoted ++ " for '" ++ rule ++ "'"
  | plainRule group grammar tag =>
      "'" ++ group ++ "' is a plain rule in grammar '" ++ grammar
        ++ "'; cannot add alternative sym<" ++ tag ++ ">"
  | unknownRule rule grammar =>
      "undefined rule '" ++ rule ++ "'"
        ++ (if grammar.isEmpty then ([] : Text) else " in grammar '" ++ grammar ++ "'")
  | symOutsideAlternative rule =>
      "<sym> used outside a proto alternative in '" ++ rule ++ "'"
  | leftRecursion grammar cycle =>
      "left recursion in grammar '" ++ grammar ++ "': " ++ Text.joinWith " -> " cycle

end GrammarError

end RuleGrammar
