import RuleGrammar.Grammar.Basic

/-! Which names can match without consuming anything. The set grows from nothing, one pass over
the rules after the other, until a pass adds no name. -/

namespace RuleGrammar

namespace Expr

mutual

/-- Whether an expression can match the empty text when the names in `known` can. A tag counts
as consuming and a lookahead as not. -/
@[simp] def nullable (known : List Name) : Expr → Bool
  | literal text => text.isEmpty
  | charClass _ | anyChar | sym => false
  | anchor _ | lookahead _ _ => true
  | reference rule _ => known.contains rule
  | repetition body min _ _ _ => min == 0 || body.nullable known
  | sequence items => allNullable known items
  | choice alternatives => anyNullable known alternatives
  | longest alternatives => anyNullable known alternatives
  | goal opener closer body =>
      opener.nullable known && body.nullable known && closer.nullable known
  | capture body _ => body.nullable known

@[simp] def allNullable (known : List Name) : List Expr → Bool
  | [] => true
  | e :: rest => e.nullable known && allNullable known rest

@[simp] def anyNullable (known : List Name) : List Expr → Bool
  | [] => false
  | e :: rest => e.nullable known || anyNullable known rest

end

end Expr

namespace RuleTable

/-- The known nullable names with one more, if its rules can match the empty text. -/
def nullableStep (known : List Name) (row : Name × List Rule) : List Name :=
  if known.contains row.1 then known
  else if row.2.any (·.expr.nullable known) then known ++ [row.1]
  else known

/-- One pass over the table. A name that it adds counts for the rows after it. -/
def nullablePass (table : RuleTable) (known : List Name) : List Name :=
  table.foldl nullableStep known

/-- Passes over the table until one adds nothing, but no more than allowed. -/
def nullableFrom (table : RuleTable) : Nat → List Name → List Name
  | 0, known => known
  | passes + 1, known =>
      let next := table.nullablePass known
      if next.length = known.length then known else nullableFrom table passes next

/-- The names that can match the empty text. Each pass but the last adds a name of the table,
so there are no more passes than names and one. -/
def nullableNames (table : RuleTable) : List Name :=
  nullableFrom table (table.length + 1) []

end RuleTable

end RuleGrammar
