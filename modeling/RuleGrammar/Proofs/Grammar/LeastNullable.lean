import Mathlib.Data.List.Dedup
import Mathlib.Order.Bounds.Basic
import RuleGrammar.Grammar.LeftRecursion
import RuleGrammar.Proofs.Grammar.Nullability

/-! The nullable names are the least set of names that is closed under the rules of a table, so
neither the order of the rules nor that of their alternatives matters, although each pass already
counts on the names that it has just added. No more passes change anything than there are names.
-/

namespace RuleGrammar

-----------------------------------------------------------------------------------------
-- Expressions
-----------------------------------------------------------------------------------------

namespace Expr

/-- The expressions that can match the empty text when the given names can. -/
inductive Nullable (names : Set Name) : Expr → Prop
  | literal : Nullable names (.literal [])
  | anchor {anchor} : Nullable names (.anchor anchor)
  | lookahead {body negated} : Nullable names (.lookahead body negated)
  | reference {rule capture} (known : rule ∈ names) : Nullable names (.reference rule capture)
  | unrequired {body max sep trailing} : Nullable names (.repetition body 0 max sep trailing)
  | repeated {body min max sep trailing} (inner : Nullable names body)
    : Nullable names (.repetition body min max sep trailing)
  | sequence {items} (all : ∀ e ∈ items, Nullable names e) : Nullable names (.sequence items)
  | choice {alternatives e} (member : e ∈ alternatives) (inner : Nullable names e)
    : Nullable names (.choice alternatives)
  | longest {alternatives e} (member : e ∈ alternatives) (inner : Nullable names e)
    : Nullable names (.longest alternatives)
  | goal {opener closer body} (opens : Nullable names opener) (inner : Nullable names body)
    (closes : Nullable names closer)
    : Nullable names (.goal opener closer body)
  | capture {body name} (inner : Nullable names body) : Nullable names (.capture body name)

/-- What is nullable stays so when more names are, by induction on why it is. -/
theorem Nullable.mono {names names' : Set Name} {e : Expr} (more : names ⊆ names')
    (nullable : e.Nullable names)
    : e.Nullable names' := by
  induction nullable with
  | literal => exact .literal
  | anchor => exact .anchor
  | lookahead => exact .lookahead
  | reference known => exact .reference (more known)
  | unrequired => exact .unrequired
  | repeated _ ih => exact .repeated ih
  | sequence _ ih => exact .sequence ih
  | choice member _ ih => exact .choice member ih
  | longest member _ ih => exact .longest member ih
  | goal _ _ _ opens inner closes => exact .goal opens inner closes
  | capture _ ih => exact .capture ih

variable (known : List Name)

mutual

/-- The check of an expression decides whether it is nullable, by induction on the expression. -/
theorem nullable_iff (e : Expr) : e.nullable known = true ↔ e.Nullable {name | name ∈ known} := by
  cases e with
  | literal text =>
      simp only [nullable, List.isEmpty_iff]
      constructor
      · rintro rfl
        exact .literal
      · rintro ⟨⟩
        rfl
  | charClass cls => exact ⟨nofun, nofun⟩
  | anyChar => exact ⟨nofun, nofun⟩
  | anchor anchor => exact ⟨fun _ => .anchor, fun _ => rfl⟩
  | reference rule capture =>
      simp only [nullable, List.contains_iff_mem]
      constructor
      · exact fun member => .reference member
      · rintro ⟨⟩
        assumption
  | sym => exact ⟨nofun, nofun⟩
  | lookahead body negated => exact ⟨fun _ => .lookahead, fun _ => rfl⟩
  | repetition body min max sep trailing =>
      simp only [nullable, Bool.or_eq_true, beq_iff_eq, nullable_iff body]
      constructor
      · rintro (rfl | inner)
        · exact .unrequired
        · exact .repeated inner
      · rintro (_ | _)
        · exact Or.inl rfl
        · exact Or.inr ‹_›
  | sequence items =>
      simp only [nullable, allNullable_iff items]
      constructor
      · exact .sequence
      · rintro ⟨⟩
        assumption
  | choice alternatives =>
      simp only [nullable, anyNullable_iff alternatives]
      constructor
      · rintro ⟨e, member, inner⟩
        exact .choice member inner
      · rintro ⟨⟩
        exact ⟨_, ‹_›, ‹_›⟩
  | longest alternatives =>
      simp only [nullable, anyNullable_iff alternatives]
      constructor
      · rintro ⟨e, member, inner⟩
        exact .longest member inner
      · rintro ⟨⟩
        exact ⟨_, ‹_›, ‹_›⟩
  | goal opener closer body =>
      simp only [nullable, Bool.and_eq_true, nullable_iff opener, nullable_iff body,
        nullable_iff closer]
      constructor
      · rintro ⟨⟨opens, inner⟩, closes⟩
        exact .goal opens inner closes
      · rintro ⟨⟩
        exact ⟨⟨‹_›, ‹_›⟩, ‹_›⟩
  | capture body name =>
      simp only [nullable, nullable_iff body]
      constructor
      · exact .capture
      · rintro ⟨⟩
        assumption
termination_by sizeOf e

theorem allNullable_iff (items : List Expr)
    : allNullable known items = true ↔ ∀ e ∈ items, e.Nullable {name | name ∈ known} := by
  cases items with
  | nil => simp
  | cons e rest => simp [nullable_iff e, allNullable_iff rest]
termination_by sizeOf items

theorem anyNullable_iff (alternatives : List Expr)
    : anyNullable known alternatives = true
      ↔ ∃ e ∈ alternatives, e.Nullable {name | name ∈ known} := by
  cases alternatives with
  | nil => simp
  | cons e rest => simp [nullable_iff e, anyNullable_iff rest]
termination_by sizeOf alternatives

end

end Expr

-----------------------------------------------------------------------------------------
-- Closed names
-----------------------------------------------------------------------------------------

namespace RuleTable

variable {table table' : RuleTable} {known : List Name} {names : Set Name}

/-- Names that the rules of a table add nothing to: whatever has a rule whose body is nullable,
when they are, is one of them.
-/
def Closed (table : RuleTable) (names : Set Name) : Prop :=
  ∀ row ∈ table, ∀ rule ∈ row.2, rule.expr.Nullable names → row.1 ∈ names

theorem closed_nullableNames (table : RuleTable)
    : table.Closed {name | name ∈ table.nullableNames} :=
  fun _ inTable _ inRow nullable =>
    mem_nullableNames inTable inRow ((Expr.nullable_iff _ _).mpr nullable)

/-- A step adds no name that is not in every closed set around the known ones. -/
theorem Closed.nullableStep (closed : table.Closed names) {row : Name × List Rule}
    (inTable : row ∈ table) (inside : ∀ name ∈ known, name ∈ names)
    : ∀ name ∈ nullableStep known row, name ∈ names := by
  unfold RuleTable.nullableStep
  split
  · exact inside
  · split
    · rename_i anyNullable
      obtain ⟨rule, inRow, nullable⟩ := List.any_eq_true.mp anyNullable
      have isNullable := (Expr.nullable_iff _ _).mp nullable
      have added := closed row inTable rule inRow (isNullable.mono inside)
      intro name member
      rcases List.mem_append.mp member with old | new
      · exact inside name old
      · rwa [List.mem_singleton.mp new]
    · exact inside

/-- Nor does a pass, in which every row counts on the names added before it: induction on the
rows.
-/
theorem Closed.nullablePass (closed : table.Closed names) (inside : ∀ name ∈ known, name ∈ names)
    : ∀ name ∈ table.nullablePass known, name ∈ names := by
  have along {rows : List (Name × List Rule)} (inTable : rows ⊆ table) {known : List Name}
      (inside : ∀ name ∈ known, name ∈ names)
      : ∀ name ∈ rows.foldl RuleTable.nullableStep known, name ∈ names := by
    induction rows generalizing known with
    | nil => exact inside
    | cons row rest ih =>
        obtain ⟨here, later⟩ := List.cons_subset.mp inTable
        exact ih later (closed.nullableStep here inside)
  exact along (List.Subset.refl table) inside

/-- Passes keep what is known within every closed set, by induction on them. -/
theorem Passes.within {passes : Nat} {last : List Name}
    (passed : table.Passes passes known last) (closed : table.Closed names)
    (inside : ∀ name ∈ known, name ∈ names)
    : ∀ name ∈ last, name ∈ names := by
  induction passed with
  | done => exact inside
  | next _ _ ih => exact ih (closed.nullablePass inside)

/-- No more names are known than the table has, however often it repeats one. -/
theorem Known.length_le_dedup (names : table.Known known)
    : known.length ≤ table.names.dedup.length :=
  names.distinct.length_le_of_subset fun name member => List.mem_dedup.mpr (names.named name member)

/-- The nullable names are closed, and they are in every closed set. -/
theorem isLeast_nullableNames (table : RuleTable)
    : IsLeast {names | table.Closed names} {name | name ∈ table.nullableNames} := by
  refine ⟨table.closed_nullableNames, fun names closed => ?_⟩
  obtain ⟨passes, passed, -⟩ := table.exists_passes_nullableNames
  exact passed.within closed (by simp)

-----------------------------------------------------------------------------------------
-- Order
-----------------------------------------------------------------------------------------

/-- Two tables with the same rows in any order, each with the same alternatives in any order. -/
def Permuted (table table' : RuleTable) : Prop :=
  ∃ rows, table.Perm rows
    ∧ List.Forall₂ (fun row row' => row'.1 = row.1 ∧ row.2.Perm row'.2) rows table'

theorem Permuted.closed_iff (permuted : table.Permuted table') (names : Set Name)
    : table'.Closed names ↔ table.Closed names := by
  obtain ⟨rows, sameRows, sameAlternatives⟩ := permuted
  have inRows : table.Closed names ↔ RuleTable.Closed rows names := by
    simp only [Closed, sameRows.mem_iff]
  rw [inRows]
  clear sameRows inRows
  induction sameAlternatives with
  | nil => rfl
  | cons same _ ih =>
      simp only [Closed] at ih
      simp only [Closed, List.forall_mem_cons, ih, same.1, same.2.mem_iff]

/-- The nullable names are the least that the rules of a table add nothing to. They are reached by
passes each of which changes something, no more of them than the table has names, and the next one
changes nothing; tables that differ in the order of rows or alternatives have the same ones.
-/
theorem nullableNames_least (table : RuleTable)
    : IsLeast {names | table.Closed names} {name | name ∈ table.nullableNames}
      ∧ (∃ passes ≤ table.names.dedup.length,
          table.Passes passes [] table.nullableNames
          ∧ table.nullablePass table.nullableNames = table.nullableNames)
      ∧ ∀ table', table.Permuted table'
          → ∀ name, name ∈ table'.nullableNames ↔ name ∈ table.nullableNames := by
  refine ⟨table.isLeast_nullableNames, ?_, fun table' permuted => ?_⟩
  · obtain ⟨passes, passed, settled⟩ := table.exists_passes_nullableNames
    have bound := passed.length_le
    have known := (passed.known_last table.known_nil).length_le_dedup
    rw [List.length_nil] at bound
    exact ⟨passes, by omega, passed, settled⟩
  · have least := table'.isLeast_nullableNames
    simp only [permuted.closed_iff] at least
    exact fun name => Set.ext_iff.mp (least.unique table.isLeast_nullableNames) name

/-- A name that calls another, listed before it. -/
def callerFirst : RuleTable :=
  [("caller", [{ name := "caller", expr := .reference "callee" none }]),
    ("callee",
      [{ name := "callee", expr := .literal "x" }, { name := "callee", expr := .literal "" }])]

/-- The same rules in another order. -/
def calleeFirst : RuleTable :=
  [("callee",
      [{ name := "callee", expr := .literal "" }, { name := "callee", expr := .literal "x" }]),
    ("caller", [{ name := "caller", expr := .reference "callee" none }])]

theorem callerFirst_permuted : callerFirst.Permuted calleeFirst :=
  ⟨_, .swap _ _ _, .cons ⟨rfl, .swap _ _ _⟩ (.cons ⟨rfl, .refl _⟩ .nil)⟩

/-- It takes two passes to find both names nullable if the caller comes first, and one if not. -/
theorem nullableNames_least_callerFirst
    : callerFirst.Permuted calleeFirst
      ∧ callerFirst.nullablePass [] = ["callee"]
      ∧ calleeFirst.nullablePass [] = ["callee", "caller"]
      ∧ ("caller" : Name) ∈ callerFirst.nullableNames := by
  refine ⟨callerFirst_permuted, rfl, rfl, ?_⟩
  have same := (nullableNames_least callerFirst).2.2 calleeFirst callerFirst_permuted "caller"
  exact same.mp (by decide +kernel)

end RuleTable

end RuleGrammar
