import RuleGrammar.Proofs.Grammar.Visible
import RuleGrammar.Proofs.Part

/-! What checking a grammar establishes: in every visible rule, every name that is called stands
for something, and tags are matched in alternatives only.
-/

namespace RuleGrammar

-----------------------------------------------------------------------------------------
-- Classes
-----------------------------------------------------------------------------------------

namespace Expr

mutual

/-- The character classes of an expression. -/
def classes : Expr → List CharClass
  | literal _ | anyChar | anchor _ | reference _ _ | sym => []
  | charClass cls => [cls]
  | lookahead body _ => body.classes
  | repetition body _ _ sep _ => body.classes ++ classesOfOption sep
  | sequence items => classesOfList items
  | choice alternatives => classesOfList alternatives
  | longest alternatives => classesOfList alternatives
  | goal opener closer body => opener.classes ++ closer.classes ++ body.classes
  | capture body _ => body.classes

def classesOfList : List Expr → List CharClass
  | [] => []
  | e :: rest => e.classes ++ classesOfList rest

def classesOfOption : Option Expr → List CharClass
  | none => []
  | some e => e.classes

end

theorem mem_classesOfList {items : List Expr} {e : Expr} {cls : CharClass}
    (member : e ∈ items) (inside : cls ∈ e.classes)
    : cls ∈ classesOfList items := by
  induction items with
  | nil => cases member
  | cons first rest ih =>
      rcases List.mem_cons.mp member with rfl | member
      · exact List.mem_append_left _ inside
      · exact List.mem_append_right _ (ih member)

/-- A class that is part of an expression is one of its classes, by induction on where it stands.
-/
theorem Part.mem_classes {cls : CharClass} {whole : Expr}
    (inside : (Expr.charClass cls).Part whole)
    : cls ∈ whole.classes := by
  induction inside with
  | self => simp [classes]
  | lookahead _ ih => exact ih
  | repeated _ ih => exact List.mem_append_left _ ih
  | separator _ ih => exact List.mem_append_right _ ih
  | item member _ ih => exact mem_classesOfList member ih
  | choice member _ ih => exact mem_classesOfList member ih
  | longest member _ ih => exact mem_classesOfList member ih
  | opener _ ih => exact List.mem_append_left _ (List.mem_append_left _ ih)
  | closer _ ih => exact List.mem_append_left _ (List.mem_append_right _ ih)
  | goalBody _ ih => exact List.mem_append_right _ ih
  | captured _ ih => exact ih

end Expr

theorem CharClass.exists_of_fault? {cls : CharClass} (compiles : cls.fault? = none)
    : ∃ holds, cls.compile = .ok holds := by
  unfold fault? at compiles
  split at compiles
  · exact ⟨_, ‹_›⟩
  · cases compiles

-----------------------------------------------------------------------------------------
-- Checked expressions
-----------------------------------------------------------------------------------------

/-- An expression of a rule makes no faulty steps: every name in it stands for something, tags
are matched in alternatives only, and all classes compile.
-/
structure Expr.Faultless (g : Grammar) (rule : Rule) (e : Expr) : Prop where
  names
    : ∀ {name capture},
        (Expr.reference name capture).Part e
        → ∃ entry, g.lookup name = some entry
  tags : Expr.sym.Part e → ∃ tag, rule.tag = some tag
  classes : ∀ {cls}, (Expr.charClass cls).Part e → ∃ holds, cls.compile = .ok holds

namespace Grammar

variable {g : Grammar} {rule : Rule}

theorem bind_eq_ok {first : Except GrammarError Unit} {next : Except GrammarError Unit}
    (ok : (do first; next) = .ok ())
    : first = .ok () ∧ next = .ok () := by
  cases first with
  | error error => cases ok
  | ok _ => exact ⟨rfl, ok⟩

theorem checkList_of_mem {items : List Expr} {e : Expr} (member : e ∈ items)
    (ok : g.checkList rule items = .ok ())
    : g.checkExpr rule e = .ok () := by
  induction items with
  | nil => cases member
  | cons first rest ih =>
      obtain ⟨here, later⟩ := bind_eq_ok ok
      rcases List.mem_cons.mp member with rfl | member
      · exact here
      · exact ih member later

/-- What is checked is checked in all its parts, by induction on where a part stands. -/
theorem checkExpr_of_part {part whole : Expr} (inside : part.Part whole)
    (ok : g.checkExpr rule whole = .ok ())
    : g.checkExpr rule part = .ok () := by
  induction inside with
  | self => exact ok
  | lookahead _ ih => exact ih ok
  | repeated _ ih => exact ih (bind_eq_ok ok).1
  | separator _ ih => exact ih (bind_eq_ok ok).2
  | item member _ ih => exact ih (checkList_of_mem member ok)
  | choice member _ ih => exact ih (checkList_of_mem member ok)
  | longest member _ ih => exact ih (checkList_of_mem member ok)
  | opener _ ih => exact ih (bind_eq_ok ok).1
  | closer _ ih => exact ih (bind_eq_ok (bind_eq_ok ok).2).1
  | goalBody _ ih => exact ih (bind_eq_ok (bind_eq_ok ok).2).2
  | captured _ ih => exact ih ok

theorem forM_eq_ok {α : Type} {items : List α} {check : α → Except GrammarError Unit}
    (ok : items.forM check = .ok ()) {item : α} (member : item ∈ items)
    : check item = .ok () := by
  induction items with
  | nil => cases member
  | cons first rest ih =>
      have steps : (do check first; rest.forM check) = .ok () := ok
      obtain ⟨here, later⟩ := bind_eq_ok steps
      rcases List.mem_cons.mp member with rfl | member
      · exact here
      · exact ih later member

/-- A grammar all of whose visible rules are without fault. -/
def Faultless (g : Grammar) : Prop :=
  ∀ rule ∈ g.visibleRules, rule.expr.Faultless g rule

/-- In a checked grammar whose classes compile, visible rules are without fault. -/
theorem faultless_of_checkRules (checked : g.checkRules = .ok ())
    (compiles : ∀ rule ∈ g.visibleRules, ∀ cls ∈ rule.expr.classes, cls.fault? = none)
    : g.Faultless := by
  intro rule visible
  obtain ⟨row, inTable, inRow⟩ := List.mem_flatMap.mp visible
  have ok := forM_eq_ok (forM_eq_ok checked inTable) inRow
  refine ⟨fun {name capture} reference => ?_, fun sym => ?_, fun {cls} inside => ?_⟩
  · have contains := checkExpr_of_part reference ok
    simp only [checkExpr] at contains
    cases found : g.lookup name with
    | some entry => exact ⟨entry, rfl⟩
    | none => simp [Grammar.contains, found] at contains
  · have tagged := checkExpr_of_part sym ok
    simp only [checkExpr] at tagged
    cases own : rule.tag with
    | some tag => exact ⟨tag, rfl⟩
    | none => simp [own] at tagged
  · exact CharClass.exists_of_fault? (compiles rule visible cls inside.mem_classes)

/-- The name of white space always stands for something. -/
theorem exists_lookup_ws (g : Grammar) : ∃ entry, g.lookup "ws" = some entry := by
  have along (layers : List Layer) : ∃ entry, lookupAlong "ws" layers = some entry := by
    induction layers with
    | nil => exact ⟨_, rfl⟩
    | cons layer older ih =>
        unfold lookupAlong
        cases layer.find? "ws" with
        | none => exact ih
        | some entry => cases entry <;> exact ⟨_, rfl⟩
  exact along g.lineage

end Grammar

end RuleGrammar
