import RuleGrammar.Grammar.Validity

/-! Parts of expressions: an expression itself and everything it is made of. What a matcher does
with an expression depends on the references, tags and classes among its parts.
-/

namespace RuleGrammar

/-- An expression stands somewhere in another. -/
inductive Expr.Part (part : Expr) : Expr → Prop
  | self : part.Part part
  | lookahead {body negated} (inside : part.Part body) : part.Part (.lookahead body negated)
  | repeated {body min max sep trailing} (inside : part.Part body)
    : part.Part (.repetition body min max sep trailing)
  | separator {body min max sep trailing} (inside : part.Part sep)
    : part.Part (.repetition body min max (some sep) trailing)
  | item {items e} (member : e ∈ items) (inside : part.Part e) : part.Part (.sequence items)
  | choice {alternatives e} (member : e ∈ alternatives) (inside : part.Part e)
    : part.Part (.choice alternatives)
  | longest {alternatives e} (member : e ∈ alternatives) (inside : part.Part e)
    : part.Part (.longest alternatives)
  | opener {opener closer body} (inside : part.Part opener)
    : part.Part (.goal opener closer body)
  | closer {opener closer body} (inside : part.Part closer)
    : part.Part (.goal opener closer body)
  | goalBody {opener closer body} (inside : part.Part body)
    : part.Part (.goal opener closer body)
  | captured {body name} (inside : part.Part body) : part.Part (.capture body name)

/-- A part of a part is a part, by induction on where the larger part stands. -/
theorem Expr.Part.trans {part middle whole : Expr} (outer : middle.Part whole)
    (inner : part.Part middle)
    : part.Part whole := by
  induction outer with
  | self => exact inner
  | lookahead _ ih => exact .lookahead ih
  | repeated _ ih => exact .repeated ih
  | separator _ ih => exact .separator ih
  | item member _ ih => exact .item member ih
  | choice member _ ih => exact .choice member ih
  | longest member _ ih => exact .longest member ih
  | opener _ ih => exact .opener ih
  | closer _ ih => exact .closer ih
  | goalBody _ ih => exact .goalBody ih
  | captured _ ih => exact .captured ih

/-- An expression that calls nothing. -/
def Expr.CallFree (e : Expr) : Prop :=
  ∀ name capture, ¬ (Expr.reference name capture).Part e

namespace Expr.CallFree

theorem literal (text : Text) : (Expr.literal text).CallFree := by
  rintro name capture ⟨⟩

theorem charClass (cls : CharClass) : (Expr.charClass cls).CallFree := by
  rintro name capture ⟨⟩

theorem sym : Expr.sym.CallFree := by
  rintro name capture ⟨⟩

theorem repetition {body : Expr} {min : Nat} {max : Option Nat} {trailing : Bool}
    (free : body.CallFree)
    : (Expr.repetition body min max none trailing).CallFree := by
  intro name capture part
  cases part with
  | repeated inside => exact free name capture inside

theorem sequence {items : List Expr} (free : ∀ e ∈ items, e.CallFree)
    : (Expr.sequence items).CallFree := by
  intro name capture part
  cases part with
  | item member inside => exact free _ member name capture inside

theorem choice {alternatives : List Expr} (free : ∀ e ∈ alternatives, e.CallFree)
    : (Expr.choice alternatives).CallFree := by
  intro name capture part
  cases part with
  | choice member inside => exact free _ member name capture inside

end Expr.CallFree

end RuleGrammar
