import Mathlib.Algebra.Group.Nat.Defs
import Mathlib.Tactic.Common
import RuleGrammar.Number.Numeral

/-! Decimal numerals. The numeral of a number is made of digits, it is read back as that number,
and no numeral of the same number has fewer digits.
-/

namespace RuleGrammar

-----------------------------------------------------------------------------------------
-- Digits
-----------------------------------------------------------------------------------------

namespace Text

theorem digitsRev_lt {base fuel n : Nat} (positive : 0 < base)
    : ∀ d ∈ digitsRev base fuel n, d < base := by
  induction fuel generalizing n with
  | zero => simp [digitsRev]
  | succ fuel ih =>
      unfold digitsRev
      split
      · simpa
      · exact List.forall_mem_cons.mpr ⟨Nat.mod_lt n positive, ih⟩

/-- A number has no more digits than the power of ten above it has zeros. -/
theorem length_digitsRev_le {fuel n k : Nat} (positive : 0 < k) (below : n < 10 ^ k)
    : (digitsRev 10 fuel n).length ≤ k := by
  induction fuel generalizing n k with
  | zero => simp [digitsRev]
  | succ fuel ih =>
      unfold digitsRev
      split
      · exact positive
      · rename_i large
        obtain ⟨k, rfl⟩ : ∃ j, k = j + 1 := ⟨k - 1, by omega⟩
        have positive : 0 < k := by
          refine Nat.pos_of_ne_zero fun zero => ?_
          rw [zero] at below
          omega
        have below : n / 10 < 10 ^ k := Nat.div_lt_of_lt_mul (by rw [Nat.pow_succ] at below; omega)
        simpa using ih positive below

/-- The digits amount to the number, if there is fuel for all of them. -/
theorem foldr_digitsRev {fuel n : Nat} (enough : n < 2 ^ fuel)
    : (digitsRev 10 fuel n).foldr (fun d value => value * 10 + d) 0 = n := by
  induction fuel generalizing n with
  | zero =>
      rw [Nat.pow_zero, Nat.lt_one_iff] at enough
      rw [enough, digitsRev, List.foldr_nil]
  | succ fuel ih =>
      unfold digitsRev
      split
      · simp
      · rw [Nat.pow_succ] at enough
        rw [List.foldr_cons, ih (by omega)]
        omega

theorem isAsciiDigit_digitChar {d : Nat} (small : d < 10)
    : (digitChar d).isAsciiDigit = true := by
  simp [digitChar, small, CodePoint.isAsciiDigit]
  omega

theorem value_digitChar {d : Nat} (small : d < 10) : (digitChar d).value = 0x30 + d := by
  simp [digitChar, small]

variable (n : Nat)

theorem isAsciiDigit_ofNat : ∀ c ∈ ofNat n, c.isAsciiDigit = true := by
  intro c member
  obtain ⟨d, isDigit, rfl⟩ := List.mem_map.mp member
  exact isAsciiDigit_digitChar (digitsRev_lt (by decide) d (List.mem_reverse.mp isDigit))

theorem ofNat_ne_nil : ofNat n ≠ [] := by
  have nonempty : digitsRev 10 (n.log2 + 1) n ≠ [] := by
    unfold digitsRev
    split <;> simp
  simpa [ofNat, ofNatBase] using nonempty

theorem length_ofNat_le {n k : Nat} (positive : 0 < k) (below : n < 10 ^ k)
    : (ofNat n).length ≤ k := by
  simpa [ofNat, ofNatBase] using length_digitsRev_le positive below

end Text

-----------------------------------------------------------------------------------------
-- Values
-----------------------------------------------------------------------------------------

namespace Numeral

/-- The numeral of a number is read back. -/
theorem valueOf_ofNat (n : Nat) : valueOf (Text.ofNat n) = n := by
  have amount (digits : List Nat) (small : ∀ d ∈ digits, d < 10)
      : digits.foldr (fun d value => value * 10 + ((Text.digitChar d).value - 0x30)) 0
        = digits.foldr (fun d value => value * 10 + d) 0 := by
    induction digits with
    | nil => rfl
    | cons d digits ih =>
        obtain ⟨here, later⟩ := List.forall_mem_cons.mp small
        simp only [List.foldr_cons, ih later, Text.value_digitChar here, Nat.add_sub_cancel_left]
  simp only [valueOf, Text.ofNat, Text.ofNatBase, List.foldl_map, List.foldl_reverse]
  rw [amount _ (Text.digitsRev_lt (by decide)), Text.foldr_digitsRev Nat.lt_log2_self]

theorem valueOf_lt {digits : Text} (each : ∀ c ∈ digits, c.isAsciiDigit = true)
    : valueOf digits < 10 ^ digits.length := by
  have bound (digits : Text) (each : ∀ c ∈ digits, c.isAsciiDigit = true) (value k : Nat)
      (below : value < 10 ^ k)
      : digits.foldl (fun n c => n * 10 + (c.value - 0x30)) value < 10 ^ (k + digits.length) := by
    induction digits generalizing value k with
    | nil => simpa using below
    | cons c digits ih =>
        obtain ⟨here, later⟩ := List.forall_mem_cons.mp each
        simp only [CodePoint.isAsciiDigit, Bool.and_eq_true, decide_eq_true_eq] at here
        have next := ih later (value * 10 + (c.value - 0x30)) (k + 1)
          (by rw [Nat.pow_succ]; omega)
        rw [List.foldl_cons, List.length_cons, Nat.add_comm digits.length, ← Nat.add_assoc]
        exact next
  simpa [valueOf] using bound digits each 0 0 (by decide)

/-- The shortest numeral of a number is no longer than any other. -/
theorem length_ofNat_valueOf_le {digits : Text} (nonempty : digits ≠ [])
    (each : ∀ c ∈ digits, c.isAsciiDigit = true)
    : (Text.ofNat (valueOf digits)).length ≤ digits.length :=
  Text.length_ofNat_le (List.length_pos_iff.mpr nonempty) (valueOf_lt each)

end Numeral

end RuleGrammar
