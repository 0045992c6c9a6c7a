/-
**Decimal digits and their value.**

A number is written in digits, of which each counts ten times as much as the one behind it.  A text
of digits without a zero in front is what its value is written as, so no such text is lost when it
is read as a number and written again.

Main definitions:

* `Cutover.Text.IsDigits` — one or more digits; `Cutover.Text.decimal` — their value.

Main results:

* `Cutover.Text.foldl_eq_decimal` — reading digits from the left comes to their value;
* `Cutover.Text.decimal_toDigits` — a number is the value of the digits that it is written in;
* `Cutover.Text.toDigits_decimal` — **digits without a zero in front are written again as they
  were**.
-/
import Mathlib.Data.List.Induction
import Mathlib.Data.Nat.Digits.Defs

set_option autoImplicit false

namespace Cutover.Text

/-- The value of a digit. -/
def digitValue (c : Char) : Nat := c.toNat - '0'.toNat

/-- The value of digits: the last one counts once, the one in front of it ten times, and so on. -/
def decimal (cs : List Char) : Nat := Nat.ofDigits 10 (cs.reverse.map digitValue)

/-- A text of one or more digits. -/
structure IsDigits (cs : List Char) : Prop where
  ne_nil : cs ≠ []
  isDigit : ∀ c ∈ cs, c.isDigit = true

variable {cs : List Char} {c : Char}

@[simp] theorem decimal_nil : decimal [] = 0 := rfl

theorem decimal_concat (cs : List Char) (c : Char) :
    decimal (cs ++ [c]) = 10 * decimal cs + digitValue c := by
  rw [decimal, List.reverse_append, List.reverse_singleton, List.singleton_append, List.map_cons,
    Nat.ofDigits_cons, Nat.add_comm]
  rfl

/-- Reading digits from the left comes to their value. -/
theorem foldl_eq_decimal (cs : List Char) :
    cs.foldl (fun n c => n * 10 + (c.toNat - '0'.toNat)) 0 = decimal cs := by
  induction cs using List.reverseRecOn with
  | nil => rfl
  | append_singleton cs c ih =>
      rw [List.foldl_append, ih, decimal_concat, Nat.mul_comm]
      rfl

/-- The codes of digits start with that of zero. -/
theorem toNat_of_isDigit (hc : c.isDigit = true) :
    c.toNat = 48 + digitValue c ∧ digitValue c < 10 := by
  have hbounds : 48 ≤ c.toNat ∧ c.toNat ≤ 57 := Char.isDigit_iff_toNat.1 hc
  have hvalue : digitValue c = c.toNat - 48 := rfl
  omega

theorem digitChar_digitValue (hc : c.isDigit = true) : Nat.digitChar (digitValue c) = c := by
  obtain ⟨hcode, hlt⟩ := toNat_of_isDigit hc
  exact Char.toNat_inj.1 ((Nat.toNat_digitChar_of_lt_ten hlt).trans hcode.symm)

/-- A number is the value of the digits that it is written in. -/
theorem decimal_toDigits (n : Nat) : decimal (Nat.toDigits 10 n) = n := by
  rw [← foldl_eq_decimal]
  have hcomm : (fun (n : Nat) (c : Char) => n * 10 + (c.toNat - '0'.toNat)) =
      fun n c => 10 * n + (c.toNat - '0'.toNat) := by
    funext n c
    rw [Nat.mul_comm]
  rw [hcomm]
  exact Nat.ofDigitChars_ten_toDigits

theorem isDigits_toDigits (n : Nat) : IsDigits (Nat.toDigits 10 n) where
  ne_nil := Nat.toDigits_ne_nil
  isDigit _ hc := Nat.isDigit_of_mem_toDigits (by decide) (by decide) hc

/-- **Digits without a zero in front are written again as they were.**  A zero may stand alone. -/
theorem toDigits_decimal (hcs : IsDigits cs) (hzero : cs.head? = some '0' → cs = ['0']) :
    Nat.toDigits 10 (decimal cs) = cs := by
  induction cs using List.reverseRecOn with
  | nil => exact absurd rfl hcs.ne_nil
  | append_singleton ds c ih =>
      have hc : c.isDigit = true := hcs.isDigit c (by simp)
      obtain ⟨-, hlt⟩ := toNat_of_isDigit hc
      have hlast : Nat.toDigits 10 (digitValue c) = [c] := by
        rw [Nat.toDigits_of_lt_base hlt, digitChar_digitValue hc]
      rw [decimal_concat]
      by_cases hds : ds = []
      · rw [hds, decimal_nil, Nat.mul_zero, Nat.zero_add, hlast, List.nil_append]
      · have hhead : ds.head? ≠ some '0' := by
          intro h0
          have hlong := congrArg List.length (hzero (by rw [List.head?_append, h0]; rfl))
          simp [hds] at hlong
        have hwritten : Nat.toDigits 10 (decimal ds) = ds :=
          ih ⟨hds, fun x hx => hcs.isDigit x (List.mem_append_left _ hx)⟩ fun h0 => absurd h0 hhead
        -- digits whose value is zero are the zero that stands alone
        have hpos : 0 < decimal ds := by
          refine Nat.pos_of_ne_zero fun h0 => hhead ?_
          rw [← hwritten, h0]
          rfl
        rw [← Nat.toDigits_append_toDigits (by decide) hpos hlt, hwritten, hlast]

end Cutover.Text
