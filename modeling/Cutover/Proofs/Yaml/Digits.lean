/-
**Digits as plain scalars.**

Digits that are written on their own stand for a number, or for text if there is a zero in front of
them.

Main results:

* `Cutover.Yaml.Scalar.natural?_digits` — digits are read as their value;
* `Cutover.Yaml.Scalar.ofPlain_number`, `Cutover.Yaml.Scalar.ofPlain_leadingZero` — **what digits on
  their own stand for**.
-/
import Cutover.Proofs.Text.Decimal
import Cutover.Yaml.Scalar

set_option autoImplicit false

namespace Cutover.Yaml.Scalar

open Text (IsDigits decimal digitValue)

variable {cs : List Char} {c : Char} {s : String}

theorem digit?_of_isDigit (hc : c.isDigit = true) : digit? 10 c = some (digitValue c) := by
  obtain ⟨hcode, hlt⟩ := Text.toNat_of_isDigit hc
  have hrange : '0' ≤ c ∧ c ≤ '9' := by
    change 48 ≤ c.toNat ∧ c.toNat ≤ 57
    omega
  rw [digit?, if_pos hrange]
  exact Option.filter_some_pos (decide_eq_true hlt)

/-- Digits are read as their value. -/
theorem natural?_digits (hcs : IsDigits cs) : natural? 10 cs = some (decimal cs) := by
  have hfold : ∀ (cs : List Char) (n : Nat), (∀ c ∈ cs, c.isDigit = true) →
      digitsFrom? 10 n cs = some (cs.foldl (fun n c => n * 10 + (c.toNat - '0'.toNat)) n) := by
    intro cs
    induction cs with
    | nil => exact fun n _ => rfl
    | cons c cs ih =>
        intro n h
        obtain ⟨hc, hcs⟩ := List.forall_mem_cons.1 h
        rw [digitsFrom?, digit?_of_isDigit hc]
        exact ih _ hcs
  rw [natural?, if_neg (by simpa using hcs.ne_nil), hfold cs 0 hcs.isDigit, Text.foldl_eq_decimal]

/-- Digits do not start with a character that is none. -/
theorem ne_cons_of_isDigits (hcs : IsDigits cs) (hc : c.isDigit = false) (rest : List Char) :
    cs ≠ c :: rest := by
  rintro rfl
  rw [hcs.isDigit c List.mem_cons_self] at hc
  cases hc

/-- No base stands in front of digits. -/
theorem based_digits (hcs : IsDigits cs) : based cs = none := by
  unfold based
  split
  · exact absurd (hcs.isDigit 'x' (by simp)) (by decide)
  · exact absurd (hcs.isDigit 'o' (by simp)) (by decide)
  · exact absurd (hcs.isDigit 'b' (by simp)) (by decide)
  · rfl

/-- Digits have a zero in front if they start with a zero that does not stand alone. -/
theorem hasLeadingZero_digits (hcs : IsDigits cs) :
    hasLeadingZero cs = true ↔ cs.head? = some '0' ∧ cs ≠ ['0'] := by
  by_cases hlong : ∃ c rest, cs = '0' :: c :: rest
  · obtain ⟨c, rest, rfl⟩ := hlong
    refine iff_of_true (List.all_eq_true.2 fun x hx => ?_) ⟨rfl, by simp⟩
    exact hcs.isDigit x (List.mem_cons_of_mem _ hx)
  · rw [hasLeadingZero]
    · refine iff_of_false (nomatch ·) ?_
      rintro ⟨hhead, hne⟩
      obtain ⟨rest, rfl⟩ := List.head?_eq_some_iff.1 hhead
      match rest with
      | [] => exact hne rfl
      | c :: rest => exact hlong ⟨c, rest, rfl⟩
    · exact fun rest => ne_cons_of_isDigits hcs rfl rest
    · exact fun rest => ne_cons_of_isDigits hcs rfl rest
    · exact fun c rest h => hlong ⟨c, rest, h⟩

theorem unsigned?_digits (hcs : IsDigits cs) (limit : Nat) :
    unsigned? limit cs =
      (if hasLeadingZero cs then none else some (decimal cs)).filter (· < limit) := by
  rw [unsigned?, based_digits hcs, natural?_digits hcs]
  exact fun rest => ne_cons_of_isDigits hcs rfl rest

theorem negative?_digits (hcs : IsDigits cs) (limit : Nat) : negative? limit cs = none := by
  unfold negative?
  split
  · exact absurd rfl (ne_cons_of_isDigits hcs rfl _)
  · rfl

/-- Digits are no word. -/
theorem not_mem_words (hs : IsDigits s.toList) {words : List String}
    (hwords : ∀ word ∈ words, word.toList.head?.all (!·.isDigit)) : words.contains s = false := by
  rw [Bool.eq_false_iff, Ne, List.contains_iff_mem]
  intro hmem
  obtain ⟨c, rest, hcons⟩ := List.exists_cons_of_ne_nil hs.ne_nil
  have hc : c.isDigit = true := hs.isDigit c (hcons ▸ List.mem_cons_self)
  have hword := hwords s hmem
  rw [hcons] at hword
  simp [hc] at hword

/-- Digits on their own are neither null nor a boolean. -/
theorem ofPlain_digits (hs : IsDigits s.toList) :
    ofPlain s = match integer? s.toList with
      | some n => n
      | none => if hasLeadingZero s.toList then .text s else
        match fraction? s with
        | some x => .fraction x
        | none => .text s := by
  have hempty : s.isEmpty = false := by
    rw [Bool.eq_false_iff, Ne, String.isEmpty_iff]
    rintro rfl
    exact hs.ne_nil rfl
  have hnull : isNullWord s = false := not_mem_words hs (by decide)
  have hboolean : boolean? s = none := by
    rw [boolean?, not_mem_words hs (by decide), not_mem_words hs (by decide)]
    rfl
  rw [ofPlain, hempty, hnull, hboolean]
  cases integer? s.toList <;> rfl

/-- **Digits without a zero in front stand for their value.** -/
theorem ofPlain_number (hs : IsDigits s.toList) (hzero : s.toList.head? = some '0' → s.toList = ['0'])
    (hlt : decimal s.toList < 2 ^ 64) : ofPlain s = .integer (decimal s.toList) := by
  have hleading : ¬ hasLeadingZero s.toList = true := fun h =>
    ((hasLeadingZero_digits hs).1 h).2 (hzero ((hasLeadingZero_digits hs).1 h).1)
  have hinteger : integer? s.toList = some (.integer (decimal s.toList)) := by
    have hunsigned : unsigned? (Nat.pow 2 64) s.toList = some (decimal s.toList) := by
      rw [unsigned?_digits hs, if_neg hleading]
      exact Option.filter_some_pos (decide_eq_true hlt)
    rw [integer?, hunsigned]
  rw [ofPlain_digits hs, hinteger]

/-- **Digits with a zero in front stand for themselves.** -/
theorem ofPlain_leadingZero (hs : IsDigits s.toList) (hzero : s.toList.head? = some '0')
    (hne : s.toList ≠ ['0']) : ofPlain s = .text s := by
  have hleading : hasLeadingZero s.toList = true := (hasLeadingZero_digits hs).2 ⟨hzero, hne⟩
  have hinteger : integer? s.toList = none := by
    simp only [integer?, unsigned?_digits hs, negative?_digits hs, hleading, if_true,
      Option.filter_none]
  rw [ofPlain_digits hs, hinteger]
  exact if_pos hleading

end Cutover.Yaml.Scalar
