/-
**Priorities and their written form.**

A priority is written as the word for the default or as a number in decimal digits, in front of
which there may be a plus sign; zeros in front of the number do not count, and its size is bounded.
Nothing else is read as a priority, and what is written for a priority is read as this priority.

Main definitions:

* `Cutover.Rule.Priority.Writes` — a text writes a number;
* `Cutover.Rule.Priority.InRange` — a priority has a number that can be read.

Main results:

* `Cutover.Rule.Priority.natural?_eq_some_iff`, `Cutover.Rule.Priority.number?_eq_some_iff` — what
  is read of digits, and of digits with a sign;
* `Cutover.Rule.Priority.parse?_text` — every priority is read back from its written form;
* `Cutover.Rule.Priority.parse?_exact` — **priorities are read from their written forms only**.
-/
import Cutover.Proofs.Text.Decimal
import Cutover.Rule.Priority

set_option autoImplicit false

namespace Cutover.Rule.Priority

open Text (IsDigits decimal)

variable {cs : List Char} {s : String} {n : Nat}

/-- Digits are read as their value, and nothing else is. -/
theorem natural?_eq_some_iff : natural? cs = some n ↔ IsDigits cs ∧ decimal cs = n := by
  have hdigits : (!cs.isEmpty && cs.all Char.isDigit) = true ↔ IsDigits cs := by
    rw [Bool.and_eq_true, List.all_eq_true, Bool.not_eq_true', List.isEmpty_eq_false_iff]
    exact ⟨fun h => ⟨h.1, h.2⟩, fun h => ⟨h.1, h.2⟩⟩
  rw [natural?, Text.foldl_eq_decimal]
  by_cases hcs : IsDigits cs
  · rw [if_pos (hdigits.2 hcs), Option.some.injEq]
    exact (and_iff_right hcs).symm
  · rw [if_neg (mt hdigits.1 hcs)]
    exact iff_of_false (nomatch ·) fun h => hcs h.1

/-- A text writes a number: it consists of digits with this value, which is below the limit, and
there may be a plus sign in front of them. -/
def Writes (cs : List Char) (n : Nat) : Prop :=
  ∃ digits, (cs = digits ∨ cs = '+' :: digits) ∧ IsDigits digits ∧ decimal digits = n ∧ n < 2 ^ 32

/-- A number is read from the texts that write it. -/
theorem number?_eq_some_iff : number? cs = some n ↔ Writes cs n := by
  have hread : ∀ digits : List Char, (natural? digits).filter (· < limit) = some n ↔
      IsDigits digits ∧ decimal digits = n ∧ n < 2 ^ 32 := by
    intro digits
    rw [Option.filter_eq_some_iff, natural?_eq_some_iff, decide_eq_true_iff, and_assoc]
    exact Iff.rfl
  unfold number? Writes
  split
  · -- behind a sign there have to be digits, and a sign is none
    rename_i rest
    rw [hread]
    constructor
    · exact fun h => ⟨rest, .inr rfl, h⟩
    · rintro ⟨digits, rfl | heq, hdigits⟩
      · exact absurd (hdigits.1.isDigit '+' List.mem_cons_self) (by decide)
      · exact (List.cons.inj heq).2 ▸ hdigits
  · rename_i hsign
    rw [hread]
    constructor
    · exact fun h => ⟨cs, .inl rfl, h⟩
    · rintro ⟨digits, rfl | rfl, hdigits⟩
      · exact hdigits
      · exact absurd rfl (hsign digits)

/-- The digits of a number are read as this number. -/
theorem number?_toDigits (hn : n < limit) : number? (Nat.toDigits 10 n) = some n :=
  number?_eq_some_iff.2
    ⟨_, .inl rfl, Text.isDigits_toDigits n, Text.decimal_toDigits n, hn⟩

/-- The word for the default is no number. -/
theorem not_isDigits_default : ¬ IsDigits "default".toList := fun h =>
  absurd (h.isDigit 'd' (by decide)) (by decide)

theorem not_writes_default : ¬ Writes "default".toList n := by
  rintro ⟨digits, rfl | heq, hdigits, -⟩
  · exact not_isDigits_default hdigits
  · exact absurd (List.cons.inj heq).1 (by decide)

theorem toList_text (n : Nat) : (text (.number n)).toList = Nat.toDigits 10 n := by
  rw [text, Nat.toString_eq_repr, Nat.toList_repr]

/-- What is read as the default, and as a number. -/
theorem parse?_eq_default_iff : parse? s = .ok .default ↔ s = "default" := by
  unfold parse?
  split
  · simp [*]
  · split <;> simp [*]

theorem parse?_eq_number_iff : parse? s = .ok (.number n) ↔ Writes s.toList n := by
  unfold parse?
  split
  · rename_i hs
    rw [hs]
    exact iff_of_false (nomatch ·) not_writes_default
  · rw [← number?_eq_some_iff]
    cases number? s.toList <;> simp

/-- A text that is not read as a priority is refused, and it is in the message. -/
theorem parse?_eq_error_iff :
    parse? s = .error (.config ("Invalid listener rule priority: " ++ s)) ↔
      ∀ p, parse? s ≠ .ok p := by
  unfold parse?
  split
  · simp
  · split <;> simp

/-- Every priority below the limit is read back from its written form. -/
theorem parse?_text {p : Priority} (hp : ∀ n, p = .number n → n < limit) :
    parse? p.text = .ok p := by
  cases p with
  | default => rfl
  | number n =>
      rw [parse?_eq_number_iff, ← number?_eq_some_iff, toList_text]
      exact number?_toDigits (hp n rfl)

/-- A priority that can be read: the default, or a number below the limit. -/
def InRange : Priority → Prop
  | .default => True
  | .number n => n < 2 ^ 32

/-- **Priorities are read from their written forms only.**  The word for the default is read as the
default, and a text that writes a number as this number; all other texts are refused, with the text
in the message.  A priority is read back from what is written for it just if it is in range, and no
two priorities are written alike. -/
theorem parse?_exact :
    (∀ s, parse? s = .ok .default ↔ s = "default") ∧
      (∀ s n, parse? s = .ok (.number n) ↔ Writes s.toList n) ∧
      (∀ s, parse? s = .error (.config ("Invalid listener rule priority: " ++ s)) ↔
        ¬(s = "default" ∨ ∃ n, Writes s.toList n)) ∧
      (∀ p : Priority, parse? p.text = .ok p ↔ p.InRange) ∧
      ∀ p q : Priority, p.text = q.text ↔ p = q := by
  refine ⟨fun s => parse?_eq_default_iff, fun s n => parse?_eq_number_iff, fun s => ?_,
    fun p => ?_, fun p q => ⟨fun htext => ?_, congrArg text⟩⟩
  · rw [parse?_eq_error_iff, not_or, not_exists, ← parse?_eq_default_iff]
    constructor
    · exact fun h => ⟨h _, fun n hn => h _ (parse?_eq_number_iff.2 hn)⟩
    · rintro ⟨hdefault, hnumber⟩ (_ | n) hp
      · exact hdefault hp
      · exact hnumber n (parse?_eq_number_iff.1 hp)
  · constructor
    · intro hp
      cases p with
      | default => trivial
      | number n =>
          obtain ⟨-, -, -, -, hlimit⟩ := parse?_eq_number_iff.1 hp
          exact hlimit
    · intro hp
      refine parse?_text fun n hn => ?_
      subst hn
      exact hp
  · have hlists := congrArg String.toList htext
    cases p with
    | default =>
        cases q with
        | default => rfl
        | number n =>
            rw [toList_text] at hlists
            exact absurd (hlists ▸ Text.isDigits_toDigits n) not_isDigits_default
    | number m =>
        rw [toList_text] at hlists
        cases q with
        | default => exact absurd (hlists ▸ Text.isDigits_toDigits m) not_isDigits_default
        | number n =>
            rw [toList_text] at hlists
            rw [← Text.decimal_toDigits m, hlists, Text.decimal_toDigits]

end Cutover.Rule.Priority
