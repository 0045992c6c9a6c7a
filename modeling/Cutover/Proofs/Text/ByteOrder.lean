/-
**The order of texts is that of their bytes.**

Texts are compared character by character, and their UTF-8 forms byte by byte.  Both come to the
same.  Of two characters the smaller one has the smaller form, and this shows before either form
ends: a longer form starts with a greater byte, and forms of one length hold the digits of the two
codes to the base 64.

Main definitions:

* `Cutover.Text.bytes` — the UTF-8 form of a text.

Main results:

* `Cutover.Text.encoded_lt` — the forms of two characters are in the order of the characters,
  whatever follows them;
* `Cutover.Text.lt_iff_bytes` — **the order of texts is that of their bytes**.
-/
import Mathlib.Data.String.Basic

set_option autoImplicit false

namespace Cutover.Text

/-- The UTF-8 form of a text. -/
def bytes (s : String) : List UInt8 := s.toUTF8.data.toList

theorem bytes_eq (s : String) : bytes s = s.toList.flatMap String.utf8EncodeChar := by
  rw [bytes, String.toUTF8, ← String.utf8Encode_toList]
  simp [List.utf8Encode]

/-! ### Two characters -/

theorem ofNat_cons_lt {m n : Nat} {l l' : List UInt8} (hm : m < 256) (hn : n < 256) :
    UInt8.ofNat m :: l < UInt8.ofNat n :: l' ↔ m < n ∨ m = n ∧ l < l' := by
  rw [List.cons_lt_cons_iff, UInt8.lt_iff_toNat_lt, ← UInt8.toNat_inj, UInt8.toNat_ofNat',
    UInt8.toNat_ofNat', Nat.mod_eq_of_lt hm, Nat.mod_eq_of_lt hn]

/-- The form of a smaller character is smaller, whatever follows. -/
theorem encoded_lt {c d : Char} (hlt : c < d) (l l' : List UInt8) :
    String.utf8EncodeChar c ++ l < String.utf8EncodeChar d ++ l' := by
  have hcode : c.val.toNat < d.val.toNat := hlt
  have hmax : d.val.toNat < 0x110000 := by
    rcases d.valid with hd | ⟨-, hd⟩
    · exact Nat.lt_of_lt_of_le hd (by decide)
    · exact hd
  -- the digits of a code, each from the one behind it
  simp only [String.utf8EncodeChar, show 4096 = 64 * 64 from rfl,
    show 262144 = 64 * (64 * 64) from rfl, ← Nat.div_div_eq_div_mul]
  split_ifs <;>
    simp (disch := omega) only [List.cons_append, List.nil_append, ofNat_cons_lt] <;> omega

/-! ### Two texts -/

/-- The forms of characters one after the other are in the order of the characters. -/
theorem flatMap_encoded_lt {cs ds : List Char} (hlt : cs < ds) :
    cs.flatMap String.utf8EncodeChar < ds.flatMap String.utf8EncodeChar := by
  induction hlt with
  | @nil d ds =>
      obtain ⟨b, rest, hform⟩ := List.exists_cons_of_ne_nil (String.utf8EncodeChar_ne_nil (c := d))
      rw [List.flatMap_cons, hform]
      exact List.nil_lt_cons _ _
  | cons _ ih => exact List.append_left_lt ih
  | rel hlt => exact encoded_lt hlt _ _

/-- **The order of texts is that of their bytes.** -/
theorem lt_iff_bytes {s t : String} : s < t ↔ bytes s < bytes t := by
  have hbytes : ∀ {s t : String}, s < t → bytes s < bytes t := by
    intro s t hlt
    rw [bytes_eq, bytes_eq]
    exact flatMap_encoded_lt hlt
  refine ⟨hbytes, fun hlt => ?_⟩
  rcases lt_trichotomy s t with h | rfl | h
  · exact h
  · exact absurd hlt (List.lt_irrefl _)
  · exact absurd hlt (List.lt_asymm (hbytes h))

end Cutover.Text
