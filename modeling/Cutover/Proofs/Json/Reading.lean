/-
**Trees that are read.**

A tree that is read from text has the members of every object in the order of their names, each name
once, however the text has them.

Main results:

* `Cutover.Json.readsSorted` — every value, list of items and list of members that is read;
* `Cutover.Json.Value.readBytes?_sorted` — **the tree of a stored object is sorted**;
* `Cutover.Json.Value.readBytes?_toUTF8` — the bytes of a text hold the tree of the text.
-/
import Cutover.Proofs.Json.Shape
import Cutover.Json.Reader

set_option autoImplicit false

namespace Cutover

/-- What stands in a dictionary that entries are added to is one of them, or it stood there. -/
theorem Dict.mem_foldl_insert {α : Type} {l : List (String × α)} {d : Dict α} {e : String × α}
    (he : e ∈ (l.foldl (fun d e => d.insert e.1 e.2) d).entries) : e ∈ l ∨ e ∈ d.entries := by
  induction l generalizing d with
  | nil => exact .inr he
  | cons first rest ih =>
      rcases ih he with hrest | hinsert
      · exact .inl (List.mem_cons_of_mem first hrest)
      · rcases Dict.mem_insertEntry hinsert with rfl | hold
        · exact .inl List.mem_cons_self
        · exact .inr hold

namespace Json

/-- The object of members whose values are sorted is sorted. -/
theorem Value.isSorted_ofMembers {ms : List (String × Value)} (hms : ∀ e ∈ ms, e.2.IsSorted) :
    (Value.ofMembers ms).IsSorted :=
  .object (Dict.ofList ms).sorted fun e he =>
    hms e ((Dict.mem_foldl_insert he).resolve_right List.not_mem_nil)

/-- Whatever is read within some steps is sorted. -/
structure ReadsSorted (fuel : Nat) : Prop where
  value : ∀ {depth cs v rest}, readValue fuel depth cs = .ok (v, rest) → v.IsSorted
  items : ∀ {depth cs vs rest}, readItems fuel depth cs = .ok (vs, rest) → ∀ v ∈ vs, v.IsSorted
  members : ∀ {depth cs ms rest}, readMembers fuel depth cs = .ok (ms, rest) →
    ∀ e ∈ ms, e.2.IsSorted

namespace ReadsSorted

variable {fuel depth : Nat} {cs rest : List Char}

theorem value_succ (ih : ReadsSorted fuel) {v : Value}
    (h : readValue (fuel + 1) depth cs = .ok (v, rest)) : v.IsSorted := by
  rw [readValue] at h
  -- the cases are those of the first character
  split at h
  · cases h
  · obtain ⟨⟨s, _⟩, _, h⟩ := bind_eq_ok_iff.1 h
    cases h
    exact .string s
  · obtain ⟨⟨_, _⟩, _, h⟩ := bind_eq_ok_iff.1 h
    cases h
    exact .null
  · obtain ⟨⟨_, _⟩, _, h⟩ := bind_eq_ok_iff.1 h
    cases h
    exact .boolean true
  · obtain ⟨⟨_, _⟩, _, h⟩ := bind_eq_ok_iff.1 h
    cases h
    exact .boolean false
  · split at h
    · cases h
    · split at h
      · cases h
        exact .array fun v hv => nomatch hv
      · obtain ⟨⟨vs, _⟩, hitems, h⟩ := bind_eq_ok_iff.1 h
        cases h
        exact .array (ih.items hitems)
  · split at h
    · cases h
    · split at h
      · cases h
        exact .object .nil fun e he => nomatch he
      · obtain ⟨⟨ms, _⟩, hmembers, h⟩ := bind_eq_ok_iff.1 h
        cases h
        exact Value.isSorted_ofMembers (ih.members hmembers)
  · split at h
    · obtain ⟨⟨n, _⟩, _, h⟩ := bind_eq_ok_iff.1 h
      cases h
      exact .number n
    · cases h

theorem items_succ (ih : ReadsSorted fuel) {vs : List Value}
    (h : readItems (fuel + 1) depth cs = .ok (vs, rest)) : ∀ v ∈ vs, v.IsSorted := by
  rw [readItems] at h
  obtain ⟨⟨v, _⟩, hv, h⟩ := bind_eq_ok_iff.1 h
  have hfirst := ih.value hv
  dsimp only at h
  split at h
  · obtain ⟨⟨more, _⟩, hmore, h⟩ := bind_eq_ok_iff.1 h
    cases h
    exact List.forall_mem_cons.2 ⟨hfirst, ih.items hmore⟩
  · cases h
    exact List.forall_mem_singleton.2 hfirst
  · cases h

theorem members_succ (ih : ReadsSorted fuel) {ms : List (String × Value)}
    (h : readMembers (fuel + 1) depth cs = .ok (ms, rest)) : ∀ e ∈ ms, e.2.IsSorted := by
  rw [readMembers] at h
  split at h
  · obtain ⟨⟨name, _⟩, _, h⟩ := bind_eq_ok_iff.1 h
    dsimp only at h
    split at h
    · obtain ⟨⟨v, _⟩, hv, h⟩ := bind_eq_ok_iff.1 h
      have hfirst := ih.value hv
      dsimp only at h
      split at h
      · obtain ⟨⟨more, _⟩, hmore, h⟩ := bind_eq_ok_iff.1 h
        cases h
        exact List.forall_mem_cons.2 ⟨hfirst, ih.members hmore⟩
      · cases h
        exact List.forall_mem_singleton.2 hfirst
      · cases h
    · cases h
  · cases h

end ReadsSorted

/-- Every value, list of items and list of members that is read is sorted. -/
theorem readsSorted (fuel : Nat) : ReadsSorted fuel := by
  induction fuel with
  | zero =>
      constructor
      · intro depth cs v rest h
        rw [readValue] at h
        cases h
      · intro depth cs vs rest h
        rw [readItems] at h
        cases h
      · intro depth cs ms rest h
        rw [readMembers] at h
        cases h
  | succ fuel ih => exact ⟨ih.value_succ, ih.items_succ, ih.members_succ⟩

/-- **The tree of a stored object is sorted.** -/
theorem Value.readBytes?_sorted {body : ByteArray} {v : Value}
    (h : Value.readBytes? body = .ok v) : v.IsSorted := by
  rw [Value.readBytes?] at h
  split at h
  · obtain ⟨⟨w, _⟩, hread, h⟩ := bind_eq_ok_iff.1 h
    have hw := (readsSorted _).value hread
    dsimp only at h
    split at h
    · cases h
      exact hw
    · cases h
  · cases h

/-- The bytes of a text hold the tree of the text. -/
theorem Value.readBytes?_toUTF8 (s : String) :
    Value.readBytes? s.toUTF8 = Value.read? s.toList := by
  have hutf8 : String.fromUTF8? s.toUTF8 = some s := by
    simp only [String.fromUTF8?, String.toUTF8_eq_toByteArray]
    exact dif_pos s.isValidUTF8
  rw [Value.readBytes?, hutf8]

end Json

end Cutover
