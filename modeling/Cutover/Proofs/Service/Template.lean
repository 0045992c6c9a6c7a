/-
**Stored templates lose no settings.**

The bytes of a stored object hold a tree of containers: the list itself, or the list under the name
that an object holds it by.  Whatever tree that is, a template that is read from it has all of its
settings, and writing the template gives the tree again; a tree with a member that no record has is
refused, at whatever depth the member stands.

Main definitions:

* `Cutover.Service.Stores` — the bytes of an object hold a tree of containers.

Main results:

* `Cutover.Service.templateOf_eq` — the template in the bytes is the one in the tree;
* `Cutover.Service.template_keeps_settings` — **nothing is lost or invented by reading a template**.
-/
import Cutover.Proofs.Container.Shapes
import Cutover.Proofs.Json.Reading
import Cutover.Service.Template

set_option autoImplicit false

namespace Cutover.Service

open Container (templateCodec templateShape templateCodec_keeps)

/-- The bytes of an object hold a tree of containers, as a list or under a name. -/
def Stores (body : ByteArray) (tree : Json.Value) : Prop :=
  ∃ stored, Json.Value.readBytes? body = .ok stored ∧ templateTree stored = .ok tree

/-- A list of containers is held as it is. -/
theorem stores_of_array {body : ByteArray} {items : List Json.Value}
    (h : Json.Value.readBytes? body = .ok (.array items)) : Stores body (.array items) :=
  ⟨_, h, rfl⟩

/-- The tree of containers in a sorted tree is sorted. -/
theorem templateTree_sorted {stored tree : Json.Value} (hstored : stored.IsSorted)
    (h : templateTree stored = .ok tree) : tree.IsSorted := by
  cases hstored with
  | object _ hms =>
      rw [templateTree] at h
      split at h
      · rename_i v hv
        cases h
        exact hms _ (Dict.mem_of_lookup hv)
      · cases h
  | null | boolean | number | string | array =>
      cases h
      constructor <;> assumption

/-- The template in the bytes of an object is the one in the tree that they hold. -/
theorem templateOf_eq {body : ByteArray} {tree : Json.Value} (h : Stores body tree) :
    templateOf body = (templateCodec.decode tree).mapError (·.message) := by
  obtain ⟨stored, hread, htree⟩ := h
  rw [templateOf, hread]
  change (templateTree stored >>= _) = _
  rw [htree]
  rfl

/-- A template is read only from bytes that hold a tree of containers, and from this tree. -/
theorem templateOf_eq_ok_iff {body : ByteArray} {ds : List Container.Definition} :
    templateOf body = .ok ds ↔ ∃ tree, Stores body tree ∧ templateCodec.decode tree = .ok ds := by
  constructor
  · intro h
    rw [templateOf] at h
    obtain ⟨stored, hread, h⟩ := bind_eq_ok_iff.1 h
    obtain ⟨tree, htree, h⟩ := bind_eq_ok_iff.1 h
    exact ⟨tree, ⟨stored, mapError_eq_ok_iff.1 hread, htree⟩, mapError_eq_ok_iff.1 h⟩
  · rintro ⟨tree, hstores, hdecode⟩
    rw [templateOf_eq hstores, hdecode]
    rfl

/-- Bytes hold one tree of containers. -/
theorem Stores.unique {body : ByteArray} {tree tree' : Json.Value} (h : Stores body tree)
    (h' : Stores body tree') : tree = tree' := by
  obtain ⟨stored, hread, htree⟩ := h
  obtain ⟨stored', hread', htree'⟩ := h'
  rw [hread] at hread'
  cases hread'
  rw [htree] at htree'
  cases htree'
  rfl

/-- **Nothing is lost or invented by reading a template.**  Every template is read back from its own
tree.  A template that is read from the bytes of an object comes from the tree that they hold, and
if records are written as objects there, it gives this tree when it is written, but for fields that
say nothing.  A tree with a member that no record has is refused, wherever the member stands.  The
list of containers and an object that holds it under its name read as the same template. -/
theorem template_keeps_settings :
    (∀ ds, templateCodec.decode (templateCodec.encode ds) = .ok ds) ∧
      (∀ body ds, templateOf body = .ok ds → (∃ tree, Stores body tree) ∧
        ∀ tree, Stores body tree → templateShape.isNamed tree = true →
          templateCodec.encode ds = templateShape.tidy tree) ∧
      (∀ body tree, Stores body tree → templateShape.knows tree = false →
        ∃ reason, templateOf body = .error reason) ∧
      ∀ body body' items members, Json.Value.readBytes? body = .ok (.array items) →
        Json.Value.readBytes? body' = .ok (.object members) →
        members.lookup wrapperMember = some (.array items) →
        templateOf body' = templateOf body := by
  refine ⟨templateCodec_keeps.decode_encode, ?_, ?_, ?_⟩
  · intro body ds hread
    obtain ⟨tree, hstores, hdecode⟩ := templateOf_eq_ok_iff.1 hread
    refine ⟨⟨tree, hstores⟩, fun tree' hstores' hnamed => ?_⟩
    obtain rfl := hstores.unique hstores'
    obtain ⟨stored, hstored, htree⟩ := hstores
    have hsorted := templateTree_sorted (Json.Value.readBytes?_sorted hstored) htree
    exact templateCodec_keeps.encode_decode hsorted hnamed hdecode
  · intro body tree hstores hunknown
    rw [templateOf_eq hstores]
    cases hdecode : templateCodec.decode tree with
    | error e => exact ⟨e.message, rfl⟩
    | ok ds =>
        rw [templateCodec_keeps.knows_of_decode hdecode] at hunknown
        cases hunknown
  · intro body body' items members hlist hobject hheld
    have htree : templateTree (.object members) = .ok (.array items) := by
      rw [templateTree, hheld]
    rw [templateOf_eq ⟨_, hobject, htree⟩, templateOf_eq (stores_of_array hlist)]

/-- The text of a template in which a field says nothing. -/
def nullText : String :=
  "[\x7b\x22name\x22:\x22w\x22,\x22image\x22:\x22w\x22,\x22cpu\x22:null\x7d]"

/-- The text of a template with a secret that has a member which secrets do not have. -/
def strangeText : String :=
  "[\x7b\x22name\x22:\x22w\x22,\x22image\x22:\x22w\x22,\x22secrets\x22:[\x7b\x22x\x22:1\x7d]\x7d]"

theorem template_keeps_settings_of_texts :
    (∃ ds, templateOf nullText.toUTF8 = .ok ds ∧
      templateCodec.encode ds = .array [.object [("image", .string "w"), ("name", .string "w")]]) ∧
    ∃ reason, templateOf strangeText.toUTF8 = .error reason := by
  have hnull : Stores nullText.toUTF8
      (.array [.object [("cpu", .null), ("image", .string "w"), ("name", .string "w")]]) := by
    refine stores_of_array ?_
    rw [Json.Value.readBytes?_toUTF8, nullText]
    simp
    rfl
  have hstrange : Stores strangeText.toUTF8
      (.array [.object [("image", .string "w"), ("name", .string "w"),
        ("secrets", .array [.object [("x", .integer 1)]])]]) := by
    refine stores_of_array ?_
    rw [Json.Value.readBytes?_toUTF8, strangeText]
    simp
    rfl
  obtain ⟨_, hkept, hrefused, _⟩ := template_keeps_settings
  refine ⟨?_, hrefused _ _ hstrange rfl⟩
  have hread := templateOf_eq_ok_iff.2 ⟨_, hnull, rfl⟩
  exact ⟨_, hread, (hkept _ _ hread).2 _ hnull rfl⟩

end Cutover.Service
