/-
**The tag takes the place of the placeholder, and of nothing else.**

A text falls into the pieces between its placeholders.  The first character of the placeholder does
not occur in it again, so two placeholders never overlap, and the pieces are determined by the text.
Putting a tag in means to join the same pieces by the tag.  A tag is only put between the pieces and
never looked at, so it may have the placeholder in it itself.

A template is gone through in place, container by container.  Where no image has a placeholder every
container is left as it was, and only then is the template refused.

Main definitions:

* `Cutover.Service.HasPlace` — a text that has the placeholder in it;
* `Cutover.Service.Between` — the pieces between the placeholders of a text;
* `Cutover.Service.Tagged` — a container, and what it is with a tag put in.

Main results:

* `Cutover.Service.between_iff` — the pieces of a text are determined by it;
* `Cutover.Service.substitute_eq` — **putting a tag in joins the pieces by it**;
* `Cutover.Service.tagTemplate_eq` — what comes of putting a tag into a template;
* `Cutover.Service.tagTemplate_tagged` — **only images are changed, and only at their placeholders**.
-/
import Mathlib.Data.List.Basic
import Mathlib.Data.List.Forall2
import Cutover.Service.ImageTag

set_option autoImplicit false

namespace Cutover.Service

variable {tag : String} {cs rest : List Char}

/-! ### Places for a tag -/

/-- A text that has the placeholder in it. -/
def HasPlace (text : String) : Prop := ∃ front back, text = front ++ placeholder ++ back

theorem startsWithPlaceholder_iff : startsWithPlaceholder cs = true ↔ placeholder.toList <+: cs :=
  List.isPrefixOf_iff_prefix

theorem hasPlaceholder_iff : hasPlaceholder cs = true ↔ placeholder.toList <:+: cs := by
  induction cs with
  | nil => simp [hasPlaceholder, placeholder]
  | cons c cs ih =>
      rw [hasPlaceholder, Bool.or_eq_true, startsWithPlaceholder_iff, ih, List.infix_cons_iff]

theorem hasPlace_iff (text : String) : HasPlace text ↔ placeholder.toList <:+: text.toList := by
  constructor
  · rintro ⟨front, back, rfl⟩
    exact ⟨front.toList, back.toList, by simp⟩
  · rintro ⟨front, back, htext⟩
    refine ⟨.ofList front, .ofList back, String.toList_inj.1 ?_⟩
    simp [← htext]

theorem hasPlaceholder_toList (text : String) :
    hasPlaceholder text.toList = true ↔ HasPlace text := by
  rw [hasPlaceholder_iff, hasPlace_iff]

/-- The first character of the placeholder does not occur in it again, so a placeholder that starts
in a text without placeholders does not end in one that follows it. -/
theorem not_startsWith_append {c : Char} {p : List Char}
    (hfree : ¬ placeholder.toList <:+: c :: p) :
    ¬ placeholder.toList <+: (c :: p) ++ (placeholder.toList ++ rest) := by
  rintro ⟨back, hback⟩
  rcases List.append_eq_append_iff.1 hback with ⟨more, hmore, -⟩ | ⟨more, hmore, hrest⟩
  · exact hfree (hmore ▸ (List.prefix_append _ _).isInfix)
  cases more with
  | nil =>
      rw [List.append_nil] at hmore
      exact hfree (hmore ▸ List.infix_refl placeholder.toList)
  | cons x more =>
      -- what is left over of the first placeholder starts the second one
      have hhead : x = '$' := by
        have hheads := congrArg List.head? hrest
        simpa [placeholder] using hheads.symm
      have htail : placeholder.toList.tail = p ++ x :: more := by rw [hmore]; rfl
      have hagain : '$' ∈ placeholder.toList.tail := by
        rw [htail, hhead]
        simp
      exact absurd hagain (by decide)

/-! ### The pieces of a text -/

/-- The pieces between the placeholders of a text, from left to right. -/
def pieces : List Char → List (List Char)
  | [] => [[]]
  | c :: cs =>
    if startsWithPlaceholder (c :: cs) then [] :: pieces (cs.drop (placeholder.length - 1))
    else (pieces cs).modifyHead (c :: ·)
termination_by cs => cs.length
decreasing_by all_goals simp; try omega

theorem pieces_ne_nil (cs : List Char) : pieces cs ≠ [] := by
  fun_induction pieces cs with
  | case1 => simp
  | case2 => simp
  | case3 c cs _ ih => simpa using ih

/-- Behind a placeholder the text goes on. -/
theorem eq_append_of_startsWith {c : Char} (hstarts : startsWithPlaceholder (c :: cs) = true) :
    c :: cs = placeholder.toList ++ cs.drop (placeholder.length - 1) := by
  obtain ⟨back, hback⟩ := startsWithPlaceholder_iff.1 hstarts
  have hdrop : (c :: cs).drop placeholder.length = back := by
    rw [← hback, ← String.length_toList, List.drop_left]
  rw [← hback, ← hdrop]
  rfl

/-- Joining pieces goes on in the first one of them. -/
theorem intercalate_modifyHead (sep : List Char) (c : Char) {ps : List (List Char)}
    (hps : ps ≠ []) :
    sep.intercalate (ps.modifyHead (c :: ·)) = c :: sep.intercalate ps := by
  obtain ⟨p, rest, rfl⟩ := List.exists_cons_of_ne_nil hps
  cases rest <;> simp

/-- **Putting a tag in joins the pieces by it.** -/
theorem substitute_eq (tag cs : List Char) : substitute tag cs = tag.intercalate (pieces cs) := by
  fun_induction pieces cs with
  | case1 => simp [substitute]
  | case2 c cs hstarts ih =>
      rw [substitute, if_pos hstarts, ih, List.intercalate_cons_of_ne_nil (pieces_ne_nil _)]
      rfl
  | case3 c cs hstarts ih =>
      rw [substitute, if_neg hstarts, ih, intercalate_modifyHead _ _ (pieces_ne_nil cs)]

/-- The pieces make the text again. -/
theorem intercalate_pieces (cs : List Char) : placeholder.toList.intercalate (pieces cs) = cs := by
  fun_induction pieces cs with
  | case1 => simp
  | case2 c cs hstarts ih =>
      rw [List.intercalate_cons_of_ne_nil (pieces_ne_nil _), ih, eq_append_of_startsWith hstarts]
      rfl
  | case3 c cs hstarts ih =>
      rw [intercalate_modifyHead _ _ (pieces_ne_nil cs), ih]

/-- No piece has a placeholder. -/
theorem free_of_mem_pieces (cs : List Char) : ∀ p ∈ pieces cs, ¬ placeholder.toList <:+: p := by
  have hempty : ¬ placeholder.toList <:+: [] := by simp [placeholder]
  fun_induction pieces cs with
  | case1 => simpa using hempty
  | case2 c cs _ ih => exact List.forall_mem_cons.2 ⟨hempty, ih⟩
  | case3 c cs hstarts ih =>
      obtain ⟨p, rest, hps⟩ := List.exists_cons_of_ne_nil (pieces_ne_nil cs)
      rw [hps] at ih ⊢
      obtain ⟨hp, hrest⟩ := List.forall_mem_cons.1 ih
      refine List.forall_mem_cons.2 ⟨fun hinfix => ?_, hrest⟩
      rcases List.infix_cons_iff.1 hinfix with hstart | hinside
      · -- the first piece is at the start of the text
        have hfirst : p <+: cs := by
          rw [← intercalate_pieces cs, hps]
          cases rest with
          | nil => simp
          | cons q rest => simp [List.append_assoc]
        have hlonger : c :: p <+: c :: cs := List.cons_prefix_cons.2 ⟨rfl, hfirst⟩
        exact hstarts (startsWithPlaceholder_iff.2 (hstart.trans hlonger))
      · exact hp hinside

theorem pieces_of_free (hfree : ¬ placeholder.toList <:+: cs) : pieces cs = [cs] := by
  induction cs with
  | nil => rw [pieces]
  | cons c cs ih =>
      rw [List.infix_cons_iff, not_or] at hfree
      rw [pieces, if_neg (startsWithPlaceholder_iff.not.2 hfree.1), ih hfree.2]
      rfl

theorem pieces_append (hfree : ¬ placeholder.toList <:+: cs) :
    pieces (cs ++ (placeholder.toList ++ rest)) = cs :: pieces rest := by
  induction cs with
  | nil =>
      have hstarts : startsWithPlaceholder (placeholder.toList ++ rest) = true :=
        startsWithPlaceholder_iff.2 (List.prefix_append _ _)
      have hcons : placeholder.toList ++ rest = '$' :: (placeholder.toList.tail ++ rest) := rfl
      rw [List.nil_append, hcons, pieces, if_pos (hcons ▸ hstarts)]
      rfl
  | cons c cs ih =>
      have hstarts : ¬ startsWithPlaceholder ((c :: cs) ++ (placeholder.toList ++ rest)) = true :=
        startsWithPlaceholder_iff.not.2 (not_startsWith_append hfree)
      rw [List.infix_cons_iff, not_or] at hfree
      rw [List.cons_append] at hstarts ⊢
      rw [pieces, if_neg hstarts, ih hfree.2]
      rfl

/-- Pieces without a placeholder are the pieces of what they make. -/
theorem pieces_intercalate {ps : List (List Char)} (hps : ps ≠ [])
    (hfree : ∀ p ∈ ps, ¬ placeholder.toList <:+: p) :
    pieces (placeholder.toList.intercalate ps) = ps := by
  induction ps with
  | nil => exact absurd rfl hps
  | cons p ps ih =>
      obtain ⟨hp, hrest⟩ := List.forall_mem_cons.1 hfree
      cases ps with
      | nil => rw [List.intercalate_singleton, pieces_of_free hp]
      | cons q ps =>
          rw [List.intercalate_cons_cons, List.append_assoc, pieces_append hp, ih (by simp) hrest]

/-- The pieces between the placeholders of a text. -/
structure Between (text : String) (ps : List String) : Prop where
  /-- There is at least one, which may be empty. -/
  some : ps ≠ []
  free : ∀ p ∈ ps, ¬ HasPlace p
  joined : placeholder.intercalate ps = text

/-- The pieces of a text are determined by it. -/
theorem between_iff {text : String} {ps : List String} :
    Between text ps ↔ ps.map String.toList = pieces text.toList := by
  constructor
  · intro hps
    rw [← hps.joined, String.toList_intercalate, pieces_intercalate]
    · simpa using hps.some
    · intro p hp
      obtain ⟨q, hq, rfl⟩ := List.mem_map.1 hp
      exact fun hplace => hps.free q hq ((hasPlace_iff q).2 hplace)
  · intro hps
    constructor
    · rintro rfl
      exact pieces_ne_nil _ hps.symm
    · intro p hp hplace
      have hmem : p.toList ∈ pieces text.toList := hps ▸ List.mem_map_of_mem hp
      exact free_of_mem_pieces _ _ hmem ((hasPlace_iff p).1 hplace)
    · apply String.toList_inj.1
      rw [String.toList_intercalate, hps, intercalate_pieces]

/-! ### Containers -/

/-- A container, and what it is with a tag put in: the pieces of its image, of which there is only
one choice, are joined by the tag, and everything else is as it was. -/
def Tagged (tag : String) (d d' : Container.Definition) : Prop :=
  ∃ ps, Between d.image ps ∧ (∀ others, Between d.image others → others = ps) ∧
    d' = { d with image := tag.intercalate ps }

theorem withImageTag_tagged (tag : String) (d : Container.Definition) :
    Tagged tag d (withImageTag tag d) := by
  let ps := (pieces d.image.toList).map String.ofList
  have hps : ps.map String.toList = pieces d.image.toList := by
    simp [ps, Function.comp_def]
  refine ⟨ps, between_iff.2 hps, fun others hothers => ?_, ?_⟩
  · exact List.map_injective_iff.2 (fun _ _ => String.toList_inj.1)
      ((between_iff.1 hothers).trans hps.symm)
  · have himage : String.ofList (substitute tag.toList d.image.toList) = tag.intercalate ps := by
      apply String.toList_inj.1
      rw [String.toList_intercalate, hps, String.toList_ofList, substitute_eq]
    rw [withImageTag, himage]

/-- A container whose image has no place for a tag is left as it is. -/
theorem withImageTag_of_free {d : Container.Definition}
    (hfree : hasPlaceholder d.image.toList = false) : withImageTag tag d = d := by
  have hnone : ¬ placeholder.toList <:+: d.image.toList := by
    rw [← hasPlaceholder_iff, hfree]
    simp
  rw [withImageTag, substitute_eq, pieces_of_free hnone, List.intercalate_singleton,
    String.ofList_toList]

/-! ### Templates -/

/-- Putting a tag in place into one container after the other changes each by itself, and counts
those that have a place for it. -/
theorem putImageTag_eq (tag : String) (ds : List Container.Definition) :
    putImageTag tag ds =
      (ds.map (withImageTag tag), ds.countP fun d => hasPlaceholder d.image.toList) := by
  induction ds with
  | nil => rfl
  | cons d rest ih =>
      rw [putImageTag, ih, List.map_cons]
      by_cases hplace : hasPlaceholder d.image.toList = true
      · simp [hplace]
      · rw [Bool.not_eq_true] at hplace
        simp [hplace, withImageTag_of_free hplace]

/-- What comes of putting a tag into a template. -/
theorem tagTemplate_eq (service tag : String) (ds : List Container.Definition) :
    tagTemplate service tag ds =
      (if ds.any (fun d => hasPlaceholder d.image.toList) then .ok ()
        else .error (.imageTagNotApplied service tag), ds.map (withImageTag tag)) := by
  rw [tagTemplate, putImageTag_eq]
  simp only [List.countP_eq_zero]
  by_cases hany : ds.any (fun d => hasPlaceholder d.image.toList) = true
  · have hsome : ¬ ∀ d ∈ ds, ¬ hasPlaceholder d.image.toList = true := by
      simpa using hany
    rw [if_neg hsome, if_pos hany]
  · have hnone : ∀ d ∈ ds, ¬ hasPlaceholder d.image.toList = true := by
      simpa using hany
    rw [if_pos hnone, if_neg hany]

theorem applyImageTag_eq (service tag : String) (ds : List Container.Definition) :
    applyImageTag service tag ds =
      if ds.any (fun d => hasPlaceholder d.image.toList) then .ok (ds.map (withImageTag tag))
      else .error (.imageTagNotApplied service tag) := by
  rw [applyImageTag, tagTemplate_eq]
  by_cases hany : ds.any (fun d => hasPlaceholder d.image.toList) = true
  · rw [if_pos hany, if_pos hany]
  · rw [if_neg hany, if_neg hany]

/-- **Only images are changed, and only at their placeholders.**  A template is refused exactly if
no image of it has a place for the tag, and then it stands as it was. -/
theorem tagTemplate_tagged (service tag : String) (ds : List Container.Definition) :
    ((tagTemplate service tag ds).1 = .error (.imageTagNotApplied service tag) ↔
      ∀ d ∈ ds, ¬ HasPlace d.image) ∧
    ((tagTemplate service tag ds).1 = .ok () ↔ ∃ d ∈ ds, HasPlace d.image) ∧
    ((tagTemplate service tag ds).1 ≠ .ok () → (tagTemplate service tag ds).2 = ds) ∧
    List.Forall₂ (Tagged tag) ds (tagTemplate service tag ds).2 := by
  have hplaces : ds.any (fun d => hasPlaceholder d.image.toList) = true ↔
      ∃ d ∈ ds, HasPlace d.image := by
    simp only [List.any_eq_true, hasPlaceholder_toList]
  have htagged : List.Forall₂ (Tagged tag) ds (ds.map (withImageTag tag)) :=
    List.forall₂_map_right_iff.2 (List.forall₂_same.2 fun d _ => withImageTag_tagged tag d)
  rw [tagTemplate_eq]
  by_cases hany : ∃ d ∈ ds, HasPlace d.image
  · rw [if_pos (hplaces.2 hany)]
    refine ⟨?_, by simpa using hany, by simp, htagged⟩
    simpa using hany
  · have hfree : ∀ d ∈ ds, ¬ HasPlace d.image := by
      simpa using hany
    rw [if_neg (hplaces.not.2 hany)]
    refine ⟨by simpa using hfree, by simpa using hfree, fun _ => ?_, htagged⟩
    have hsame : ∀ d ∈ ds, withImageTag tag d = d := fun d hd =>
      withImageTag_of_free (Bool.eq_false_iff.2 ((hasPlaceholder_toList _).not.2 (hfree d hd)))
    exact (List.map_congr_left hsame).trans (List.map_id ds)

end Cutover.Service
