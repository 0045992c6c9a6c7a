/-
**Looking tags up in batches.**

Tags are asked for in batches of twenty, their descriptions are put into one table, and resources
take their tags out of that table by name.  Nothing of this can be seen in the result: if every
answer describes the resources of its batch as a store has them, in whatever order, then each
resource has the tags that the store has for it.  A batch that is refused is the last one, and the
whole look-up fails as it did.

Main definitions:

* `Cutover.LoadBalancer.Cuts` — a list in parts of a length, of which the last may be shorter;
* `Cutover.LoadBalancer.Describes` — the journal of a look-up, and what is described in it;
* `Cutover.LoadBalancer.Tells` — an answer describes resources as a store has them;
* `Cutover.LoadBalancer.LooksUp` — what a look-up asks, and what it comes to;
* `Cutover.LoadBalancer.Labelled` — the two listings with tags.

Main results:

* `Cutover.LoadBalancer.batches_cuts` — batches are full but for the last;
* `Cutover.LoadBalancer.tagsOfBatches_describes` — every look-up follows the grammar;
* `Cutover.LoadBalancer.Describes.tells` — batches together tell of all resources;
* `Cutover.LoadBalancer.tags_invisible` — **batches cannot be seen in what is read**.
-/
import Mathlib.Data.List.Basic
import Cutover.LoadBalancer
import Cutover.Proofs.Run.Path

set_option autoImplicit false

namespace Cutover.LoadBalancer

variable {σ α β : Type} {arns : List String} {parts : List (List String)} {t : List Entry}
  {ds : List TagDescription} {store : String → Option Tags} {h : Host σ} {w w' : World σ}

/-! ### Batches -/

/-- A list in parts of some length, of which only the last may be shorter; none is empty. -/
structure Cuts (n : Nat) (l : List α) (parts : List (List α)) : Prop where
  flatten : parts.flatten = l
  bounded : ∀ part ∈ parts, 1 ≤ part.length ∧ part.length ≤ n
  full : ∀ part ∈ parts.dropLast, part.length = n

/-- There is nothing to cut in an empty list. -/
theorem Cuts.eq_nil {n : Nat} {parts : List (List α)} (hcuts : Cuts n [] parts) : parts = [] := by
  cases parts with
  | nil => rfl
  | cons first rest =>
      have hfirst := (hcuts.bounded first List.mem_cons_self).1
      rw [(List.append_eq_nil_iff.1 hcuts.flatten).1] at hfirst
      cases hfirst

theorem batches_flatten (n : Nat) (l : List α) : (batches n l).flatten = l := by
  fun_induction batches n l with
  | case1 => rfl
  | case2 x rest ih => simp [ih]

/-- Batches are full but for the last. -/
theorem batches_cuts (n : Nat) (l : List α) : Cuts (n + 1) l (batches n l) := by
  refine ⟨batches_flatten n l, ?_, ?_⟩
  · fun_induction batches n l with
    | case1 => simp
    | case2 x rest ih =>
        intro part hpart
        rcases List.mem_cons.1 hpart with rfl | hpart
        · rw [List.length_cons, List.length_take]
          omega
        · exact ih part hpart
  · fun_induction batches n l with
    | case1 => simp
    | case2 x rest ih =>
        intro part hpart
        by_cases hlast : rest.drop n = []
        · rw [hlast, batches] at hpart
          cases hpart
        · have hmore : batches n (rest.drop n) ≠ [] := by
            intro hnone
            have hflat := batches_flatten n (rest.drop n)
            rw [hnone] at hflat
            exact hlast hflat.symm
          rw [List.dropLast_cons_of_ne_nil hmore] at hpart
          rcases List.mem_cons.1 hpart with rfl | hpart
          · rw [List.drop_eq_nil_iff] at hlast
            rw [List.length_cons, List.length_take]
            omega
          · exact ih part hpart

/-! ### A look-up -/

/-- The journal of a look-up of tags in batches, and all descriptions in their order, or the failure
of the batch that is refused. -/
inductive Describes : List (List String) → List Entry → Except Failure (List TagDescription) → Prop
  | done : Describes [] [] (.ok [])
  | refused {rest : List (List String)} (batch : List String) (e : Failure) :
      Describes (batch :: rest) [.call (.describeTags batch) (.error e)] (.error e)
  | more {rest : List (List String)} {t : List Entry} {r : Except Failure (List TagDescription)}
      (batch : List String) (ds : List TagDescription) : Describes rest t r →
      Describes (batch :: rest) (.call (.describeTags batch) (.ok ds) :: t) (r.map (ds ++ ·))

/-- A look-up asks for tags, and for nothing else. -/
theorem Describes.request {r : Except Failure (List TagDescription)} (hd : Describes parts t r)
    {x : Entry} (hx : x ∈ t) : ∃ batch answer, x = .call (.describeTags batch) answer := by
  induction hd with
  | done => cases hx
  | refused batch e => exact ⟨_, _, List.mem_singleton.1 hx⟩
  | more batch ds _ ih =>
      rcases List.mem_cons.1 hx with rfl | hx
      · exact ⟨_, _, rfl⟩
      · exact ih hx

/-- The failure of a look-up is that of a batch that is refused. -/
theorem Describes.refused_mem {r : Except Failure (List TagDescription)} {e : Failure}
    (hd : Describes parts t r) (hr : r = .error e) :
    ∃ batch, Entry.call (.describeTags batch) (.error e) ∈ t := by
  induction hd with
  | done => cases hr
  | refused batch e' =>
      cases hr
      exact ⟨batch, List.mem_singleton.2 rfl⟩
  | @more _ _ r _ _ _ ih =>
      cases r with
      | ok _ => cases hr
      | error _ =>
          cases hr
          obtain ⟨batch, hbatch⟩ := ih rfl
          exact ⟨batch, List.mem_cons_of_mem _ hbatch⟩

/-- The tags of descriptions, added to those already known. -/
def merged (known : Dict Tags) (ds : List TagDescription) : Dict Tags :=
  ds.foldl (fun d t => d.insert t.resourceArn t.tags) known

theorem merged_append (known : Dict Tags) (ds more : List TagDescription) :
    merged known (ds ++ more) = merged (merged known ds) more :=
  List.foldl_append

/-- Every look-up follows the grammar, and puts what is described together. -/
theorem tagsOfBatches_describes (known : Dict Tags) (parts : List (List String)) (h : Host σ)
    (w : World σ) :
    ∃ t r w', tagsOfBatches known parts h w = (.ofAnswer (r.map (merged known)), w') ∧
      Path h w t w' ∧ Describes parts t r := by
  induction parts generalizing known w with
  | nil => exact ⟨[], _, w, rfl, .refl, .done⟩
  | cons batch rest ih =>
      have hpath := Path.single h w (.describeTags batch)
      rcases hanswer : (h.answer (.describeTags batch) w.state).result with e | ds
      · rw [hanswer] at hpath
        exact ⟨_, _, _, Run.bind_failed (Run.call_error hanswer), hpath, .refused batch e⟩
      · rw [hanswer] at hpath
        obtain ⟨t, r, w', hrun, hrest, hdescribes⟩ := ih (merged known ds) (w.after h _)
        refine ⟨_, _, w', (Run.bind_ok (Run.call_ok hanswer)).trans (hrun.trans ?_),
          hpath.trans hrest, hdescribes.more batch ds⟩
        cases r with
        | error e => rfl
        | ok more => exact congrArg (Outcome.ok ·, w') (merged_append known ds more).symm

/-! ### What is told of a store -/

/-- An answer describes the resources of a batch as a store has them, in whatever order, and none
that the store does not have. -/
def Tells (store : String → Option Tags) (batch : List String) (ds : List TagDescription) : Prop :=
  ∀ d, d ∈ ds ↔ d.resourceArn ∈ batch ∧ store d.resourceArn = some d.tags

/-- What a store has for a batch, described one by one, is told of it. -/
theorem tells_filterMap (store : String → Option Tags) (batch : List String) :
    Tells store batch (batch.filterMap fun arn => (store arn).map (⟨arn, ·⟩)) := by
  intro d
  rw [List.mem_filterMap]
  constructor
  · rintro ⟨arn, harn, hd⟩
    obtain ⟨tags, htags, rfl⟩ := Option.map_eq_some_iff.1 hd
    exact ⟨harn, htags⟩
  · rintro ⟨harn, htags⟩
    exact ⟨d.resourceArn, harn, by rw [htags]; rfl⟩

/-- Every answer of a journal describes its batch as a store has it. -/
def AllTell (store : String → Option Tags) (t : List Entry) : Prop :=
  ∀ batch ds, Entry.call (.describeTags batch) (.ok ds) ∈ t → Tells store batch ds

/-- Batches together tell of all resources. -/
theorem Describes.tells {r : Except Failure (List TagDescription)} (hd : Describes parts t r)
    (hr : r = .ok ds) (hall : AllTell store t) : Tells store parts.flatten ds := by
  induction hd generalizing ds with
  | done =>
      cases hr
      intro d
      simp
  | refused => cases hr
  | @more rest t r batch first _ ih =>
      cases r with
      | error e => cases hr
      | ok more =>
          cases hr
          have hfirst := hall batch first List.mem_cons_self
          have hmore := ih rfl fun b ds hb => hall b ds (List.mem_cons_of_mem _ hb)
          intro d
          rw [List.mem_append, hfirst d, hmore d, List.flatten_cons, List.mem_append, or_and_right]

/-- What is found among descriptions that agree with a store. -/
theorem find?_merged (hds : ∀ d ∈ ds, store d.resourceArn = some d.tags) (known : Dict Tags)
    (arn : String) :
    (merged known ds).find? arn =
      if arn ∈ ds.map (·.resourceArn) then store arn else known.find? arn := by
  induction ds generalizing known with
  | nil => rfl
  | cons d rest ih =>
      rw [merged, List.foldl_cons, ← merged, ih (fun d' hd' => hds d' (List.mem_cons_of_mem d hd')),
        Dict.find?_insert, List.map_cons]
      by_cases hrest : arn ∈ rest.map (·.resourceArn)
      · rw [if_pos hrest, if_pos (List.mem_cons_of_mem _ hrest)]
      · rw [if_neg hrest]
        by_cases hfirst : arn = d.resourceArn
        · rw [if_pos hfirst, if_pos (hfirst ▸ List.mem_cons_self), hfirst]
          exact (hds d List.mem_cons_self).symm
        · rw [if_neg hfirst, if_neg (by simp [hfirst, hrest])]

/-- The table of descriptions is what a store has for the resources. -/
theorem Tells.find?_merged (htells : Tells store arns ds) (arn : String) :
    (merged .empty ds).find? arn = if arn ∈ arns then store arn else none := by
  rw [LoadBalancer.find?_merged (fun d hd => ((htells d).1 hd).2)]
  by_cases hdescribed : arn ∈ ds.map (·.resourceArn)
  · obtain ⟨d, hd, rfl⟩ := List.mem_map.1 hdescribed
    rw [if_pos hdescribed, if_pos ((htells d).1 hd).1]
  · rw [if_neg hdescribed]
    by_cases harn : arn ∈ arns
    · rw [if_pos harn]
      -- a resource that the store has would be described
      cases hstore : store arn with
      | none => rfl
      | some tags =>
          have hd := (htells ⟨arn, tags⟩).2 ⟨harn, hstore⟩
          exact absurd (List.mem_map_of_mem hd) hdescribed
    · rw [if_neg harn]
      rfl

/-! ### What a look-up comes to -/

/-- What a look-up of the tags of resources asks from a world on, and what it comes to: batches of
twenty are described one after the other; a batch that is refused is what the look-up fails with;
and behind answers that tell of a store it has returned what is to be shown of that. -/
structure LooksUp (h : Host σ) (arns : List String) (parts : List (List String)) (t : List Entry)
    (r : Except Failure (List TagDescription)) (w : World σ) (o : Outcome β) (w' : World σ)
    (shows : (String → Option Tags) → β → Prop) : Prop where
  cuts : Cuts tagBatchSize arns parts
  path : Path h w t w'
  describes : Describes parts t r
  refused : ∀ e, r = .error e → o = .failed e
  shown : ∀ ds, r = .ok ds → ∃ x, o = .ok x ∧ ∀ store, AllTell store t → shows store x

/-- A table that is exactly what a store has for resources. -/
def TableOf (arns : List String) (store : String → Option Tags) (tags : Dict Tags) : Prop :=
  ∀ arn, tags.find? arn = if arn ∈ arns then store arn else none

/-- What is made of a look-up is shown instead of it. -/
theorem LooksUp.map {γ : Type} {r : Except Failure (List TagDescription)} {o : Outcome β}
    {shows : (String → Option Tags) → β → Prop} {shows' : (String → Option Tags) → γ → Prop}
    (hl : LooksUp h arns parts t r w o w' shows) (f : β → γ)
    (hf : ∀ store x, shows store x → shows' store (f x)) :
    LooksUp h arns parts t r w (o.map f) w' shows' where
  cuts := hl.cuts
  path := hl.path
  describes := hl.describes
  refused e he := by rw [hl.refused e he]; rfl
  shown ds hds := by
    obtain ⟨x, rfl, hshown⟩ := hl.shown ds hds
    exact ⟨f x, rfl, fun store htell => hf store x (hshown store htell)⟩

/-- Behind answers that tell of a store, the table is what the store has. -/
theorem tagsForResources_looksUp (arns : List String) (h : Host σ) (w : World σ) :
    ∃ parts t r o w', tagsForResources arns h w = (o, w') ∧
      LooksUp h arns parts t r w o w' (TableOf arns) := by
  have hcuts : Cuts tagBatchSize arns (batches (tagBatchSize - 1) arns) := batches_cuts _ _
  obtain ⟨t, r, w', hrun, hpath, hdescribes⟩ :=
    tagsOfBatches_describes .empty (batches (tagBatchSize - 1) arns) h w
  refine ⟨_, t, r, _, w', hrun, hcuts, hpath, hdescribes, ?_, ?_⟩
  · rintro e rfl
    rfl
  · rintro ds rfl
    refine ⟨_, rfl, fun store htell arn => ?_⟩
    have htells := hdescribes.tells rfl htell
    rw [hcuts.flatten] at htells
    exact htells.find?_merged arn

/-! ### Resources with tags -/

/-- Resources of different names get their tags, in whatever order they stand. -/
theorem giveTags_eq_map (name : α → String) (put : α → Tags → α) (tags : Dict Tags) (l : List α)
    (hnodup : (l.map name).Nodup) :
    giveTags name put tags l = l.map (fun x => put x ((tags.find? (name x)).getD .empty)) := by
  induction l generalizing tags with
  | nil => rfl
  | cons x rest ih =>
      obtain ⟨hx, hrest⟩ := List.nodup_cons.1 hnodup
      rw [giveTags, ih _ hrest, List.map_cons]
      congr 1
      refine List.map_congr_left fun y hy => ?_
      -- the tags of `x` are taken out of the table, but `y` does not ask for them
      have hne : name y ≠ name x := fun heq => hx (heq ▸ List.mem_map_of_mem hy)
      simp [hne]

/-- Tags that are the same for every resource are given in the same way. -/
theorem giveTags_congr (name : α → String) (put : α → Tags → α) {tags tags' : Dict Tags}
    {l : List α} (h : ∀ x ∈ l, tags'.find? (name x) = tags.find? (name x)) :
    giveTags name put tags' l = giveTags name put tags l := by
  induction l generalizing tags tags' with
  | nil => rfl
  | cons x rest ih =>
      rw [giveTags, giveTags, h x List.mem_cons_self]
      congr 1
      refine ih fun y hy => ?_
      rw [Dict.find?_erase, Dict.find?_erase, h y (List.mem_cons_of_mem _ hy)]

/-- The two listings with tags: the rules of a listener, and target groups, of which some can be
named. -/
inductive Labelled
  | rules (listener : String)
  | targetGroups (arns : List String)

namespace Labelled

/-- What is listed. -/
def Item : Labelled → Type
  | rules _ => ListenerRule
  | targetGroups _ => TargetGroup

def arn : (k : Labelled) → k.Item → String
  | rules _, (r : ListenerRule) => r.arn
  | targetGroups _, (g : TargetGroup) => g.arn

def put : (k : Labelled) → k.Item → Tags → k.Item
  | rules _, (r : ListenerRule), tags => { r with tags }
  | targetGroups _, (g : TargetGroup), tags => { g with tags }

/-- The listing without tags. -/
def listed : (k : Labelled) → Run σ (List k.Item)
  | rules listener => LoadBalancer.rules listener
  | targetGroups _ => LoadBalancer.targetGroups

/-- What is wanted of a listing: all of it, or what is named if anything is. -/
def wanted : (k : Labelled) → List k.Item → List k.Item
  | rules _, found => found
  | targetGroups arns, found => found.filter fun (g : TargetGroup) => arns = [] ∨ g.arn ∈ arns

/-- What reads the listing with tags. -/
def read : (k : Labelled) → Run σ (List k.Item)
  | rules listener => rulesWithTags listener
  | targetGroups arns => targetGroupsWithTags arns

/-- Both listings are read in one way. -/
theorem read_eq (k : Labelled) :
    (k.read : Run σ (List k.Item)) = do
      let found ← k.listed
      let tags ← tagsForResources ((k.wanted found).map k.arn)
      return giveTags k.arn k.put tags (k.wanted found) := by
  cases k with
  | rules listener => rfl
  | targetGroups arns =>
      have hwanted : ∀ found : List TargetGroup,
          (targetGroups arns).wanted found =
            if arns.isEmpty then found else found.filter fun g => arns.contains g.arn := by
        intro found
        cases arns with
        | nil => exact List.filter_eq_self.2 fun g _ => decide_eq_true (.inl rfl)
        | cons first rest =>
            refine List.filter_congr fun (g : TargetGroup) _ => ?_
            simp
      refine congrArg (LoadBalancer.targetGroups >>= ·) (funext fun found => ?_)
      rw [hwanted]
      rfl

end Labelled

/-- The resources that are wanted, each with the tags that a store has for it, or with none. -/
def Labelled.Shows (k : Labelled) (found : List k.Item) (store : String → Option Tags)
    (items : List k.Item) : Prop :=
  ((k.wanted found).map k.arn).Nodup →
    items = (k.wanted found).map fun x => k.put x ((store (k.arn x)).getD .empty)

/-- **Batches cannot be seen in what is read.**  Tags are asked for in batches of twenty, one after
the other, up to the first that is refused, with which the whole look-up fails; without resources
nothing is asked.  If the answers tell of a store, then a look-up returns the table of what the
store has for the resources, and a listing with tags returns the resources that are wanted of it in
their order, each with the tags that the store has for it. -/
theorem tags_invisible :
    (∀ {σ : Type} (arns : List String) (h : Host σ) (w : World σ), ∃ parts t r,
      LooksUp h arns parts t r w (tagsForResources arns h w).1 (tagsForResources arns h w).2
        (TableOf arns) ∧ (arns = [] → t = [])) ∧
      ∀ {σ : Type} (k : Labelled) {h : Host σ} {w w₁ : World σ} {found : List k.Item},
        k.listed h w = (.ok found, w₁) → ∃ parts t r,
          LooksUp h ((k.wanted found).map k.arn) parts t r w₁ (k.read h w).1 (k.read h w).2
            (k.Shows found) := by
  constructor
  · intro σ arns h w
    obtain ⟨parts, t, r, o, w', hrun, hlooks⟩ := tagsForResources_looksUp arns h w
    rw [hrun]
    refine ⟨parts, t, r, hlooks, ?_⟩
    rintro rfl
    have hdescribes := hlooks.describes
    rw [hlooks.cuts.eq_nil] at hdescribes
    cases hdescribes
    rfl
  · intro σ k h w w₁ found hlisted
    obtain ⟨parts, t, r, o, w', hrun, hlooks⟩ :=
      tagsForResources_looksUp ((k.wanted found).map k.arn) h w₁
    have hread : k.read h w = (o.map (giveTags k.arn k.put · (k.wanted found)), w') := by
      rw [k.read_eq]
      exact (Run.bind_ok hlisted).trans (Run.bind_pure_eq hrun _)
    rw [hread]
    refine ⟨parts, t, r, hlooks.map _ fun store tags htable hnodup => ?_⟩
    rw [giveTags_eq_map _ _ _ _ hnodup]
    refine List.map_congr_left fun x hx => ?_
    rw [htable, if_pos (List.mem_map_of_mem hx)]

/-- The names of one more rule than there are in a batch. -/
def crowd : List String := (List.range 21).map fun n => "rule-" ++ toString n

/-- A rule that is listed under a name. -/
def crowdRule (arn : String) : ListenerRule where
  arn
  priority := .default
  conditions := .empty
  httpHeaderName := none
  unsupportedConditions := []
  actions := []
  tags := .empty

/-- Every rule but the first has its name for a tag. -/
def crowdTags (arn : String) : Option Tags :=
  if arn = "rule-0" then none else some (Dict.empty.insert "name" arn)

/-- A host with these rules; it describes the rules of a batch from the last to the first. -/
def crowdHost : Host Unit where
  rounds := 1
  answer
    | .describeRules _ _, _ => ⟨.ok ⟨crowd.map crowdRule, none⟩, 0, ()⟩
    | .describeTags batch, _ =>
      ⟨.ok (batch.reverse.filterMap fun arn => (crowdTags arn).map (⟨arn, ·⟩)), 0, ()⟩
    | _, _ => ⟨.error (.config "not asked for"), 0, ()⟩

/-- The host tells of its tags. -/
theorem crowdHost_tells {w w' : World Unit} (hpath : Path crowdHost w t w') :
    AllTell crowdTags t := by
  intro batch ds hanswer
  obtain ⟨s, hs⟩ := hpath.answered hanswer
  have hds : (batch.reverse.filterMap fun arn => (crowdTags arn).map (⟨arn, ·⟩)) = ds :=
    Except.ok.inj hs
  intro d
  rw [← hds, tells_filterMap, List.mem_reverse]

theorem tags_invisible_crowd :
    ((Labelled.rules "listener").read crowdHost ⟨(), 0, #[]⟩).1 =
      .ok (crowd.map fun arn =>
        { crowdRule arn with tags := (crowdTags arn).getD .empty }) := by
  have hlisted : ∃ w₁, (Labelled.rules "listener").listed crowdHost ⟨(), 0, #[]⟩ =
      (.ok (crowd.map crowdRule), w₁) := ⟨_, rfl⟩
  obtain ⟨w₁, hlisted⟩ := hlisted
  obtain ⟨parts, t, r, hlooks⟩ := tags_invisible.2 _ hlisted
  rcases r with e | ds
  · obtain ⟨batch, hrefused⟩ := hlooks.describes.refused_mem rfl
    obtain ⟨s, hs⟩ := hlooks.path.answered hrefused
    cases hs
  · obtain ⟨items, hread, hshown⟩ := hlooks.shown ds rfl
    have hnodup : ((crowd.map crowdRule).map (·.arn)).Nodup := by decide +kernel
    rw [hread, hshown crowdTags (crowdHost_tells hlooks.path) hnodup]
    exact congrArg Outcome.ok List.map_map

end Cutover.LoadBalancer
