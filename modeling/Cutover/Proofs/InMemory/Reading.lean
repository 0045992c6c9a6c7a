/-
**Reading the rules of an account in memory.**

Everything that is listed comes in pages, and tags come in batches.  Whatever the sizes of the
pages are, what is put together from them is what the account has.

Main definitions:

* `Cutover.InMemory.Fetches` — a way to fetch the pages of a listing.

Main results:

* `Cutover.InMemory.Fetches.all` — all pages together are the listing;
* `Cutover.InMemory.path_allTell` — what is described are the tags of the account;
* `Cutover.InMemory.tagsForResources_find?` — the tags of resources are those of the account;
* `Cutover.InMemory.rulesWithTags_eq` — **what is read is the listing**.
-/
import Mathlib.Algebra.GroupWithZero.Nat
import Std.Data.String.ToNat
import Cutover.Proofs.InMemory.Listing
import Cutover.Proofs.LoadBalancer.Tags

set_option autoImplicit false

namespace Cutover.InMemory

open InMemory.Account

variable {α : Type} {rounds : Nat} {w w' : World Account}

/-! ### One request -/

/-- A request that is answered was not made to fail. -/
theorem call_eq_ok {r : Request} {x : r.Reply}
    (hrun : Run.call r (host rounds) w = (.ok x, w')) :
    (((w.state.counted r).perform r).1 = .ok x) ∧
      w'.state = ((w.state.counted r).perform r).2 := by
  rcases hx : (w.state.answer r).1 with e | y
  · have hfail := Run.call_error (h := host rounds) (w := w) (r := r) hx
    rw [hfail] at hrun
    cases hrun
  · have hok := Run.call_ok (h := host rounds) (w := w) (r := r) hx
    rw [hok] at hrun
    cases hrun
    cases hf : w.state.faultAt r with
    | some f => rw [answer_fault hf] at hx; cases hx
    | none =>
        rw [answer_perform hf] at hx
        exact ⟨hx, congrArg Prod.snd (answer_perform hf)⟩

/-! ### Pages -/

/-- The number of the page at a marker. -/
def pageIndex (marker : Option String) : Nat := (marker.bind (·.toNat?)).getD 0

theorem pageIndex_toString (n : Nat) : pageIndex (some (toString n)) = n := by
  simp [pageIndex, Nat.toNat?_repr]

/-- How many items stand in front of a page. -/
def Account.offset (a : Account) (kind : String) (i : Nat) : Nat :=
  (((a.pageSizes.find? kind).getD []).take i).sum

/-- A page either is followed by the next one, which starts where it ends, or is the last. -/
theorem page_cases (a : Account) (kind : String) (items : List α) (marker : Option String) :
    (∃ n, a.page kind items marker =
        ⟨(items.drop (a.offset kind (pageIndex marker))).take n,
          some (toString (pageIndex marker + 1))⟩ ∧
      a.offset kind (pageIndex marker + 1) = a.offset kind (pageIndex marker) + n) ∨
    a.page kind items marker = ⟨items.drop (a.offset kind (pageIndex marker)), none⟩ := by
  unfold Account.page
  simp only
  split
  · rename_i n hn
    refine .inl ⟨n, rfl, ?_⟩
    rw [Account.offset, Account.offset, List.take_add_one, pageIndex, hn]
    simp
  · exact .inr rfl

/-- A way to fetch the pages of a listing of an account, which changes nothing. -/
def Fetches (rounds : Nat) (a : Account) (kind : String) (items : List α)
    (fetch : Option String → Run Account (Page α)) : Prop :=
  ∀ (marker : Option String) (w : World Account) (page : Page α) (w' : World Account),
    Asked a w.state → fetch marker (host rounds) w = (.ok page, w') →
      page = a.page kind items marker ∧ Asked a w'.state

section Pages

variable {a : Account} {kind : String} {items found : List α}
  {fetch : Option String → Run Account (Page α)}

/-- The pages from a marker on are the rest of the listing. -/
theorem Fetches.rest (hf : Fetches rounds a kind items fetch) {fuel : Nat}
    {marker : Option String} (ha : Asked a w.state)
    (hrun : Run.listFrom fetch fuel marker (host rounds) w = (.ok found, w')) :
    found = items.drop (a.offset kind (pageIndex marker)) ∧ Asked a w'.state := by
  -- on the number of pages that may be asked for, from any marker on
  induction fuel generalizing marker found w with
  | zero => cases hrun
  | succ fuel ih =>
      obtain ⟨page, w₁, hcall, hrest⟩ := Run.bind_eq_ok hrun
      obtain ⟨hpage, ha₁⟩ := hf marker w page w₁ ha hcall
      rcases page_cases a kind items marker with ⟨n, hcases, hoffset⟩ | hcases
      · rw [hcases] at hpage
        subst hpage
        obtain ⟨rest, w₂, hmore, hreturn⟩ := Run.bind_eq_ok hrest
        cases hreturn
        obtain ⟨hmore, ha₂⟩ := ih ha₁ hmore
        rw [pageIndex_toString, hoffset, ← List.drop_drop] at hmore
        exact ⟨by rw [hmore, List.take_append_drop], ha₂⟩
      · rw [hcases] at hpage
        subst hpage
        cases hrest
        exact ⟨rfl, ha₁⟩

/-- All pages together are the listing. -/
theorem Fetches.all (hf : Fetches rounds a kind items fetch) (ha : Asked a w.state)
    (hrun : Run.listAll fetch (host rounds) w = (.ok found, w')) :
    found = items ∧ Asked a w'.state := by
  obtain ⟨fuel, w₀, hfuel, hpages⟩ := Run.bind_eq_ok hrun
  cases hfuel
  exact hf.rest ha hpages

/-- What is answered to a request that an account only counts. -/
theorem call_asked {r : Request} {reply x : r.Reply} (ha : Asked a w.state)
    (hreply : ∀ b, Asked a b → b.perform r = (.ok reply, b))
    (hrun : Run.call r (host rounds) w = (.ok x, w')) : x = reply ∧ Asked a w'.state := by
  obtain ⟨hx, hstate⟩ := call_eq_ok hrun
  have hcounted : Asked a (w.state.counted r) := ha.trans ⟨_, rfl⟩
  rw [hreply _ hcounted] at hx hstate
  exact ⟨(Except.ok.inj hx).symm, hstate ▸ hcounted⟩

theorem fetches_rules (a : Account) (listener : String) :
    Fetches rounds a "rules" (a.rulesOf listener)
      (fun m => Run.call (.describeRules listener m)) := by
  intro marker w page w' ha hrun
  refine call_asked ha ?_ hrun
  rintro _ ⟨counts, rfl⟩
  rfl

end Pages

/-! ### Tags -/

/-- On a path without creations and deletions all descriptions are of the tags of the account. -/
theorem path_allTell {t : List Entry} (p : Path (host rounds) w t w')
    (ht : ∀ x ∈ t, x.isMutation = false) : LoadBalancer.AllTell w.state.tags.find? t := by
  intro batch ds hanswer
  obtain ⟨t₁, t₂, rfl⟩ := List.append_of_mem hanswer
  obtain ⟨v, hv, hresult⟩ := p.asked_in rfl
  have hsame := path_asked hv fun x hx => ht x (List.mem_append_left _ hx)
  obtain ⟨hperform, -⟩ := call_eq_ok (Run.call_ok hresult)
  have hds : v.state.describeTags batch = ds := Except.ok.inj hperform
  rw [← hds, ← hsame.same.tags]
  exact LoadBalancer.tells_filterMap _ batch

/-- The tags of resources are those of the account. -/
theorem tagsForResources_find? {arns : List String} {tags : Dict Tags}
    (hrun : LoadBalancer.tagsForResources arns (host rounds) w = (.ok tags, w')) {arn : String}
    (harn : arn ∈ arns) : tags.find? arn = w.state.tags.find? arn := by
  obtain ⟨parts, t, r, o, w₁, hrun', hlooks⟩ :=
    LoadBalancer.tagsForResources_looksUp arns (host rounds) w
  rw [hrun] at hrun'
  cases hrun'
  have hquiet : ∀ x ∈ t, x.isMutation = false := by
    intro x hx
    obtain ⟨batch, answer, rfl⟩ := hlooks.describes.request hx
    rfl
  rcases r with e | ds
  · cases hlooks.refused e rfl
  · obtain ⟨table, htable, hshown⟩ := hlooks.shown ds rfl
    cases htable
    rw [hshown _ (path_allTell hlooks.path hquiet) arn, if_pos harn]

/-! ### Rules with tags -/

/-- **What is read is the listing.** -/
theorem rulesWithTags_eq {listener : String} {rules : List ListenerRule}
    (hrun : LoadBalancer.rulesWithTags listener (host rounds) w = (.ok rules, w'))
    (hnodup : ((w.state.listing listener).map (·.arn)).Nodup) :
    rules = w.state.listing listener := by
  obtain ⟨found, w₁, hfound, hrest⟩ := Run.bind_eq_ok hrun
  obtain ⟨tags, w₂, htags, hreturn⟩ := Run.bind_eq_ok hrest
  cases hreturn
  obtain ⟨rfl, hasked⟩ := (fetches_rules w.state listener).all (.refl _) hfound
  have hnodup' : ((w.state.rulesOf listener).map (·.arn)).Nodup := by
    simpa [listing, tagged, Function.comp_def] using hnodup
  rw [LoadBalancer.giveTags_eq_map _ _ _ _ hnodup', listing]
  refine List.map_congr_left fun r hr => ?_
  rw [tagsForResources_find? htags (List.mem_map_of_mem hr), hasked.same.tags]
  rfl

/-! ### The small account is orderly -/

theorem nameAt_of_names {a : Account} (ha : a.names = []) (n : Nat) :
    a.nameAt n = "rule-new-" ++ toString (n + 1) := by
  simp [nameAt, nextName, ha]

/-- Numbered names differ from one another. -/
theorem nameAt_injective {a : Account} (ha : a.names = []) {m n : Nat}
    (hmn : a.nameAt m = a.nameAt n) : m = n := by
  rw [nameAt_of_names ha, nameAt_of_names ha, String.append_right_inj] at hmn
  have hnumbers := congrArg String.toNat? hmn
  simpa [Nat.toNat?_repr] using hnumbers

/-- Every name that is given begins like `rule-new-1`. -/
theorem spent_of_head {a : Account} (ha : a.names = []) {arn : String}
    (hhead : arn.toList.head? ≠ some 'r') : a.Spent arn := by
  intro n _ heq
  rw [nameAt_of_names ha] at heq
  exact hhead (by simp [← heq])

theorem smallAccount_listing (faults : List Fault) :
    (smallAccount faults).listing "https" = (smallAccount []).listing "https" := rfl

theorem smallAccount_orderly (faults : List Fault) : (smallAccount faults).Orderly "https" := by
  refine ⟨?_, ?_, fun r hr => spent_of_head rfl ?_, fun m n _ _ => nameAt_injective rfl⟩
  · rw [smallAccount_listing]
    decide +kernel
  · rw [smallAccount_listing]
    decide +kernel
  · have hnames : ∀ r ∈ (smallAccount []).listing "https", r.arn.toList.head? ≠ some 'r' := by
      decide +kernel
    exact hnames r (smallAccount_listing faults ▸ hr)

theorem smallAccount_numbered (faults : List Fault) :
    ∀ r ∈ (smallAccount faults).listing "https", ∃ n, r.priority = .number n := by
  have hsome : ∀ r ∈ (smallAccount []).listing "https", r.priority.toNat?.isSome := by
    decide +kernel
  intro r hr
  rw [smallAccount_listing] at hr
  obtain ⟨n, hn⟩ := Option.isSome_iff_exists.1 (hsome r hr)
  exact ⟨n, Rule.Priority.toNat?_eq_some.1 hn⟩

end Cutover.InMemory
