/-
**Searches that end with their first find.**

A search looks at the items of a listing one by one.  It asks for a page only when it has looked at
everything in front of it, it may ask something about each item, and it ends as soon as an item is
found or a request is refused.

The same search without this haste is a list of looks: one for each page and one for each item, in
the order of the listing, up to its end.  Each look has what is asked in it and what it decides, if
it decides anything.  The search in haste comes to the first decision of this list, and it has asked
what is asked up to the look that decides, and nothing behind it.

Main definitions:

* `Cutover.upTo` — a list up to its first member that satisfies a condition;
* `Cutover.Look` — a look, and `Cutover.Pages.looks` the looks at all pages;
* `Cutover.Run.Sees` — what a search does with one item is its look.

Main results:

* `Cutover.Run.findFirst_looks` — a search in the items of one page;
* `Cutover.Run.findInPages_looks` — **a search in all pages ends with the first look that decides**.
-/
import Cutover.Proofs.Run.Pages

set_option autoImplicit false

namespace Cutover

variable {σ α β : Type}

/-! ### Lists up to a member -/

/-- A list up to its first member that satisfies a condition, and with that member. -/
def upTo (p : α → Bool) (l : List α) : List α := l.takeWhile (fun x => !p x) ++ (l.find? p).toList

section upTo

variable {p : α → Bool} {x : α} {l : List α}

theorem upTo_cons_of_pos (hx : p x = true) : upTo p (x :: l) = [x] := by
  simp [upTo, hx]

theorem upTo_cons_of_neg (hx : p x = false) : upTo p (x :: l) = x :: upTo p l := by
  simp [upTo, hx]

/-- Where nothing satisfies the condition, the list goes on. -/
theorem upTo_append (hl : ∀ x ∈ l, p x = false) (m : List α) : upTo p (l ++ m) = l ++ upTo p m := by
  induction l with
  | nil => rfl
  | cons x l ih =>
      obtain ⟨hx, hl⟩ := List.forall_mem_cons.1 hl
      rw [List.cons_append, upTo_cons_of_neg hx, ih hl, List.cons_append]

/-- What stands behind a member that satisfies the condition does not matter. -/
theorem upTo_append_of_mem (hx : x ∈ l) (hpx : p x = true) (m : List α) :
    upTo p (l ++ m) = upTo p l := by
  induction l with
  | nil => cases hx
  | cons y l ih =>
      rw [List.cons_append]
      cases hy : p y with
      | true => rw [upTo_cons_of_pos hy, upTo_cons_of_pos hy]
      | false =>
          have hne : x ≠ y := by
            rintro rfl
            rw [hpx] at hy
            cases hy
          rw [upTo_cons_of_neg hy, upTo_cons_of_neg hy, ih ((List.mem_cons.1 hx).resolve_left hne)]

/-- Where nothing satisfies the condition, it is the whole list. -/
theorem upTo_eq_self (hl : ∀ x ∈ l, p x = false) : upTo p l = l := by
  rw [← List.append_nil l, upTo_append hl]
  rfl

theorem upTo_prefix (p : α → Bool) (l : List α) : upTo p l <+: l := by
  induction l with
  | nil => exact List.nil_prefix
  | cons x l ih =>
      cases hx : p x with
      | true => exact upTo_cons_of_pos hx ▸ List.cons_prefix_cons.2 ⟨rfl, List.nil_prefix⟩
      | false => exact upTo_cons_of_neg hx ▸ List.cons_prefix_cons.2 ⟨rfl, ih⟩

theorem upTo_congr {q : α → Bool} (hl : ∀ x ∈ l, p x = q x) : upTo p l = upTo q l := by
  induction l with
  | nil => rfl
  | cons x l ih =>
      obtain ⟨hx, hl⟩ := List.forall_mem_cons.1 hl
      cases hq : q x with
      | true => rw [upTo_cons_of_pos hq, upTo_cons_of_pos (hx.trans hq)]
      | false => rw [upTo_cons_of_neg hq, upTo_cons_of_neg (hx.trans hq), ih hl]

theorem upTo_map (p : β → Bool) (f : α → β) (l : List α) :
    upTo p (l.map f) = (upTo (fun x => p (f x)) l).map f := by
  induction l with
  | nil => rfl
  | cons x l ih =>
      rw [List.map_cons]
      cases hx : p (f x) with
      | true =>
          rw [upTo_cons_of_pos hx, upTo_cons_of_pos (p := fun x => p (f x)) hx, List.map_singleton]
      | false =>
          rw [upTo_cons_of_neg hx, upTo_cons_of_neg (p := fun x => p (f x)) hx, ih, List.map_cons]

end upTo

/-! ### Looks -/

/-- One look of a search: what is asked in it, and what it decides, if it decides anything. -/
structure Look (β : Type) where
  asked : List Entry
  verdict : Option (Except Failure β)

namespace Look

/-- Whether a look decides anything. -/
def decides (l : Look β) : Bool := l.verdict.isSome

/-- What a search that is over with a decision, or without one, has found. -/
def found : Option (Except Failure β) → Except Failure (Option β)
  | none => .ok none
  | some (.ok y) => .ok (some y)
  | some (.error e) => .error e

/-- The first decision of a list of looks. -/
def decision (looks : List (Look β)) : Option (Except Failure β) := looks.findSome? verdict

variable {l : Look β} {looks : List (Look β)}

theorem decides_eq_false (hl : l.verdict = none) : l.decides = false := by
  rw [decides, hl]
  rfl

theorem decides_eq_true {v : Except Failure β} (hl : l.verdict = some v) : l.decides = true := by
  rw [decides, hl]
  rfl

theorem decision_cons_of_none (hl : l.verdict = none) :
    decision (l :: looks) = decision looks := by
  rw [decision, List.findSome?_cons, hl]
  rfl

theorem decision_cons_of_some {v : Except Failure β} (hl : l.verdict = some v) :
    decision (l :: looks) = some v := by
  rw [decision, List.findSome?_cons, hl]

/-- Nothing is decided where no look decides. -/
theorem decides_of_decision (hnone : decision looks = none) : ∀ l ∈ looks, l.decides = false :=
  fun l hl => decides_eq_false (List.findSome?_eq_none_iff.1 hnone l hl)

/-- What is decided is so by a look. -/
theorem exists_of_decision {v : Except Failure β} (hv : decision looks = some v) :
    ∃ l ∈ looks, l.decides = true := by
  obtain ⟨l, hl, hverdict⟩ := List.exists_of_findSome?_eq_some hv
  exact ⟨l, hl, decides_eq_true hverdict⟩

theorem decision_append (looks more : List (Look β)) :
    decision (looks ++ more) = (decision looks).or (decision more) :=
  List.findSome?_append

end Look

/-- A look that asks at most once, and that ends the search with a failure just where it is
refused. -/
structure Look.Faithful (l : Look β) : Prop where
  once : l.asked = [] ∨ ∃ x, l.asked = [x]
  refused_iff : ∀ e, l.verdict = some (.error e) ↔ ∃ r, Entry.call r (.error e) ∈ l.asked

/-- What is asked in a list of looks is asked in one of them. -/
theorem Look.exists_asked {looks : List (Look β)} (hfaithful : ∀ l ∈ looks, l.Faithful)
    {front back : List Entry} {x : Entry} (hscript : looks.flatMap asked = front ++ x :: back) :
    ∃ before l after, looks = before ++ l :: after ∧ before.flatMap asked = front ∧
      l.asked = [x] := by
  induction looks generalizing front with
  | nil => simp at hscript
  | cons l looks ih =>
      obtain ⟨hl, hlooks⟩ := List.forall_mem_cons.1 hfaithful
      rw [List.flatMap_cons] at hscript
      rcases hl.once with hnone | ⟨y, hy⟩
      · rw [hnone, List.nil_append] at hscript
        obtain ⟨before, l', after, rfl, rfl, hl'⟩ := ih hlooks hscript
        exact ⟨l :: before, l', after, rfl, by rw [List.flatMap_cons, hnone]; rfl, hl'⟩
      · rw [hy] at hscript
        cases front with
        | nil =>
            obtain ⟨rfl, -⟩ := List.cons.inj hscript
            exact ⟨[], l, looks, rfl, rfl, hy⟩
        | cons z front =>
            obtain ⟨rfl, hrest⟩ := List.cons.inj hscript
            obtain ⟨before, l', after, rfl, rfl, hl'⟩ := ih hlooks hrest
            exact ⟨l :: before, l', after, rfl, by rw [List.flatMap_cons, hy]; rfl, hl'⟩

/-- The first request that is refused ends a search, unless something was found in front of it. -/
theorem Look.decision_of_refused {looks : List (Look β)} (hfaithful : ∀ l ∈ looks, l.Faithful)
    {front back : List Entry} {r : Request} {e : Failure}
    (hscript : looks.flatMap asked = front ++ .call r (.error e) :: back)
    (hfirst : ∀ r e, Entry.call r (.error e) ∉ front) :
    (decision looks = some (.error e) ∧
        (upTo decides looks).flatMap asked = front ++ [.call r (.error e)]) ∨
      ∃ y, decision looks = some (.ok y) ∧ (upTo decides looks).flatMap asked <+: front := by
  obtain ⟨before, l, after, rfl, rfl, hl⟩ := exists_asked hfaithful hscript
  have hverdict : l.verdict = some (.error e) :=
    ((hfaithful l (by simp)).refused_iff e).2 ⟨r, hl ▸ List.mem_cons_self⟩
  rw [decision_append]
  rcases hbefore : decision before with _ | e' | y
  · left
    rw [upTo_append (decides_of_decision hbefore), upTo_cons_of_pos (decides_eq_true hverdict),
      decision_cons_of_some hverdict]
    simp [hl]
  · -- a refusal in front of the first one
    obtain ⟨l', hl', hrefused⟩ := List.exists_of_findSome?_eq_some hbefore
    obtain ⟨r', hr'⟩ := ((hfaithful l' (by simp [hl'])).refused_iff e').1 hrefused
    exact absurd (List.mem_flatMap.2 ⟨l', hl', hr'⟩) (hfirst r' e')
  · right
    obtain ⟨l', hl', hdecides⟩ := exists_of_decision hbefore
    obtain ⟨rest, hrest⟩ := upTo_prefix decides before
    rw [upTo_append_of_mem hl' hdecides]
    exact ⟨y, rfl, rest.flatMap asked, by rw [← List.flatMap_append, hrest]⟩

/-- The looks at pages from one on: one at each page, which decides nothing unless the page is
refused, and behind it one at each of its items. -/
def Pages.looks (entry : Option String → Except Failure (Page α) → Entry) (look : α → Look β) :
    Option String → Pages α → List (Look β)
  | token, last items => ⟨[entry token (.ok ⟨items, none⟩)], none⟩ :: items.map look
  | token, refused e => [⟨[entry token (.error e)], some (.error e)⟩]
  | token, more items marker rest =>
    ⟨[entry token (.ok ⟨items, some marker⟩)], none⟩ ::
      (items.map look ++ rest.looks entry look (some marker))

namespace Pages

variable {entry : Option String → Except Failure (Page α) → Entry} {look : α → Look β}
  {p : Pages α} {items : List α} {q : Entry → Bool}

/-- The items of each page. -/
def parts : Pages α → List (List α)
  | last items => [items]
  | refused _ => []
  | more items _ rest => items :: rest.parts

/-- The looks at pages are faithful if those at the items are: a page is asked for by one
request. -/
theorem faithful_looks (hentry : ∀ m x e, (∃ r, entry m x = .call r (.error e)) ↔ x = .error e)
    (hlook : ∀ x, (look x).Faithful) (p : Pages α) (token : Option String) :
    ∀ l ∈ p.looks entry look token, l.Faithful := by
  have hpage : ∀ m page, (⟨[entry m (.ok page)], none⟩ : Look β).Faithful := by
    refine fun m page => ⟨.inr ⟨_, rfl⟩, fun e => ⟨(nomatch ·), ?_⟩⟩
    rintro ⟨r, hr⟩
    cases (hentry m (.ok page) e).1 ⟨r, (List.mem_singleton.1 hr).symm⟩
  have hitems : ∀ items : List α, ∀ l ∈ items.map look, l.Faithful := by
    intro items l hl
    obtain ⟨x, -, rfl⟩ := List.mem_map.1 hl
    exact hlook x
  induction p generalizing token with
  | last items => exact List.forall_mem_cons.2 ⟨hpage _ _, hitems items⟩
  | refused e =>
      refine List.forall_mem_singleton.2 ⟨.inr ⟨_, rfl⟩, fun e' => ?_⟩
      simp only [List.mem_singleton, Option.some.injEq, Except.error.injEq]
      rw [← Except.error.injEq (α := Page α) e e', ← hentry token (.error e) e']
      exact exists_congr fun r => eq_comm
  | more items marker rest ih =>
      exact List.forall_mem_cons.2 ⟨hpage _ _, List.forall_mem_append.2 ⟨hitems items, ih _⟩⟩

theorem of_items_more {l : List α} {marker : String} {rest : Pages α}
    (hitems : (more l marker rest).items = .ok items) :
    ∃ further, rest.items = .ok further ∧ l ++ further = items := by
  rw [Pages.items] at hitems
  cases hrest : rest.items with
  | error e => rw [hrest] at hitems; cases hitems
  | ok further => rw [hrest] at hitems; exact ⟨further, rfl, Except.ok.inj hitems⟩

/-- Where no page is refused, the decision is that of the items. -/
theorem decision_looks (hitems : p.items = .ok items) (token : Option String) :
    Look.decision (p.looks entry look token) = Look.decision (items.map look) := by
  induction p generalizing items token with
  | last l => cases hitems; exact Look.decision_cons_of_none rfl
  | refused e => cases hitems
  | more l marker rest ih =>
      obtain ⟨further, hrest, rfl⟩ := of_items_more hitems
      rw [looks, Look.decision_cons_of_none rfl, Look.decision_append, ih hrest, List.map_append,
        Look.decision_append]

/-- What is asked about items up to the decision, and not for pages. -/
theorem filter_looks (hpage : ∀ m x, q (entry m x) = false)
    (hitem : ∀ x, ∀ y ∈ (look x).asked, q y = true) (hitems : p.items = .ok items)
    (token : Option String) :
    ((upTo Look.decides (p.looks entry look token)).flatMap Look.asked).filter q =
      (upTo Look.decides (items.map look)).flatMap Look.asked := by
  have hkept : ∀ l : List α, ((l.map look).flatMap Look.asked).filter q =
      (l.map look).flatMap Look.asked := by
    intro l
    refine List.filter_eq_self.2 fun y hy => ?_
    obtain ⟨x', hx', hy⟩ := List.mem_flatMap.1 hy
    obtain ⟨x, -, rfl⟩ := List.mem_map.1 hx'
    exact hitem x y hy
  induction p generalizing items token with
  | last l =>
      cases hitems
      rw [looks, upTo_cons_of_neg rfl, List.flatMap_cons, List.filter_append, upTo_map, hkept]
      simp [hpage]
  | refused e => cases hitems
  | more l marker rest ih =>
      obtain ⟨further, hrest, rfl⟩ := of_items_more hitems
      rw [looks, upTo_cons_of_neg rfl, List.flatMap_cons, List.filter_append, List.map_append]
      cases hl : Look.decision (l.map look) with
      | none =>
          have hnone := Look.decides_of_decision hl
          rw [upTo_append hnone, upTo_append hnone, List.flatMap_append, List.filter_append, hkept,
            ih hrest, List.flatMap_append]
          simp [hpage]
      | some v =>
          obtain ⟨l', hl', hdecides⟩ := Look.exists_of_decision hl
          rw [upTo_append_of_mem hl' hdecides, upTo_append_of_mem hl' hdecides, upTo_map, hkept]
          simp [hpage]

/-- The pages that are asked for: none behind the first one with an item that decides. -/
theorem filter_looks_pages (hpage : ∀ m x, q (entry m x) = true)
    (hitem : ∀ x, ∀ y ∈ (look x).asked, q y = false) (hitems : p.items = .ok items)
    {accepts : α → Bool} (haccepts : ∀ x ∈ items, (look x).decides = accepts x)
    (token : Option String) :
    ((upTo Look.decides (p.looks entry look token)).flatMap Look.asked).filter q =
      (p.asked entry token).take
        ((p.parts.takeWhile fun l => l.all fun x => !accepts x).length + 1) := by
  have hleft : ∀ l : List α, ((l.map look).flatMap Look.asked).filter q = [] := by
    intro l
    refine List.filter_eq_nil_iff.2 fun y hy => ?_
    obtain ⟨x', hx', hy⟩ := List.mem_flatMap.1 hy
    obtain ⟨x, -, rfl⟩ := List.mem_map.1 hx'
    simp [hitem x y hy]
  induction p generalizing items token with
  | last l =>
      rw [looks, upTo_cons_of_neg rfl, List.flatMap_cons, List.filter_append, upTo_map, hleft]
      simp [hpage, asked]
  | refused e => cases hitems
  | more l marker rest ih =>
      obtain ⟨further, hrest, rfl⟩ := of_items_more hitems
      obtain ⟨hl, hfurther⟩ := List.forall_mem_append.1 haccepts
      rw [looks, upTo_cons_of_neg rfl, List.flatMap_cons, List.filter_append, asked, parts,
        List.takeWhile_cons]
      cases hd : Look.decision (l.map look) with
      | none =>
          have hnone := Look.decides_of_decision hd
          have hall : (l.all fun x => !accepts x) = true :=
            List.all_eq_true.2 fun x hx => by
              rw [← hl x hx, hnone _ (List.mem_map_of_mem hx)]
              rfl
          rw [upTo_append hnone, List.flatMap_append, List.filter_append, hleft,
            ih hrest hfurther, hall]
          simp [hpage]
      | some v =>
          obtain ⟨l', hl', hdecides⟩ := Look.exists_of_decision hd
          have hall : (l.all fun x => !accepts x) = false := by
            obtain ⟨x, hx, rfl⟩ := List.mem_map.1 hl'
            refine List.all_eq_false.2 ⟨x, hx, ?_⟩
            rw [← hl x hx, hdecides]
            exact Bool.false_ne_true
          rw [upTo_append_of_mem hl' hdecides, upTo_map, hleft, hall]
          simp [hpage]

end Pages

namespace Run

variable {entry : Option String → Except Failure (Page α) → Entry}
  {fetch : Option String → Run σ (Page α)} {look : α → Look β}
  {search : α → Run σ (Option β)} {h : Host σ} {w : World σ}

/-- What a search does with an item is its look, on every host that answers as the look says. -/
def Sees (look : α → Look β) (search : α → Run σ (Option β)) : Prop :=
  ∀ x rest h w, Host.Answers h w ((look x).asked ++ rest) → ∃ w',
    search x h w = (.ofAnswer (Look.found (look x).verdict), w') ∧ Path h w (look x).asked w' ∧
      h.Answers w' rest

/-- A search in the items of one page ends with the first look that decides. -/
theorem findFirst_looks (hsees : Sees look search) {items : List α} {rest : List Entry}
    (hserved : h.Answers w ((items.map look).flatMap Look.asked ++ rest)) :
    ∃ w', findFirst search items h w =
        (.ofAnswer (Look.found (Look.decision (items.map look))), w') ∧
      Path h w ((upTo Look.decides (items.map look)).flatMap Look.asked) w' ∧
      (Look.decision (items.map look) = none → h.Answers w' rest) := by
  induction items generalizing w with
  | nil => exact ⟨w, rfl, .refl, fun _ => hserved⟩
  | cons x items ih =>
      rw [List.map_cons, List.flatMap_cons, List.append_assoc] at hserved
      obtain ⟨w₁, hsearch, hpath, hrest⟩ := hsees x _ h w hserved
      rw [List.map_cons]
      cases hx : (look x).verdict with
      | none =>
          rw [hx] at hsearch
          obtain ⟨w', hrun, hpath', hanswers⟩ := ih hrest
          rw [Look.decision_cons_of_none hx, upTo_cons_of_neg (Look.decides_eq_false hx),
            List.flatMap_cons]
          exact ⟨w', (bind_ok hsearch).trans hrun, hpath.trans hpath', hanswers⟩
      | some v =>
          rw [hx] at hsearch
          rw [Look.decision_cons_of_some hx, upTo_cons_of_pos (Look.decides_eq_true hx),
            List.flatMap_singleton]
          refine ⟨w₁, ?_, hpath, fun hnone => by cases hnone⟩
          cases v with
          | error e => exact bind_failed hsearch
          | ok y => exact bind_ok hsearch

/-- A search in pages from one on ends with the first look that decides. -/
theorem findFrom_looks (hfetch : Follows entry fetch) (hsees : Sees look search) {fuel : Nat}
    {token : Option String} {p : Pages α}
    (hserved : h.Answers w ((p.looks entry look token).flatMap Look.asked))
    (hfuel : p.length ≤ fuel) :
    ∃ w', findFrom fetch search fuel token h w =
        (.ofAnswer (Look.found (Look.decision (p.looks entry look token))), w') ∧
      Path h w ((upTo Look.decides (p.looks entry look token)).flatMap Look.asked) w' := by
  induction p generalizing fuel token w with
  | last items =>
      obtain ⟨fuel, rfl⟩ := Nat.exists_eq_add_of_le' hfuel
      rw [Pages.looks, List.flatMap_cons, ← List.append_nil (List.flatMap _ (items.map look))]
        at hserved
      obtain ⟨w₁, hask, hpath, hitems⟩ := hfetch _ _ _ _ _ hserved
      obtain ⟨w', hrun, hpath', -⟩ := findFirst_looks hsees hitems
      rw [Pages.looks, Look.decision_cons_of_none rfl, upTo_cons_of_neg rfl, List.flatMap_cons]
      refine ⟨w', (bind_ok hask).trans ?_, hpath.trans hpath'⟩
      rcases hd : Look.decision (items.map look) with _ | e | y <;> rw [hd] at hrun
      · exact bind_ok hrun
      · exact bind_failed hrun
      · exact bind_ok hrun
  | refused e =>
      obtain ⟨fuel, rfl⟩ := Nat.exists_eq_add_of_le' hfuel
      obtain ⟨w', hask, hpath, -⟩ := hfetch _ _ _ _ _ hserved
      exact ⟨w', bind_failed hask, hpath⟩
  | more items marker rest ih =>
      obtain ⟨fuel, rfl⟩ := Nat.exists_eq_add_of_le' (Nat.le_of_add_left_le hfuel)
      rw [Pages.looks, List.flatMap_cons, List.flatMap_append] at hserved
      obtain ⟨w₁, hask, hpath, hitems⟩ := hfetch _ _ _ _ _ hserved
      obtain ⟨w₂, hrun, hpath', hrest⟩ := findFirst_looks hsees hitems
      rw [Pages.looks, Look.decision_cons_of_none rfl, upTo_cons_of_neg rfl, List.flatMap_cons,
        Look.decision_append]
      cases hd : Look.decision (items.map look) with
      | none =>
          -- nothing on this page decides, so the next one is asked for
          rw [hd] at hrun
          obtain ⟨w', hmore, hpath''⟩ := ih (hrest hd) (Nat.le_of_succ_le_succ hfuel)
          rw [upTo_append (Look.decides_of_decision hd), List.flatMap_append,
            ← upTo_eq_self (Look.decides_of_decision hd)]
          exact ⟨w', (bind_ok hask).trans ((bind_ok hrun).trans hmore),
            hpath.trans (hpath'.trans hpath'')⟩
      | some v =>
          rw [hd] at hrun
          obtain ⟨l, hl, hdecides⟩ := Look.exists_of_decision hd
          rw [upTo_append_of_mem hl hdecides]
          refine ⟨w₂, (bind_ok hask).trans ?_, hpath.trans hpath'⟩
          cases v with
          | error e => exact bind_failed hrun
          | ok y => exact bind_ok hrun

/-- **A search in all pages ends with the first look that decides.**  What is asked is what is asked
up to that look. -/
theorem findInPages_looks (hfetch : Follows entry fetch) (hsees : Sees look search) {p : Pages α}
    (hserved : h.Answers w ((p.looks entry look none).flatMap Look.asked))
    (hrounds : p.length ≤ h.rounds) :
    ∃ w', findInPages fetch search h w =
        (.ofAnswer (Look.found (Look.decision (p.looks entry look none))), w') ∧
      Path h w ((upTo Look.decides (p.looks entry look none)).flatMap Look.asked) w' :=
  findFrom_looks hfetch hsees hserved hrounds

end Run

end Cutover
