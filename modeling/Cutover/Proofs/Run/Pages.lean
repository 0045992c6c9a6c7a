/-
**The pages of a listing.**

A listing asks for one page after the other.  What it does is written down as a grammar of its
journal, over the request that asks for a page: the first page is asked for without a marker and
each further one with the marker of the page in front of it, the page without a marker is the last,
and a page that is refused ends the listing with the reason.  The host may have a further page again
and again, so the rounds may be used up, and then every one of them has asked for a page.

A host that serves given pages leaves no choice: these pages are asked for, and what a listing ends
with depends on their items only, and not on where one page ends and the next one begins.

Main definitions:

* `Cutover.Run.Fetches` — a way to ask for pages, by one request for each;
* `Cutover.Run.Lists` — the journal of a listing, and what it ends with;
* `Cutover.Host.Answers` — a host answers requests as a script says;
* `Cutover.Pages` — pages up to the last one or to a refusal, and `Pages.asked` the requests for
  them.

Main results:

* `Cutover.Run.listFrom_lists`, `Cutover.Run.listAll_lists` — **every listing follows the grammar**;
* `Cutover.Run.Lists.length_of_unfinished` — it is not finished only where the rounds are used up;
* `Cutover.Run.listAll_pages` — **a listing of given pages comes to their items**.
-/
import Cutover.Cloud.Listing
import Cutover.Proofs.Run.Path

set_option autoImplicit false

namespace Cutover

namespace Run

variable {σ α : Type} {entry : Option String → Except Failure (Page α) → Entry}
  {fetch : Option String → Run σ (Page α)}

/-- A way to ask for pages: by one request, whose answer is handed on. -/
def Fetches (entry : Option String → Except Failure (Page α) → Entry)
    (fetch : Option String → Run σ (Page α)) : Prop :=
  ∀ token h w, ∃ answer w',
    fetch token h w = (.ofAnswer answer, w') ∧ Prompt h w [entry token answer] w'

/-- The journal of a listing from a page on in at most so many rounds, and what it ends with. -/
inductive Lists (entry : Option String → Except Failure (Page α) → Entry) :
    Nat → Option String → List Entry → Outcome (List α) → Prop
  /-- The page that names no further one is the last. -/
  | last {fuel : Nat} {token : Option String} (items : List α) :
      Lists entry (fuel + 1) token [entry token (.ok ⟨items, none⟩)] (.ok items)
  | more {fuel : Nat} {token : Option String} {next : String} {t : List Entry}
      {o : Outcome (List α)} (items : List α) : Lists entry fuel (some next) t o →
      Lists entry (fuel + 1) token (entry token (.ok ⟨items, some next⟩) :: t)
        (o.map (items ++ ·))
  | refused {fuel : Nat} {token : Option String} (e : Failure) :
      Lists entry (fuel + 1) token [entry token (.error e)] (.failed e)
  /-- The rounds are used up, and there are still pages. -/
  | endless {token : Option String} : Lists entry 0 token [] .unfinished

/-- A listing asks for pages, and for nothing else. -/
theorem Lists.request {fuel : Nat} {token : Option String} {t : List Entry}
    {o : Outcome (List α)} (hlists : Lists entry fuel token t o) {x : Entry} (hx : x ∈ t) :
    ∃ token answer, x = entry token answer := by
  induction hlists with
  | last items => exact ⟨_, _, List.mem_singleton.1 hx⟩
  | more items _ ih =>
      rcases List.mem_cons.1 hx with rfl | hx
      · exact ⟨_, _, rfl⟩
      · exact ih hx
  | refused e => exact ⟨_, _, List.mem_singleton.1 hx⟩
  | endless => cases hx

/-- A listing is not finished only if every round has asked for a page. -/
theorem Lists.length_of_unfinished {fuel : Nat} {token : Option String} {t : List Entry}
    (hlists : Lists entry fuel token t .unfinished) : t.length = fuel := by
  generalize ho : (Outcome.unfinished : Outcome (List α)) = o at hlists
  induction hlists with
  | last | refused => cases ho
  | @more _ _ _ _ o _ _ ih =>
      rcases o with x | e | _ <;> cases ho
      rw [List.length_cons, ih rfl]
  | endless => rfl

/-- Every listing from a page on follows the grammar. -/
theorem listFrom_lists (hfetch : Fetches entry fetch) (fuel : Nat) (token : Option String)
    (h : Host σ) (w : World σ) :
    ∃ t o w', listFrom fetch fuel token h w = (o, w') ∧ Prompt h w t w' ∧
      Lists entry fuel token t o := by
  induction fuel generalizing token w with
  | zero => exact ⟨[], _, _, rfl, .refl, .endless⟩
  | succ fuel ih =>
      obtain ⟨answer, w₁, hask, hprompt⟩ := hfetch token h w
      rcases answer with e | ⟨items, _ | next⟩
      · exact ⟨_, _, _, bind_failed hask, hprompt, .refused e⟩
      · exact ⟨_, _, _, bind_ok hask, hprompt, .last items⟩
      · obtain ⟨t, o, w', hrun, hrest, hlists⟩ := ih (some next) w₁
        exact ⟨_, o.map (items ++ ·), w', (bind_ok hask).trans (bind_pure_eq hrun _),
          hprompt.trans hrest, hlists.more items⟩

/-- **Every listing follows the grammar.** -/
theorem listAll_lists (hfetch : Fetches entry fetch) (h : Host σ) (w : World σ) :
    ∃ t o w', listAll fetch h w = (o, w') ∧ Prompt h w t w' ∧ Lists entry h.rounds none t o :=
  listFrom_lists hfetch h.rounds none h w

end Run

/-! ### Scripts -/

/-- The host answers the requests of a script, one after the other, as it says. -/
def Host.Answers {σ : Type} (h : Host σ) : World σ → List Entry → Prop
  | _, [] => True
  | w, .call r x :: rest => (h.answer r w.state).result = x ∧ h.Answers (w.after h r) rest
  | _, .report _ :: _ => False

/-- The host that answers as a script says, and refuses every other request. -/
def Host.scripted (rounds : Nat) : Host (List Entry) where
  rounds
  answer r
    | .call r' x :: rest =>
      if hr : r' = r then ⟨hr ▸ x, 0, rest⟩ else ⟨.error (.config "not in the script"), 0, []⟩
    | _ => ⟨.error (.config "not in the script"), 0, []⟩

/-- Every script of requests can be followed. -/
theorem Host.scripted_answers (rounds : Nat) {script : List Entry}
    (hcalls : ∀ x ∈ script, ∃ r result, x = .call r result) (clock : Nat) (journal : Array Entry) :
    (Host.scripted rounds).Answers ⟨script, clock, journal⟩ script := by
  induction script generalizing clock journal with
  | nil => trivial
  | cons x rest ih =>
      obtain ⟨r, result, rfl⟩ := hcalls x List.mem_cons_self
      have hanswer : (Host.scripted rounds).answer r (.call r result :: rest) =
          ⟨result, 0, rest⟩ := dif_pos rfl
      refine ⟨congrArg Answer.result hanswer, ?_⟩
      rw [World.after]
      simp only [hanswer]
      exact ih (fun y hy => hcalls y (List.mem_cons_of_mem _ hy)) _ _

/-! ### Pages that are served -/

/-- The pages of a listing, each but the last with the marker of the one behind it; in the place of
the last one there can be a refusal. -/
inductive Pages (α : Type)
  | last (items : List α)
  | refused (e : Failure)
  | more (items : List α) (marker : String) (rest : Pages α)

namespace Pages

variable {σ α : Type} {entry : Option String → Except Failure (Page α) → Entry}
  {fetch : Option String → Run σ (Page α)}

/-- The number of pages, a refusal counted. -/
def length : Pages α → Nat
  | last _ => 1
  | refused _ => 1
  | more _ _ rest => rest.length + 1

/-- The items of all pages, unless there is a refusal. -/
def items : Pages α → Except Failure (List α)
  | last items => .ok items
  | refused e => .error e
  | more items _ rest => rest.items.map (items ++ ·)

/-- The requests for the pages with their answers: the first one with a marker from outside, and
each further one with the marker that came with the page in front of it. -/
def asked (entry : Option String → Except Failure (Page α) → Entry) :
    Option String → Pages α → List Entry
  | token, last items => [entry token (.ok ⟨items, none⟩)]
  | token, refused e => [entry token (.error e)]
  | token, more items marker rest =>
    entry token (.ok ⟨items, some marker⟩) :: rest.asked entry (some marker)

end Pages

namespace Run

variable {σ α : Type} {entry : Option String → Except Failure (Page α) → Entry}
  {fetch : Option String → Run σ (Page α)} {h : Host σ} {w : World σ}

/-- A way to ask for pages that hands on what the script says. -/
def Follows (entry : Option String → Except Failure (Page α) → Entry)
    (fetch : Option String → Run σ (Page α)) : Prop :=
  ∀ token answer rest h w, Host.Answers h w (entry token answer :: rest) → ∃ w',
    fetch token h w = (.ofAnswer answer, w') ∧ Path h w [entry token answer] w' ∧ h.Answers w' rest

/-- A request that is next in a script is answered as the script says. -/
theorem call_follows {r : Request} {x : Except Failure r.Reply} {rest : List Entry}
    (hserved : h.Answers w (.call r x :: rest)) :
    call r h w = (.ofAnswer x, w.after h r) ∧ Path h w [.call r x] (w.after h r) ∧
      h.Answers (w.after h r) rest := by
  obtain ⟨rfl, hrest⟩ := hserved
  exact ⟨call_answered r h w, Path.single h w r, hrest⟩

/-- A listing of given pages from a page on comes to their items. -/
theorem listFrom_pages (hfetch : Follows entry fetch) {fuel : Nat} {token : Option String}
    {p : Pages α} (hserved : h.Answers w (p.asked entry token)) (hfuel : p.length ≤ fuel) :
    ∃ w', listFrom fetch fuel token h w = (.ofAnswer p.items, w') ∧
      Path h w (p.asked entry token) w' := by
  induction p generalizing fuel token w with
  | last items =>
      obtain ⟨fuel, rfl⟩ := Nat.exists_eq_add_of_le' hfuel
      obtain ⟨w', hask, hpath, -⟩ := hfetch _ _ _ _ _ hserved
      exact ⟨w', bind_ok hask, hpath⟩
  | refused e =>
      obtain ⟨fuel, rfl⟩ := Nat.exists_eq_add_of_le' hfuel
      obtain ⟨w', hask, hpath, -⟩ := hfetch _ _ _ _ _ hserved
      exact ⟨w', bind_failed hask, hpath⟩
  | more items marker rest ih =>
      obtain ⟨fuel, rfl⟩ := Nat.exists_eq_add_of_le' (Nat.le_of_add_left_le hfuel)
      obtain ⟨w₁, hask, hpath, hrest⟩ := hfetch _ _ _ _ _ hserved
      obtain ⟨w', hrun, hpath'⟩ := ih hrest (Nat.le_of_succ_le_succ hfuel)
      refine ⟨w', ?_, hpath.trans hpath'⟩
      rw [Pages.items, Outcome.ofAnswer_map]
      exact (bind_ok hask).trans (bind_pure_eq hrun (items ++ ·))

/-- **A listing of given pages comes to their items.**  The pages are all that is asked for. -/
theorem listAll_pages (hfetch : Follows entry fetch) {p : Pages α}
    (hserved : h.Answers w (p.asked entry none)) (hrounds : p.length ≤ h.rounds) :
    ∃ w', listAll fetch h w = (.ofAnswer p.items, w') ∧ Path h w (p.asked entry none) w' :=
  listFrom_pages hfetch hserved hrounds

end Run

end Cutover
