/-
**Listings.**

A listing is read page by page: the first page is asked for without a marker, and each further one
with the marker that the page before it returned, up to the page that returns none.

Main definitions:

* `Cutover.Run.listAll` — the items of all pages;
* `Cutover.Run.findInPages` — the first item that a search accepts, without the pages behind it.
-/
import Cutover.Cloud.Run

set_option autoImplicit false

namespace Cutover.Run

variable {σ α β : Type}

/-- The items of the pages from a marker on, in at most so many rounds. -/
def listFrom (fetch : Option String → Run σ (Page α)) :
    Nat → Option String → Run σ (List α)
  | 0, _ => unfinished
  | fuel + 1, marker => do
    let page ← fetch marker
    match page.next with
    | none => return page.items
    | some next => do
      let rest ← listFrom fetch fuel (some next)
      return page.items ++ rest

/-- The items of all pages. -/
def listAll (fetch : Option String → Run σ (Page α)) : Run σ (List α) := do
  listFrom fetch (← rounds) none

/-- What a search finds in the first item that it accepts. -/
def findFirst (search : α → Run σ (Option β)) : List α → Run σ (Option β)
  | [] => return none
  | x :: rest => do
    match ← search x with
    | some y => return some y
    | none => findFirst search rest

/-- What a search finds in the pages from a marker on, in at most so many rounds. -/
def findFrom (fetch : Option String → Run σ (Page α)) (search : α → Run σ (Option β)) :
    Nat → Option String → Run σ (Option β)
  | 0, _ => unfinished
  | fuel + 1, marker => do
    let page ← fetch marker
    match ← findFirst search page.items with
    | some y => return some y
    | none =>
      match page.next with
      | none => return none
      | some next => findFrom fetch search fuel (some next)

/-- What a search finds in all pages; pages behind the first find are not asked for. -/
def findInPages (fetch : Option String → Run σ (Page α)) (search : α → Run σ (Option β)) :
    Run σ (Option β) := do
  findFrom fetch search (← rounds) none

end Cutover.Run
