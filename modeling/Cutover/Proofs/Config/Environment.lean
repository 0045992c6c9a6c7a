/-
**What an environment is read from.**

An environment is read from the mapping that its body comes to once defaults have been put into it.
The mode, the accounts and the network are read each on its own, so the environment that a mapping
stands for does not depend on the order of its entries, and a mapping may be described by what is
found in it.

Main definitions:

* `Cutover.EnvironmentConfig.field` — what one entry puts into an environment.

Main results:

* `Cutover.EnvironmentConfig.separate` — each field is read on its own;
* `Cutover.EnvironmentConfig.ofValue_perm` — **the order of the entries does not matter**.
-/
import Cutover.Config.Platform
import Cutover.Proofs.Yaml.Record

set_option autoImplicit false

namespace Cutover.EnvironmentConfig

open Document (Error)
open Yaml (Value Mapping Record.Separate Record.foldEntries Record.foldEntries_perm Record.optional
  Record.text Record.word)

/-- The fields of an environment. -/
def fields : List String := ["service-deployment-mode", "accounts", "vpc"]

/-- An environment of which nothing is written. -/
def blank : EnvironmentConfig := ⟨.copilot, none, none, none⟩

/-- What one entry puts into an environment. -/
def field (name : String) (v : Value) (e : EnvironmentConfig) : Except Error EnvironmentConfig := do
  if name = "service-deployment-mode" then
    return { e with mode := ← Record.word DeploymentMode.ofName? v }
  else if name = "accounts" then
    let (deploy, dns) ← accountsOfValue v
    return { e with deployAccount := deploy, dnsAccount := dns }
  else return { e with vpc := ← Record.optional Record.text v }

/-- A mapping is read entry by entry. -/
theorem ofValue_mapping (m : Mapping) :
    ofValue (.mapping m) = Record.foldEntries fields field [] blank m :=
  rfl

/-- What becomes of an environment by one entry. -/
def change (name : String) (v : Value) : Except Error (EnvironmentConfig → EnvironmentConfig) :=
  if name = "service-deployment-mode" then
    (Record.word DeploymentMode.ofName? v).map fun mode e => { e with mode }
  else if name = "accounts" then
    (accountsOfValue v).map fun p e => { e with deployAccount := p.1, dnsAccount := p.2 }
  else (Record.optional Record.text v).map fun vpc e => { e with vpc }

theorem field_eq_change (name : String) (v : Value) (e : EnvironmentConfig) :
    field name v e = (change name v).map (· e) := by
  unfold field change
  split
  · cases Record.word DeploymentMode.ofName? v <;> rfl
  · split
    · cases accountsOfValue v <;> rfl
    · cases Record.optional Record.text v <;> rfl

/-- Each field of an environment is read on its own. -/
theorem separate : Record.Separate fields field := by
  refine ⟨change, field_eq_change, fun a ha b hb hne v w f g hf hg e => ?_⟩
  have hset : ∀ {α : Type} {x : Except Error α} {set : α → EnvironmentConfig → EnvironmentConfig}
      {f : EnvironmentConfig → EnvironmentConfig}, x.map set = .ok f → ∃ y, f = set y :=
    fun h => (map_eq_ok_iff.1 h).imp fun _ h => h.2.symm
  simp only [fields, List.mem_cons, List.not_mem_nil, or_false] at ha hb
  -- two different fields: each sets parts that the other one leaves alone
  rcases ha with rfl | rfl | rfl <;> rcases hb with rfl | rfl | rfl <;>
    first
    | exact absurd rfl hne
    | obtain ⟨y, rfl⟩ := hset hf
      obtain ⟨z, rfl⟩ := hset hg
      rfl

/-- **The order of the entries does not matter.** -/
theorem ofValue_perm {m m' : Mapping} (hperm : m.Perm m') {e : EnvironmentConfig} :
    ofValue (.mapping m) = .ok e ↔ ofValue (.mapping m') = .ok e := by
  rw [ofValue_mapping, ofValue_mapping]
  exact Record.foldEntries_perm separate hperm

end Cutover.EnvironmentConfig
