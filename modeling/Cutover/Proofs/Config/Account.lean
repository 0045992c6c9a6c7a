/-
**Account ids are read as they are written.**

An account id is a text of digits.  Written on its own it may look like a number, and a number is
written out again in its digits; written with a zero in front, or between quotes, it is text from
the start.  Either way it is the same id.  The rest of the account, and of the environment around
it, does not depend on the id.

Main definitions:

* `Cutover.Account.Written` — the ways in which an id is written;
* `Cutover.AccountRole` — which of the accounts of an environment an id belongs to;
* `Cutover.AccountRole.SameButId` — the same environment with one id and with another one.

Main results:

* `Cutover.Account.valueWithin_written` — **an id is read as it is written**;
* `Cutover.AccountRole.agree_ofValue` — environments in which one id is exchanged are the same but
  for the id.
-/
import Cutover.Config.Platform
import Cutover.Proofs.Config.Environment
import Cutover.Proofs.Yaml.Digits
import Cutover.Proofs.Yaml.Frame

set_option autoImplicit false

namespace Cutover

open Text (IsDigits decimal)
open Yaml (Mapping Node Tree Value)
open Yaml.Reading (Alike Holding valueWithin)

/-! ### The ways to write an id -/

namespace Account

/-- The ways in which an id is written: digits on their own, if their value has 64 bits, or any text
between quotes. -/
inductive Written : String → Node → Prop
  | plain {s : String} :
      IsDigits s.toList → decimal s.toList < 2 ^ 64 → Written s (.scalar none .plain s)
  | singleQuoted (s : String) : Written s (.scalar none .singleQuoted s)
  | doubleQuoted (s : String) : Written s (.scalar none .doubleQuoted s)

/-- What digits on their own stand for is read as these digits. -/
theorem idOfValue_ofPlain {s : String} (hs : IsDigits s.toList) (hlt : decimal s.toList < 2 ^ 64) :
    ∃ v, Value.ofScalar (Yaml.Scalar.ofPlain s) = .ok v ∧ idOfValue v = .ok s := by
  by_cases hzero : s.toList.head? = some '0' → s.toList = ['0']
  · refine ⟨_, by rw [Yaml.Scalar.ofPlain_number hs hzero hlt]; rfl, ?_⟩
    have hdigits : toString (decimal s.toList) = s :=
      String.toList_inj.1 (Nat.toList_repr.trans (Text.toDigits_decimal hs hzero))
    exact congrArg Except.ok hdigits
  · obtain ⟨hhead, hne⟩ := Classical.not_imp.1 hzero
    exact ⟨.string s, by rw [Yaml.Scalar.ofPlain_leadingZero hs hhead hne]; rfl, rfl⟩

/-- Two values of which ids are read. -/
def IdsOf (s s' : String) (v v' : Value) : Prop := idOfValue v = .ok s ∧ idOfValue v' = .ok s'

/-- A node that writes an id has a value of which the id is read. -/
theorem valueWithin_written {d : Tree} {s : String} {n : Node} (hn : Written s n)
    (fuel depth : Nat) :
    ∃ v, valueWithin d (fuel + 1) depth n = pure v ∧ idOfValue v = .ok s := by
  cases hn with
  | plain hs hlt =>
      obtain ⟨v, hv, hid⟩ := idOfValue_ofPlain hs hlt
      refine ⟨v, ?_, hid⟩
      rw [Yaml.Reading.valueWithin_scalar]
      change (liftM (Value.ofScalar (Yaml.Scalar.ofPlain s)) >>= fun v =>
        (pure (Yaml.Reading.owned none v) : Yaml.Reading Value)) = _
      rw [hv]
      rfl
  | singleQuoted => exact ⟨.string s, rfl, rfl⟩
  | doubleQuoted => exact ⟨.string s, rfl, rfl⟩

theorem alike_written {d : Tree} {s s' : String} {n n' : Node} (hn : Written s n)
    (hn' : Written s' n') (fuel depth : Nat) :
    Alike (IdsOf s s') (valueWithin d fuel depth n) (valueWithin d fuel depth n') := by
  cases fuel with
  | zero => exact .throw _ _
  | succ fuel =>
      obtain ⟨v, hv, hid⟩ := valueWithin_written hn fuel depth
      obtain ⟨v', hv', hid'⟩ := valueWithin_written hn' fuel depth
      rw [hv, hv']
      exact .pure ⟨hid, hid'⟩

/-- The same account with one id and with another one. -/
def SameButId (s s' : String) (a a' : Account) : Prop := ∃ name, a = ⟨name, s⟩ ∧ a' = ⟨name, s'⟩

theorem agree_ofValue {s s' : String} {v v' : Value} (h : Holding "id" (IdsOf s s') v v') :
    Agree (SameButId s s') (ofValue v) (ofValue v') := by
  refine Agree.bind (h.agree_fold (Q := fun p p' => p.1 = p'.1 ∧ p.2 = some s ∧ p'.2 = some s')
    ?_ (by simp) ?_ (none, none)) ?_
  · rintro other hfield hne v p p' ⟨-, hid, hid'⟩
    obtain rfl : other = "name" := by simpa [hne] using hfield
    exact .bind_same fun name _ => .done ⟨rfl, hid, hid'⟩
  · rintro x x' ⟨hx, hx'⟩ p
    rw [if_neg (by decide), if_neg (by decide), hx, hx']
    exact .done ⟨rfl, rfl, rfl⟩
  · rintro ⟨name, id⟩ ⟨_, id'⟩ ⟨rfl, rfl, rfl⟩
    exact .bind_same fun name _ => .done ⟨name, rfl, rfl⟩

end Account

/-! ### The accounts of an environment -/

/-- Which of the accounts of an environment. -/
inductive AccountRole
  | deploy
  | dns

namespace AccountRole

/-- The key of an account. -/
def key : AccountRole → String
  | deploy => "deploy"
  | dns => "dns"

/-- An account of an environment. -/
def account : AccountRole → EnvironmentConfig → Option Account
  | deploy, e => e.deployAccount
  | dns, e => e.dnsAccount

/-- An environment with one of its accounts set. -/
def put : AccountRole → Account → EnvironmentConfig → EnvironmentConfig
  | deploy, a, e => { e with deployAccount := some a }
  | dns, a, e => { e with dnsAccount := some a }

/-- Two accounts of which one is set and the other one is what it is. -/
def pair : AccountRole → Account → Option Account → Option Account × Option Account
  | deploy, a, other => (some a, other)
  | dns, a, other => (other, some a)

@[simp] theorem account_put (role : AccountRole) (a : Account) (e : EnvironmentConfig) :
    role.account (role.put a e) = some a := by
  cases role <;> rfl

variable {role : AccountRole} {s s' : String}

/-- The same accounts with one id and with another one. -/
def SamePairButId (role : AccountRole) (s s' : String)
    (p p' : Option Account × Option Account) : Prop :=
  ∃ name other, p = role.pair ⟨name, s⟩ other ∧ p' = role.pair ⟨name, s'⟩ other

theorem agree_accountsOfValue {v v' : Value}
    (h : Holding role.key (Holding "id" (Account.IdsOf s s')) v v') :
    Agree (role.SamePairButId s s') (EnvironmentConfig.accountsOfValue v)
      (EnvironmentConfig.accountsOfValue v') := by
  refine h.agree_fold ?_ (by cases role <;> simp [key]) ?_ (none, none)
  · rintro other hfield hne v _ _ ⟨name, account, rfl, rfl⟩
    refine .bind_same fun x _ => ?_
    cases role with
    | deploy =>
        obtain rfl : other = "dns" := by simpa [show other ≠ "deploy" from hne] using hfield
        exact .done ⟨name, x, rfl, rfl⟩
    | dns =>
        obtain rfl : other = "deploy" := by simpa [show other ≠ "dns" from hne] using hfield
        exact .done ⟨name, x, rfl, rfl⟩
  · intro x x' hx p
    refine (hx.agree_optional (Account.agree_ofValue hx)).bind ?_
    rintro _ _ ⟨_, _, rfl, rfl, name, rfl, rfl⟩
    cases role with
    | deploy => exact .done ⟨name, p.2, rfl, rfl⟩
    | dns => exact .done ⟨name, p.1, rfl, rfl⟩

/-- The same environment with one id and with another one. -/
def SameButId (role : AccountRole) (s s' : String) (e e' : EnvironmentConfig) : Prop :=
  ∃ name e₀, e = role.put ⟨name, s⟩ e₀ ∧ e' = role.put ⟨name, s'⟩ e₀

/-- Two values of what environments say of their accounts. -/
def AccountsOf (role : AccountRole) (s s' : String) : Value → Value → Prop :=
  Holding role.key (Holding "id" (Account.IdsOf s s'))

theorem agree_ofValue {m m' : Mapping}
    (h : DifferAt (.string "accounts") (role.AccountsOf s s') m m') :
    Agree (role.SameButId s s') (EnvironmentConfig.ofValue (.mapping m))
      (EnvironmentConfig.ofValue (.mapping m')) := by
  rw [EnvironmentConfig.ofValue_mapping, EnvironmentConfig.ofValue_mapping]
  refine Yaml.Record.agree_foldEntries ?_ (by simp [EnvironmentConfig.fields]) (h.mono ?_) _
  · rintro other hfield hne v _ _ ⟨name, e₀, rfl, rfl⟩
    obtain rfl | rfl : other = "service-deployment-mode" ∨ other = "vpc" := by
      simpa [EnvironmentConfig.fields, hne] using hfield
    · refine .bind_same fun mode _ => .done ⟨name, { e₀ with mode }, ?_, ?_⟩ <;> cases role <;> rfl
    · refine .bind_same fun vpc _ => .done ⟨name, { e₀ with vpc }, ?_, ?_⟩ <;> cases role <;> rfl
  · intro x x' hx e
    refine (agree_accountsOfValue hx).bind ?_
    rintro _ _ ⟨name, other, rfl, rfl⟩
    refine .done ⟨name, { e with deployAccount := other, dnsAccount := other }, ?_, ?_⟩ <;>
      cases role <;> rfl

end AccountRole

end Cutover
