/-
**One account id in a configuration.**

An account id stands below an environment, or below the defaults.  It gets into every environment
that has its accounts from there, and nothing else depends on it: whether a configuration loads, and
what else it loads to.  So the way in which an id is written makes no difference.

Main definitions:

* `Cutover.Surroundings` — a configuration in which one account id is left open;
* `Cutover.RawConfig.AccountsFrom` — whose accounts an environment has.

Main results:

* `Cutover.RawConfig.SameButId.agree_enrich` — documents that are the same but for an id;
* `Cutover.PlatformConfig.ofYaml_bare`, `Cutover.PlatformConfig.ofYaml_bare_defaults` — a
  configuration with one account and nothing else loads;
* `Cutover.PlatformConfig.ofYaml_accountId` — **an id is loaded as it is written, and in which way
  it is written makes no difference**.
-/
import Mathlib.Algebra.Module.Submodule.Lattice
import Mathlib.Data.List.Permutation
import Cutover.Config.Platform
import Cutover.Proofs.Config.Account
import Cutover.Proofs.Config.Defaults

set_option autoImplicit false

namespace Cutover

open Yaml (Frame Mapping Node Tree Value)
open Yaml.Reading (Alike Holding)

/-! ### The configuration around an id -/

/-- A configuration in which one account id is left open: the mappings around it, from the outermost
to that of the account. -/
structure Surroundings where
  root : Frame
  environments : Frame
  body : Frame
  accounts : Frame
  account : Frame

/-- The configuration with an id in the open place, below an environment and one of its
accounts. -/
def Surroundings.fill (around : Surroundings) (name : String) (role : AccountRole)
    (id : Node) : Node :=
  around.root.fill "environments" <| around.environments.fill name <|
    around.body.fill "accounts" <| around.accounts.fill role.key <| around.account.fill "id" id

namespace RawConfig

variable {source : String} {role : AccountRole} {s s' : String} {raw raw' : RawConfig}

/-- Two bodies with one id and with another one. -/
def SameBodyButId (role : AccountRole) (s s' : String) (body body' : Option Value) : Prop :=
  ∃ v v', body = some v ∧ body' = some v' ∧ Holding "accounts" (role.AccountsOf s s') v v'

/-- The same document with one id and with another one in the body of an environment. -/
structure SameButId (source : String) (role : AccountRole) (s s' : String)
    (raw raw' : RawConfig) : Prop where
  application : raw.application = raw'.application
  environments : Dict.DifferAt source (SameBodyButId role s s') raw.environments raw'.environments

theorem alike_read {d : Tree} (around : Surroundings)
    (hlast : ∀ e ∈ around.environments.after,
      ¬ Yaml.Reading.Returns (Yaml.Reading.text d e.1) source)
    {n n' : Node} (hn : Account.Written s n) (hn' : Account.Written s' n') :
    Alike (SameButId source role s s') (read d (around.fill source role n))
      (read d (around.fill source role n')) := by
  have hkey : Yaml.Scalar.ofPlain role.key = .text role.key := by cases role <;> rfl
  have hbody : Alike (SameBodyButId role s s')
      (Yaml.Reading.optional d (Yaml.Reading.maxDepth - 2)
        (around.body.fill "accounts" (around.accounts.fill role.key (around.account.fill "id" n))))
      (Yaml.Reading.optional d (Yaml.Reading.maxDepth - 2)
        (around.body.fill "accounts"
          (around.accounts.fill role.key (around.account.fill "id" n')))) :=
    Yaml.Reading.alike_optional_fill rfl around.body
      (Yaml.Reading.alike_value_fill hkey around.accounts
        (Yaml.Reading.alike_value_fill rfl around.account (Account.alike_written hn hn'))) _
  refine Alike.bind (Yaml.Reading.alike_record_fill
    (Q := fun p p' => p.1 = p'.1 ∧ Dict.DifferAt source (SameBodyButId role s s') p.2 p'.2)
    around.root ?_ (by simp [fields]) ?_ _) ?_
  · rintro other hfield hne v p p' ⟨-, hp⟩
    obtain rfl : other = "application" := by simpa [fields, hne] using hfield
    exact .bind_same fun text _ => .pure ⟨rfl, hp⟩
  · intro p
    exact (Yaml.Reading.alike_byName_fill around.environments hlast hbody).bind
      fun _ _ hbodies => .pure ⟨rfl, hbodies⟩
  · rintro ⟨application, bodies⟩ ⟨_, bodies'⟩ ⟨rfl, hbodies⟩
    exact .bind_same fun application _ => .pure ⟨rfl, hbodies⟩

/-- Whether a body is a mapping is not a matter of the id. -/
theorem SameBodyButId.cases {body body' : Option Value} (h : SameBodyButId role s s' body body') :
    (¬ isPlain body ∧ ¬ isPlain body') ∨
      ∃ m m', body = some (.mapping m) ∧ body' = some (.mapping m') ∧
        DifferAt (.string "accounts") (role.AccountsOf s s') m m' := by
  obtain ⟨_, _, rfl, rfl, tag, m, m', rfl, rfl, hm⟩ := h
  unfold Yaml.Reading.owned
  cases Yaml.Reading.ownTag tag with
  | none => exact .inr ⟨m, m', rfl, rfl, hm⟩
  | some name => exact .inl ⟨Bool.false_ne_true, Bool.false_ne_true⟩

namespace SameButId

theorem named_iff (h : SameButId source role s s' raw raw') (name : String) :
    raw.Named name ↔ raw'.Named name := by
  refine and_congr_left fun _ => ?_
  rw [Dict.mem_keys_iff, Dict.mem_keys_iff]
  by_cases hname : name = source
  · obtain ⟨body, body', hbody, hbody', -⟩ := h.environments.find?_eq
    rw [hname, hbody, hbody']
    exact iff_of_true ⟨_, rfl⟩ ⟨_, rfl⟩
  · rw [h.environments.find?_ne name hname]

theorem plain_iff (h : SameButId source role s s' raw raw') : raw.Plain ↔ raw'.Plain := by
  rw [RawConfig.plain_iff, RawConfig.plain_iff]
  refine forall_congr' fun name => ?_
  by_cases hname : name = source
  · obtain ⟨own, own', hown, hown', hsameId⟩ := h.environments.find?_eq
    rw [hname, hown, hown']
    simp only [Option.some.injEq, forall_eq']
    rcases hsameId.cases with ⟨hown, hown'⟩ | ⟨m, m', rfl, rfl, -⟩
    · exact iff_of_false hown hown'
    · exact iff_of_true rfl rfl
  · rw [h.environments.find?_ne name hname]

theorem entriesAt_ne (h : SameButId source role s s' raw raw') {name : String}
    (hname : name ≠ source) :
    raw.entriesAt name = raw'.entriesAt name := by
  rw [entriesAt, entriesAt, h.environments.find?_ne name hname]

theorem differAt_entriesAt (h : SameButId source role s s' raw raw') (hplain : raw.Plain) :
    DifferAt (.string "accounts") (role.AccountsOf s s') (raw.entriesAt source)
      (raw'.entriesAt source) := by
  obtain ⟨own, own', hown, hown', hsameId⟩ := h.environments.find?_eq
  rcases hsameId.cases with ⟨hnot, -⟩ | ⟨m, m', rfl, rfl, hm⟩
  · exact absurd (RawConfig.plain_iff.1 hplain source own hown) hnot
  · rw [entriesAt, entriesAt, hown, hown']
    exact hm

theorem keys_entriesAt (h : SameButId source role s s' raw raw') (hplain : raw.Plain)
    (name : String) :
    (raw.entriesAt name).keys = (raw'.entriesAt name).keys := by
  by_cases hname : name = source
  · exact hname ▸ (h.differAt_entriesAt hplain).keys_eq
  · rw [h.entriesAt_ne hname]

end SameButId

/-- An environment has the accounts that are written in the body of another one, or in its own: they
are its own accounts, or the ones of the defaults, and it has none itself. -/
def AccountsFrom (raw : RawConfig) (source name : String) : Prop :=
  name ≠ defaultsName ∧
    (name = source ∨ source = defaultsName ∧ .string "accounts" ∉ (raw.entriesAt name).keys)

namespace SameButId

theorem differAt_merged (h : SameButId source role s s' raw raw') (hplain : raw.Plain)
    {name : String} (hfrom : raw.AccountsFrom source name) :
    DifferAt (.string "accounts") (role.AccountsOf s s') (raw.merged name) (raw'.merged name) := by
  obtain ⟨hname, rfl | ⟨rfl, hlacks⟩⟩ := hfrom
  · rw [merged, merged, h.entriesAt_ne (Ne.symm hname)]
    exact Mapping.differAt_above_upper (h.differAt_entriesAt hplain) _
  · rw [merged, merged, ← h.entriesAt_ne hname]
    exact Mapping.differAt_above_lower (h.differAt_entriesAt hplain) hlacks

theorem merged_eq (h : SameButId source role s s' raw raw') (hplain : raw.Plain) {name : String}
    (hname : name ≠ defaultsName) (hfrom : ¬ raw.AccountsFrom source name) :
    raw.merged name = raw'.merged name := by
  have hsource : name ≠ source := fun heq => hfrom ⟨hname, .inl heq⟩
  rw [merged, merged, ← h.entriesAt_ne hsource]
  by_cases hdefaults : source = defaultsName
  · subst hdefaults
    refine Mapping.above_lower_eq (h.differAt_entriesAt hplain) ?_
    exact Classical.not_not.1 fun hlacks => hfrom ⟨hname, .inr ⟨rfl, hlacks⟩⟩
  · rw [h.entriesAt_ne (Ne.symm hdefaults)]

/-- What an environment comes to, with one id and with another one. -/
theorem agree_merged (h : SameButId source role s s' raw raw') (hplain : raw.Plain) {name : String}
    (hname : name ≠ defaultsName) :
    Agree (fun e e' => (raw.AccountsFrom source name → role.SameButId s s' e e') ∧
        (¬ raw.AccountsFrom source name → e = e'))
      (EnvironmentConfig.ofValue (.mapping (raw.merged name)))
      (EnvironmentConfig.ofValue (.mapping (raw'.merged name))) := by
  by_cases hfrom : raw.AccountsFrom source name
  · exact (AccountRole.agree_ofValue (h.differAt_merged hplain hfrom)).mono fun e e' he =>
      ⟨fun _ => he, fun hnot => absurd hfrom hnot⟩
  · rw [h.merged_eq hplain hname hfrom]
    cases EnvironmentConfig.ofValue (.mapping (raw'.merged name)) with
    | error e => exact .failed
    | ok e => exact .done ⟨fun hyes => absurd hyes hfrom, fun _ => rfl⟩

end SameButId

end RawConfig

/-- The same configuration with one id and with another one, in the environments with the accounts
of a body of a document. -/
structure PlatformConfig.SameButId (raw : RawConfig) (source : String) (role : AccountRole)
    (s s' : String) (config config' : PlatformConfig) : Prop where
  application : config.application = config'.application
  environments : ∀ name, Option.Rel
    (fun e e' => (raw.AccountsFrom source name → role.SameButId s s' e e') ∧
      (¬ raw.AccountsFrom source name → e = e'))
    (config.environments.find? name) (config'.environments.find? name)

namespace RawConfig

variable {source : String} {role : AccountRole} {s s' : String} {raw raw' : RawConfig}

/-- Documents with one id and with another one are both read, or both not. -/
theorem SameButId.agree_enrich (h : SameButId source role s s' raw raw')
    (hnodup : ∀ name, (raw.entriesAt name).keys.Nodup) :
    Agree (PlatformConfig.SameButId raw source role s s') raw.enrich raw'.enrich := by
  by_cases hplain : raw.Plain
  · have hplain' := h.plain_iff.1 hplain
    have hnodup' : ∀ name, (raw'.entriesAt name).keys.Nodup := fun name =>
      h.keys_entriesAt hplain name ▸ hnodup name
    refine .of_exists_ok_iff ?_ fun config config' hconfig hconfig' => ?_
    · rw [hplain.exists_enrich_iff hnodup, hplain'.exists_enrich_iff hnodup']
      refine forall_congr' fun name => ?_
      rw [← h.named_iff]
      exact imp_congr_right fun hnamed => (h.agree_merged hplain hnamed.2).exists_ok_iff
    · obtain ⟨happlication, hfind⟩ := (hplain.enrich_eq_ok_iff hnodup).1 hconfig
      obtain ⟨happlication', hfind'⟩ := (hplain'.enrich_eq_ok_iff hnodup').1 hconfig'
      refine ⟨by rw [happlication, happlication', h.application], fun name => ?_⟩
      by_cases hnamed : raw.Named name
      · obtain ⟨e, he, hread⟩ := (hfind name).1 hnamed
        obtain ⟨e', he', hread'⟩ := (hfind' name).1 ((h.named_iff name).1 hnamed)
        have hagree := h.agree_merged hplain hnamed.2
        rw [hread, hread'] at hagree
        rw [he, he']
        cases hagree with
        | done hR => exact .some hR
      · rw [(hfind name).2 hnamed, (hfind' name).2 (mt (h.named_iff name).2 hnamed)]
        exact .none
  · -- a body that is no mapping is refused, with the one id as with the other
    refine .of_exists_ok_iff (iff_of_false ?_ ?_) fun config _ hconfig _ => ?_
    · exact fun ⟨config, hconfig⟩ => hplain (plain_of_enrich hconfig)
    · exact fun ⟨config, hconfig⟩ => hplain (h.plain_iff.2 (plain_of_enrich hconfig))
    · exact absurd (plain_of_enrich hconfig) hplain

theorem read_withRoot (d : Tree) (root : Node) : read (d.withRoot root) = read d := by
  funext n
  unfold read
  simp only [Yaml.Reading.record_withRoot, Yaml.Reading.optional_withRoot]
  rfl

/-- Texts with one id and with another one hold documents with one id and with another one. -/
theorem agree_document {text text' : String} {d : Tree} {around : Surroundings} {n n' : Node}
    (hn : Account.Written s n) (hn' : Account.Written s' n')
    (htext : Tree.read text.toList = d.withRoot (around.fill source role n))
    (htext' : Tree.read text'.toList = d.withRoot (around.fill source role n'))
    (hlast : ∀ e ∈ around.environments.after,
      ¬ Yaml.Reading.Returns (Yaml.Reading.text d e.1) source) :
    Agree (SameButId source role s s') (Yaml.Reading.document? read text.toList)
      (Yaml.Reading.document? read text'.toList) := by
  rw [Yaml.Reading.document?_withRoot htext, Yaml.Reading.document?_withRoot htext', read_withRoot,
    read_withRoot]
  refine (alike_read around hlast hn hn' 0).bind ?_
  rintro ⟨raw, k⟩ ⟨raw', _⟩ ⟨hsameId, rfl⟩
  dsimp only
  split
  · exact .done hsameId
  · exact .failed

end RawConfig

namespace PlatformConfig

variable {source : String} {role : AccountRole} {s s' : String} {raw : RawConfig}
  {config config' : PlatformConfig}

/-- With the same id twice it is the same configuration. -/
theorem SameButId.eq (h : SameButId raw source role s s config config') : config = config' := by
  obtain ⟨application, environments⟩ := config
  obtain ⟨application', environments'⟩ := config'
  obtain rfl : application = application' := h.application
  have henvironments : environments = environments' := by
    refine Dict.ext_find? fun name => ?_
    have hname := h.environments name
    dsimp only at hname
    generalize environments.find? name = x at hname ⊢
    generalize environments'.find? name = y at hname ⊢
    cases hname with
    | none => rfl
    | some he =>
        by_cases hfrom : raw.AccountsFrom source name
        · obtain ⟨account, e₀, rfl, rfl⟩ := he.1 hfrom
          rfl
        · rw [he.2 hfrom]
  rw [henvironments]

theorem SameButId.account_eq (h : SameButId raw source role s s' config config') {name : String}
    {e : EnvironmentConfig} (he : config.environments.find? name = some e)
    (hfrom : raw.AccountsFrom source name) :
    ∃ account, role.account e = some account ∧ account.id = s := by
  obtain ⟨e', -, hsameId, -⟩ := Dict.exists_of_rel (h.environments name) he
  obtain ⟨account, e₀, rfl, -⟩ := hsameId hfrom
  exact ⟨⟨account, s⟩, role.account_put _ _, rfl⟩

/-- Texts with one id and with another one load to configurations with one id and with another one,
or both do not load. -/
theorem agree_ofYaml {text text' : String} {d : Tree} {around : Surroundings} {n n' : Node}
    (hn : Account.Written s n) (hn' : Account.Written s' n')
    (htext : Tree.read text.toList = d.withRoot (around.fill source role n))
    (htext' : Tree.read text'.toList = d.withRoot (around.fill source role n'))
    (hlast : ∀ e ∈ around.environments.after,
      ¬ Yaml.Reading.Returns (Yaml.Reading.text d e.1) source) :
    Agree (fun config config' => ∃ raw,
        Yaml.Reading.document? RawConfig.read text.toList = .ok raw ∧
          source ∈ raw.environments.keys ∧ SameButId raw source role s s' config config')
      (ofYaml text) (ofYaml text') := by
  have hagree := RawConfig.agree_document hn hn' htext htext' hlast
  unfold ofYaml
  cases hread : Yaml.Reading.document? RawConfig.read text.toList with
  | error e =>
      cases hread' : Yaml.Reading.document? RawConfig.read text'.toList with
      | error e' => exact .failed
      | ok raw' => rw [hread, hread'] at hagree; cases hagree
  | ok raw =>
      obtain ⟨raw', hread', hsameId⟩ := hagree.exists_of_ok hread
      rw [hread']
      obtain ⟨body, -, hbody, -⟩ := hsameId.environments.find?_eq
      exact (hsameId.agree_enrich (RawConfig.nodup_entriesAt hread)).mono
        fun config config' hconfig => ⟨raw, rfl, Dict.mem_keys_iff.2 ⟨body, hbody⟩, hconfig⟩

/-! ### Nothing else written -/

/-- What a document says with an id between quotes, it says with the id written in any way. -/
theorem ofYaml_of_quoted {text : String} {d : Tree} {around : Surroundings} {n : Node}
    (hn : Account.Written s n)
    (htext : Tree.read text.toList = d.withRoot (around.fill source role n))
    (hlast : ∀ e ∈ around.environments.after,
      ¬ Yaml.Reading.Returns (Yaml.Reading.text d e.1) source)
    (honly : d.isOnly = true)
    (hquoted : RawConfig.read d (around.fill source role (.scalar none .doubleQuoted s)) = pure raw)
    (henrich : raw.enrich = .ok config) : ofYaml text = .ok config := by
  have halike : Alike (RawConfig.SameButId source role s s)
      (RawConfig.read d (around.fill source role n)) (pure raw) :=
    hquoted ▸ RawConfig.alike_read around hlast hn (.doubleQuoted s)
  obtain ⟨⟨raw', k⟩, hrun, hsameId, -⟩ := (halike 0).exists_of_ok_right rfl
  have hread : Yaml.Reading.document? RawConfig.read text.toList = .ok raw' := by
    rw [Yaml.Reading.document?_withRoot htext, RawConfig.read_withRoot, hrun, honly]
    rfl
  obtain ⟨config', hconfig, hsameId⟩ :=
    (hsameId.agree_enrich (RawConfig.nodup_entriesAt hread)).exists_of_ok_right henrich
  rw [ofYaml_eq_enrich hread, hconfig, hsameId.eq]

/-- A configuration with one account in the body of an environment, and other environments that say
nothing themselves. -/
def bare (application account : String) (others : List String) : Surroundings where
  root :=
    ⟨none, [(.scalar none .plain "application", .scalar none .plain application)], .plain, [], true⟩
  environments :=
    ⟨none, [], .doubleQuoted, others.map fun name =>
      (.scalar none .doubleQuoted name, .scalar none .plain ""), true⟩
  body := ⟨none, [], .plain, [], true⟩
  accounts := ⟨none, [], .plain, [], true⟩
  account :=
    ⟨none, [(.scalar none .plain "name", .scalar none .doubleQuoted account)], .plain, [], true⟩

/-- What the body with one account says, with the id between quotes. -/
def bareBody (role : AccountRole) (account : Account) : Mapping :=
  [(.string "accounts", .mapping [(.string role.key,
    .mapping [(.string "name", .string account.name), (.string "id", .string account.id)])])]

theorem ofValue_bareBody (role : AccountRole) (account : Account) :
    EnvironmentConfig.ofValue (.mapping (bareBody role account)) =
      .ok (role.put account EnvironmentConfig.blank) := by
  cases role <;> rfl

/-- **A configuration with one account and nothing else loads, whatever the id**, if the account is
that of an environment. -/
theorem ofYaml_bare {text : String} {d : Tree} {application name : String} {account : Account}
    {n : Node} (hn : Account.Written account.id n) (hname : name ≠ RawConfig.defaultsName)
    (htext : Tree.read text.toList =
      d.withRoot ((bare application account.name []).fill name role n))
    (honly : d.isOnly = true) :
    ofYaml text =
      .ok ⟨application, Dict.ofList [(name, role.put account EnvironmentConfig.blank)]⟩ := by
  have hread : RawConfig.read d ((bare application account.name []).fill name role
      (.scalar none .doubleQuoted account.id)) =
      pure ⟨application, Dict.ofList [(name, some (.mapping (bareBody role account)))]⟩ := by
    cases role <;> rfl
  refine ofYaml_of_quoted hn htext (List.forall_mem_nil _) honly hread ?_
  refine RawConfig.enrich_eq_ok_iff.2 ⟨[], ?_, rfl, fun other => ?_⟩
  · rw [Dict.find?_ofList_single, if_neg (Ne.symm hname)]
    rfl
  · rw [Dict.find?_erase, Dict.find?_ofList_single, Dict.find?_ofList_single]
    by_cases hother : other = name
    · rw [if_neg (hother ▸ hname), if_pos hother, if_pos hother]
      exact .some (RawConfig.environmentOf_eq_ok_iff.2 ⟨_, rfl, ofValue_bareBody role account⟩)
    · simp only [if_neg hother, ite_self]
      exact .none

/-- **A configuration with one account and nothing else loads, whatever the id**, if the account is
that of the defaults. -/
theorem ofYaml_bare_defaults {text : String} {d : Tree} {application name : String}
    {account : Account} {n : Node} (hn : Account.Written account.id n)
    (hname : name ≠ RawConfig.defaultsName)
    (htext : Tree.read text.toList = d.withRoot
      ((bare application account.name [name]).fill RawConfig.defaultsName role n))
    (honly : d.isOnly = true) :
    ofYaml text =
      .ok ⟨application, Dict.ofList [(name, role.put account EnvironmentConfig.blank)]⟩ := by
  have hread : RawConfig.read d ((bare application account.name [name]).fill
      RawConfig.defaultsName role (.scalar none .doubleQuoted account.id)) =
      pure ⟨application, Dict.ofList [(RawConfig.defaultsName,
        some (.mapping (bareBody role account))), (name, none)]⟩ := by
    cases role <;> rfl
  have hlast : ∀ e ∈ (bare application account.name [name]).environments.after,
      ¬ Yaml.Reading.Returns (Yaml.Reading.text d e.1) RawConfig.defaultsName := by
    intro e he h
    obtain rfl := List.mem_singleton.1 he
    exact hname h.pure.symm
  refine ofYaml_of_quoted hn htext hlast honly hread ?_
  refine RawConfig.enrich_eq_ok_iff.2 ⟨bareBody role account, ?_, rfl, fun other => ?_⟩
  · rw [Dict.find?_ofList_pair, if_neg (Ne.symm hname), if_pos rfl]
    rfl
  · rw [Dict.find?_erase, Dict.find?_ofList_pair, Dict.find?_ofList_single]
    by_cases hother : other = name
    · rw [if_neg (hother ▸ hname), if_pos hother, if_pos hother]
      exact .some (RawConfig.environmentOf_eq_ok_iff.2 ⟨[], rfl, ofValue_bareBody role account⟩)
    · rw [if_neg hother, if_neg hother, ite_eq_left_iff.2 fun hdefaults => if_neg hdefaults]
      exact .none

/-- **An id is loaded as it is written, and in which way it is written makes no difference.**  An
account has the id that is written for it, in its own environment and in each environment that has
its accounts from the defaults.  Whether a text loads does not depend on the id, and another way to
write the id comes to the same configuration.  A text with one account and nothing else does load,
with the account in the body of an environment and with the account in the defaults of an
environment that says nothing. -/
theorem ofYaml_accountId {text : String} {d : Tree} {around : Surroundings} {n : Node}
    (hn : Account.Written s n)
    (htext : Tree.read text.toList = d.withRoot (around.fill source role n))
    (hlast : ∀ e ∈ around.environments.after,
      ¬ Yaml.Reading.Returns (Yaml.Reading.text d e.1) source) :
    (∀ config, ofYaml text = .ok config →
        ∃ raw, Yaml.Reading.document? RawConfig.read text.toList = .ok raw ∧
          source ∈ raw.environments.keys ∧
            ∀ name ∈ raw.environments.keys, raw.AccountsFrom source name →
              ∃ e account, config.environments.find? name = some e ∧
                role.account e = some account ∧ account.id = s) ∧
      (∀ s' n' text', Account.Written s' n' →
        Tree.read text'.toList = d.withRoot (around.fill source role n') →
          ((∃ config, ofYaml text = .ok config) ↔ ∃ config, ofYaml text' = .ok config) ∧
            (s = s' → ∀ config, ofYaml text = .ok config ↔ ofYaml text' = .ok config)) ∧
      ∀ (text' : String) (d' : Tree) (application name account : String),
        name ≠ RawConfig.defaultsName → d'.isOnly = true →
        (Tree.read text'.toList = d'.withRoot ((bare application account []).fill name role n) ∨
          Tree.read text'.toList = d'.withRoot
            ((bare application account [name]).fill RawConfig.defaultsName role n)) →
        ofYaml text' = .ok
          ⟨application, Dict.ofList [(name, role.put ⟨account, s⟩ EnvironmentConfig.blank)]⟩ := by
  refine ⟨fun config hconfig => ?_, fun s' n' text' hn' htext' => ?_,
    fun text' d' application name account hname honly htext' => ?_⟩
  · obtain ⟨config', -, raw, hread, hsource, hsameId⟩ :=
      (agree_ofYaml hn hn htext htext hlast).exists_of_ok hconfig
    refine ⟨raw, hread, hsource, fun name hname hfrom => ?_⟩
    rw [ofYaml_eq_enrich hread] at hconfig
    have hfind := (((RawConfig.plain_of_enrich hconfig).enrich_eq_ok_iff
      (RawConfig.nodup_entriesAt hread)).1 hconfig).2 name
    obtain ⟨e, he, -⟩ := hfind.1 ⟨hname, hfrom.1⟩
    obtain ⟨account, haccount, hid⟩ := hsameId.account_eq he hfrom
    exact ⟨e, account, he, haccount, hid⟩
  · have hagree := agree_ofYaml hn hn' htext htext' hlast
    refine ⟨hagree.exists_ok_iff, fun hs config => ?_⟩
    subst hs
    have heq : Agree Eq (ofYaml text) (ofYaml text') :=
      hagree.mono fun _ _ ⟨_, _, _, hsameId⟩ => hsameId.eq
    generalize ofYaml text = x at heq ⊢
    generalize ofYaml text' = y at heq ⊢
    cases heq with
    | failed => exact iff_of_false (nomatch ·) (nomatch ·)
    | done h => rw [h]
  · have hwritten : Account.Written (Account.mk account s).id n := hn
    rcases htext' with htext' | htext'
    · exact ofYaml_bare hwritten hname htext' honly
    · exact ofYaml_bare_defaults hwritten hname htext' honly

/-! The id in the defaults, with a zero in front of it; the environment says nothing itself. -/

/-- A text with an account in its defaults. -/
def numbered (id : String) : String :=
  "\n".intercalate ["application: shop", "environments:", "  '*':", "    accounts:",
    "      deploy:", "        name: main", "        id: " ++ id, "  dev:"]

/-- A word as a node. -/
def word (s : String) : Node := .scalar none .plain s

/-- The text without the id. -/
def numberedAround : Surroundings where
  root := ⟨none, [(word "application", word "shop")], .plain, [], true⟩
  environments := ⟨none, [], .singleQuoted, [(word "dev", word "")], true⟩
  body := ⟨none, [], .plain, [], true⟩
  accounts := ⟨none, [], .plain, [], true⟩
  account := ⟨none, [(word "name", word "main")], .plain, [], true⟩

/-- The tree of the text, except for its root. -/
def numberedTree : Tree := ⟨none, [], 22, true⟩

set_option maxRecDepth 100000 in
theorem read_numbered : Tree.read (numbered "042").toList =
    numberedTree.withRoot (numberedAround.fill "*" .deploy (word "042")) := by
  -- the submodules and permutations are imported for the equations that this unfolds `≤` by
  cbv

set_option maxRecDepth 100000 in
theorem read_numbered_quoted : Tree.read (numbered "'042'").toList =
    numberedTree.withRoot
      (numberedAround.fill "*" .deploy (.scalar none .singleQuoted "042")) := by
  cbv

/-- What the text says. -/
def numberedRaw : RawConfig :=
  ⟨"shop", Dict.ofList [("*", some (.mapping [(.string "accounts", .mapping [(.string "deploy",
    .mapping [(.string "name", .string "main"), (.string "id", .string "042")])])])),
    ("dev", none)]⟩

/-- The zero stays, with quotes and without. -/
theorem ofYaml_accountId_numbered :
    Account.Written "042" (word "042") ∧
      (∀ e ∈ numberedAround.environments.after,
        ¬ Yaml.Reading.Returns (Yaml.Reading.text numberedTree e.1) "*") ∧
      ∃ config e account, ofYaml (numbered "042") = .ok config ∧
        ofYaml (numbered "'042'") = .ok config ∧ config.environments.find? "dev" = some e ∧
          e.deployAccount = some account ∧ account.id = "042" := by
  have hn : Account.Written "042" (word "042") :=
    .plain ⟨by decide, List.all_eq_true.1 (by decide)⟩ (by decide)
  have hlast : ∀ e ∈ numberedAround.environments.after,
      ¬ Yaml.Reading.Returns (Yaml.Reading.text numberedTree e.1) "*" := by
    intro e he h
    obtain rfl : e = (word "dev", word "") := List.mem_singleton.1 he
    have hdev : "*" = "dev" := h.pure
    exact absurd hdev (by decide)
  have hloads : (ofYaml (numbered "042")).toOption.isSome := by decide +kernel
  obtain ⟨config, hconfig⟩ := Option.isSome_iff_exists.1 hloads
  have hconfig := eq_ok_of_toOption hconfig
  have hraw : Yaml.Reading.document? RawConfig.read (numbered "042").toList = .ok numberedRaw :=
    eq_ok_of_toOption (by decide +kernel)
  obtain ⟨hid, hother, -⟩ := ofYaml_accountId hn read_numbered hlast
  obtain ⟨raw, hread, -, haccount⟩ := hid config hconfig
  obtain rfl := Except.ok.inj (hread.symm.trans hraw)
  obtain ⟨e, account, he, haccount, hid⟩ :=
    haccount "dev" (by decide +kernel) ⟨by decide, .inr ⟨rfl, by decide +kernel⟩⟩
  obtain ⟨-, hsame⟩ := hother "042" _ _ (.singleQuoted "042") read_numbered_quoted
  exact ⟨hn, hlast, config, e, account, hconfig, (hsame rfl config).1 hconfig, he, haccount, hid⟩

end PlatformConfig

end Cutover
