/-
**Defaults are put under what an environment says itself.**

The body of the environment named by a star goes under the body of every other one: a key counts as
the environment has it, even where it has a null, and otherwise as the defaults have it.  Which of
the environments can be read, and what is read of them, depends on nothing else.  So a document in
which every environment has written the defaults out, and which has no defaults any more, loads to
the same configuration.

Main definitions:

* `Cutover.RawConfig.Plain` — the bodies of a document are mappings or null;
* `Cutover.RawConfig.entriesAt` — what an environment says itself;
* `Cutover.RawConfig.InlinedAs` — a document with the defaults of another one written out.

Main results:

* `Cutover.RawConfig.enrich_eq_ok_iff` — a document is read environment by environment;
* `Cutover.PlatformConfig.ofYaml_defaults` — **what a text with defaults loads to, and that writing
  them out changes nothing**.
-/
import Mathlib.Data.List.Forall2
import Cutover.Config.Platform
import Cutover.Proofs.Config.Environment
import Cutover.Proofs.Dict
import Cutover.Proofs.Yaml.Mapping
import Cutover.Proofs.Yaml.Reading

set_option autoImplicit false

namespace Cutover

open Yaml (Value Mapping Mapping.Overlays)

namespace RawConfig

variable {raw raw' : RawConfig} {config : PlatformConfig} {defaults : Mapping} {name : String}
  {body : Option Value} {e : EnvironmentConfig}

/-! ### Environment by environment -/

theorem environmentOf_eq_ok_iff :
    environmentOf defaults body = .ok e ↔
      ∃ m, entriesOf body = .ok m ∧
        EnvironmentConfig.ofValue (.mapping (defaults.override m)) = .ok e := by
  have hread : environmentOf defaults body = entriesOf body >>= fun m =>
      (EnvironmentConfig.ofValue (.mapping (defaults.override m))).mapError .yaml := by
    refine bind_congr fun m => ?_
    dsimp only
    cases EnvironmentConfig.ofValue (.mapping (defaults.override m)) <;> rfl
  simp only [hread, bind_eq_ok_iff, mapError_eq_ok_iff]

/-- Environments are read one by one. -/
theorem environmentsOf_eq_ok_iff {l : List (String × Option Value)}
    {es : List (String × EnvironmentConfig)} :
    environmentsOf defaults l = .ok es ↔
      List.Forall₂ (fun b e => b.1 = e.1 ∧ environmentOf defaults b.2 = .ok e.2) l es := by
  induction l generalizing es with
  | nil =>
      rw [List.forall₂_nil_left_iff]
      exact ⟨fun h => (Except.ok.inj h).symm, fun h => h ▸ rfl⟩
  | cons b l ih =>
      rw [environmentsOf, bind_eq_ok_iff, List.forall₂_cons_left_iff]
      constructor
      · rintro ⟨e, he, h⟩
        obtain ⟨rest, hrest, h⟩ := bind_eq_ok_iff.1 h
        exact ⟨(b.1, e), rest, ⟨rfl, he⟩, ih.1 hrest, (Except.ok.inj h).symm⟩
      · rintro ⟨⟨_, e⟩, rest, ⟨rfl, he⟩, hrest, rfl⟩
        exact ⟨e, he, bind_eq_ok_iff.2 ⟨rest, ih.2 hrest, rfl⟩⟩

/-- If each of them can be read, then all of them can. -/
theorem exists_environmentsOf {named : Dict (Option Value)}
    (h : ∀ name body, named.find? name = some body → ∃ e, environmentOf defaults body = .ok e) :
    ∃ es, environmentsOf defaults named.entries = .ok es := by
  have hlist : ∀ l : List (String × Option Value),
      (∀ b ∈ l, ∃ e, environmentOf defaults b.2 = .ok e) →
        ∃ es, environmentsOf defaults l = .ok es := by
    intro l
    induction l with
    | nil => exact fun _ => ⟨[], rfl⟩
    | cons b l ih =>
        intro heach
        obtain ⟨⟨e, he⟩, hrest⟩ := List.forall_mem_cons.1 heach
        obtain ⟨es, hes⟩ := ih hrest
        exact ⟨(b.1, e) :: es, environmentsOf_eq_ok_iff.2 (.cons ⟨rfl, he⟩
          (environmentsOf_eq_ok_iff.1 hes))⟩
  exact hlist _ fun b hb => h b.1 b.2 (Dict.find?_of_mem hb)

/-- What is found in the environments that are read, name by name. -/
theorem find?_environmentsOf {named : Dict (Option Value)}
    {es : List (String × EnvironmentConfig)}
    (h : environmentsOf defaults named.entries = .ok es) (name : String) :
    Option.Rel (fun body e => environmentOf defaults body = .ok e) (named.find? name)
      ((Dict.ofList es).find? name) := by
  have hes := environmentsOf_eq_ok_iff.1 h
  have hkeys := Dict.keys_of_forall₂ (R := fun body e => environmentOf defaults body = .ok e) hes
  rw [Dict.find?_ofList (hkeys ▸ named.keys_nodup)]
  exact Dict.lookup_of_forall₂ hes name

/-- A document is read environment by environment, each with what the one named by a star says under
what it says itself. -/
theorem enrich_eq_ok_iff :
    raw.enrich = .ok config ↔
      ∃ defaults, entriesOf ((raw.environments.find? defaultsName).getD none) = .ok defaults ∧
        config.application = raw.application ∧
          ∀ name, Option.Rel (fun body e => environmentOf defaults body = .ok e)
            ((raw.environments.erase defaultsName).find? name)
            (config.environments.find? name) := by
  rw [enrich, bind_eq_ok_iff]
  refine exists_congr fun defaults => and_congr_right fun _ => ?_
  dsimp only
  rw [bind_eq_ok_iff]
  constructor
  · rintro ⟨es, hes, h⟩
    obtain rfl := Except.ok.inj h
    exact ⟨rfl, find?_environmentsOf hes⟩
  · rintro ⟨happlication, hrel⟩
    obtain ⟨es, hes⟩ : ∃ es, environmentsOf defaults
        (raw.environments.erase defaultsName).entries = .ok es := by
      refine exists_environmentsOf fun name body hbody => ?_
      obtain ⟨e, -, he⟩ := Dict.exists_of_rel (hrel name) hbody
      exact ⟨e, he⟩
    have henvironments : Dict.ofList es = config.environments :=
      Dict.ext_find? fun name => Dict.rightUnique_rel
        (fun _ _ _ he he' => Except.ok.inj (he.symm.trans he'))
        (find?_environmentsOf hes name) (hrel name)
    exact ⟨es, hes, by rw [henvironments, ← happlication]; rfl⟩

/-! ### What an environment says itself -/

/-- Whether a body is a mapping or null. -/
def isPlain : Option Value → Bool
  | none | some .null | some (.mapping _) => true
  | _ => false

/-- The bodies of a document are mappings, or null. -/
def Plain (raw : RawConfig) : Prop := ∀ e ∈ raw.environments.entries, isPlain e.2

instance (raw : RawConfig) : Decidable raw.Plain :=
  inferInstanceAs (Decidable (∀ e ∈ raw.environments.entries, isPlain e.2))

/-- What an environment says itself; one without a body, or that is not there, says nothing. -/
def entriesAt (raw : RawConfig) (name : String) : Mapping :=
  match raw.environments.find? name with
  | some (some (.mapping m)) => m
  | _ => []

/-- An environment that a document has, and that does not hold the defaults. -/
def Named (raw : RawConfig) (name : String) : Prop :=
  name ∈ raw.environments.keys ∧ name ≠ defaultsName

/-- The environments that are left without the defaults. -/
theorem find?_named (h : (raw.environments.erase defaultsName).find? name = some body) :
    raw.Named name ∧ raw.environments.find? name = some body := by
  rw [Dict.find?_erase] at h
  split at h
  · cases h
  · rename_i hname
    exact ⟨⟨Dict.mem_keys_iff.2 ⟨body, h⟩, hname⟩, h⟩

/-- What an environment comes to: what it says itself, over the defaults. -/
def merged (raw : RawConfig) (name : String) : Mapping :=
  (raw.entriesAt name).above (raw.entriesAt defaultsName)

theorem entriesAt_eq_nil (h : name ∉ raw.environments.keys) : raw.entriesAt name = [] := by
  have hnone : raw.environments.find? name = none :=
    Option.eq_none_iff_forall_ne_some.2 fun body hbody => h (Dict.mem_keys_iff.2 ⟨body, hbody⟩)
  rw [entriesAt, hnone]

theorem Plain.entriesOf_eq (hplain : raw.Plain) (hbody : raw.environments.find? name = some body) :
    entriesOf body = .ok (raw.entriesAt name) := by
  have hplain : isPlain body := hplain _ (Dict.mem_of_find? hbody)
  rw [entriesAt, hbody]
  match body, hplain with
  | none, _ => rfl
  | some .null, _ => rfl
  | some (.mapping m), _ => rfl

theorem plain_iff :
    raw.Plain ↔ ∀ name body, raw.environments.find? name = some body → isPlain body :=
  ⟨fun h name _ hbody => h (name, _) (Dict.mem_of_find? hbody),
    fun h e he => h e.1 e.2 (Dict.find?_of_mem he)⟩

theorem isPlain_of_entriesOf {m : Mapping} (h : entriesOf body = .ok m) : isPlain body := by
  match body, h with
  | none, _ => rfl
  | some .null, _ => rfl
  | some (.mapping m), _ => rfl

/-- A document that can be read has no other bodies. -/
theorem plain_of_enrich (h : raw.enrich = .ok config) : raw.Plain := by
  obtain ⟨defaults, hdefaults, -, hrel⟩ := enrich_eq_ok_iff.1 h
  refine plain_iff.2 fun name body hbody => ?_
  by_cases hname : name = defaultsName
  · rw [← hname, hbody] at hdefaults
    exact isPlain_of_entriesOf hdefaults
  · have hfind : (raw.environments.erase defaultsName).find? name = some body := by
      rw [Dict.find?_erase, if_neg hname, hbody]
    obtain ⟨e, -, he⟩ := Dict.exists_of_rel (hrel name) hfind
    obtain ⟨m, hm, -⟩ := environmentOf_eq_ok_iff.1 he
    exact isPlain_of_entriesOf hm

theorem Plain.defaults_eq (hplain : raw.Plain) :
    entriesOf ((raw.environments.find? defaultsName).getD none) =
      .ok (raw.entriesAt defaultsName) := by
  cases hbody : raw.environments.find? defaultsName with
  | none => rw [entriesAt, hbody]; rfl
  | some body => exact hplain.entriesOf_eq hbody

/-- No key stands twice in what an environment of a text says. -/
theorem nodup_entriesAt {cs : List Char} (h : Yaml.Reading.document? read cs = .ok raw)
    (name : String) : (raw.entriesAt name).keys.Nodup := by
  obtain ⟨n, h⟩ := Yaml.Reading.returns_of_document h
  obtain ⟨s, hs, h⟩ := h.bind
  obtain ⟨application, -, h⟩ := h.bind
  obtain rfl := h.pure
  have hbody : ∀ name m, s.2.find? name = some (some (.mapping m)) → (Mapping.keys m).Nodup := by
    refine Yaml.Reading.record_keeps
      (P := fun s => ∀ name m, s.2.find? name = some (some (.mapping m)) → (Mapping.keys m).Nodup)
      (fun field n s s' hs h => ?_) (fun name m h => by simp at h) hs
    split at h
    · obtain ⟨text, -, h⟩ := h.bind
      obtain rfl := h.pure
      exact hs
    · obtain ⟨bodies, hbodies, h⟩ := h.bind
      obtain rfl := h.pure
      intro name m hm
      obtain ⟨n, hn⟩ := Yaml.Reading.returns_of_byName hbodies hm
      obtain ⟨n, hn⟩ := Yaml.Reading.value_of_optional hn
      exact Yaml.Reading.nodup_of_value hn
  rw [entriesAt]
  split
  · exact hbody name _ ‹_›
  · exact List.nodup_nil

/-- An environment with defaults put in is what its own entries over the defaults stand for. -/
theorem Plain.environmentOf_eq_ok_iff (hplain : raw.Plain)
    (hnodup : ∀ name, (raw.entriesAt name).keys.Nodup)
    (hbody : raw.environments.find? name = some body) :
    environmentOf (raw.entriesAt defaultsName) body = .ok e ↔
      EnvironmentConfig.ofValue (.mapping (raw.merged name)) = .ok e := by
  have hperm : ((raw.entriesAt defaultsName).override (raw.entriesAt name)).Perm
      (raw.merged name) :=
    (Mapping.overlays_override (hnodup _) (hnodup _)).perm
      (Mapping.overlays_above (hnodup _) (hnodup _))
  rw [RawConfig.environmentOf_eq_ok_iff, hplain.entriesOf_eq hbody,
    ← EnvironmentConfig.ofValue_perm hperm]
  simp

/-- A document is read by what its environments come to. -/
theorem Plain.enrich_eq_ok_iff (hplain : raw.Plain)
    (hnodup : ∀ name, (raw.entriesAt name).keys.Nodup) :
    raw.enrich = .ok config ↔
      config.application = raw.application ∧
        ∀ name, (raw.Named name → ∃ e, config.environments.find? name = some e ∧
            EnvironmentConfig.ofValue (.mapping (raw.merged name)) = .ok e) ∧
          (¬ raw.Named name → config.environments.find? name = none) := by
  rw [RawConfig.enrich_eq_ok_iff, hplain.defaults_eq]
  simp only [Except.ok.injEq, exists_eq_left']
  refine and_congr_right fun _ => forall_congr' fun name => ?_
  by_cases hnamed : raw.Named name
  · obtain ⟨body, hbody⟩ := Dict.mem_keys_iff.1 hnamed.1
    rw [Dict.find?_erase, if_neg hnamed.2, hbody]
    constructor
    · intro h
      obtain ⟨e, he, hread⟩ := Dict.exists_of_rel h rfl
      exact ⟨fun _ => ⟨e, he, (hplain.environmentOf_eq_ok_iff hnodup hbody).1 hread⟩,
        fun hnot => absurd hnamed hnot⟩
    · rintro ⟨h, -⟩
      obtain ⟨e, he, hread⟩ := h hnamed
      rw [he]
      exact .some ((hplain.environmentOf_eq_ok_iff hnodup hbody).2 hread)
  · have hnone : (raw.environments.erase defaultsName).find? name = none :=
      Option.eq_none_iff_forall_ne_some.2 fun body hbody => hnamed (find?_named hbody).1
    rw [hnone]
    constructor
    · exact fun h => ⟨fun h' => absurd h' hnamed, fun _ => Dict.eq_none_of_rel h⟩
    · rintro ⟨-, h⟩
      rw [h hnamed]
      exact .none

/-- Whether a document can be read is decided environment by environment. -/
theorem Plain.exists_enrich_iff (hplain : raw.Plain)
    (hnodup : ∀ name, (raw.entriesAt name).keys.Nodup) :
    (∃ config, raw.enrich = .ok config) ↔
      ∀ name, raw.Named name →
        ∃ e, EnvironmentConfig.ofValue (.mapping (raw.merged name)) = .ok e := by
  constructor
  · rintro ⟨config, h⟩ name hnamed
    obtain ⟨e, -, he⟩ := (((hplain.enrich_eq_ok_iff hnodup).1 h).2 name).1 hnamed
    exact ⟨e, he⟩
  · intro h
    obtain ⟨es, hes⟩ : ∃ es, environmentsOf (raw.entriesAt defaultsName)
        (raw.environments.erase defaultsName).entries = .ok es := by
      refine exists_environmentsOf fun name body hbody => ?_
      obtain ⟨hname, hbody⟩ := find?_named hbody
      obtain ⟨e, he⟩ := h name hname
      exact ⟨e, (hplain.environmentOf_eq_ok_iff hnodup hbody).2 he⟩
    refine ⟨⟨raw.application, Dict.ofList es⟩, RawConfig.enrich_eq_ok_iff.2 ?_⟩
    exact ⟨_, hplain.defaults_eq, rfl, find?_environmentsOf hes⟩

/-! ### Defaults written out -/

/-- A document with the defaults of another one written out: each environment has what it comes to
there, in any order, and nothing holds defaults any more. -/
structure InlinedAs (raw raw' : RawConfig) : Prop where
  application : raw'.application = raw.application
  names : ∀ name, name ∈ raw'.environments.keys ↔ raw.Named name
  plain : raw'.Plain
  entries : ∀ name, raw.Named name → (raw'.entriesAt name).Perm (raw.merged name)

/-- Writing the defaults out changes nothing. -/
theorem InlinedAs.enrich_eq_ok_iff (h : raw.InlinedAs raw') (hplain : raw.Plain)
    (hnodup : ∀ name, (raw.entriesAt name).keys.Nodup) :
    raw'.enrich = .ok config ↔ raw.enrich = .ok config := by
  have hnamed : ∀ name, raw'.Named name ↔ raw.Named name := fun name =>
    ⟨fun hname => (h.names name).1 hname.1, fun hname => ⟨(h.names name).2 hname, hname.2⟩⟩
  have hdefaults : raw'.entriesAt defaultsName = [] :=
    entriesAt_eq_nil fun hmem => ((h.names _).1 hmem).2 rfl
  -- without defaults, an environment comes to what it says itself
  have hmerged : ∀ name, raw.Named name → (raw'.merged name).Perm (raw.merged name) := by
    intro name hname
    rw [merged, hdefaults, Mapping.above, List.filter_nil, List.append_nil]
    exact h.entries name hname
  have hnodup' : ∀ name, (raw'.entriesAt name).keys.Nodup := by
    intro name
    by_cases hname : raw.Named name
    · have hkeys : (raw.merged name).keys.Nodup :=
        (Mapping.overlays_above (hnodup _) (hnodup _)).nodup
      exact ((h.entries name hname).map _).nodup_iff.2 hkeys
    · rw [entriesAt_eq_nil (mt (h.names name).1 hname)]
      exact List.nodup_nil
  rw [h.plain.enrich_eq_ok_iff hnodup', hplain.enrich_eq_ok_iff hnodup, h.application]
  refine and_congr_right fun _ => forall_congr' fun name => ?_
  rw [hnamed]
  refine and_congr_left fun _ => imp_congr_right fun hname => exists_congr fun e => ?_
  rw [EnvironmentConfig.ofValue_perm (hmerged name hname)]

end RawConfig

namespace PlatformConfig

theorem ofYaml_eq_enrich {text : String} {raw : RawConfig}
    (hread : Yaml.Reading.document? RawConfig.read text.toList = .ok raw) :
    ofYaml text = raw.enrich := by
  rw [ofYaml, hread]

/-- **Defaults are put under what an environment says itself, and writing them out changes
nothing.**  A text whose bodies are mappings or null loads if and only if each environment can be
read of what it says itself over the defaults.  Then the configuration has exactly these
environments, the one of the defaults not among them, each as it is read.  A text with the defaults
written out loads to the same configuration, or does not load either. -/
theorem ofYaml_defaults {text : String} {raw : RawConfig}
    (hread : Yaml.Reading.document? RawConfig.read text.toList = .ok raw) (hplain : raw.Plain) :
    ((∃ config, ofYaml text = .ok config) ↔
        ∀ name, raw.Named name →
          ∃ e, EnvironmentConfig.ofValue (.mapping (raw.merged name)) = .ok e) ∧
      (∀ config, ofYaml text = .ok config →
        config.application = raw.application ∧
          ∀ name e, config.environments.find? name = some e ↔
            raw.Named name ∧ EnvironmentConfig.ofValue (.mapping (raw.merged name)) = .ok e) ∧
      ∀ text' raw', Yaml.Reading.document? RawConfig.read text'.toList = .ok raw' →
        raw.InlinedAs raw' → ∀ config, ofYaml text' = .ok config ↔ ofYaml text = .ok config := by
  have hnodup := RawConfig.nodup_entriesAt hread
  rw [ofYaml_eq_enrich hread]
  refine ⟨hplain.exists_enrich_iff hnodup, fun config hconfig => ?_,
    fun text' raw' hread' hinlined config => ?_⟩
  · obtain ⟨happlication, hfind⟩ := (hplain.enrich_eq_ok_iff hnodup).1 hconfig
    refine ⟨happlication, fun name e => ?_⟩
    by_cases hnamed : raw.Named name
    · obtain ⟨e', he', hread'⟩ := (hfind name).1 hnamed
      rw [he', hread', Option.some.injEq, Except.ok.injEq]
      exact (and_iff_right hnamed).symm
    · rw [(hfind name).2 hnamed]
      exact iff_of_false (nomatch ·) fun h => hnamed h.1
  · rw [ofYaml_eq_enrich hread']
    exact hinlined.enrich_eq_ok_iff hplain hnodup

/-! The defaults of `inheriting` set the mode and the network; `prod` has no network, and says so.
In `writtenOut` the same is written without defaults. -/

deriving instance DecidableEq for RawConfig

/-- A text with defaults. -/
def inheriting : String :=
  "\n".intercalate ["application: shop", "environments:", "  '*':",
    "    service-deployment-mode: platform", "    vpc: core", "  dev:", "  prod:", "    vpc: null"]

/-- The text with the defaults written out. -/
def writtenOut : String :=
  "\n".intercalate ["application: shop", "environments:", "  dev:",
    "    service-deployment-mode: platform", "    vpc: core", "  prod:", "    vpc: null",
    "    service-deployment-mode: platform"]

/-- The mode, as it is written. -/
def platformEntry : Value × Value := (.string "service-deployment-mode", .string "platform")

/-- The network, as it is written. -/
def vpcEntry (v : Value) : Value × Value := (.string "vpc", v)

/-- What `inheriting` says. -/
def inheritingRaw : RawConfig :=
  ⟨"shop", Dict.ofList [("*", some (.mapping [platformEntry, vpcEntry (.string "core")])),
    ("dev", none), ("prod", some (.mapping [vpcEntry .null]))]⟩

/-- What `writtenOut` says. -/
def writtenOutRaw : RawConfig :=
  ⟨"shop", Dict.ofList [("dev", some (.mapping [platformEntry, vpcEntry (.string "core")])),
    ("prod", some (.mapping [vpcEntry .null, platformEntry]))]⟩

theorem plain_inheriting : inheritingRaw.Plain := by decide +kernel

theorem named_inheriting {name : String} :
    inheritingRaw.Named name ↔ name = "dev" ∨ name = "prod" := by
  have hkeys : inheritingRaw.environments.keys = ["*", "dev", "prod"] := by decide +kernel
  rw [RawConfig.Named, hkeys, RawConfig.defaultsName]
  simp only [List.mem_cons, List.not_mem_nil, or_false]
  constructor
  · rintro ⟨rfl | h, hne⟩
    · exact absurd rfl hne
    · exact h
  · rintro (rfl | rfl) <;> exact ⟨by simp, by decide⟩

theorem inlinedAs_writtenOut : inheritingRaw.InlinedAs writtenOutRaw := by
  have hkeys : writtenOutRaw.environments.keys = ["dev", "prod"] := by decide +kernel
  refine ⟨rfl, fun name => ?_, by decide +kernel, fun name hname => ?_⟩
  · rw [hkeys, named_inheriting]
    simp
  · rcases named_inheriting.1 hname with rfl | rfl <;> decide +kernel

/-- With the mode of the defaults and without their network. -/
theorem ofYaml_defaults_prod :
    inheritingRaw.Plain ∧ inheritingRaw.InlinedAs writtenOutRaw ∧
      ∃ config, ofYaml inheriting = .ok config ∧ ofYaml writtenOut = .ok config ∧
        config.environments.find? "prod" = some ⟨.platform, none, none, none⟩ := by
  have hread : Yaml.Reading.document? RawConfig.read inheriting.toList = .ok inheritingRaw :=
    eq_ok_of_toOption (by decide +kernel)
  have hread' : Yaml.Reading.document? RawConfig.read writtenOut.toList = .ok writtenOutRaw :=
    eq_ok_of_toOption (by decide +kernel)
  obtain ⟨hloads, hconfig, hinlined⟩ := ofYaml_defaults hread plain_inheriting
  have hdev : EnvironmentConfig.ofValue (.mapping (inheritingRaw.merged "dev")) =
      .ok ⟨.platform, none, none, some "core"⟩ := eq_ok_of_toOption (by decide +kernel)
  have hprod : EnvironmentConfig.ofValue (.mapping (inheritingRaw.merged "prod")) =
      .ok ⟨.platform, none, none, none⟩ := eq_ok_of_toOption (by decide +kernel)
  obtain ⟨config, hload⟩ := hloads.2 fun name hname => by
    rcases named_inheriting.1 hname with rfl | rfl
    · exact ⟨_, hdev⟩
    · exact ⟨_, hprod⟩
  exact ⟨plain_inheriting, inlinedAs_writtenOut, config, hload,
    (hinlined _ _ hread' inlinedAs_writtenOut config).2 hload,
    ((hconfig config hload).2 _ _).2 ⟨named_inheriting.2 (.inr rfl), hprod⟩⟩

end PlatformConfig

end Cutover
