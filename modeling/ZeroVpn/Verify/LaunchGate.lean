import ZeroVpn.Core.CoreServiceManager
import ZeroVpn.Ui.ProfileEditors
import ZeroVpn.Verify.TargetClosure

/-!
# The launch gate

`launchCore` runs `validateProfile` before it builds a configuration. The gate wants a server and a
port in the profile itself, also for the types whose servers are elsewhere: groups, chains and
custom configurations. For a profile whose configuration can be built, `validateProfile_of_builds`
says when the gate lets it pass.
-/

namespace ZeroVpn

open CoreOutboundBuilder CoreConfigContextBuilder CoreConfigManager CoreServiceManager
open WireguardFmt Text

/-- The configuration of the stored profile `p` is built, and its first outbound comes from the
profiles that `p` stands for; the JSON of a custom configuration has outbounds. -/
def BuildsFrom (env : AppEnv) (guid : String) (p : ProfileItem) : Prop :=
  (getV2rayConfig env guid).status = true ∧
  if p.configType = .custom then
    ∃ raw json outbounds, env.store.serverRaw.get guid = some raw ∧
      env.platform.parseString raw = some json ∧
      (json.get "outbounds").bind (·.asArray) = some outbounds ∧ outbounds ≠ []
  else
    ∃ primary config, resolveOutbound env AppConfig.tagProxy p = some primary ∧
      (getV2rayConfig env guid).content = .unified config ∧
      DefaultMadeFrom env primary.resolvedProfiles config

/-- The port of a profile: the number that the builder reads, or for the types whose builder reads
none, the number in the trimmed field. -/
def portOf (p : ProfileItem) : Option Int :=
  if parsesPort p.configType then toIntOrNull (orEmpty p.serverPort)
  else p.serverPort.bind fun port => toIntOrNull (trim port)

section
variable {env : AppEnv} {guid : String} {p : ProfileItem}

theorem validateProfile_iff (hawg : hasAwgParams env.platform.fold p = false) :
    validateProfile env p = .ok () ↔ isNullOrBlank p.server = false ∧
      ∃ port, (p.serverPort.bind fun port => toIntOrNull (trim port)) = some port ∧
        1 ≤ port ∧ port ≤ 65535 := by
  have hserver : orEmpty (p.server.map trim) = "" ↔ isNullOrBlank p.server = true := by
    cases p.server with
    | none => exact iff_of_true rfl rfl
    | some server => exact trim_eq_empty_iff
  unfold validateProfile
  rw [if_neg (by rw [hawg]; exact Bool.false_ne_true)]
  by_cases hblank : isNullOrBlank p.server = true
  · rw [if_pos (hserver.mpr hblank)]
    refine iff_of_false nofun fun h => ?_
    exact Bool.false_ne_true (h.1.symm.trans hblank)
  rw [if_neg (mt hserver.mp hblank)]
  have hfilled : isNullOrBlank p.server = false := Bool.not_eq_true _ ▸ hblank
  cases hport : p.serverPort.bind fun port => toIntOrNull (trim port) with
  | none =>
    refine iff_of_false nofun ?_
    rintro ⟨-, port, hsome, -⟩
    cases hsome
  | some port =>
    dsimp only
    split
    · next hrange => exact iff_of_true rfl ⟨hfilled, port, rfl, hrange⟩
    · next hrange =>
      refine iff_of_false nofun ?_
      rintro ⟨-, port', hsome, hrange'⟩
      cases hsome
      exact hrange hrange'

theorem simple_of_parsesPort {t : EConfigType} (h : parsesPort t = true) :
    t ≠ .custom ∧ t.isComplexType = false := by
  revert h
  cases t <;> decide

/-- Where the builder has read the port, the gate reads the same number. -/
theorem portOf_of_builds (hstored : env.store.serverConfig guid = some p)
    (hstatus : (getV2rayConfig env guid).status = true) :
    (p.serverPort.bind fun port => toIntOrNull (trim port)) = portOf p := by
  unfold portOf
  split
  · next hparses =>
    obtain ⟨hcustom, hsimple⟩ := simple_of_parsesPort hparses
    obtain ⟨primary, routing, config, hprimary, -, -, hunified⟩ :=
      getV2rayConfig_unified hstored hcustom hstatus
    obtain ⟨pairs, -, hpairs, -⟩ := hunified.outbounds
    have hmem : p ∈ primary.candidates := by
      rw [(resolved_of_eq_some hprimary).candidates]
      exact mem_resolvedProfiles hprimary hsimple
    obtain ⟨r, hr⟩ := convert_of_convertProfiles hpairs hmem
    obtain ⟨port, hport⟩ := convert_port hr hparses
    cases hs : p.serverPort with
    | none =>
      rw [hs] at hport
      cases hport
    | some s =>
      rw [hs, orEmpty, Option.getD_some] at hport
      rw [Option.bind_some, trim_of_toIntOrNull hport]
      rfl
  · rfl

/-- For a stored profile without AmneziaWG parameters whose configuration is built: the gate passes
it exactly if it has a server of its own, and a port in range. -/
theorem validateProfile_of_builds (hstored : env.store.serverConfig guid = some p)
    (hawg : hasAwgParams env.platform.fold p = false) (hbuilds : BuildsFrom env guid p) :
    validateProfile env p = .ok () ↔
      isNullOrBlank p.server = false ∧ ∃ port, portOf p = some port ∧ 1 ≤ port ∧ port ≤ 65535 := by
  rw [validateProfile_iff hawg, portOf_of_builds hstored hbuilds.1]

/-- The hypothesis can be met: it is enough that one of the profiles is convertible. -/
theorem buildsFrom_of_convertible (hstored : env.store.serverConfig guid = some p)
    (htype : p.configType ≠ .custom) (hstatus : (getV2rayConfig env guid).status = true)
    {primary : ResolvedOutbound} (hprimary : resolveOutbound env AppConfig.tagProxy p = some primary)
    (hconv : ∃ q ∈ primary.resolvedProfiles, convertible env q = true) : BuildsFrom env guid p := by
  refine ⟨hstatus, ?_⟩
  rw [if_neg htype]
  obtain ⟨primary', routing, config, hprimary', -, hcontent, hunified⟩ :=
    getV2rayConfig_unified hstored htype hstatus
  cases hprimary.symm.trans hprimary'
  refine ⟨primary, config, hprimary, hcontent, ?_⟩
  rw [← (resolved_of_eq_some hprimary).candidates] at hconv ⊢
  exact (defaultMadeFrom_iff hunified).mpr hconv

theorem vlessServer_passes_gate :
    validateProfile (plainEnv [("s", vlessServer)] []) vlessServer = .ok () := by
  have hbuilds : BuildsFrom (plainEnv [("s", vlessServer)] []) "s" vlessServer :=
    buildsFrom_of_convertible rfl (by decide) (by decide) rfl
      ⟨vlessServer, List.mem_cons_self, by decide⟩
  exact (validateProfile_of_builds rfl (by decide) hbuilds).mpr
    ⟨by decide, 443, by decide, by decide, by decide⟩

end

/-- The screen without subscriptions. -/
def groupChoices : ServerGroupActivity.Choices where
  subIds := [""]
  subDisplay := ["All"]
  policyGroupType := ["Least Ping", "Least Load", "Random", "Round Robin"]

def groupForm : ServerGroupActivity.Form where
  remarks := "group"
  filter := ""
  typeIdx := 0
  subIdx := 0
  testOutbounds := true
  fallbackTag := ""

def savedGroup : ProfileItem where
  configType := .policygroup
  remarks := "group"
  description := some "Least Ping - All - "
  policyGroupType := some "0"
  policyGroupSubscriptionId := some ""
  policyGroupFilter := some ""
  policyGroupTestOutbounds := some true

/-- A group that the editor saves over one server: its configuration starts with that server, and
the gate refuses it. -/
theorem savedGroup_refused :
    ServerGroupActivity.saveServer groupChoices none none groupForm = some savedGroup ∧
    (plainEnv [("g", savedGroup), ("s", vlessServer)] []).store.serverConfig "g" =
      some savedGroup ∧
    hasAwgParams plainPlatform.fold savedGroup = false ∧
    BuildsFrom (plainEnv [("g", savedGroup), ("s", vlessServer)] []) "g" savedGroup ∧
    validateProfile (plainEnv [("g", savedGroup), ("s", vlessServer)] []) savedGroup =
      .error "Server address is missing in the selected profile" := by
  refine ⟨rfl, rfl, by decide, ?_, rfl⟩
  exact buildsFrom_of_convertible rfl (by decide) (by decide) rfl
    ⟨vlessServer, List.mem_cons_self, by decide⟩

end ZeroVpn
