import ZeroVpn.Service.TunnelInterface
import ZeroVpn.Verify.DefaultOutbound

/-!
# The interface and the engine

The interface is set up from the stored text wherever the text has settings, but the engine for
that text is only started where the text has AmneziaWG parameters. `interface_matches_engine_iff`
says for which selected profiles the two decisions agree.
-/

namespace ZeroVpn

open WireguardFmt CoreServiceManager AwgManager CoreVpnService Option

section
variable (env : AppEnv) (lowercase : String → String)

/-- The interface is set up from the stored text exactly for profiles of the AmneziaWG engine, and
from the settings of the app for every profile that the core runs. -/
structure InterfaceMatchesEngine : Prop where
  params : (currentTunnelSettings env lowercase).isSome = true → isAwgProfileSelected env = true
  awg : ∀ config, launchCore env = .ok (.awg config) →
    ∃ settings, currentTunnelSettings env lowercase = some settings ∧
      ∀ acceptsAddress acceptsRoute fromJson builder,
        configureNetworkSettings acceptsAddress acceptsRoute env lowercase fromJson builder =
          configureAwgNetworkSettings acceptsAddress acceptsRoute builder settings
  core : ∀ config content, launchCore env = .ok (.core config content) →
    ∀ acceptsAddress acceptsRoute fromJson builder,
      configureNetworkSettings acceptsAddress acceptsRoute env lowercase fromJson builder =
        configureGenericSettings env (routingRulesetsBypassLan env fromJson) builder

/-- If the selected profile has a stored text: an entry stands in an `[Interface]` section of it
exactly if it is a WireGuard profile with AmneziaWG parameters. -/
def TextMatchesEngine : Prop :=
  ∀ guid config conf, env.store.selected = some guid → env.store.serverConfig guid = some config →
    config.rawConf = some conf →
    (Ini.entriesOf .interface (confLines env.platform.fold lowercase (removeBom conf)) ≠ [] ↔
      hasAwgParams env.platform.fold config = true)

end

section
variable {env : AppEnv} {lowercase : String → String}

theorem isAwgProfileSelected_iff : isAwgProfileSelected env = true ↔
    ∃ guid config, env.store.selected = some guid ∧ env.store.serverConfig guid = some config ∧
      hasAwgParams env.platform.fold config = true := by
  unfold isAwgProfileSelected
  cases hselected : env.store.selected with
  | none => simp
  | some guid =>
    cases hconfig : env.store.serverConfig guid <;> simp [hconfig]

theorem currentTunnelSettings_isSome_iff : (currentTunnelSettings env lowercase).isSome = true ↔
    ∃ guid config conf, env.store.selected = some guid ∧
      env.store.serverConfig guid = some config ∧ config.rawConf = some conf ∧
      Ini.entriesOf .interface (confLines env.platform.fold lowercase (removeBom conf)) ≠ [] := by
  constructor
  · intro hsome
    obtain ⟨settings, hsettings⟩ := isSome_iff_exists.mp hsome
    obtain ⟨guid, hselected, hsettings⟩ := bind_eq_some_iff.mp hsettings
    obtain ⟨config, hconfig, hsettings⟩ := bind_eq_some_iff.mp hsettings
    obtain ⟨conf, hconf, hsettings⟩ := bind_eq_some_iff.mp hsettings
    refine ⟨guid, config, conf, hselected, hconfig, hconf, extractTunnelSettings_isSome_iff.mp ?_⟩
    rw [hsettings]
    rfl
  · rintro ⟨guid, config, conf, hselected, hconfig, hconf, hentries⟩
    obtain ⟨settings, hsettings⟩ :=
      isSome_iff_exists.mp (extractTunnelSettings_isSome_iff.mpr hentries)
    have hbind : currentTunnelSettings env lowercase = some settings :=
      bind_eq_some_iff.mpr ⟨guid, hselected, bind_eq_some_iff.mpr
        ⟨config, hconfig, bind_eq_some_iff.mpr ⟨conf, hconf, hsettings⟩⟩⟩
    rw [hbind]
    rfl

theorem mem_of_startsWithAwgParam (h : startsWithAwgParam fold cs = true) : '=' ∈ cs := by
  obtain ⟨param, -, hparam⟩ := List.any_eq_true.mp h
  have hhead := eq_of_beq (Bool.and_eq_true_iff.mp hparam).2
  have hmem := List.mem_of_head? hhead
  have hdrop := List.mem_of_mem_drop ((List.dropWhile_suffix _).subset hmem)
  exact (List.dropWhile_suffix _).subset hdrop

theorem mem_of_containsAwgParam (h : containsAwgParam fold cs = true) : '=' ∈ cs := by
  induction cs with
  | nil => cases h
  | cons c cs ih =>
    rw [containsAwgParam, Bool.or_eq_true_iff, Bool.and_eq_true_iff] at h
    rcases h with ⟨-, hstarts⟩ | hcontains
    · exact List.mem_cons_of_mem _ (mem_of_startsWithAwgParam hstarts)
    · exact List.mem_cons_of_mem _ (ih hcontains)

/-- A profile with AmneziaWG parameters has a stored text that is not blank. -/
theorem rawConf_of_hasAwgParams {config : ProfileItem} (h : hasAwgParams fold config = true) :
    Text.isNullOrBlank config.rawConf = false := by
  have hparams := (Bool.and_eq_true_iff.mp h).2
  cases hconf : config.rawConf with
  | none => rw [hconf] at hparams; cases hparams
  | some conf =>
    rw [hconf] at hparams
    have hmem : '=' ∈ conf.toList := by
      rcases Bool.or_eq_true_iff.mp hparams with hstarts | hcontains
      · exact mem_of_startsWithAwgParam hstarts
      · exact mem_of_containsAwgParam hcontains
    refine Bool.eq_false_iff.mpr fun hblank => ?_
    exact absurd (List.all_eq_true.mp hblank _ hmem) (by decide)

/-- The launch of a selected profile with AmneziaWG parameters, and of one without. -/
theorem launchCore_of_selected (hselected : env.store.selected = some guid)
    (hconfig : env.store.serverConfig guid = some config) :
    launchCore env = if hasAwgParams env.platform.fold config then .ok (.awg config)
      else validateProfile env config >>= fun _ =>
        launchBuilt config (CoreConfigManager.getV2rayConfig env guid) := by
  unfold launchCore
  rw [hselected]
  dsimp only
  rw [hconfig]
  dsimp only
  split
  · next hawg =>
    have hvalid : validateProfile env config = .ok () := by
      rw [validateProfile, if_pos hawg, rawConf_of_hasAwgParams hawg]
      rfl
    rw [hvalid]
    rfl
  · rfl

theorem launchCore_awg_iff : (∃ config, launchCore env = .ok (.awg config)) ↔
    isAwgProfileSelected env = true := by
  rw [isAwgProfileSelected_iff]
  constructor
  · rintro ⟨config, h⟩
    cases hselected : env.store.selected with
    | none =>
      rw [launchCore, hselected] at h
      cases h
    | some guid =>
      cases hconfig : env.store.serverConfig guid with
      | none =>
        unfold launchCore at h
        rw [hselected] at h
        dsimp only at h
        rw [hconfig] at h
        cases h
      | some config' =>
        refine ⟨guid, config', rfl, hconfig, ?_⟩
        rw [launchCore_of_selected hselected hconfig] at h
        split at h
        · assumption
        · obtain ⟨-, -, hbuilt⟩ := bind_eq_ok.mp h
          unfold launchBuilt at hbuilt
          split at hbuilt
          · obtain ⟨-, -, hbuilt⟩ := bind_eq_ok.mp hbuilt
            cases hbuilt
          · cases hbuilt
  · rintro ⟨guid, config, hselected, hconfig, hawg⟩
    exact ⟨config, by rw [launchCore_of_selected hselected hconfig, if_pos hawg]⟩

/-- The interface is the one that the engine of the selected profile needs exactly if its stored
text has `[Interface]` entries just where it has AmneziaWG parameters. -/
theorem interface_matches_engine_iff (env : AppEnv) (lowercase : String → String) :
    InterfaceMatchesEngine env lowercase ↔ TextMatchesEngine env lowercase := by
  constructor
  · intro h guid config conf hselected hconfig hconf
    constructor
    · intro hentries
      have hawg := h.params
        (currentTunnelSettings_isSome_iff.mpr ⟨guid, config, conf, hselected, hconfig, hconf, hentries⟩)
      obtain ⟨guid', config', hselected', hconfig', hawg⟩ := isAwgProfileSelected_iff.mp hawg
      rw [some.inj (hselected'.symm.trans hselected)] at hconfig'
      rwa [some.inj (hconfig'.symm.trans hconfig)] at hawg
    · intro hawg
      have hlaunch : launchCore env = .ok (.awg config) := by
        rw [launchCore_of_selected hselected hconfig, if_pos hawg]
      obtain ⟨settings, hsettings, -⟩ := h.awg config hlaunch
      obtain ⟨guid', config', conf', hselected', hconfig', hconf', hentries⟩ :=
        currentTunnelSettings_isSome_iff.mp (isSome_iff_exists.mpr ⟨settings, hsettings⟩)
      rw [some.inj (hselected'.symm.trans hselected)] at hconfig'
      rw [some.inj (hconfig'.symm.trans hconfig)] at hconf'
      rwa [some.inj (hconf'.symm.trans hconf)] at hentries
  · intro h
    have hparams (hsome : (currentTunnelSettings env lowercase).isSome = true) :
        isAwgProfileSelected env = true := by
      obtain ⟨guid, config, conf, hselected, hconfig, hconf, hentries⟩ :=
        currentTunnelSettings_isSome_iff.mp hsome
      exact isAwgProfileSelected_iff.mpr
        ⟨guid, config, hselected, hconfig, (h guid config conf hselected hconfig hconf).mp hentries⟩
    refine ⟨hparams, fun config hlaunch => ?_, fun config content hlaunch => ?_⟩
    · obtain ⟨guid, config, hselected, hconfig, hawg⟩ :=
        isAwgProfileSelected_iff.mp (launchCore_awg_iff.mp ⟨config, hlaunch⟩)
      cases hconf : config.rawConf with
      | none =>
        have hblank := rawConf_of_hasAwgParams hawg
        rw [hconf] at hblank
        cases hblank
      | some conf =>
        have hsome := currentTunnelSettings_isSome_iff.mpr ⟨guid, config, conf, hselected, hconfig,
          hconf, (h guid config conf hselected hconfig hconf).mpr hawg⟩
        obtain ⟨settings, hsettings⟩ := isSome_iff_exists.mp hsome
        refine ⟨settings, hsettings, fun acceptsAddress acceptsRoute fromJson builder => ?_⟩
        rw [configureNetworkSettings, hsettings]
    · intro acceptsAddress acceptsRoute fromJson builder
      cases hsettings : currentTunnelSettings env lowercase with
      | none => rw [configureNetworkSettings, hsettings]
      | some settings =>
        obtain ⟨config', hawg⟩ := launchCore_awg_iff.mpr (hparams (by rw [hsettings]; rfl))
        rw [hlaunch] at hawg
        cases hawg

end

/-! ## A plain WireGuard profile -/

def plainConf : String :=
  "[Interface]\nPrivateKey = k\n[Peer]\nEndpoint = 192.0.2.1:51820"

/-- The profile of a configuration file without AmneziaWG parameters, selected. -/
def plainWireguard : AppEnv :=
  let env := plainEnv [("w", parseWireguardConfFile id Text.lowercaseAscii "0" plainConf)] []
  { env with store := { env.store with selected := some "w" } }

/-- The core runs the profile on the interface of its text. -/
theorem plain_wireguard_pasted_interface :
    (∃ config content, launchCore plainWireguard = .ok (.core config content)) ∧
      isAwgProfileSelected plainWireguard = false ∧
      (currentTunnelSettings plainWireguard Text.lowercaseAscii).isSome = true ∧
      ¬InterfaceMatchesEngine plainWireguard Text.lowercaseAscii := by
  have hawg : isAwgProfileSelected plainWireguard = false := by decide +kernel
  have hsome : (currentTunnelSettings plainWireguard Text.lowercaseAscii).isSome = true := by
    decide +kernel
  obtain ⟨launch, hlaunch⟩ : ∃ launch, launchCore plainWireguard = .ok launch :=
    exists_ok_of_isOk (by decide +kernel)
  refine ⟨?_, hawg, hsome, fun h => ?_⟩
  · cases launch with
    | awg config => exact absurd (launchCore_awg_iff.mp ⟨config, hlaunch⟩) (by rw [hawg]; decide)
    | core config content => exact ⟨config, content, hlaunch⟩
  · have hparams := h.params hsome
    cases hparams

end ZeroVpn
