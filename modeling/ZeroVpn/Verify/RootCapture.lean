import ZeroVpn.Service.CoreVpnService
import ZeroVpn.Verify.RootDns
import ZeroVpn.Verify.RuleTranslation

/-!
# Root mode against the VPN service

The marking chain and the VPN interface take the same applications, but for one case. In proxy mode
without an installed selection the VPN builder has no allowed application, and so takes every one;
the marking chain is built to mark nothing then.
-/

namespace ZeroVpn
open Netfilter RootProxyManager CoreVpnService AppConfig

namespace RootContext

/-- Every user ID belongs to one package, and the client is installed. -/
structure OnePackagePerUid (ctx : RootContext) : Prop where
  unique : ∀ {pkg pkg' uid : String}, ctx.env.platform.getPackageUid pkg = some uid →
    ctx.env.platform.getPackageUid pkg' = some uid → pkg = pkg'
  client : ctx.env.platform.getPackageUid applicationId = some (toString ctx.appUid)

/-- Only the selected packages are captured. -/
def isProxyMode (ctx : RootContext) : Bool :=
  allowMode (ctx.env.decodeSettingsBool prefPerAppProxy)
    (ctx.env.decodeSettingsBool prefBypassApps)

/-- A package other than the client is selected and installed. -/
def HasSelection (ctx : RootContext) : Prop :=
  ∃ pkg ∈ ctx.perAppProxySet.getD [], pkg ≠ applicationId ∧ isInstalled ctx.env pkg = true

end RootContext

section
variable {ctx : RootContext} {pkg : String} {uid : Nat} {p : Packet}

theorem ownedBy_of_uid (huid : p.uid = some uid) (owner : String) :
    p.ownedBy owner = (toString uid == owner) := by
  unfold Packet.ownedBy Match.admits
  rw [huid]
  rfl

/-- A decimal text has no sign. -/
theorem toString_ne_unidentified (n : Nat) : toString n ≠ "-1" := by
  intro h
  have hmem : '-' ∈ Nat.toDigits 10 n := by
    rw [← Nat.toList_repr]
    exact (congrArg String.toList h).symm ▸ List.mem_cons_self
  have hdigit : '-'.isDigit = true := Nat.isDigit_of_mem_toDigits (by decide) (by decide) hmem
  cases hdigit

/-- The package of a user ID is the only one that resolves to it. -/
theorem resolveUid_eq_iff (hone : ctx.OnePackagePerUid)
    (hpkg : ctx.env.platform.getPackageUid pkg = some (toString uid))
    (htoken : pkg ≠ unidentifiedPackage) (pkg' : String) :
    ctx.env.resolveUid pkg' = some (toString uid) ↔ pkg' = pkg := by
  unfold AppEnv.resolveUid
  constructor
  · intro h
    split at h
    · exact absurd (Option.some.inj h).symm (toString_ne_unidentified uid)
    · exact hone.unique h hpkg
  · rintro rfl
    rw [if_neg htoken, hpkg]

/-- With a per-app selection, the owner of a packet is selected if its package is. -/
theorem selectedUids_any_ownedBy (hone : ctx.OnePackagePerUid)
    (hpkg : ctx.env.platform.getPackageUid pkg = some (toString uid))
    (htoken : pkg ≠ unidentifiedPackage) (huid : p.uid = some uid)
    (hper : ctx.env.decodeSettingsBool prefPerAppProxy = true) :
    (selectedUids ctx).any p.ownedBy = true ↔ pkg ∈ ctx.perAppProxySet.getD [] := by
  have huids : selectedUids ctx = ctx.env.packageNamesToUids (ctx.perAppProxySet.getD []) := by
    unfold selectedUids
    rw [if_pos hper]
    cases ctx.perAppProxySet.getD [] <;> rfl
  rw [huids, List.any_eq_true]
  constructor
  · rintro ⟨owner, hin, howner⟩
    rw [ownedBy_of_uid huid, beq_iff_eq] at howner
    obtain ⟨pkg', hin', hresolve⟩ := mem_packageNamesToUids.mp hin
    rw [← howner, resolveUid_eq_iff hone hpkg htoken] at hresolve
    exact hresolve ▸ hin'
  · intro hin
    refine ⟨toString uid, mem_packageNamesToUids.mpr ⟨pkg, hin, ?_⟩, ?_⟩
    · exact (resolveUid_eq_iff hone hpkg htoken pkg).mpr rfl
    · rw [ownedBy_of_uid huid, beq_iff_eq]

/-- The packets of an application other than the client that root mode captures. -/
theorem root_captures_iff (hone : ctx.OnePackagePerUid)
    (hpkg : ctx.env.platform.getPackageUid pkg = some (toString uid))
    (htoken : pkg ≠ unidentifiedPackage) (hother : pkg ≠ applicationId)
    (huid : p.uid = some uid) (hmark : p.mark ≠ rootFwmark) :
    (!ctx.exempts p && ctx.selects p) = true ↔
      (ctx.env.decodeSettingsBool prefPerAppProxy = true →
        (ctx.env.decodeSettingsBool prefBypassApps = true ↔
          pkg ∉ ctx.perAppProxySet.getD [])) := by
  -- the client has another user ID
  have hclient : p.ownedBy (toString ctx.appUid) = false := by
    rw [ownedBy_of_uid huid]
    refine beq_eq_false_iff_ne.mpr fun heq => hother ?_
    exact hone.unique hpkg (heq ▸ hone.client)
  unfold RootContext.exempts RootContext.selects exempt RootProxyManager.selects bypassedUids allowMode
  rw [hclient, beq_eq_false_iff_ne.mpr hmark]
  cases hper : ctx.env.decodeSettingsBool prefPerAppProxy with
  | false => simp
  | true =>
    have hany := selectedUids_any_ownedBy hone hpkg htoken huid hper
    cases ctx.env.decodeSettingsBool prefBypassApps with
    | false => simp only [← hany]; simp
    | true =>
      have hguard : (if true && true && decide (selectedUids ctx ≠ []) then selectedUids ctx
          else []) = selectedUids ctx := by
        cases selectedUids ctx <;> rfl
      rw [hguard]
      simp only [← hany]
      simp

/-- What the VPN service captures. -/
theorem vpn_captures (hone : ctx.OnePackagePerUid)
    (hpkg : isInstalled ctx.env pkg = true) (hother : pkg ≠ applicationId) :
    ∃ b, configurePerAppProxy ctx.env ctx.perAppProxySet {} = .ok b ∧
      (b.captures pkg = true ↔
        (ctx.env.decodeSettingsBool prefPerAppProxy = true →
          (ctx.env.decodeSettingsBool prefBypassApps = true ↔
            pkg ∉ ctx.perAppProxySet.getD [])) ∨
        ctx.isProxyMode = true ∧ ¬ctx.HasSelection) := by
  have hself : isInstalled ctx.env applicationId = true := by
    unfold isInstalled
    rw [hone.client]
    rfl
  unfold RootContext.isProxyMode RootContext.HasSelection allowMode
  by_cases hmode : ctx.env.decodeSettingsBool prefPerAppProxy = false ∨
      ctx.perAppProxySet.getD [] = [] ∨
      ctx.env.decodeSettingsBool prefBypassApps = true
  · obtain ⟨l, hb, hl⟩ := configurePerAppProxy_disallows hself hmode
    refine ⟨_, hb, ?_⟩
    have hpkgIn := hl pkg
    simp only [hother, hpkg, false_or, and_true] at hpkgIn
    cases hper : ctx.env.decodeSettingsBool prefPerAppProxy with
    | false => simp [VpnBuilder.captures, hpkgIn, hper]
    | true =>
      rcases hmode with hmode | hempty | hbypass
      · exact absurd hmode (by simp [hper])
      · cases ctx.env.decodeSettingsBool prefBypassApps <;>
          simp [VpnBuilder.captures, hpkgIn, hempty]
      · simp [VpnBuilder.captures, hpkgIn, hper, hbypass]
  · simp only [not_or, Bool.not_eq_false, Bool.not_eq_true] at hmode
    obtain ⟨hper, hselected, hbypass⟩ := hmode
    refine ⟨_, configurePerAppProxy_allows hper hbypass hselected, ?_⟩
    rw [hper, hbypass]
    generalize hallowed : ((ctx.perAppProxySet.getD []).filter (· ≠ applicationId)).filter
      (isInstalled ctx.env) = allowed
    have hmem (app : String) : app ∈ allowed ↔ app ∈ ctx.perAppProxySet.getD [] ∧
        app ≠ applicationId ∧ isInstalled ctx.env app = true := by
      rw [← hallowed, List.mem_filter, List.mem_filter, decide_eq_true_iff, and_assoc]
    have hselection : (∃ app ∈ ctx.perAppProxySet.getD [], app ≠ applicationId ∧
        isInstalled ctx.env app = true) ↔ allowed ≠ [] := by
      simp only [← hmem]
      refine ⟨?_, List.exists_mem_of_ne_nil allowed⟩
      rintro ⟨app, hin⟩
      exact List.ne_nil_of_mem hin
    rw [hselection, VpnBuilder.captures]
    by_cases hnone : allowed = []
    · simp [hnone]
    · simp [hnone, hmem, hother, hpkg]

end

/-- The packet leaves with the tun mark. -/
def Marked (k : Kernel) (p : Packet) : Prop := (k.outputHook p).2.mark = rootMarkRoute

/-- After a root-mode setup, a packet of an application other than the client, no DNS query and to no
local destination, gets the tun mark if and only if the VPN service captures the application, unless
in proxy mode no selected package is installed: there nothing is marked. -/
theorem root_capture_mirrors_vpn (ctx : RootContext) (forceLanShare : Bool) (script : List Line)
    (hscript : buildTun2socksSetup ctx true forceLanShare = some script)
    (hone : ctx.OnePackagePerUid) (pkg : String) (uid : Nat)
    (hpkg : ctx.env.platform.getPackageUid pkg = some (toString uid))
    (htoken : pkg ≠ unidentifiedPackage) (hother : pkg ≠ applicationId)
    (p : Packet) (hfamily : p.family = .v4) (huid : p.uid = some uid) (hdns : p.isDns = false)
    (hlocal : isLocal .v4 p = false) (hmark : p.mark ≠ rootFwmark)
    (hfresh : p.mark ≠ rootMarkRoute) :
    ∃ b, configurePerAppProxy ctx.env ctx.perAppProxySet {} = .ok b ∧
      ((ctx.isProxyMode = true → ctx.HasSelection) →
        (Marked (RootShell.runScript (fun _ => .ok) script .initial).2 p ↔ b.captures pkg = true)) ∧
      (ctx.isProxyMode = true → ¬ctx.HasSelection →
        ¬Marked (RootShell.runScript (fun _ => .ok) script .initial).2 p ∧
          b.captures pkg = true) := by
  have hinstalled : isInstalled ctx.env pkg = true := by
    unfold isInstalled
    rw [hpkg]
    rfl
  obtain ⟨b, hb, hcaptures⟩ := vpn_captures hone hinstalled hother
  have hmarked : Marked (RootShell.runScript (fun _ => .ok) script .initial).2 p ↔
      (!ctx.exempts p && ctx.selects p) = true := by
    unfold Marked
    rw [outputHook_of_marking (outputChains_of_script hscript) (by simp [hfamily]), hdns, hfamily,
      hlocal]
    split
    · next h => exact iff_of_true rfl h
    · next h => exact iff_of_false hfresh h
  rw [root_captures_iff hone hpkg htoken hother huid hmark] at hmarked
  refine ⟨b, hb, fun hsel => ?_, fun hproxy hnone =>
    ⟨fun h => hnone ?_, hcaptures.mpr (.inr ⟨hproxy, hnone⟩)⟩⟩
  · rw [hmarked, hcaptures]
    exact ⟨.inl, fun h => h.resolve_right fun ⟨hproxy, hnone⟩ => hnone (hsel hproxy)⟩
  · -- a marked packet would be of a selected package
    unfold RootContext.isProxyMode allowMode at hproxy
    rw [Bool.and_eq_true, Bool.not_eq_true'] at hproxy
    have hiff := hmarked.mp h hproxy.1
    rw [hproxy.2] at hiff
    exact ⟨pkg, not_not.mp fun hnot => Bool.false_ne_true (hiff.mpr hnot), hother, hinstalled⟩

/-- The client and a browser. -/
def twoPackages (pkg : String) : Option String :=
  if pkg = applicationId then some "10100"
  else if pkg = "org.example.browser" then some "10200" else none

/-- A device with two packages, in proxy mode with the given selection. -/
def proxyContext (selection : List String) : RootContext :=
  { plainContext with
    env := { plainEnv [] [] with
      platform := { plainPlatform with getPackageUid := twoPackages }
      settingsBool := fun key => if key = prefPerAppProxy then some true else none }
    perAppProxySet := some selection }

/-- A packet of the browser over TCP to port 443 of `8.8.8.8`. -/
def browserPacket (mark : Nat) : Packet where
  family := .v4
  proto := .tcp
  dport := 443
  dst := 8 * 2 ^ 24 + 8 * 2 ^ 16 + 8 * 2 ^ 8 + 8
  uid := some 10200
  outIface := "wlan0"
  mark := mark

theorem proxyContext_onePackagePerUid (selection : List String) :
    (proxyContext selection).OnePackagePerUid := by
  refine ⟨fun {pkg pkg' uid} h h' => ?_,
    show twoPackages applicationId = some (toString 10100) by decide⟩
  change twoPackages pkg = some uid at h
  change twoPackages pkg' = some uid at h'
  unfold twoPackages at h h'
  grind

theorem selected_browser_marked :
    Marked (RootShell.runScript (fun _ => .ok)
      (setupLines (proxyContext ["org.example.browser"]) true false) .initial).2 (browserPacket 0) := by
  obtain ⟨b, hb, hiff, -⟩ := root_capture_mirrors_vpn (proxyContext ["org.example.browser"]) false _
    rfl (proxyContext_onePackagePerUid _) "org.example.browser" 10200 rfl (by decide) (by decide)
    (browserPacket 0) rfl rfl rfl (by decide) (by decide) (by decide)
  cases hb
  exact (hiff fun _ => ⟨_, List.mem_cons_self, by decide, rfl⟩).mpr rfl

/-- A browser's packet over IPv4, no DNS query and to no local destination: with only a removed package
selected, or when the packet bears the helper's mark, the VPN service captures the browser and the
chain does not mark the packet. -/
theorem captured_browser_not_marked :
    (∀ selection, (proxyContext selection).OnePackagePerUid ∧
      (proxyContext selection).env.platform.getPackageUid "org.example.browser" =
        some (toString 10200)) ∧
      (∀ mark, (browserPacket mark).family = .v4 ∧ (browserPacket mark).uid = some 10200 ∧
        (browserPacket mark).isDns = false ∧ isLocal .v4 (browserPacket mark) = false) ∧
      ((∃ b, configurePerAppProxy (proxyContext ["org.example.gone"]).env
          (proxyContext ["org.example.gone"]).perAppProxySet {} = .ok b ∧
          b.captures "org.example.browser" = true) ∧
        ¬Marked (RootShell.runScript (fun _ => .ok)
          (setupLines (proxyContext ["org.example.gone"]) true false) .initial).2
          (browserPacket 0)) ∧
      (∃ b, configurePerAppProxy (proxyContext ["org.example.browser"]).env
          (proxyContext ["org.example.browser"]).perAppProxySet {} = .ok b ∧
          b.captures "org.example.browser" = true) ∧
        ¬Marked (RootShell.runScript (fun _ => .ok)
          (setupLines (proxyContext ["org.example.browser"]) true false) .initial).2
          (browserPacket rootFwmark) := by
  refine ⟨fun selection => ⟨proxyContext_onePackagePerUid selection, ?_⟩,
    fun mark => ⟨rfl, rfl, rfl, ?_⟩, ⟨⟨_, rfl, rfl⟩, ?_⟩, ⟨_, rfl, rfl⟩, ?_⟩
  · exact show twoPackages "org.example.browser" = some (toString 10200) by decide
  · exact show isLocal .v4 (browserPacket 0) = false by decide
  · unfold Marked
    decide
  · unfold Marked
    decide

end ZeroVpn
