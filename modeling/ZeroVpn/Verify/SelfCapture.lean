import ZeroVpn.Verify.RootCapture

/-!
# The client outside its own VPN

Traffic of the client that entered the VPN would come back to the core. `configurePerAppProxy`
disallows the client, or allows other packages only; but where no selected package can be allowed,
the builder stays as it was and takes every application.
-/

namespace ZeroVpn
open CoreVpnService AppConfig

/-- The package is disallowed, or another one is allowed and the package is not. -/
def VpnBuilder.LeavesOut (b : VpnBuilder) (packageName : String) : Prop :=
  packageName ∈ b.disallowed ∨
    (∃ other ∈ b.allowed, other ≠ packageName) ∧ packageName ∉ b.allowed

/-- In proxy mode, the selection holds nothing to allow: only the client and packages that are not
installed. -/
def AllowsNothing (env : AppEnv) (apps : List String) : Prop :=
  env.decodeSettingsBool prefPerAppProxy = true ∧
    env.decodeSettingsBool prefBypassApps = false ∧ apps ≠ [] ∧
    ∀ app ∈ apps, app ≠ applicationId → isInstalled env app = false

/-- The client stays outside of the VPN, unless in proxy mode there are selected packages and none
of them but the client is installed: there the VPN takes the client's own traffic. -/
theorem client_outside_own_vpn (env : AppEnv) (apps : Option (List String))
    (hself : isInstalled env applicationId = true) :
    ∃ b, configurePerAppProxy env apps {} = .ok b ∧
      (¬AllowsNothing env (apps.getD []) →
        b.LeavesOut applicationId ∧ b.captures applicationId = false) ∧
      (AllowsNothing env (apps.getD []) →
        ¬b.LeavesOut applicationId ∧ b.captures applicationId = true) := by
  by_cases hmode : env.decodeSettingsBool prefPerAppProxy = false ∨ apps.getD [] = [] ∨
      env.decodeSettingsBool prefBypassApps = true
  · obtain ⟨l, hb, hl⟩ := configurePerAppProxy_disallows hself hmode
    have hin : applicationId ∈ l := (hl _).mpr (.inl rfl)
    refine ⟨_, hb, fun _ => ⟨.inl hin, by simp [VpnBuilder.captures, hin]⟩, ?_⟩
    rintro ⟨hper, hbypass, hselected, -⟩
    simp [hper, hbypass, hselected] at hmode
  · simp only [not_or, Bool.not_eq_false, Bool.not_eq_true] at hmode
    obtain ⟨hper, hselected, hbypass⟩ := hmode
    refine ⟨_, configurePerAppProxy_allows hper hbypass hselected, ?_, ?_⟩
    · intro hsome
      -- a selected package other than the client is installed, and so allowed
      obtain ⟨app, happ⟩ : ∃ app, app ∈ apps.getD [] ∧ app ≠ applicationId ∧
          isInstalled env app = true := by
        by_contra hnone
        refine hsome ⟨hper, hbypass, hselected, fun app hin hother => ?_⟩
        exact Bool.eq_false_iff.mpr fun hinstalled => hnone ⟨app, hin, hother, hinstalled⟩
      generalize hallowed : ((apps.getD []).filter (· ≠ applicationId)).filter
        (isInstalled env) = allowed
      have hout : applicationId ∉ allowed := by simp [← hallowed]
      have hin : app ∈ allowed := by simp [← hallowed, happ]
      refine ⟨.inr ⟨⟨app, hin, happ.2.1⟩, hout⟩, ?_⟩
      simp [VpnBuilder.captures, List.ne_nil_of_mem hin, hout]
    · rintro ⟨-, -, -, hnone⟩
      have hallowed : ((apps.getD []).filter (· ≠ applicationId)).filter
          (isInstalled env) = [] := by
        refine List.filter_eq_nil_iff.mpr fun app hin => ?_
        rw [List.mem_filter, decide_eq_true_iff] at hin
        rw [hnone app hin.1 hin.2]
        exact Bool.false_ne_true
      rw [hallowed]
      exact ⟨by simp [VpnBuilder.LeavesOut], rfl⟩

theorem client_outside_selected_browser :
    ∃ b, configurePerAppProxy (proxyContext ["org.example.browser"]).env
        (some ["org.example.browser"]) {} = .ok b ∧
      b.LeavesOut applicationId ∧ b.captures applicationId = false := by
  obtain ⟨b, hb, hout, -⟩ := client_outside_own_vpn (proxyContext ["org.example.browser"]).env
    (some ["org.example.browser"]) rfl
  refine ⟨b, hb, hout ?_⟩
  rintro ⟨-, -, -, hnone⟩
  exact Bool.noConfusion (hnone "org.example.browser" List.mem_cons_self (by decide))

/-- The client is installed, and the builder takes it. -/
def CapturesItself (selection : List String) : Prop :=
  isInstalled (proxyContext selection).env applicationId = true ∧
    ∃ b, configurePerAppProxy (proxyContext selection).env
        (proxyContext selection).perAppProxySet {} = .ok b ∧
      ¬b.LeavesOut applicationId ∧ b.captures applicationId = true

/-- Proxy mode with only the client selected, or only a removed package. -/
theorem client_captures_itself :
    CapturesItself [applicationId] ∧ CapturesItself ["org.example.gone"] :=
  ⟨⟨rfl, {}, rfl, by simp [VpnBuilder.LeavesOut], rfl⟩,
    ⟨rfl, {}, rfl, by simp [VpnBuilder.LeavesOut], rfl⟩⟩

end ZeroVpn
