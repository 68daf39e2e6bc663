import ZeroVpn.Handler.SettingsManager

/-!
# The per-app selection of the VPN service

`configurePerAppProxy` tells the builder of the VPN interface which applications it takes. A builder
without allowed applications takes every application that is not disallowed.
-/

namespace ZeroVpn

open AppConfig List

/-- The applications a builder was told to take, or not to take. -/
structure VpnBuilder where
  allowed : List String := []
  disallowed : List String := []

namespace VpnBuilder

section
-- The package is installed; adding any other one raises `NameNotFoundException`.
variable (installed : String → Bool)

def addAllowedApplication (b : VpnBuilder) (packageName : String) : Except String VpnBuilder :=
  if installed packageName then .ok { b with allowed := b.allowed ++ [packageName] }
  else .error packageName

def addDisallowedApplication (b : VpnBuilder) (packageName : String) : Except String VpnBuilder :=
  if installed packageName then .ok { b with disallowed := b.disallowed ++ [packageName] }
  else .error packageName

end

def captures (b : VpnBuilder) (packageName : String) : Bool :=
  if b.allowed = [] then packageName ∉ b.disallowed else packageName ∈ b.allowed

end VpnBuilder

namespace CoreVpnService

section
variable (env : AppEnv)

def isInstalled (packageName : String) : Bool := (env.platform.getPackageUid packageName).isSome

/-- A package that is not installed is passed over. -/
def addEach (add : VpnBuilder → String → Except String VpnBuilder) (b : VpnBuilder)
    (apps : List String) : VpnBuilder :=
  apps.foldl (fun b app => match add b app with | .ok b' => b' | .error _ => b) b

/-- `apps` is the stored set of selected packages. -/
def configurePerAppProxy (apps : Option (List String)) (builder : VpnBuilder) :
    Except String VpnBuilder :=
  let selfPackageName := AppConfig.applicationId
  let apps := apps.getD []
  if env.decodeSettingsBool AppConfig.prefPerAppProxy = false ∨ apps = [] then
    builder.addDisallowedApplication (isInstalled env) selfPackageName
  else if env.decodeSettingsBool AppConfig.prefBypassApps then
    .ok (addEach (VpnBuilder.addDisallowedApplication (isInstalled env)) builder
      (if selfPackageName ∈ apps then apps else apps ++ [selfPackageName]))
  else
    .ok (addEach (VpnBuilder.addAllowedApplication (isInstalled env)) builder
      (apps.filter (· ≠ selfPackageName)))

end

/-! ## What the builder is told -/

section
variable {env : AppEnv}

theorem addEach_disallowed (b : VpnBuilder) (apps : List String) :
    addEach (VpnBuilder.addDisallowedApplication (isInstalled env)) b apps =
      { b with disallowed := b.disallowed ++ apps.filter (isInstalled env) } := by
  unfold addEach
  induction apps generalizing b with
  | nil => rw [filter_nil, append_nil]; rfl
  | cons app apps ih =>
    rw [foldl_cons, ih, VpnBuilder.addDisallowedApplication]
    cases h : isInstalled env app <;> simp [h]

theorem addEach_allowed (b : VpnBuilder) (apps : List String) :
    addEach (VpnBuilder.addAllowedApplication (isInstalled env)) b apps =
      { b with allowed := b.allowed ++ apps.filter (isInstalled env) } := by
  unfold addEach
  induction apps generalizing b with
  | nil => rw [filter_nil, append_nil]; rfl
  | cons app apps ih =>
    rw [foldl_cons, ih, VpnBuilder.addAllowedApplication]
    cases h : isInstalled env app <;> simp [h]

/-- In proxy mode the installed selected packages are allowed, the client apart. -/
theorem configurePerAppProxy_allows {apps : Option (List String)}
    (hper : env.decodeSettingsBool prefPerAppProxy = true)
    (hbypass : env.decodeSettingsBool prefBypassApps = false)
    (hselected : apps.getD [] ≠ []) :
    configurePerAppProxy env apps {} = .ok { allowed :=
      ((apps.getD []).filter (· ≠ applicationId)).filter (isInstalled env) } := by
  unfold configurePerAppProxy
  dsimp only
  rw [if_neg (by simp [hper, hselected]), if_neg (by simp [hbypass]), addEach_allowed]
  rfl

/-- In any other mode packages are disallowed: the client, and in bypass mode the selected ones. -/
theorem configurePerAppProxy_disallows {apps : Option (List String)}
    (hself : isInstalled env applicationId = true)
    (hmode : env.decodeSettingsBool prefPerAppProxy = false ∨ apps.getD [] = [] ∨
      env.decodeSettingsBool prefBypassApps = true) :
    ∃ l, configurePerAppProxy env apps {} = .ok { disallowed := l } ∧
      ∀ app, app ∈ l ↔ app = applicationId ∨
        env.decodeSettingsBool prefPerAppProxy = true ∧ app ∈ apps.getD [] ∧
          isInstalled env app = true := by
  unfold configurePerAppProxy
  by_cases hnone : env.decodeSettingsBool prefPerAppProxy = false ∨ apps.getD [] = []
  · rw [if_pos hnone, VpnBuilder.addDisallowedApplication, if_pos hself]
    refine ⟨[applicationId], rfl, fun app => ?_⟩
    rcases hnone with hper | hempty
    · simp [hper]
    · simp [hempty]
  · have hbypass : env.decodeSettingsBool prefBypassApps = true :=
      (or_assoc.mpr hmode).resolve_left hnone
    rw [if_neg hnone, if_pos hbypass, addEach_disallowed]
    refine ⟨_, rfl, fun app => ?_⟩
    rw [not_or, Bool.not_eq_false] at hnone
    by_cases hin : applicationId ∈ apps.getD []
    · rw [if_pos hin, nil_append, mem_filter, hnone.1]
      refine ⟨fun h => .inr ⟨rfl, h⟩, ?_⟩
      rintro (rfl | ⟨-, h⟩)
      exacts [⟨hin, hself⟩, h]
    · rw [if_neg hin, nil_append, mem_filter, mem_append, mem_singleton,
        hnone.1]
      constructor
      · rintro ⟨h | h, hinstalled⟩
        exacts [.inr ⟨rfl, h, hinstalled⟩, .inl h]
      · rintro (rfl | ⟨-, h, hinstalled⟩)
        exacts [⟨.inr rfl, hself⟩, ⟨.inl h, hinstalled⟩]

end
end CoreVpnService
end ZeroVpn
