import ZeroVpn.Core.BuiltSpec
import ZeroVpn.Verify.DefaultOutbound
import ZeroVpn.Handler.StoreViews

/-!
# A malformed member

A profile whose conversion gives nothing is skipped, but one whose conversion raises takes the whole
configuration down. The conversion raises for a port, a reserved field or an international server
name that cannot be read; the plan is built exactly if it tries no such profile.
-/

namespace ZeroVpn

open CoreOutboundBuilder CoreConfigContextBuilder CoreConfigManager Text

/-! ## When a conversion raises -/

/-- The server is an address, or a name that has an ASCII form. -/
def ServerReadable (env : AppEnv) (p : ProfileItem) : Prop :=
  Utils.isPureIpAddress (orEmpty p.server) = true ∨
    ∃ domain, HttpUtil.toIdnDomain env.platform.toASCII (orEmpty p.server) = .ok domain

/-- The parts of the reserved field are numbers. -/
def ReservedReadable (p : ProfileItem) : Prop :=
  ∀ reserved, nullIfBlank p.reserved = some reserved →
    ∀ part ∈ split ',' reserved, isBlank part = false →
      (toIntOrNull (trim part)).isSome = true

/-- The texts that the builder of the profile's type reads. -/
structure Readable (env : AppEnv) (p : ProfileItem) : Prop where
  server : parsesPort p.configType = true → ServerReadable env p
  port : parsesPort p.configType = true →
    (toIntOrNull (orEmpty p.serverPort)).isSome = true
  reserved : p.configType = .wireguard → ReservedReadable p

section
variable {env : AppEnv} {p : ProfileItem}

theorem exists_toInt_iff :
    (∃ n, Utils.toInt s = .ok n) ↔ (toIntOrNull s).isSome = true := by
  unfold Utils.toInt
  cases toIntOrNull s with
  | none => simp
  | some n => exact iff_of_true ⟨n, rfl⟩ rfl

theorem exists_getServerAddress_iff :
    (∃ address, getServerAddress env p = .ok address) ↔ ServerReadable env p := by
  unfold getServerAddress ServerReadable
  by_cases hpure : Utils.isPureIpAddress (orEmpty p.server) = true
  · rw [if_pos hpure]
    exact iff_of_true ⟨_, rfl⟩ (.inl hpure)
  · rw [if_neg hpure, or_iff_right hpure]
    refine exists_bind_eq_ok fun domain => ?_
    split
    · exact ⟨_, rfl⟩
    · split <;> exact ⟨_, rfl⟩

theorem exists_toOutboundServer_iff (hinit : createInitOutbound t = some init) :
    (∃ o, toOutboundServer env t p fill = .ok o) ↔
      ServerReadable env p ∧ (toIntOrNull (orEmpty p.serverPort)).isSome = true := by
  unfold toOutboundServer
  rw [hinit, ← exists_getServerAddress_iff, ← exists_toInt_iff]
  constructor
  · rintro ⟨o, ho⟩
    obtain ⟨address, haddress, ho⟩ := bind_eq_ok.mp ho
    obtain ⟨port, hport, -⟩ := bind_eq_ok.mp ho
    exact ⟨⟨address, haddress⟩, ⟨port, hport⟩⟩
  · rintro ⟨⟨address, haddress⟩, ⟨port, hport⟩⟩
    exact ⟨_, bind_eq_ok.mpr ⟨address, haddress, bind_eq_ok.mpr ⟨port, hport, rfl⟩⟩⟩

theorem exists_toOutboundStream_iff (hinit : createInitOutbound t = some init) :
    (∃ o, toOutboundStream env t p fill = .ok o) ↔
      ServerReadable env p ∧ (toIntOrNull (orEmpty p.serverPort)).isSome = true := by
  rw [← @exists_toOutboundServer_iff env p t init fill hinit]
  exact exists_bind_eq_ok fun o => ⟨_, rfl⟩

theorem exists_wireguardReserved_iff :
    (∃ reserved, wireguardReserved p = .ok reserved) ↔ ReservedReadable p := by
  unfold wireguardReserved ReservedReadable
  cases nullIfBlank p.reserved with
  | none => exact iff_of_true ⟨none, rfl⟩ (fun _ h => by cases h)
  | some reserved =>
    refine (exists_bind_eq_ok fun numbers => ⟨_, rfl⟩).trans ?_
    rw [exists_mapM_iff]
    simp only [exists_toInt_iff, List.mem_filter, Bool.not_eq_true', and_imp, Option.some.injEq,
      forall_eq']

/-- A conversion raises exactly if a text cannot be read. -/
theorem exists_convert_iff : (∃ o, convert env p = .ok o) ↔ Readable env p := by
  have hserver {o : Except String (Option OutboundBean)} (hparses : parsesPort p.configType = true)
      (hwg : p.configType ≠ .wireguard)
      (h : (∃ r, o = .ok r) ↔
        ServerReadable env p ∧ (toIntOrNull (orEmpty p.serverPort)).isSome = true) :
      (∃ r, o = .ok r) ↔ Readable env p :=
    h.trans ⟨fun h => ⟨fun _ => h.1, fun _ => h.2, fun ht => absurd ht hwg⟩,
      fun h => ⟨h.server hparses, h.port hparses⟩⟩
  refine (exists_bind_eq_ok fun o => ⟨_, rfl⟩).trans ?_
  unfold toOutbound
  cases ht : p.configType with
  | vmess | shadowsocks | vless | trojan | hysteria2 =>
    refine hserver (by rw [ht]; rfl) (by rw [ht]; nofun) ?_
    exact exists_toOutboundStream_iff rfl
  | socks | http =>
    refine hserver (by rw [ht]; rfl) (by rw [ht]; nofun) ?_
    exact exists_toOutboundServer_iff rfl
  | wireguard =>
    have hreserved : (∃ o, toOutboundWireguard env p = .ok o) ↔ ReservedReadable p := by
      rw [← exists_wireguardReserved_iff]
      exact exists_bind_eq_ok fun reserved => ⟨_, rfl⟩
    rw [hreserved]
    constructor
    · intro h
      refine ⟨?_, ?_, fun _ => h⟩ <;> rw [ht] <;> nofun
    · exact fun h => h.reserved ht
  | custom | hysteria | policygroup | proxychain =>
    refine iff_of_true ⟨none, rfl⟩ ⟨?_, ?_, ?_⟩ <;> rw [ht] <;> nofun

end

/-! ## The plan with a member -/

/-- The application after the removal of a profile. -/
def AppEnv.without (env : AppEnv) (guid : String) : AppEnv :=
  { env with store := (MmkvManager.removeServer guid).exec env.store }

theorem serverConfig_without {env : AppEnv} (h : member ≠ guid) :
    (env.without member).store.serverConfig guid = env.store.serverConfig guid := by
  unfold AppEnv.without Prog.exec
  rw [run_removeServer_ite]
  split
  · rfl
  · exact Store.serverConfig_dropServer_of_ne (Ne.symm h)

/-- If the configuration is built without the member, it is built with it exactly if every profile
that the plan then tries to convert can be read. -/
theorem built_with_member_iff {env : AppEnv} {guid member : String} {profile : ProfileItem}
    (hstored : env.store.serverConfig guid = some profile) (htype : profile.configType ≠ .custom)
    (hmember : member ≠ guid)
    (hwithout : (getV2rayConfig (env.without member) guid).status = true) :
    (getV2rayConfig env guid).status = true ↔
      ∀ p ∈ TagPlan.triedProfiles env templateTags (planOf env guid), Readable env p := by
  have hassets : env.platform.assetsReadable = true :=
    ((status_iff_tried ((serverConfig_without hmember).trans hstored) htype).mp hwithout).1
  rw [status_iff_tried hstored htype, and_iff_right hassets]
  exact forall₂_congr fun p _ => exists_convert_iff

/-- A policy group over every server. -/
def wholeGroup : ProfileItem where
  configType := .policygroup
  remarks := "group"

/-- A server whose port is no number. -/
def badPortServer : ProfileItem := { vlessServer with remarks := "bad", serverPort := some "443/tcp" }

def groupWithBadPort : AppEnv :=
  plainEnv [("g", wholeGroup), ("s", vlessServer), ("b", badPortServer)] []

/-- Without the server the group is built, with it nothing is. -/
theorem not_built_with_bad_port :
    "b" ≠ "g" ∧ (getV2rayConfig (groupWithBadPort.without "b") "g").status = true ∧
      (getV2rayConfig groupWithBadPort "g").status = false := by
  decide

theorem built_with_good_port :
    (getV2rayConfig (plainEnv [("g", wholeGroup), ("s", vlessServer)] []) "g").status = true ∧
      ∀ p ∈ TagPlan.triedProfiles (plainEnv [("g", wholeGroup), ("s", vlessServer)] []) templateTags
        (planOf (plainEnv [("g", wholeGroup), ("s", vlessServer)] []) "g"),
        Readable (plainEnv [("g", wholeGroup), ("s", vlessServer)] []) p := by
  have hbuilt : (getV2rayConfig (plainEnv [("g", wholeGroup), ("s", vlessServer)] []) "g").status =
      true := by decide
  exact ⟨hbuilt, (@built_with_member_iff (plainEnv [("g", wholeGroup), ("s", vlessServer)] []) "g"
    "s" wholeGroup rfl (by decide) (by decide) (by decide)).mp hbuilt⟩

end ZeroVpn
