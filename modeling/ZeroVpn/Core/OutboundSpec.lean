import ZeroVpn.Core.CoreConfigManager
import ZeroVpn.Std.Except

/-!
# Which profiles convert, and to what

`Convertible` says in terms of a profile and the settings when `convert` gives an outbound;
`MadeFrom` relates an outbound of a configuration to the profile it was converted from, whatever
tag and socket options it got later.
-/

namespace ZeroVpn

open Text

namespace OutboundBean

/-- Equal up to the tag and the socket options. -/
structure SameServer (o o' : OutboundBean) : Prop where
  protocol : o.protocol = o'.protocol
  settings : o.settings = o'.settings
  mux : o.mux = o'.mux
  stream : { o.streamSettings.getD {} with sockopt := none } =
    { o'.streamSettings.getD {} with sockopt := none }

namespace SameServer

variable {o o' o'' : OutboundBean}

theorem refl (o : OutboundBean) : o.SameServer o := ⟨rfl, rfl, rfl, rfl⟩

theorem trans (h : o.SameServer o') (h' : o'.SameServer o'') : o.SameServer o'' :=
  ⟨h.protocol.trans h'.protocol, h.settings.trans h'.settings, h.mux.trans h'.mux,
    h.stream.trans h'.stream⟩

end SameServer

theorem sameServer_tag (o : OutboundBean) (tag : String) : { o with tag }.SameServer o :=
  ⟨rfl, rfl, rfl, rfl⟩

theorem sameServer_updateSockopt (o : OutboundBean) (f : SockoptBean → SockoptBean) :
    (o.updateSockopt f).SameServer o := ⟨rfl, rfl, rfl, rfl⟩

end OutboundBean

theorem NetworkType.type_of_find? {t : NetworkType} (h : NetworkType.find? s = some t) :
    t.type = s := by
  have hbeq := List.find?_some h
  exact eq_of_beq hbeq

namespace CoreOutboundBuilder

section
variable (env : AppEnv)

/-- The types that have an outbound builder. -/
def hasBuilder : EConfigType → Bool
  | .vmess | .shadowsocks | .socks | .vless | .trojan | .wireguard | .hysteria2 | .http => true
  | _ => false

/-- Mux is switched on and meant for profiles like this one. -/
def muxApplies (p : ProfileItem) : Bool :=
  env.decodeSettingsBool AppConfig.prefMuxEnabled &&
    (p.configType = .vmess || p.configType = .vless) && p.network ≠ some NetworkType.xhttp.type

/-- The mux settings are numbers. -/
def muxReadable : Bool :=
  (toIntOrNull (env.decodeSettingsStringOr AppConfig.prefMuxConcurrency "8")).isSome &&
    (toIntOrNull (env.decodeSettingsStringOr AppConfig.prefMuxXudpConcurrency
      AppConfig.defaultMuxXudpConcurrency)).isSome

/-- The profile has a builder and its mux settings, if it uses any, can be read. -/
def convertible (p : ProfileItem) : Bool :=
  hasBuilder p.configType && (!muxApplies env p || muxReadable env)

/-- `o` comes from the conversion of `p`. -/
def MadeFrom (o : OutboundBean) (p : ProfileItem) : Prop :=
  ∃ o', convert env p = .ok (some o') ∧ o.SameServer o'

/-- The protocol of the outbounds of a type. -/
def protocolOf : EConfigType → String
  | .hysteria2 => EConfigType.hysteria.lowerName
  | t => t.lowerName

end

section
variable {env : AppEnv} {p : ProfileItem}

/-! ## The stream settings -/

variable (s : StreamSettingsBean) {t : EConfigType} {r : Option OutboundBean}
  {fill : OutSettingsBean → OutSettingsBean} {o : OutboundBean}

theorem updateOutboundFinalMask_eq_self (h : p.finalMask.bind env.platform.parseString = none) :
    updateOutboundFinalMask env s p = s := by
  rw [updateOutboundFinalMask, h]

theorem updateOutboundFinalMask_network :
    (updateOutboundFinalMask env s p).network = s.network := by
  unfold updateOutboundFinalMask
  split <;> rfl

theorem updateOutboundFragment_network : (updateOutboundFragment env s).network = s.network := by
  unfold updateOutboundFragment
  split
  · rfl
  split
  · rfl
  split <;> rfl

theorem populateTlsSettings_network (sni : Option String) :
    (populateTlsSettings env s p sni).network = s.network := by
  unfold populateTlsSettings
  split
  · rfl
  dsimp only
  split
  · rw [updateOutboundFragment_network]
    split
    · rfl
    split <;> rfl
  · split
    · rfl
    split <;> rfl

/-- The transport keeps the name of the network, except that `http` becomes `h2`. -/
theorem transportSettings_network {t : NetworkType} (h : NetworkType.find? network = some t) :
    (transportSettings env { s with network := some network } p t).1.network =
      some (if t = .http then NetworkType.h2.type else network) := by
  have ht := NetworkType.type_of_find? h
  cases t with
  | tcp =>
    unfold transportSettings
    dsimp only
    split <;> rfl
  | h2 => exact congrArg some ht
  | _ => rfl

theorem populateStream_xhttp_iff :
    (populateStream env s p).network = some NetworkType.xhttp.type ↔
      p.network = some NetworkType.xhttp.type := by
  unfold populateStream populateTransportSettings
  rw [populateTlsSettings_network, updateOutboundFinalMask_network]
  have hname : ifEmpty (orEmpty p.network) NetworkType.tcp.type = NetworkType.xhttp.type ↔
      p.network = some NetworkType.xhttp.type := by
    unfold ifEmpty orEmpty
    cases p.network with
    | none => decide
    | some network =>
      by_cases hempty : network = ""
      · subst hempty
        decide
      · rw [Option.getD_some, if_neg hempty, Option.some_inj]
  rw [← hname]
  generalize ifEmpty (orEmpty p.network) NetworkType.tcp.type = network
  cases hfind : NetworkType.find? network with
  | none => exact Option.some_inj
  | some t =>
    rw [transportSettings_network s hfind, Option.some_inj]
    by_cases ht : t = .http
    · subst ht
      rw [← NetworkType.type_of_find? hfind]
      decide
    · rw [if_neg ht]

/-! ## The builders -/

/-- An outbound with an address and a port: the port of the profile is a number. -/
theorem toOutboundServer_eq_ok {init : OutboundBean} (hinit : createInitOutbound t = some init)
    (h : toOutboundServer env t p fill = .ok r) :
    ∃ address port, Utils.toInt (orEmpty p.serverPort) = .ok port ∧
      r = some { init with
        settings := init.settings.map fun settings =>
          fill { settings with address := some (.host address), port := some port } } := by
  unfold toOutboundServer at h
  rw [hinit] at h
  obtain ⟨address, -, h⟩ := bind_eq_ok.mp h
  obtain ⟨port, hport, h⟩ := bind_eq_ok.mp h
  cases h
  exact ⟨address, port, hport, rfl⟩

theorem toOutboundStream_eq_ok {init : OutboundBean} (hinit : createInitOutbound t = some init)
    (h : toOutboundStream env t p fill = .ok r) :
    ∃ address port, Utils.toInt (orEmpty p.serverPort) = .ok port ∧
      r = some { init with
        settings := init.settings.map fun settings =>
          fill { settings with address := some (.host address), port := some port }
        streamSettings := init.streamSettings.map (populateStream env · p) } := by
  obtain ⟨o, ho, h⟩ := bind_eq_ok.mp h
  obtain ⟨address, port, hport, rfl⟩ := toOutboundServer_eq_ok hinit ho
  cases h
  exact ⟨address, port, hport, rfl⟩

/-- The types whose builder reads the port as a number. -/
def parsesPort : EConfigType → Bool
  | .vmess | .shadowsocks | .socks | .vless | .trojan | .hysteria2 | .http => true
  | _ => false

/-- What the builder of a type gives: nothing for a type without builder, and otherwise an outbound
of the type's protocol, after reading the port. -/
structure Built (env : AppEnv) (p : ProfileItem) (o : OutboundBean) : Prop where
  protocol : o.protocol = protocolOf p.configType
  mux : o.mux = some { enabled := false }
  port : parsesPort p.configType = true → ∃ port, Utils.toInt (orEmpty p.serverPort) = .ok port
  xhttp : p.configType = .vmess ∨ p.configType = .vless →
    (o.streamSettings.bind (·.network) = some NetworkType.xhttp.type ↔
      p.network = some NetworkType.xhttp.type)

theorem built_of_toOutboundStream (ht : p.configType = t)
    (hinit : createInitOutbound t =
      some { protocol := protocolOf t, settings := some {}, streamSettings := some {} })
    (h : toOutboundStream env t p fill = .ok r) : ∃ o, r = some o ∧ Built env p o := by
  obtain ⟨address, port, hport, rfl⟩ := toOutboundStream_eq_ok hinit h
  refine ⟨_, rfl, congrArg protocolOf ht.symm, rfl, fun _ => ⟨port, hport⟩, fun _ => ?_⟩
  exact populateStream_xhttp_iff {}

theorem built_of_toOutboundServer (ht : p.configType = t) (hstream : t ≠ .vmess ∧ t ≠ .vless)
    (hinit : createInitOutbound t =
      some { protocol := protocolOf t, settings := some {}, streamSettings := some {} })
    (h : toOutboundServer env t p fill = .ok r) : ∃ o, r = some o ∧ Built env p o := by
  obtain ⟨address, port, hport, rfl⟩ := toOutboundServer_eq_ok hinit h
  refine ⟨_, rfl, congrArg protocolOf ht.symm, rfl, fun _ => ⟨port, hport⟩, ?_⟩
  rw [ht]
  rintro (h | h)
  · exact absurd h hstream.1
  · exact absurd h hstream.2

theorem built_of_toOutboundHysteria2 (ht : p.configType = .hysteria2)
    (h : toOutboundHysteria2 env p = .ok r) : ∃ o, r = some o ∧ Built env p o := by
  obtain ⟨address, port, hport, rfl⟩ := toOutboundStream_eq_ok rfl h
  refine ⟨_, rfl, congrArg protocolOf ht.symm, rfl, fun _ => ⟨port, hport⟩, ?_⟩
  rw [ht]
  rintro (h | h) <;> cases h

theorem built_of_toOutboundWireguard (ht : p.configType = .wireguard)
    (h : toOutboundWireguard env p = .ok r) : ∃ o, r = some o ∧ Built env p o := by
  obtain ⟨reserved, -, h⟩ := bind_eq_ok.mp h
  cases h
  refine ⟨_, rfl, congrArg protocolOf ht.symm, rfl, ?_, ?_⟩
  · rw [ht]
    intro h
    cases h
  · rw [ht]
    rintro (h | h) <;> cases h

theorem toOutbound_eq_ok (h : toOutbound env p = .ok r) :
    (hasBuilder p.configType = false ∧ r = none) ∨
      (hasBuilder p.configType = true ∧ ∃ o, r = some o ∧ Built env p o) := by
  unfold toOutbound at h
  cases ht : p.configType with
  | vmess | shadowsocks | vless | trojan =>
    rw [ht] at h
    exact .inr ⟨rfl, built_of_toOutboundStream ht rfl h⟩
  | socks | http =>
    rw [ht] at h
    exact .inr ⟨rfl, built_of_toOutboundServer ht (by decide) rfl h⟩
  | wireguard =>
    rw [ht] at h
    exact .inr ⟨rfl, built_of_toOutboundWireguard ht h⟩
  | hysteria2 =>
    rw [ht] at h
    exact .inr ⟨rfl, built_of_toOutboundHysteria2 ht h⟩
  | custom | hysteria | policygroup | proxychain =>
    rw [ht] at h
    cases h
    exact .inl ⟨rfl, rfl⟩

/-! ## Conversion -/

/-- Mux is for VMess and VLESS only. -/
theorem muxEnabled_of_built (h : Built env p o) (hbuilder : hasBuilder p.configType = true) :
    muxEnabled env o = muxApplies env p := by
  have hproxy : ([EConfigType.shadowsocks, .socks, .http, .trojan, .wireguard, .hysteria2,
      .hysteria].any (·.isProtocol o.protocol)) =
      !(p.configType = .vmess || p.configType = .vless : Bool) := by
    rw [h.protocol]
    generalize p.configType = t at hbuilder ⊢
    cases t <;> first | rfl | cases hbuilder
  unfold muxEnabled muxApplies
  rw [hproxy]
  by_cases hv : p.configType = .vmess ∨ p.configType = .vless
  · have hv' : (decide (p.configType = .vmess) || decide (p.configType = .vless)) = true := by
      simpa using hv
    rw [hv', if_neg (by decide), Bool.and_true]
    by_cases hx : p.network = some NetworkType.xhttp.type
    · rw [if_pos ((h.xhttp hv).mpr hx), decide_eq_false (not_not.mpr hx), Bool.and_false]
    · rw [if_neg (mt (h.xhttp hv).mp hx), decide_eq_true hx, Bool.and_true]
  · have hv' : (decide (p.configType = .vmess) || decide (p.configType = .vless)) = false := by
      simpa using hv
    rw [hv', if_pos (by decide), Bool.and_false, Bool.false_and]

theorem updateOutboundWithGlobalSettings_isSome (o : OutboundBean) :
    (updateOutboundWithGlobalSettings env o).isSome = (!muxEnabled env o || muxReadable env) := by
  unfold updateOutboundWithGlobalSettings muxReadable
  cases muxEnabled env o with
  | false => rfl
  | true =>
    cases toIntOrNull (env.decodeSettingsStringOr AppConfig.prefMuxConcurrency "8") with
    | none => rfl
    | some n =>
      cases toIntOrNull (env.decodeSettingsStringOr AppConfig.prefMuxXudpConcurrency
        AppConfig.defaultMuxXudpConcurrency) with
      | none => rfl
      | some m => rfl

/-- The global settings change the mux settings only. -/
theorem updateOutboundWithGlobalSettings_eq_some
    (h : updateOutboundWithGlobalSettings env o = some o') : ∃ mux, o' = { o with mux } := by
  unfold updateOutboundWithGlobalSettings at h
  split at h
  · obtain ⟨n, -, h⟩ := Option.bind_eq_some_iff.mp h
    obtain ⟨m, -, h⟩ := Option.bind_eq_some_iff.mp h
    cases h
    exact ⟨_, rfl⟩
  · cases h
    exact ⟨_, rfl⟩

/-- A conversion that does not throw gives an outbound exactly for the convertible profiles. -/
theorem convert_isSome (h : convert env p = .ok r) : r.isSome = convertible env p := by
  obtain ⟨o, ho, h⟩ := bind_eq_ok.mp h
  cases h
  rcases toOutbound_eq_ok ho with ⟨hb, rfl⟩ | ⟨hb, o, rfl, hbuilt⟩
  · rw [convertible, hb]
    rfl
  · rw [convertible, hb, ← muxEnabled_of_built hbuilt hb]
    exact updateOutboundWithGlobalSettings_isSome o

/-- A converted outbound has the protocol of its profile's type. -/
theorem convert_protocol (h : convert env p = .ok (some o)) :
    hasBuilder p.configType = true ∧ o.protocol = protocolOf p.configType := by
  obtain ⟨o', ho, h⟩ := bind_eq_ok.mp h
  rcases toOutbound_eq_ok ho with ⟨-, rfl⟩ | ⟨hb, o', rfl, hbuilt⟩
  · cases h
  · obtain ⟨mux, rfl⟩ := updateOutboundWithGlobalSettings_eq_some (Except.ok.inj h)
    exact ⟨hb, hbuilt.protocol⟩

/-- A conversion that does not throw has read the port. -/
theorem convert_port (h : convert env p = .ok r) (hport : parsesPort p.configType = true) :
    ∃ port, toIntOrNull (orEmpty p.serverPort) = some port := by
  obtain ⟨o, ho, -⟩ := bind_eq_ok.mp h
  rcases toOutbound_eq_ok ho with ⟨hb, -⟩ | ⟨-, o, -, hbuilt⟩
  · cases ht : p.configType <;> rw [ht] at hb hport <;> cases hb <;> cases hport
  · obtain ⟨port, hread⟩ := hbuilt.port hport
    unfold Utils.toInt at hread
    split at hread
    · next heq => exact ⟨_, heq⟩
    · cases hread

end
end CoreOutboundBuilder
end ZeroVpn
