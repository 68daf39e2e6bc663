import ZeroVpn.Core.CoreServiceManager
import ZeroVpn.Fmt.WireguardConf

/-!
# The tunnel interface

How `CoreVpnService` sets up the interface: from the stored configuration text of the selected
profile if `AwgManager.currentTunnelSettings` finds settings in it, and from the app's own settings
otherwise.
-/

namespace ZeroVpn

/-! ## The selected profile -/

namespace AwgManager

def isAwgProfileSelected (env : AppEnv) : Bool :=
  match env.store.selected with
  | none => false
  | some guid =>
    match env.store.serverConfig guid with
    | none => false
    | some config => WireguardFmt.hasAwgParams env.platform.fold config

/-- `lowercase` is `String.lowercase`. -/
def currentTunnelSettings (env : AppEnv) (lowercase : String → String) : Option WgTunnelSettings := do
  let guid ← env.store.selected
  let config ← env.store.serverConfig guid
  let conf ← config.rawConf
  WireguardFmt.extractTunnelSettings env.platform.fold lowercase conf

end AwgManager

/-! ## The interface -/

/-- What the builder of the interface was told. -/
structure InterfaceBuilder where
  mtu : Option Int := none
  addresses : List (String × Int) := []
  routes : List (String × Int) := []
  dnsServers : List String := []

/-- The builder refuses an MTU that is not positive. -/
def InterfaceBuilder.setMtu (builder : InterfaceBuilder) (mtu : Int) :
    Except String InterfaceBuilder :=
  if mtu ≤ 0 then .error "Bad mtu" else .ok { builder with mtu := some mtu }

structure VpnInterfaceAddressConfig where
  ipv4Client : String
  ipv6Client : String

namespace VpnInterfaceAddressConfig

def entries : List VpnInterfaceAddressConfig :=
  [⟨"10.10.14.1", "fc00::10:10:14:1"⟩, ⟨"10.1.0.1", "fc00::10:1:0:1"⟩,
    ⟨"10.0.0.1", "fc00::10:0:0:1"⟩, ⟨"172.31.0.1", "fc00::172:31:0:1"⟩,
    ⟨"172.20.0.1", "fc00::172:20:0:1"⟩, ⟨"172.16.0.1", "fc00::172:16:0:1"⟩,
    ⟨"192.168.100.1", "fc00::192:168:100:1"⟩]

def getConfigByIndex (index : Int) : VpnInterfaceAddressConfig :=
  if 0 ≤ index then entries.getD index.toNat ⟨"10.10.14.1", "fc00::10:10:14:1"⟩
  else ⟨"10.10.14.1", "fc00::10:10:14:1"⟩

end VpnInterfaceAddressConfig

/-- `ROUTED_IP_LIST`, split at the slash. -/
def routedIpList : List (String × Int) :=
  [("0.0.0.0", 5), ("8.0.0.0", 7), ("11.0.0.0", 8), ("12.0.0.0", 6), ("16.0.0.0", 4),
    ("32.0.0.0", 3), ("64.0.0.0", 2), ("128.0.0.0", 3), ("160.0.0.0", 5), ("168.0.0.0", 6),
    ("172.0.0.0", 12), ("172.32.0.0", 11), ("172.64.0.0", 10), ("172.128.0.0", 9),
    ("173.0.0.0", 8), ("174.0.0.0", 7), ("176.0.0.0", 4), ("192.0.0.0", 9), ("192.128.0.0", 11),
    ("192.160.0.0", 13), ("192.169.0.0", 16), ("192.170.0.0", 15), ("192.172.0.0", 14),
    ("192.176.0.0", 12), ("192.192.0.0", 10), ("193.0.0.0", 8), ("194.0.0.0", 7),
    ("196.0.0.0", 6), ("200.0.0.0", 5), ("208.0.0.0", 4), ("240.0.0.0", 4)]

namespace CoreVpnService

section
variable (env : AppEnv)

/-- A rule sends private addresses directly. -/
def bypassesPrivate (domain ip : Option (List String)) : Bool :=
  (domain.getD []).contains AppConfig.geositePrivate || (ip.getD []).contains AppConfig.geoipPrivate

/-- `fromJson` is Gson reading a configuration. -/
def routingRulesetsBypassLan (fromJson : String → Option V2rayConfig) : Bool :=
  let vpnBypassLan :=
    env.decodeSettingsStringOr AppConfig.prefVpnBypassLan AppConfig.defaultVpnBypassLan
  if vpnBypassLan = "1" then true
  else if vpnBypassLan = "2" then false
  else
    match env.store.selected with
    | none => false
    | some guid =>
      match env.store.serverConfig guid with
      | none => false
      | some config =>
        if config.configType = .custom then
          (((env.store.serverRaw.get guid).bind fromJson).map (·.routing.rules)).getD [] |>.any
            fun rule => rule.outboundTag = some AppConfig.tagDirect &&
              bypassesPrivate rule.domain rule.ip
        else
          (env.decodeRoutingRulesets.getD []).any fun rule =>
            rule.enabled && rule.outboundTag = AppConfig.tagDirect &&
              bypassesPrivate rule.domain rule.ip

def getVpnDnsServers : List String :=
  (Text.split ',' (env.decodeSettingsStringOr AppConfig.prefVpnDns AppConfig.dnsVpn)).filter
    Utils.isPureIpAddress

/-- The generic interface. -/
def configureGenericSettings (bypassLan : Bool) (builder : InterfaceBuilder) :
    Except String InterfaceBuilder := do
  let index ← Utils.toInt
    (env.decodeSettingsStringOr AppConfig.prefVpnInterfaceAddressConfigIndex "0")
  let vpnConfig := VpnInterfaceAddressConfig.getConfigByIndex index
  let builder ← builder.setMtu env.getVpnMtu
  let builder := { builder with
    addresses := builder.addresses ++ [(vpnConfig.ipv4Client, 30)]
    routes := builder.routes ++ if bypassLan then routedIpList else [("0.0.0.0", 0)] }
  let builder :=
    if env.decodeSettingsBool AppConfig.prefIpv6Enabled then
      { builder with
        addresses := builder.addresses ++ [(vpnConfig.ipv6Client, 126)]
        routes := builder.routes ++
          if bypassLan then [("2000::", 3), ("fc00::", 18)] else [("::", 0)] }
    else builder
  return { builder with
    dnsServers := builder.dnsServers ++ (getVpnDnsServers env).filter Utils.isPureIpAddress }

end

section
-- The builder takes the address and the length of the prefix as an address, or as a route, and raises
-- nothing.
variable (acceptsAddress acceptsRoute : String → Int → Bool)

/-- The address and the length of a prefix; the full length if none is given. -/
def splitCidr (cidr : String) : String × Int :=
  let parts := Text.split '/' cidr
  let addr := Text.trim (parts.headD "")
  (addr, (parts[1]?.bind fun part => Text.toIntOrNull (Text.trim part)).getD
    (if Text.containsChar addr ':' then 128 else 32))

/-- The interface of a configuration text; what the builder refuses is passed over. -/
def configureAwgNetworkSettings (builder : InterfaceBuilder) (settings : WgTunnelSettings) :
    Except String InterfaceBuilder := do
  let builder ← builder.setMtu (settings.mtu.getD 1280)
  let addresses := (settings.addresses.map splitCidr).filter fun e => acceptsAddress e.1 e.2
  let allowedIps :=
    if settings.allowedIps = [] then ["0.0.0.0/0", "::/0"] else settings.allowedIps
  let routes := (allowedIps.map splitCidr).filter fun e => acceptsRoute e.1 e.2
  let dnsList := if settings.dnsServers = [] then ["1.1.1.1", "8.8.8.8"] else settings.dnsServers
  return { builder with
    addresses := builder.addresses ++ if addresses = [] then [("172.16.0.2", 32)] else addresses
    routes := builder.routes ++ routes
    dnsServers := builder.dnsServers ++ dnsList.filter Utils.isPureIpAddress }

def configureNetworkSettings (env : AppEnv) (lowercase : String → String)
    (fromJson : String → Option V2rayConfig) (builder : InterfaceBuilder) :
    Except String InterfaceBuilder :=
  let bypassLan := routingRulesetsBypassLan env fromJson
  match AwgManager.currentTunnelSettings env lowercase with
  | some awgSettings => configureAwgNetworkSettings acceptsAddress acceptsRoute builder awgSettings
  | none => configureGenericSettings env bypassLan builder

end
end CoreVpnService
end ZeroVpn
