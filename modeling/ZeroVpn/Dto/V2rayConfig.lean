import ZeroVpn.Dto.Entities
import ZeroVpn.Std.Json
import ZeroVpn.Std.KV

/-!
# The core configuration

The records of `V2rayConfig`, with the fields that the configuration builder writes or reads and
the ones the template has. A field of type `Any` is a `Json` value, or an inductive type with one
constructor for each type of value the builder puts there.
-/

namespace ZeroVpn

/-! ## Outbounds -/

structure WireGuardBean where
  publicKey : String := ""
  preSharedKey : Option String := none
  endpoint : String := ""

/-- The `address` of an outbound: a host, or the local addresses of a WireGuard tunnel. -/
inductive OutAddress where
  | host (s : String)
  | addresses (l : List String)

structure OutSettingsBean where
  address : Option OutAddress := none
  port : Option Int := none
  level : Option Int := none
  user : Option String := none
  pass : Option String := none
  id : Option String := none
  security : Option String := none
  encryption : Option String := none
  flow : Option String := none
  password : Option String := none
  method : Option String := none
  version : Option Int := none
  secretKey : Option String := none
  peers : Option (List WireGuardBean) := none
  reserved : Option (List Int) := none
  mtu : Option Int := none

structure HeadersBean where
  host : Option (List String) := some []
  userAgent : Option (List String) := none
  acceptEncoding : Option (List String) := none
  connection : Option (List String) := none
  pragma : Option String := none

structure RequestBean where
  path : List String := []
  headers : HeadersBean := {}
  version : Option String := none
  method : Option String := none

structure HeaderBean where
  type : String := "none"
  request : Option RequestBean := none

structure TcpSettingsBean where
  header : HeaderBean := {}

structure KcpSettingsBean where
  mtu : Int := 1350
  tti : Int := 50
  uplinkCapacity : Int := 12
  downlinkCapacity : Int := 100
  congestion : Bool := false
  readBufferSize : Int := 1
  writeBufferSize : Int := 1

structure WsSettingsBean where
  path : Option String := none
  host : Option String := none

structure HttpupgradeSettingsBean where
  path : Option String := none
  host : Option String := none

structure XhttpSettingsBean where
  path : Option String := none
  host : Option String := none
  mode : Option String := none
  extra : Option JsonObject := none

structure HttpSettingsBean where
  host : List String := []
  path : Option String := none

structure HappyEyeballsBean where
  prioritizeIPv6 : Option Bool := none
  maxConcurrentTry : Option Int := some 4
  tryDelayMs : Option Int := some 250
  interleave : Option Int := none

structure SockoptBean where
  dialerProxy : Option String := none
  domainStrategy : Option String := none
  happyEyeballs : Option HappyEyeballsBean := none

structure TlsSettingsBean where
  allowInsecure : Bool := false
  serverName : Option String := none
  alpn : Option (List String) := none
  cipherSuites : Option String := none
  fingerprint : Option String := none
  echConfigList : Option String := none
  verifyPeerCertByName : Option String := none
  pinnedPeerCertSha256 : Option String := none
  publicKey : Option String := none
  shortId : Option String := none
  spiderX : Option String := none
  mldsa65Verify : Option String := none

structure GrpcSettingsBean where
  serviceName : String := ""
  authority : Option String := none
  multiMode : Option Bool := none
  idleTimeout : Option Int := none
  healthCheckTimeout : Option Int := none

structure HysteriaSettingsBean where
  version : Int
  auth : Option String := none

structure NoiseMaskBean where
  rand : Option String := none
  delay : Option String := none

structure MaskSettingsBean where
  password : Option String := none
  header : Option String := none
  value : Option String := none
  packets : Option String := none
  length : Option String := none
  delay : Option String := none
  maxSplit : Option String := none
  noise : Option (List NoiseMaskBean) := none

structure MaskBean where
  type : String
  settings : Option MaskSettingsBean := none

structure UdpHopBean where
  ports : Option String := none
  interval : Option String := none

structure QuicParamsBean where
  congestion : Option String := none
  brutalUp : Option String := none
  brutalDown : Option String := none
  udpHop : Option UdpHopBean := none

structure FinalMaskBean where
  tcp : Option (List MaskBean) := none
  udp : Option (List MaskBean) := none
  quicParams : Option QuicParamsBean := none

/-- The final mask of a stream: built from the profile, or given as JSON. -/
inductive FinalMask where
  | bean (b : FinalMaskBean)
  | json (o : JsonObject)

structure StreamSettingsBean where
  network : Option String := some AppConfig.defaultNetwork
  security : Option String := none
  tcpSettings : Option TcpSettingsBean := none
  kcpSettings : Option KcpSettingsBean := none
  wsSettings : Option WsSettingsBean := none
  httpupgradeSettings : Option HttpupgradeSettingsBean := none
  xhttpSettings : Option XhttpSettingsBean := none
  httpSettings : Option HttpSettingsBean := none
  tlsSettings : Option TlsSettingsBean := none
  realitySettings : Option TlsSettingsBean := none
  grpcSettings : Option GrpcSettingsBean := none
  hysteriaSettings : Option HysteriaSettingsBean := none
  finalmask : Option FinalMask := none
  sockopt : Option SockoptBean := none

structure MuxBean where
  enabled : Bool
  concurrency : Option Int := none
  xudpConcurrency : Option Int := none
  xudpProxyUDP443 : Option String := none

structure OutboundBean where
  tag : String := "proxy"
  protocol : String
  settings : Option OutSettingsBean := none
  streamSettings : Option StreamSettingsBean := none
  mux : Option MuxBean := some { enabled := false }

namespace OutboundBean

/-- The protocol is the name of an `EConfigType`. -/
def isProxy (o : OutboundBean) : Bool := EConfigType.entries.any (·.isProtocol o.protocol)

def getServerAddress (o : OutboundBean) : Option String :=
  if EConfigType.wireguard.isProtocol o.protocol then
    ((o.settings.bind (·.peers)).bind (·.head?)).map fun peer =>
      Text.substringBeforeLast ':' peer.endpoint
  else
    match o.settings.bind (·.address) with
    | some (.host s) => some s
    | _ => none

/-- Change the socket options, creating the stream settings and the options if they are missing:
what the code writes through `ensureSockopt`. -/
def updateSockopt (o : OutboundBean) (f : SockoptBean → SockoptBean) : OutboundBean :=
  let stream := o.streamSettings.getD {}
  { o with streamSettings := some { stream with sockopt := some (f (stream.sockopt.getD {})) } }

end OutboundBean

/-! ## Inbounds -/

structure SocksAccountBean where
  user : String := ""
  pass : String := ""

structure InSettingsBean where
  auth : Option String := none
  udp : Option Bool := none
  userLevel : Option Int := none
  accounts : Option (List SocksAccountBean) := none
  name : Option String := none
  mtu : Option Int := none

structure SniffingBean where
  enabled : Bool
  destOverride : List String
  routeOnly : Option Bool := none

structure InboundBean where
  tag : String
  port : Option Int
  protocol : String
  listen : Option String := none
  settings : Option InSettingsBean := none
  sniffing : Option SniffingBean := none

/-! ## DNS, routing and the other sections -/

structure ServersBean where
  address : String := ""
  domains : Option (List String) := none
  expectIPs : Option (List String) := none
  skipFallback : Option Bool := none
  tag : Option String := none

/-- An entry of the server list: a plain address, or an address with conditions. -/
inductive DnsServer where
  | address (s : String)
  | server (b : ServersBean)

/-- What a host name maps to. -/
inductive DnsHost where
  | one (s : String)
  | many (l : List String)

structure DnsBean where
  servers : Option (List DnsServer) := none
  hosts : Option (LinkedMap String DnsHost) := none
  enableParallelQuery : Option Bool := none
  tag : Option String := none

structure RulesBean where
  type : String := "field"
  ip : Option (List String) := none
  domain : Option (List String) := none
  process : Option (List String) := none
  outboundTag : Option String := none
  balancerTag : Option String := none
  port : Option String := none
  network : Option String := none
  inboundTag : Option (List String) := none
  protocol : Option (List String) := none

structure BalancerBean where
  tag : String
  selector : List String
  fallbackTag : Option String := none
  strategy : String

structure RoutingBean where
  domainStrategy : String
  rules : List RulesBean
  balancers : Option (List BalancerBean) := none

structure LevelBean where
  handshake : Option Int := none
  connIdle : Option Int := none
  uplinkOnly : Option Int := none
  downlinkOnly : Option Int := none

structure PolicyBean where
  levels : List (String × LevelBean)
  system : Option JsonObject := none

structure ObservatoryObject where
  subjectSelector : List String
  probeUrl : String
  probeInterval : String
  enableConcurrency : Bool := false

structure PingConfigObject where
  destination : String
  httpMethod : Option String := none
  interval : String
  sampling : Int
  timeout : Option String := none

structure BurstObservatoryObject where
  subjectSelector : List String
  pingConfig : PingConfigObject

structure FakednsBean where
  ipPool : String := "198.18.0.0/15"
  poolSize : Int := 10000

structure V2rayConfig where
  remarks : Option String := none
  stats : Option JsonObject := none
  loglevel : Option String := none
  policy : Option PolicyBean := none
  inbounds : List InboundBean
  outbounds : List OutboundBean
  dns : Option DnsBean := none
  routing : RoutingBean
  fakedns : Option (List FakednsBean) := none
  observatory : Option ObservatoryObject := none
  burstObservatory : Option BurstObservatoryObject := none

/-! ## The final mask as JSON -/

namespace NoiseMaskBean

def toJson (b : NoiseMaskBean) : Json :=
  .obj (Json.someMembers [("rand", b.rand.map .str), ("delay", b.delay.map .str)])

end NoiseMaskBean

namespace MaskSettingsBean

def toJson (b : MaskSettingsBean) : Json :=
  .obj (Json.someMembers [("password", b.password.map .str), ("header", b.header.map .str),
    ("value", b.value.map .str), ("packets", b.packets.map .str), ("length", b.length.map .str),
    ("delay", b.delay.map .str), ("maxSplit", b.maxSplit.map .str),
    ("noise", b.noise.map fun l => .arr (l.map NoiseMaskBean.toJson))])

end MaskSettingsBean

namespace MaskBean

def toJson (b : MaskBean) : Json :=
  .obj (("type", .str b.type) :: Json.someMembers [("settings", b.settings.map (·.toJson))])

end MaskBean

namespace QuicParamsBean

def toJson (b : QuicParamsBean) : Json :=
  .obj (Json.someMembers [("congestion", b.congestion.map .str),
    ("brutalUp", b.brutalUp.map .str), ("brutalDown", b.brutalDown.map .str),
    ("udpHop", b.udpHop.map fun hop =>
      .obj (Json.someMembers [("ports", hop.ports.map .str), ("interval", hop.interval.map .str)]))])

end QuicParamsBean

namespace FinalMask

/-- `JsonUtil.parseString(JsonUtil.toJson(finalmask))`. -/
def toJsonObject : FinalMask → JsonObject
  | bean b =>
    Json.someMembers [("tcp", b.tcp.map fun l => .arr (l.map MaskBean.toJson)),
      ("udp", b.udp.map fun l => .arr (l.map MaskBean.toJson)),
      ("quicParams", b.quicParams.map (·.toJson))]
  | json o => Json.dropNullsMembers o

end FinalMask

/-! ## Inbounds as JSON -/

namespace SocksAccountBean

def toJson (b : SocksAccountBean) : Json := .obj [("user", .str b.user), ("pass", .str b.pass)]

end SocksAccountBean

namespace InSettingsBean

def toJson (b : InSettingsBean) : Json :=
  .obj (Json.someMembers [("auth", b.auth.map .str), ("udp", b.udp.map .bool),
    ("userLevel", b.userLevel.map .int),
    ("accounts", b.accounts.map fun l => .arr (l.map SocksAccountBean.toJson)),
    ("name", b.name.map .str), ("mtu", b.mtu.map .int)])

end InSettingsBean

namespace SniffingBean

def toJson (b : SniffingBean) : Json :=
  .obj ([("enabled", .bool b.enabled), ("destOverride", .arr (b.destOverride.map .str))] ++
    Json.someMembers [("routeOnly", b.routeOnly.map .bool)])

end SniffingBean

namespace InboundBean

def toJson (b : InboundBean) : Json :=
  .obj ([("tag", .str b.tag)] ++ Json.someMembers [("port", b.port.map .int)] ++
    [("protocol", .str b.protocol)] ++
    Json.someMembers [("listen", b.listen.map .str), ("settings", b.settings.map (·.toJson)),
      ("sniffing", b.sniffing.map (·.toJson))])

end InboundBean

/-! ## The templates -/

/-- `v2ray_config.json` as Gson reads it: the outbounds other than the first have no `mux`. -/
def v2rayConfigTemplate : V2rayConfig where
  stats := some []
  loglevel := some "warning"
  policy := some {
    levels := [("8", { handshake := some 4, connIdle := some 300, uplinkOnly := some 1,
                       downlinkOnly := some 1 })]
    system := some [("statsOutboundUplink", .bool true), ("statsOutboundDownlink", .bool true)] }
  inbounds := [
    { tag := "socks", port := some 10808, protocol := "socks"
      settings := some { auth := some "noauth", udp := some true, userLevel := some 8 }
      sniffing := some { enabled := true, destOverride := ["http", "tls", "quic"] } }]
  outbounds := [
    { tag := "proxy", protocol := "vmess"
      settings := some { address := some (.host "v2ray.cool"), port := some 10086 }
      streamSettings := some { network := some "tcp" } },
    { tag := "direct", protocol := "freedom", mux := none
      streamSettings := some {
        sockopt := some {
          domainStrategy := some "UseIP"
          happyEyeballs := some { tryDelayMs := some 250, interleave := some 2 } } } },
    { tag := "block", protocol := "blackhole", settings := some {}, mux := none }]
  routing := { domainStrategy := "AsIs", rules := [] }
  dns := some { hosts := some LinkedMap.empty, servers := some [] }

/-- `v2ray_config_with_tun.json`. Its `MTU` is not the name of a field. -/
def v2rayConfigWithTunTemplate : V2rayConfig :=
  { v2rayConfigTemplate with
    inbounds := v2rayConfigTemplate.inbounds ++ [
      { tag := "tun", port := none, protocol := "tun"
        settings := some { name := some "xray0", userLevel := some 8 }
        sniffing := some { enabled := true, destOverride := ["http", "tls", "quic"] } }] }

end ZeroVpn
