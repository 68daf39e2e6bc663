import ZeroVpn.AppConfig

/-!
# Stored entities and enumerations

`ProfileItem`, `SubscriptionItem`, `RulesetItem` and `ServerAffiliationInfo` with the fields and
defaults of the source, and the enumerations they use.
-/

namespace ZeroVpn

inductive EConfigType
  | vmess | custom | shadowsocks | socks | vless | trojan | wireguard | hysteria2 | hysteria | http
  | policygroup | proxychain
deriving DecidableEq, Repr

namespace EConfigType

def entries : List EConfigType :=
  [vmess, custom, shadowsocks, socks, vless, trojan, wireguard, hysteria2, hysteria, http,
    policygroup, proxychain]

/-- The name of the enumeration constant, in lower case. -/
def lowerName : EConfigType → String
  | vmess => "vmess"
  | custom => "custom"
  | shadowsocks => "shadowsocks"
  | socks => "socks"
  | vless => "vless"
  | trojan => "trojan"
  | wireguard => "wireguard"
  | hysteria2 => "hysteria2"
  | hysteria => "hysteria"
  | http => "http"
  | policygroup => "policygroup"
  | proxychain => "proxychain"

def isComplexType (t : EConfigType) : Bool :=
  t == custom || t == policygroup || t == proxychain

/-- `protocol.equals(NAME, ignoreCase = true)`. -/
def isProtocol (t : EConfigType) (protocol : String) : Bool :=
  Text.equalsIgnoreAsciiCase protocol t.lowerName

end EConfigType

/-- Runtime type used during config assembly only. -/
inductive CoreResolvedType
  | normal | policygroup | proxychain
deriving DecidableEq, Repr

inductive NetworkType
  | tcp | kcp | ws | httpUpgrade | xhttp | http | h2 | grpc | hysteria
deriving DecidableEq, Repr

namespace NetworkType

def type : NetworkType → String
  | tcp => "tcp"
  | kcp => "kcp"
  | ws => "ws"
  | httpUpgrade => "httpupgrade"
  | xhttp => "xhttp"
  | http => "http"
  | h2 => "h2"
  | grpc => "grpc"
  | hysteria => "hysteria"

def entries : List NetworkType := [tcp, kcp, ws, httpUpgrade, xhttp, http, h2, grpc, hysteria]

/-- The network of a text, if it is one. -/
def find? (s : String) : Option NetworkType := entries.find? (·.type == s)

def fromString (s : Option String) : NetworkType := (s.bind find?).getD tcp

end NetworkType

/-- Load-balancing strategy types supported by the core's balancer. -/
inductive BalancerStrategyType
  | leastLoad | random | roundRobin | leastPing
deriving DecidableEq, Repr

namespace BalancerStrategyType

def policyGroupType : BalancerStrategyType → String
  | leastLoad => "leastLoad"
  | random => "random"
  | roundRobin => "roundRobin"
  | leastPing => "leastPing"

def policyGroupTypeValue : BalancerStrategyType → String
  | leastLoad => "1"
  | random => "2"
  | roundRobin => "3"
  | leastPing => ""

def requiresBurstObservatory (t : BalancerStrategyType) : Bool := t == leastLoad

def requiresObservatory (t : BalancerStrategyType) : Bool := t == leastPing

def supportsObservatory (t : BalancerStrategyType) : Bool := t == random || t == roundRobin

/-- `from` of the companion object. -/
def ofType (s : Option String) : BalancerStrategyType :=
  ([leastLoad, random, roundRobin, leastPing].find? fun t =>
    some t.policyGroupTypeValue == s).getD leastPing

end BalancerStrategyType

structure ProfileItem where
  configVersion : Int := 4
  configType : EConfigType
  subscriptionId : String := ""
  addedTime : Int := 0
  remarks : String := ""
  description : Option String := none
  server : Option String := none
  serverPort : Option String := none
  password : Option String := none
  method : Option String := none
  flow : Option String := none
  username : Option String := none
  network : Option String := none
  headerType : Option String := none
  host : Option String := none
  path : Option String := none
  seed : Option String := none
  kcpMtu : Option Int := none
  kcpTti : Option Int := none
  quicSecurity : Option String := none
  quicKey : Option String := none
  mode : Option String := none
  serviceName : Option String := none
  authority : Option String := none
  xhttpMode : Option String := none
  xhttpExtra : Option String := none
  finalMask : Option String := none
  security : Option String := none
  sni : Option String := none
  alpn : Option String := none
  fingerPrint : Option String := none
  cipherSuites : Option String := none
  insecure : Option Bool := none
  echConfigList : Option String := none
  verifyPeerCertByName : Option String := none
  pinnedCA256 : Option String := none
  publicKey : Option String := none
  shortId : Option String := none
  spiderX : Option String := none
  mldsa65Verify : Option String := none
  secretKey : Option String := none
  preSharedKey : Option String := none
  localAddress : Option String := none
  reserved : Option String := none
  mtu : Option Int := none
  obfsPassword : Option String := none
  portHopping : Option String := none
  portHoppingInterval : Option String := none
  pinSHA256 : Option String := none
  bandwidthDown : Option String := none
  bandwidthUp : Option String := none
  policyGroupType : Option String := none
  policyGroupSubscriptionId : Option String := none
  policyGroupFilter : Option String := none
  policyGroupTestOutbounds : Option Bool := none
  policyGroupFallbackTag : Option String := none
  proxyChainProfiles : Option String := none
  browserDialerMode : Option String := none
  rawConf : Option String := none

/-- `ProfileItem.create`. -/
def ProfileItem.create (configType : EConfigType) : ProfileItem := { configType }

structure RulesetItem where
  id : String := ""
  remarks : Option String := some ""
  ip : Option (List String) := none
  domain : Option (List String) := none
  process : Option (List String) := none
  outboundTag : String := ""
  port : Option String := none
  network : Option String := none
  protocol : Option (List String) := none
  enabled : Bool := true
  locked : Option Bool := some false

structure SubscriptionItem where
  remarks : String := ""
  url : String := ""
  enabled : Bool := true
  addedTime : Int := 0
  lastUpdated : Int := -1
  autoUpdate : Bool := false
  updateInterval : Int := 1440
  prevProfile : Option String := none
  nextProfile : Option String := none
  filter : Option String := none
  allowInsecureUrl : Bool := false
  userAgent : Option String := none
  requestHeaders : Option String := none
  upload : Int := 0
  download : Int := 0
  total : Int := 0
  expire : Int := 0

structure ServerAffiliationInfo where
  testDelayMillis : Int := 0

end ZeroVpn
