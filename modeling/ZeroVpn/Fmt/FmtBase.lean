import ZeroVpn.Dto.Entities
import ZeroVpn.Std.Assoc
import ZeroVpn.Util.UriCoding

/-!
# Share links

`FmtBase` with `VlessFmt`, `TrojanFmt` and the writer of `ShadowsocksFmt`. The query of a link is a
hash map: `getQueryDic` lists its entries, and `toUri` writes them in the order it is given. Where a
reader throws, the result is an error.
-/

namespace ZeroVpn

open Text

/-- `URI.idnHost` of the extensions. -/
def Uri.idnHost (uri : Uri) : String :=
  orEmpty (uri.host.map fun host => replaceChar ']' "" (replaceChar '[' "" host))

namespace FmtBase

/-- The query of a link, with its question mark. -/
def queryText (dicQuery : Option (List (String × String))) : String :=
  match dicQuery with
  | some dicQuery =>
    "?" ++ "&".intercalate (dicQuery.map fun it => it.1 ++ "=" ++ Utils.encodeURIComponent it.2)
  | none => ""

/-- `toASCII` is `IDN.toASCII`, which may throw. -/
def toUri (toASCII : String → Except String String) (config : ProfileItem)
    (userInfo : Option String) (dicQuery : Option (List (String × String))) :
    Except String String := do
  let host ← HttpUtil.toIdnDomain toASCII (orEmpty config.server)
  let url := Utils.encodeURIComponent (orEmpty userInfo) ++ "@" ++
    Utils.getIpv6Address (some host) ++ ":" ++ config.serverPort.getD "null"
  return url ++ queryText dicQuery ++ "#" ++ Utils.encodeURIComponent config.remarks

theorem toUri_eq_ok {config : ProfileItem}
    (h : HttpUtil.toIdnDomain toASCII (orEmpty config.server) = .ok host)
    (userInfo : Option String) (dicQuery : Option (List (String × String))) :
    toUri toASCII config userInfo dicQuery =
      .ok (Utils.encodeURIComponent (orEmpty userInfo) ++ "@" ++
        Utils.getIpv6Address (some host) ++ ":" ++ config.serverPort.getD "null" ++
        queryText dicQuery ++ "#" ++ Utils.encodeURIComponent config.remarks) := by
  rw [toUri, h]
  rfl

/-- One parameter of a query; a part without an equals sign makes the destructuring throw. -/
def readParam (part : String) : Except String (String × String) :=
  match split '=' part with
  | k :: v :: _ => .ok (k, Utils.decodeURIComponent v)
  | _ => .error "IndexOutOfBoundsException"

def getQueryParam (rawQuery : String) : Except String (List (String × String)) :=
  (split '&' rawQuery).mapM readParam

/-- The value of a key; the last of several counts. -/
def param (queryParam : List (String × String)) (key : String) : Option String :=
  queryParam.reverse.lookup key

def getItemFormQuery (config : ProfileItem) (queryParam : List (String × String)) : ProfileItem :=
  let param := param queryParam
  let security := param "security"
  let allowInsecureKeys := ["insecure", "allowInsecure", "allow_insecure"]
  { config with
    network := some ((param "type").getD NetworkType.tcp.type)
    headerType := param "headerType"
    host := param "host"
    path := param "path"
    seed := param "seed"
    kcpMtu := (param "mtu").bind toIntOrNull
    kcpTti := (param "tti").bind toIntOrNull
    quicSecurity := param "quicSecurity"
    quicKey := param "key"
    mode := param "mode"
    serviceName := param "serviceName"
    authority := param "authority"
    xhttpMode := param "mode"
    xhttpExtra := param "extra"
    finalMask := param "fm"
    security :=
      if security ≠ some AppConfig.tls ∧ security ≠ some AppConfig.reality then none else security
    insecure := some (allowInsecureKeys.any fun key => param key == some "1")
    sni := param "sni"
    fingerPrint := param "fp"
    alpn := param "alpn"
    cipherSuites := param "cs"
    echConfigList := param "ech"
    verifyPeerCertByName := param "vcn"
    pinnedCA256 := param "pcs"
    publicKey := param "pbk"
    shortId := param "sid"
    spiderX := param "spx"
    mldsa65Verify := param "pqv"
    flow := param "flow" }

/-- `?.ifEmpty { "none" }.orEmpty()` -/
def noneIfEmpty (s : Option String) : String :=
  match s with
  | some s => ifEmpty s "none"
  | none => ""

/-- The entries for a transport; an absent value is not written. -/
def transportFields (config : ProfileItem) : NetworkType → List (String × Option String)
  | .tcp =>
    [("headerType", some (noneIfEmpty config.headerType)), ("host", nullIfBlank config.host)]
  | .kcp =>
    [("headerType", some (noneIfEmpty config.headerType)), ("seed", nullIfBlank config.seed)]
  | .ws | .httpUpgrade =>
    [("host", nullIfBlank config.host), ("path", nullIfBlank config.path)]
  | .xhttp =>
    [("host", nullIfBlank config.host), ("path", nullIfBlank config.path),
      ("mode", nullIfBlank config.xhttpMode), ("extra", nullIfBlank config.xhttpExtra)]
  | .http | .h2 =>
    [("host", nullIfBlank config.host), ("path", nullIfBlank config.path)]
  | .grpc =>
    [("mode", nullIfBlank config.mode), ("authority", nullIfBlank config.authority),
      ("serviceName", nullIfBlank config.serviceName)]
  | .hysteria => []

/-- The type of a link; HTTP/2 is written as `http`, over the entry made before. -/
def linkType : NetworkType → String
  | .http | .h2 => "http"
  | networkType => networkType.type

/-- The flag for insecure connections, written for TLS only. -/
def insecureFlag (config : ProfileItem) : Option String :=
  if config.security = some AppConfig.tls then
    some (if config.insecure = some true then "1" else "0")
  else none

/-- The entries that every transport has. -/
def baseFields (config : ProfileItem) : List (String × Option String) :=
  [("security", some (noneIfEmpty config.security)),
    ("sni", nullIfBlank config.sni),
    ("alpn", nullIfBlank config.alpn),
    ("cs", nullIfBlank config.cipherSuites),
    ("ech", nullIfBlank config.echConfigList),
    ("vcn", nullIfBlank config.verifyPeerCertByName),
    ("pcs", nullIfBlank config.pinnedCA256),
    ("fp", nullIfBlank config.fingerPrint),
    ("pbk", nullIfBlank config.publicKey),
    ("sid", nullIfBlank config.shortId),
    ("spx", nullIfBlank config.spiderX),
    ("pqv", nullIfBlank config.mldsa65Verify),
    ("flow", nullIfBlank config.flow),
    ("fm", nullIfBlank config.finalMask),
    ("mtu", config.kcpMtu.map toString),
    ("tti", config.kcpTti.map toString),
    ("insecure", insecureFlag config),
    ("allowInsecure", insecureFlag config),
    ("type", some (linkType (NetworkType.fromString config.network)))]

/-- The entries of the query; an absent value is not written. -/
def queryFields (config : ProfileItem) : List (String × Option String) :=
  baseFields config ++ transportFields config (NetworkType.fromString config.network)

def getQueryDic (config : ProfileItem) : List (String × String) := present (queryFields config)

/-- What every reader takes from the link itself. -/
def readServer (config : ProfileItem) (uri : Uri) : ProfileItem :=
  { config with
    remarks := ifEmpty (Utils.decodeURIComponent (orEmpty uri.fragment)) "none"
    server := some uri.idnHost
    serverPort := some (toString uri.port)
    password := uri.userInfo }

/-- `URI(Utils.fixIllegalUrl(str))`, with the host names that Android accepts. -/
def readUri (str : String) : Except String Uri :=
  match Uri.parse true (Utils.fixIllegalUrl str) with
  | some uri => .ok uri
  | none => .error "URISyntaxException"

end FmtBase

open FmtBase

namespace VlessFmt

/-- The entries of the query of a link. -/
def dicQuery (config : ProfileItem) : List (String × String) :=
  getQueryDic config ++ [("encryption", config.method.getD "none")]

/-- `order` is the order in which the hash map of `dicQuery` is walked. -/
def toUri (toASCII : String → Except String String) (config : ProfileItem)
    (order : List (String × String)) : Except String String :=
  FmtBase.toUri toASCII config config.password (some order)

def parse (str : String) : Except String (Option ProfileItem) := do
  let config := ProfileItem.create .vless
  let uri ← readUri str
  match uri.rawQuery with
  | none => return none
  | some rawQuery =>
    if rawQuery = "" then return none
    else
      let queryParam ← getQueryParam rawQuery
      let config := { readServer config uri with
        method := some ((param queryParam "encryption").getD "none") }
      return some (getItemFormQuery config queryParam)

end VlessFmt

namespace TrojanFmt

/-- The entries of the query of a link. -/
def dicQuery (config : ProfileItem) : List (String × String) := getQueryDic config

/-- `order` is the order in which the hash map of `dicQuery` is walked. -/
def toUri (toASCII : String → Except String String) (config : ProfileItem)
    (order : List (String × String)) : Except String String :=
  FmtBase.toUri toASCII config config.password (some order)

def parse (str : String) : Except String ProfileItem := do
  let config := ProfileItem.create .trojan
  let uri ← readUri str
  let config := readServer config uri
  if isNullOrEmpty uri.rawQuery then
    return { config with
      network := some NetworkType.tcp.type
      security := some AppConfig.tls
      insecure := some false }
  else
    let queryParam ← getQueryParam (orEmpty uri.rawQuery)
    return { getItemFormQuery config queryParam with
      security := some ((param queryParam "security").getD AppConfig.tls) }

end TrojanFmt

/-- A null method or password is printed as `null`. -/
def ShadowsocksFmt.toUri (toASCII : String → Except String String) (config : ProfileItem) :
    Except String String :=
  let pw := config.method.getD "null" ++ ":" ++ config.password.getD "null"
  FmtBase.toUri toASCII config (some (Utils.encode pw true)) none

end ZeroVpn
