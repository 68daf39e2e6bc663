import ZeroVpn.Fmt.ShareFormats
import ZeroVpn.Std.JsonText

/-!
# VMess links

A VMess link is the JSON text of a `VmessQRCode` in Base64. The record has one place for a host and
one for a path, which KCP and gRPC use for their own settings. Reading JSON is a parameter.
-/

namespace ZeroVpn

/-- The fields are never null in a record that the writer fills, but Gson may read null. -/
structure VmessQRCode where
  v : Option String := some ""
  ps : Option String := some ""
  add : Option String := some ""
  port : Option String := some ""
  id : Option String := some ""
  aid : Option String := some "0"
  scy : Option String := some ""
  net : Option String := some ""
  type : Option String := some ""
  host : Option String := some ""
  path : Option String := some ""
  tls : Option String := some ""
  sni : Option String := some ""
  alpn : Option String := some ""
  fp : Option String := some ""
  cs : Option String := some ""
  insecure : Option String := some ""
  vcn : Option String := some ""
  pcs : Option String := some ""

namespace VmessQRCode

def fields (code : VmessQRCode) : List (String × Option String) :=
  [("v", code.v), ("ps", code.ps), ("add", code.add), ("port", code.port), ("id", code.id),
    ("aid", code.aid), ("scy", code.scy), ("net", code.net), ("type", code.type),
    ("host", code.host), ("path", code.path), ("tls", code.tls), ("sni", code.sni),
    ("alpn", code.alpn), ("fp", code.fp), ("cs", code.cs), ("insecure", code.insecure),
    ("vcn", code.vcn), ("pcs", code.pcs)]

/-- `JsonUtil.toJson`: a field that is null is not written. -/
def toJson (code : VmessQRCode) : String := JsonText.printObject (present code.fields)

end VmessQRCode

namespace VmessFmt

open FmtBase Text

/-! ## Writing -/

/-- The header type, or the mode of gRPC. -/
def typeText (config : ProfileItem) : NetworkType → String
  | .grpc => orEmpty config.mode
  | _ => orEmpty config.headerType

/-- What a transport has in the place of the host. -/
def hostText (config : ProfileItem) : NetworkType → String
  | .grpc => orEmpty config.authority
  | _ => ""

/-- What a transport has in the place of the path. -/
def pathText (config : ProfileItem) : NetworkType → String
  | .kcp => orEmpty config.seed
  | .grpc => orEmpty config.serviceName
  | _ => ""

/-- The record of a link; a host and a path replace the settings of the transport. -/
def toQRCode (config : ProfileItem) : VmessQRCode :=
  let networkType := NetworkType.fromString config.network
  { v := some "2"
    ps := some config.remarks
    add := some (orEmpty config.server)
    port := some (orEmpty config.serverPort)
    id := some (orEmpty config.password)
    scy := some (orEmpty config.method)
    aid := some "0"
    net := some (orEmpty config.network)
    type := some (typeText config networkType)
    host := some ((nullIfBlank config.host).getD (hostText config networkType))
    path := some ((nullIfBlank config.path).getD (pathText config networkType))
    tls := some (orEmpty config.security)
    sni := some (orEmpty config.sni)
    fp := some (orEmpty config.fingerPrint)
    alpn := some (orEmpty config.alpn)
    cs := some (orEmpty config.cipherSuites)
    insecure := some (match config.insecure with
      | some true => "1"
      | some false => "0"
      | none => "")
    vcn := some (orEmpty config.verifyPeerCertByName)
    pcs := some (orEmpty config.pinnedCA256) }

def toUri (config : ProfileItem) : String := Utils.encode (toQRCode config).toJson false

/-! ## Reading -/

/-- The settings of a transport that stand in the places of others. -/
def readTransport (config : ProfileItem) (code : VmessQRCode) : NetworkType → ProfileItem
  | .kcp => { config with seed := code.path }
  | .grpc =>
    { config with mode := code.type, serviceName := code.path, authority := code.host }
  | _ => config

/-- Null is caught where it is read as a name or as cipher suites. -/
def readQRCode (code : VmessQRCode) : Except String (Option ProfileItem) :=
  if isNullOrEmpty code.add || isNullOrEmpty code.port || isNullOrEmpty code.id ||
      isNullOrEmpty code.net then .ok none
  else
    match code.ps, code.cs with
    | some ps, some cs =>
      let config : ProfileItem := { ProfileItem.create .vmess with
        remarks := ps
        server := code.add
        serverPort := code.port
        password := code.id
        method := if isNullOrEmpty code.scy then some AppConfig.defaultSecurity else code.scy
        network := code.net
        headerType := code.type
        host := code.host
        path := code.path }
      .ok (some { readTransport config code (NetworkType.fromString code.net) with
        security := code.tls
        sni := code.sni
        fingerPrint := code.fp
        alpn := code.alpn
        cipherSuites := nullIfBlank (some cs)
        insecure := some (code.insecure == some "1")
        verifyPeerCertByName := code.vcn
        pinnedCA256 := code.pcs })
    | _, _ => .error "NullPointerException"

/-- The form with a query, which is only read. -/
def parseVmessStd (str : String) : Except String (Option ProfileItem) := do
  let uri ← readUri str
  if isNullOrEmpty uri.rawQuery then return none
  else
    let queryParam ← getQueryParam (orEmpty uri.rawQuery)
    return some (getItemFormQuery { readServer (.create .vmess) uri with
      method := some AppConfig.defaultSecurity } queryParam)

/-- `indexOf(c) > 0` -/
def hasAfterStart (c : Char) (str : String) : Bool := (str.toList.idxOf? c).any (0 < ·)

/-- `fromJson` is Gson reading a record, which throws on a text that is not JSON. -/
def parse (fromJson : String → Except String (Option VmessQRCode)) (str : String) :
    Except String (Option ProfileItem) :=
  if hasAfterStart '?' str && hasAfterStart '&' str then parseVmessStd str
  else
    let result := Utils.decode (some (removeAll AppConfig.vmess str))
    if result = "" then .ok none
    else do
      match ← fromJson result with
      | none => return none
      | some code => readQRCode code

end VmessFmt
end ZeroVpn
