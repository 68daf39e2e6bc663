import ZeroVpn.Std.Json
import ZeroVpn.Util.UriCoding

/-!
# The desktop client's outbounds

`XrayConfig.buildOutbound` turns a share link into the JSON of an outbound; `none` stands for `null`,
which is also what a caught exception gives. The reader of `vmess` links is a parameter, and so is
`String.lowercase`. The texts are lists of code points, which matters only where the source cuts the
name of a Shadowsocks server after 80 characters.
-/

namespace ZeroVpn.XrayConfig

open Text

def str (s : String) : Json := .str s

def query (raw : Option String) : List (String × String) :=
  if isNullOrBlank raw then []
  else
    (split '&' (orEmpty raw)).filterMap fun it =>
      match splitFirst '=' it with
      | (key, some value) =>
        if key = "" then none
        else do return (← URLDecoder.decode key, ← URLDecoder.decode value)
      | (_, none) => none

/-- The value of a key; the last of several counts. -/
def param (q : List (String × String)) (key : String) : Option String := q.reverse.lookup key

/-- The arguments of `streamSettings`. -/
structure StreamArgs where
  net : String
  type : String
  host : String
  path : String
  serviceName : String
  security : String
  sni : String
  alpn : String
  fp : String
  pbk : String
  sid : String
  spx : String
  allowInsecure : Bool

def ifBlank (s default : String) : String := if isBlank s then default else s

/-- The members with a text that is not blank. -/
def unlessBlank (s : String) (member : String × Json) : JsonObject :=
  if isBlank s then [] else [member]

def networkName (net : String) : String :=
  if net = "h2" ∨ net = "h2c" then "http" else if net = "splithttp" then "xhttp" else net

def securityMembers (a : StreamArgs) : JsonObject :=
  if a.security = "tls" then
    [("tlsSettings", .obj (
      [("serverName", str a.sni), ("allowInsecure", .bool a.allowInsecure)] ++
        unlessBlank a.alpn
          ("alpn", .arr ((split ',' a.alpn).map fun it => str (trim it))) ++
        unlessBlank a.fp ("fingerprint", str a.fp)))]
  else if a.security = "reality" then
    [("realitySettings", .obj (
      [("serverName", str a.sni), ("fingerprint", str (ifBlank a.fp "chrome")),
        ("publicKey", str a.pbk), ("shortId", str a.sid)] ++
        unlessBlank a.spx ("spiderX", str a.spx)))]
  else []

def tcpHttpHeader (a : StreamArgs) : Json :=
  .obj [("type", str "http"),
    ("request", .obj [("version", str "1.1"), ("method", str "GET"),
      ("path", .arr [str (ifBlank a.path "/")]),
      ("headers", .obj [
        ("Host", .arr [str (ifBlank a.host (ifBlank a.sni "www.example.com"))]),
        ("User-Agent", .arr [str "Mozilla/5.0 (Windows NT 10.0; Win64; x64)"]),
        ("Accept-Encoding", .arr [str "gzip, deflate"]),
        ("Connection", .arr [str "keep-alive"]),
        ("Pragma", str "no-cache")])])]

def transportMembers (a : StreamArgs) : JsonObject :=
  let path := str (ifBlank a.path "/")
  if a.net = "ws" ∨ a.net = "websocket" then
    [("wsSettings", .obj ([("path", path)] ++
      unlessBlank a.host ("headers", .obj [("Host", str a.host)])))]
  else if a.net = "grpc" then
    [("grpcSettings", .obj [("serviceName", str a.serviceName), ("multiMode", .bool false)])]
  else if a.net = "h2" ∨ a.net = "http" ∨ a.net = "h2c" then
    [("httpSettings", .obj ([("path", path)] ++ unlessBlank a.host ("host", .arr [str a.host])))]
  else if a.net = "httpupgrade" then
    [("httpupgradeSettings", .obj ([("path", path)] ++ unlessBlank a.host ("host", str a.host)))]
  else if a.net = "xhttp" ∨ a.net = "splithttp" then
    [("xhttpSettings", .obj ([("path", path)] ++ unlessBlank a.host ("host", str a.host)))]
  else if a.net = "tcp" ∧ equalsIgnoreAsciiCase a.type "http" then
    [("tcpSettings", .obj [("header", tcpHttpHeader a)])]
  else []

def streamSettings (a : StreamArgs) : Json :=
  .obj ([("network", str (networkName a.net)), ("security", str a.security)] ++
    securityMembers a ++ transportMembers a)

/-- The port of a URI, 443 if it has none. -/
def portOf (uri : Uri) : Int := if 0 < uri.port then uri.port else 443

def readUri (link : String) : Option Uri := Uri.parse false (replaceChar ' ' "%20" link)

def insecureParam (q : List (String × String)) : Bool :=
  param q "allowInsecure" == some "1" || param q "insecure" == some "1"

section
variable (lowercase : String → String)

def vless (link : String) : Option Json := do
  let uri ← readUri link
  let q := query uri.rawQuery
  let userInfo ← URLDecoder.decode (orEmpty uri.rawUserInfo)
  let host := orEmpty uri.host
  let port := portOf uri
  let stream := streamSettings {
    net := lowercase (((param q "type").or (param q "network")).getD "tcp")
    type := orEmpty (param q "headerType")
    host := orEmpty (param q "host")
    path := orEmpty (param q "path")
    serviceName := orEmpty (param q "serviceName")
    security := lowercase ((param q "security").getD (if port = 443 then "tls" else "none"))
    sni := ((param q "sni").or (param q "host")).getD host
    alpn := orEmpty (param q "alpn")
    fp := orEmpty (param q "fp")
    pbk := orEmpty (param q "pbk")
    sid := orEmpty (param q "sid")
    spx := orEmpty (param q "spx")
    allowInsecure := insecureParam q }
  return .obj [("tag", str "proxy"), ("protocol", str "vless"),
    ("settings", .obj [("vnext", .arr [.obj [("address", str host), ("port", .int port),
      ("users", .arr [.obj [("id", str userInfo), ("encryption", str "none"),
        ("flow", str (orEmpty (param q "flow"))), ("level", .int 0)]])]])]),
    ("streamSettings", stream),
    ("mux", .obj [("enabled", .bool false), ("concurrency", .int (-1))])]

def trojan (link : String) : Option Json := do
  let uri ← readUri link
  let q := query uri.rawQuery
  let pass ← URLDecoder.decode (orEmpty uri.rawUserInfo)
  let host := orEmpty uri.host
  let stream := streamSettings {
    net := lowercase ((param q "type").getD "tcp")
    type := orEmpty (param q "headerType")
    host := orEmpty (param q "host")
    path := orEmpty (param q "path")
    serviceName := orEmpty (param q "serviceName")
    security := lowercase ((param q "security").getD "tls")
    sni := (((param q "sni").or (param q "peer")).or (param q "host")).getD host
    alpn := orEmpty (param q "alpn")
    fp := orEmpty (param q "fp")
    pbk := orEmpty (param q "pbk")
    sid := orEmpty (param q "sid")
    spx := orEmpty (param q "spx")
    allowInsecure := insecureParam q }
  return .obj [("tag", str "proxy"), ("protocol", str "trojan"),
    ("settings", .obj [("servers", .arr [.obj [("address", str host), ("port", .int (portOf uri)),
      ("password", str pass), ("level", .int 0)]])]),
    ("streamSettings", stream)]

end

/-! ## Shadowsocks -/

/-- `\s` -/
def isSpace (c : Char) : Bool := c == ' ' || ('\t' ≤ c && c ≤ '\r')

def tryDecodeBase64 (s : String) : Option String :=
  let clean := s.toList.filter (!isSpace ·)
  let padded := clean ++ List.replicate (Base64.padding clean.length) '='
  ((Base64.decode true padded).or (Base64.decode false padded)).map fun bytes =>
    String.ofList (ofUtf8 bytes)

/-- The cuts of a text at a character, the shortest first part first. -/
def cuts (sep : Char) : List Char → List (List Char × List Char)
  | [] => []
  | c :: cs =>
    (if c = sep then [([], cs)] else []) ++ (cuts sep cs).map fun (l, r) => (c :: l, r)

def isLineTerminator (c : Char) : Bool :=
  c == '\n' || c == '\r' || c == '\u0085' || c == '\u2028' || c == '\u2029'

/-- A group `.+`. -/
def isGroup (cs : List Char) : Bool := cs ≠ [] && cs.all (!isLineTerminator ·)

/-- A group `\d+` up to the end of the text, or to its last line terminator. -/
def digitsToEnd (cs : List Char) : Option (List Char) :=
  let digits := cs.takeWhile Char.isDigit
  match digits, cs.dropWhile Char.isDigit with
  | [], _ => none
  | _, [] => some digits
  | _, ['\r', '\n'] => some digits
  | _, [c] => if isLineTerminator c then some digits else none
  | _, _ => none

structure SsServer where
  method : String := ""
  password : String := ""
  host : String := ""
  port : Int := 443

def portOr443 (s : String) : Int := (toIntOrNull s).getD 443

/-- The groups of `^(.+?):(.+)@(.+):(\d+)$`: the first as short, the others as long as possible. -/
def matchLegacy (decoded : String) : Option SsServer :=
  (cuts ':' decoded.toList).findSome? fun (method, rest) =>
    if !isGroup method then none
    else (cuts '@' rest).reverse.findSome? fun (password, rest) =>
      if !isGroup password then none
      else (cuts ':' rest).reverse.findSome? fun (host, rest) =>
        if !isGroup host then none
        else (digitsToEnd rest).map fun port =>
          { method := String.ofList method, password := String.ofList password
            host := String.ofList host, port := portOr443 (String.ofList port) }

/-- `base64(method:password)@host:port?plugin=...` -/
def readUserInfo (userInfo server : String) : SsServer :=
  let decoded := (tryDecodeBase64 userInfo).getD userInfo
  let (method, password) := splitFirst ':' decoded
  let hostPort := (splitFirst '?' server).1
  { method, password := orEmpty password
    host := substringBeforeLast ':' hostPort
    port := portOr443 (substringAfterLast ':' hostPort) }

/-- The server of a link without scheme and name. -/
def readServer (main : String) : SsServer :=
  -- `lastIndexOf('@') > 0`
  if main.toList.tail.contains '@' then
    readUserInfo (substringBeforeLast '@' main) (substringAfterLast '@' main)
  else (matchLegacy ((tryDecodeBase64 main).getD main)).getD {}

def shadowsocks (link : String) : Json :=
  let body := String.ofList (link.toList.drop "ss://".length)
  let (main, hash) := splitFirst '#' body
  let name := match hash with
    | none => "ss"
    | some hash =>
      match URLDecoder.decode hash with
      | none => "ss"
      | some name => String.ofList (name.toList.take 80)
  let server := readServer main
  .obj [("tag", str "proxy"), ("protocol", str "shadowsocks"),
    ("settings", .obj [("servers", .arr [.obj [("address", str server.host),
      ("port", .int server.port), ("method", str server.method), ("password", str server.password),
      ("ota", .bool false), ("level", .int 0), ("name", str name)]])])]

def buildOutbound (vmess : String → Option Json) (lowercase : String → String) (link : String) :
    Option Json :=
  if startsWith link "vmess://" then vmess link
  else if startsWith link "vless://" then vless lowercase link
  else if startsWith link "trojan://" then trojan lowercase link
  else if startsWith link "ss://" then some (shadowsocks link)
  else none

end ZeroVpn.XrayConfig
