import ZeroVpn.Std.Percent
import ZeroVpn.Std.Text

/-!
# `java.net.URI`

The parser follows the documented grammar. An authority is server-based, with a host, a port and
user information, or else registry-based, and then it has none of them; `none` is a syntax error.
The implementations differ in one point: some let a host name contain underscores.
-/

namespace ZeroVpn

structure Uri where
  scheme : Option String
  rawUserInfo : Option String
  host : Option String
  /-- The port, `-1` if there is none. -/
  port : Int
  rawPath : Option String
  rawQuery : Option String
  rawFragment : Option String

namespace Uri

/-! ## Characters -/

def isHex (c : Char) : Bool := (Percent.hexValue? c).isSome

/-- Visible characters beyond ASCII: no control characters and no spaces. -/
def isOther (c : Char) : Bool :=
  160 < c.toNat && !(c.toNat == 0x1680 || (0x2000 ≤ c.toNat && c.toNat ≤ 0x200A) ||
    c.toNat == 0x2028 || c.toNat == 0x2029 || c.toNat == 0x202F || c.toNat == 0x205F ||
    c.toNat == 0x3000)

def isUnreserved (c : Char) : Bool := c.isAlphanum || "_-!.~'()*".toList.contains c

def isUserInfo (c : Char) : Bool := isUnreserved c || ";:&=+$,".toList.contains c

def isRegName (c : Char) : Bool := isUnreserved c || "$,;:@&=+".toList.contains c

def isPath (c : Char) : Bool := isUnreserved c || ":@&=+$,;/".toList.contains c

def isUric (c : Char) : Bool := isUnreserved c || ";/?:@&=+$,[]".toList.contains c

def isServer (c : Char) : Bool := isUserInfo c || ".:@[]%".toList.contains c || isOther c

/-- The text after the longest run of characters of a class, escapes and other characters; `none`
if an escape in it is malformed. -/
def scan (cls : Char → Bool) : List Char → Option (List Char)
  | [] => some []
  | '%' :: h :: l :: cs => if isHex h && isHex l then scan cls cs else none
  | c :: cs =>
    if c = '%' then none
    else if cls c || isOther c then scan cls cs
    else some (c :: cs)

/-- The text has characters of the class, escapes and other characters only. -/
def isLegal (cls : Char → Bool) (cs : List Char) : Bool := scan cls cs = some []

/-! ## Hosts -/

section
variable (underscore : Bool)

def isLabel : List Char → Bool
  | [] => false
  | c :: cs =>
    c.isAlphanum && cs.all (fun d => d.isAlphanum || d == '-' || (underscore && d == '_')) &&
      (c :: cs).getLast? != some '-'

/-- Labels between dots, with an optional dot at the end; the last of several labels starts with a
letter. -/
def isHostname (cs : List Char) : Bool :=
  let labels := (if cs.getLast? = some '.' then cs.dropLast else cs).splitOn '.'
  labels.all (isLabel underscore) &&
    (labels.length ≤ 1 || ((labels.getLast?.bind List.head?).any Char.isAlpha))

end

def isIPv4 (cs : List Char) : Bool :=
  let parts := cs.splitOn '.'
  parts.length == 4 && parts.all fun part =>
    part.all Char.isDigit && (Text.digitsToNat part).any (· ≤ 255)

def isHexGroup (cs : List Char) : Bool := cs ≠ [] && cs.length ≤ 4 && cs.all isHex

/-- The number of 16-bit groups; the last one may be an IPv4 address, which counts as two. -/
def groupCount : List (List Char) → Option Nat
  | [] => some 0
  | [g] => if isHexGroup g then some 1 else if isIPv4 g then some 2 else none
  | g :: gs => if isHexGroup g then (groupCount gs).map (· + 1) else none

/-- The text before and after the first two colons in a row. -/
def splitColons : List Char → Option (List Char × List Char)
  | ':' :: ':' :: cs => some ([], cs)
  | c :: cs => (splitColons cs).map fun (l, r) => (c :: l, r)
  | [] => none

def isIPv6 (cs : List Char) : Bool :=
  match splitColons cs with
  | none => groupCount (cs.splitOn ':') = some 8
  | some (l, r) =>
    let left := if l = [] then [] else l.splitOn ':'
    let right := if r = [] then [] else r.splitOn ':'
    left.all isHexGroup && (groupCount right).any (left.length + · ≤ 7)

/-- What stands between the brackets of a host: an IPv6 address and an optional scope. -/
def isIPv6Reference (cs : List Char) : Bool :=
  isIPv6 (cs.takeWhile (· ≠ '%')) &&
    match cs.dropWhile (· ≠ '%') with
    | [] => true
    | _ :: scope => scope ≠ [] && scope.all fun c => c.isAlphanum || c == '_' || c == '.'

/-! ## The parser -/

section
variable (underscore : Bool)

/-- A host name or an IPv4 address. -/
def isPlainHost (cs : List Char) : Bool := isIPv4 cs || isHostname underscore cs

/-- The host at the start of a text, and the text after it. -/
def parseHost : List Char → Option (List Char × List Char)
  | '[' :: cs =>
    match cs.dropWhile (· ≠ ']') with
    | ']' :: rest =>
      let inside := cs.takeWhile (· ≠ ']')
      if isIPv6Reference inside then some ('[' :: inside ++ [']'], rest) else none
    | _ => none
  | cs =>
    let host := cs.takeWhile (· ≠ ':')
    if isPlainHost underscore host then some (host, cs.dropWhile (· ≠ ':')) else none

def parsePort : List Char → Option Int
  | [] => some (-1)
  | ':' :: cs =>
    if cs = [] then some (-1)
    else if cs.all Char.isDigit then
      ((Text.digitsToNat cs).filter (· ≤ 2147483647)).map Int.ofNat
    else none
  | _ => none

structure Server where
  userInfo : Option (List Char)
  host : List Char
  port : Int

def parseServer (cs : List Char) : Option Server :=
  if '@' ∈ cs then
    let userInfo := cs.takeWhile (· ≠ '@')
    if isLegal isUserInfo userInfo then do
      let (host, rest) ← parseHost underscore (cs.dropWhile (· ≠ '@')).tail
      return ⟨some userInfo, host, ← parsePort rest⟩
    else none
  else do
    let (host, rest) ← parseHost underscore cs
    return ⟨none, host, ← parsePort rest⟩

/-- `none` is a syntax error, `some none` a registry-based authority. -/
def parseAuthority (cs : List Char) : Option (Option Server) :=
  match scan isRegName cs with
  | none => none
  | some left =>
    match if cs.all isServer then parseServer underscore cs else none with
    | some server => some (some server)
    | none => if left = [] then some none else none

def isScheme : List Char → Bool
  | [] => false
  | c :: cs => c.isAlpha && cs.all fun d => d.isAlphanum || d == '+' || d == '-' || d == '.'

/-- What follows the authority: the path and the query. -/
def parsePathQuery (cs : List Char) : Option (List Char × Option (List Char)) :=
  let path := cs.takeWhile (· ≠ '?')
  let query := (cs.dropWhile (· ≠ '?')).tail?
  if isLegal isPath path && query.all (isLegal isUric) then some (path, query) else none

/-- The scheme, if there is one, and the text after it. -/
def parseScheme (cs : List Char) : Option (Option (List Char) × List Char) :=
  match cs.dropWhile (fun c => !":/?#".toList.contains c) with
  | ':' :: rest =>
    let scheme := cs.takeWhile fun c => !":/?#".toList.contains c
    if isScheme scheme then some (some scheme, rest) else none
  | _ => some (none, cs)

/-- A text without a fragment, after its scheme. -/
def parseBody (scheme fragment : Option (List Char)) (cs : List Char) : Option Uri :=
  let uri : Uri :=
    { scheme := scheme.map String.ofList, rawUserInfo := none, host := none, port := -1
      rawPath := none, rawQuery := none, rawFragment := fragment.map String.ofList }
  match cs with
  | '/' :: '/' :: cs =>
    let authority := cs.takeWhile fun c => !"/?".toList.contains c
    let rest := cs.dropWhile fun c => !"/?".toList.contains c
    if authority = [] ∧ rest = [] ∧ fragment = none then none
    else do
      let server ← if authority = [] then some none else parseAuthority underscore authority
      let (path, query) ← parsePathQuery rest
      return { uri with
        rawUserInfo := (server.bind (·.userInfo)).map String.ofList
        host := server.map fun s => String.ofList s.host
        port := (server.map (·.port)).getD (-1)
        rawPath := some (String.ofList path)
        rawQuery := query.map String.ofList }
  | cs =>
    if scheme.isSome && cs.head? != some '/' then
      -- an opaque URI
      if cs ≠ [] && isLegal isUric cs then some uri else none
    else do
      let (path, query) ← parsePathQuery cs
      return { uri with
        rawPath := some (String.ofList path), rawQuery := query.map String.ofList }

def parse (text : String) : Option Uri := do
  let (scheme, rest) ← parseScheme text.toList
  let fragment := (rest.dropWhile (· ≠ '#')).tail?
  if fragment.all (isLegal isUric) then
    parseBody underscore scheme fragment (rest.takeWhile (· ≠ '#'))
  else none

end

/-- `getUserInfo` and `getFragment`: every run of escapes is read as UTF-8. -/
def decode (s : String) : String :=
  match Percent.decode false s.toList with
  | some cs => String.ofList cs
  | none => s

def userInfo (uri : Uri) : Option String := uri.rawUserInfo.map decode

def fragment (uri : Uri) : Option String := uri.rawFragment.map decode

end Uri
end ZeroVpn
