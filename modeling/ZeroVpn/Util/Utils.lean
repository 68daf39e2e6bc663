import ZeroVpn.AppConfig
import ZeroVpn.Std.Regex

/-!
# Address utilities

The parts of `Utils` and `HttpUtil` that classify, rewrite and resolve server addresses. The IP
literals are recognised by the regular expressions of the source.
-/

namespace ZeroVpn.Utils
open Regex RegularExpression Text

def parseInt (str : Option String) (default : Int) : Int :=
  (str.bind toIntOrNull).getD default

/-- `String.toInt`, with the message of its exception. -/
def toInt (s : String) : Except String Int :=
  match toIntOrNull s with
  | some n => .ok n
  | none => .error ("For input string: \"" ++ s ++ "\"")

/-! ## IP literals -/

/-- `[01]?[0-9]?[0-9]|2[0-4][0-9]|25[0-5]` -/
def octetRegex : RegularExpression Char :=
  opt (oneOf "01".toList) * opt digit * digit + char '2' * oneOf "01234".toList * digit +
    char '2' * char '5' * oneOf "012345".toList

def ipv4Regex : RegularExpression Char :=
  octetRegex * char '.' * octetRegex * char '.' * octetRegex * char '.' * octetRegex

/-- `:[0-9A-Fa-f]{1,4}` -/
def colonGroupRegex : RegularExpression Char := char ':' * upTo hexDigit 4

def ipv6Regex : RegularExpression Char :=
  opt (upTo hexDigit 4) * star colonGroupRegex * char ':' * char ':' *
      opt (upTo hexDigit 4) * star colonGroupRegex +
    upTo hexDigit 4 * times colonGroupRegex 7

def isIpv4Address (value : String) : Bool := matchesAll ipv4Regex value

def isIpv6Address (value : String) : Bool :=
  match value.toList with
  | '[' :: rest =>
    -- up to the last closing bracket
    let addr := rest.rdropWhile (· != ']')
    if addr.length ≤ 1 then false else ipv6Regex.rmatch addr.dropLast
  | addr => ipv6Regex.rmatch addr

def isPureIpAddress (value : String) : Bool := isIpv4Address value || isIpv6Address value

def isCoreDNSAddress (s : String) : Bool :=
  startsWith s "https" || startsWith s "tcp" || startsWith s "quic" ||
    s == "localhost"

def getIpv6Address (address : Option String) : String :=
  match address with
  | none => ""
  | some address =>
    if isIpv6Address address && !containsChar address '[' && !containsChar address ']'
    then "[" ++ address ++ "]" else address

def isXray : Bool := startsWith AppConfig.applicationId "com.v2ray.ang"

section
-- `isValidUrl`: one of the Android patterns for URLs and domain names matches.
variable (isValidUrl : String → Bool)

def isDomainName (input : Option String) : Bool :=
  match input with
  | none => false
  | some s => s != "" && !isPureIpAddress s && isValidUrl s

/-- The check on the server of a group or chain member. -/
def isUsableServer (server : Option String) : Bool :=
  !isNullOrBlank server &&
    (isPureIpAddress (orEmpty server) || isValidUrl (orEmpty server))

end
end ZeroVpn.Utils

namespace ZeroVpn

structure InetAddress where
  isInet6 : Bool
  hostAddress : Option String

namespace HttpUtil

/-- `toASCII` is `IDN.toASCII`, which may throw. -/
def toIdnDomain (toASCII : String → Except String String) (domain : String) : Except String String :=
  if Utils.isPureIpAddress domain || domain.toList.all (·.toNat < 128) then .ok domain
  else toASCII domain

/-- `getAllByName` gives `none` where it throws. The sort by address family is stable. -/
def resolveHostToIP (getAllByName : String → Option (List InetAddress)) (host : String)
    (ipv6Preferred : Bool) : Option (List String) :=
  if Utils.isPureIpAddress host then none
  else
    match getAllByName host with
    | none | some [] => none
    | some addresses =>
      let sorted := addresses.filter (·.isInet6 == ipv6Preferred) ++
        addresses.filter (·.isInet6 != ipv6Preferred)
      some (sorted.filterMap (·.hostAddress))

end HttpUtil
end ZeroVpn
