import ZeroVpn.Util.UriCoding

/-!
# Subscription URLs

`isValidSubUrl` accepts every `https` URL, and an `http` one for the sake of private addresses.
-/

namespace ZeroVpn

open Text

namespace URLUtil
variable (fold : Char → Char)

def isHttpUrl (url : String) : Bool :=
  6 < url.length && equalsIgnoreCase fold (String.ofList (url.toList.take 7)) "http://"

def isHttpsUrl (url : String) : Bool :=
  7 < url.length && equalsIgnoreCase fold (String.ofList (url.toList.take 8)) "https://"

end URLUtil

namespace Utils

def isIpAddress (value : Option String) : Bool :=
  let addr := trim (orEmpty value)
  if addr = "" then false
  else
    let addr := match split '/' addr with
      | [address, length] => if (toIntOrNull length).any (-1 < ·) then address else addr
      | _ => addr
    -- an IPv4 address mapped to IPv6
    let addr :=
      if startsWith addr "::ffff:" && containsChar addr '.' then
        String.ofList (addr.toList.drop 7)
      else if startsWith addr "[::ffff:" && containsChar addr '.' then
        String.ofList ((addr.toList.drop 8).filter (· != ']'))
      else addr
    match split '.' addr with
    | [_, _, _, last] =>
      isIpv4Address (if containsChar last ':' then
        String.ofList (addr.toList.takeWhile (· != ':')) else addr)
    | _ => isIpv6Address addr

def octets (ip : String) : List (Option Nat) :=
  (split '.' ip).map fun octet => digitsToNat octet.toList

def ipv4ToLong (ip : String) : Nat :=
  (octets ip).foldl (fun result octet => (result <<< 8) ||| octet.getD 0) 0

def isIpInCidr (ip cidr : String) : Bool :=
  match split '/' cidr with
  | [address, length] =>
    isIpv4Address ip && isIpv4Address address &&
      ((toIntOrNull length).filter fun n => 0 ≤ n && n ≤ 32).any fun prefixLength =>
        -- the 64 bits of `-1L shl (32 - prefixLength)`
        let mask := if prefixLength = 0 then 0 else 2 ^ 64 - 2 ^ (32 - prefixLength.toNat)
        ipv4ToLong ip &&& mask == ipv4ToLong address &&& mask
  | _ => false

def isValidSubUrl (fold : Char → Char) (value : Option String) : Bool :=
  let url := orEmpty value
  if url = "" then false
  else if URLUtil.isHttpsUrl fold url then true
  else if URLUtil.isHttpUrl fold url then
    contains url AppConfig.loopback ||
      match Uri.parse true (fixIllegalUrl url) with
      | some uri => isIpAddress uri.host &&
          AppConfig.privateIpList.any fun cidr => uri.host.any (isIpInCidr · cidr)
      -- a syntax error
      | none => false
  else false

end Utils
end ZeroVpn
