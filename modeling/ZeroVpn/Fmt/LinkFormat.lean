import ZeroVpn.Fmt.LinkSpec
import ZeroVpn.Fmt.ShareFormats

/-!
# The formats that write an address, a query and a name

The six formats share `FmtBase.toUri`: they differ in the user information they write in front of
the address and in whether they have a query. A link is read as it was written where the server is
a host for `java.net.URI` and the port is a number.
-/

namespace ZeroVpn

open FmtBase

/-- The formats of links with a name after the number sign. -/
inductive LinkFormat
  | vless | trojan | shadowsocks | socks | wireguard | hysteria2
deriving DecidableEq

namespace LinkFormat

def protocolScheme : LinkFormat → String
  | vless => AppConfig.vless
  | trojan => AppConfig.trojan
  | shadowsocks => AppConfig.shadowsocks
  | socks => AppConfig.socks
  | wireguard => AppConfig.wireguard
  | hysteria2 => AppConfig.hysteria2

/-- `order` is the order in which the entries of the query are walked, where there is one. -/
def toUri (toASCII : String → Except String String) (p : ProfileItem)
    (order : List (String × String)) : LinkFormat → Except String String
  | vless => VlessFmt.toUri toASCII p order
  | trojan => TrojanFmt.toUri toASCII p order
  | shadowsocks => ShadowsocksFmt.toUri toASCII p
  | socks => SocksFmt.toUri toASCII p
  | wireguard => WireguardFmt.toUri toASCII p order
  | hysteria2 => Hysteria2Fmt.toUri toASCII p order

def parse (lowercase : String → String) (str : String) :
    LinkFormat → Except String (Option ProfileItem)
  | vless => VlessFmt.parse str
  | trojan => (TrojanFmt.parse str).map some
  | shadowsocks => ShadowsocksFmt.parse lowercase str
  | socks => SocksFmt.parse str
  | wireguard => WireguardFmt.parse str
  | hysteria2 => (Hysteria2Fmt.parse str).map some

/-- The name of the scheme. -/
def scheme : LinkFormat → List Char
  | vless => ['v', 'l', 'e', 's', 's']
  | trojan => ['t', 'r', 'o', 'j', 'a', 'n']
  | shadowsocks => ['s', 's']
  | socks => ['s', 'o', 'c', 'k', 's']
  | wireguard => ['w', 'i', 'r', 'e', 'g', 'u', 'a', 'r', 'd']
  | hysteria2 => ['h', 'y', 's', 't', 'e', 'r', 'i', 'a', '2']

theorem isScheme_scheme (fmt : LinkFormat) : Uri.isScheme fmt.scheme = true := by
  cases fmt <;> decide

theorem protocolScheme_toList (fmt : LinkFormat) :
    fmt.protocolScheme.toList = fmt.scheme ++ [':', '/', '/'] := by
  cases fmt <;> decide

theorem isLinkChar_protocolScheme (fmt : LinkFormat) :
    ∀ c ∈ fmt.protocolScheme.toList, Link.isLinkChar c = true := by
  refine List.all_eq_true.mp ?_
  cases fmt <;> decide

/-- What a format writes in front of the address. -/
def userInfo (p : ProfileItem) : LinkFormat → Option String
  | vless | trojan | hysteria2 => p.password
  | shadowsocks =>
    some (Utils.encode (p.method.getD "null" ++ ":" ++ p.password.getD "null") true)
  | socks =>
    some (Utils.encode (if Text.isNullOrBlank p.username then ":"
      else Text.orEmpty p.username ++ ":" ++ p.password.getD "null") true)
  | wireguard => p.secretKey

def query (order : List (String × String)) : LinkFormat → Option (List (String × String))
  | shadowsocks | socks => none
  | vless | trojan | wireguard | hysteria2 => some order

theorem toUri_eq (toASCII : String → Except String String) (p : ProfileItem)
    (order : List (String × String)) (fmt : LinkFormat) :
    fmt.toUri toASCII p order = FmtBase.toUri toASCII p (fmt.userInfo p) (fmt.query order) := by
  cases fmt <;> rfl

/-- The port of a profile is a number in digits. -/
def HasPort (p : ProfileItem) (n : Int) : Prop :=
  ∃ port, p.serverPort = some port ∧ port.toList.all Char.isDigit = true ∧
    Text.toIntOrNull port = some n

/-- The link of a profile is written, and read as it was written. -/
theorem readUri_toUri {p : ProfileItem} {order : List (String × String)} {fmt : LinkFormat}
    {host : String} {n : Int}
    (hidn : HttpUtil.toIdnDomain toASCII (Text.orEmpty p.server) = .ok host)
    (hhost : Link.AcceptsHost (Link.hostOf host)) (hport : HasPort p n)
    (hkeys : ∀ e ∈ order, Link.IsSafeKey e.1) :
    ∃ link uri, fmt.toUri toASCII p order = .ok link ∧
      readUri (fmt.protocolScheme ++ link) = .ok uri ∧
      Link.Pieces uri (Text.orEmpty (fmt.userInfo p)) (Link.hostOf host) n (fmt.query order) := by
  obtain ⟨port, hserverPort, hdigits, hint⟩ := hport
  obtain ⟨m, hm, rfl, hbound⟩ := Text.digitsToNat_of_toIntOrNull hdigits hint
  have hsafe : ∀ order', fmt.query order = some order' → ∀ e ∈ order', Link.IsSafeKey e.1 := by
    intro order' heq
    obtain rfl : order = order' := by
      cases fmt <;> cases heq <;> rfl
    exact hkeys
  refine ⟨_, _, (toUri_eq toASCII p order fmt).trans (toUri_eq_ok hidn _ _), ?_,
    Link.pieces_uriOf fmt.scheme _ _ p.remarks m (fmt.query order)⟩
  rw [hserverPort]
  exact Link.readUri_linkText fmt.protocolScheme_toList fmt.isScheme_scheme hhost hdigits hm hbound
    hsafe

end LinkFormat
end ZeroVpn
