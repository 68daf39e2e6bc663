import ZeroVpn.Util.IpSpec
import ZeroVpn.Std.UriSpec

/-!
# Hosts of links

What the address utilities do with the hosts of the URI grammar: a host name or an IPv4 address is
no IPv6 address and stays as it is.
-/

namespace ZeroVpn

namespace Utils

/-- A text without colons and brackets is no IPv6 address. -/
theorem isIpv6Address_eq_false {s : String} (hcolon : ':' ∉ s.toList) (hbracket : '[' ∉ s.toList) :
    isIpv6Address s = false := by
  rw [isIpv6Address]
  split
  · next rest heq =>
    rw [heq] at hbracket
    exact absurd List.mem_cons_self hbracket
  · by_contra hmatch
    exact hcolon (colon_mem_of_ipv6 (Bool.not_eq_false _ ▸ hmatch))

/-- ASCII text needs no conversion. -/
theorem toIdnDomain_ascii (toASCII : String → Except String String) {host : String}
    (h : ∀ c ∈ host.toList, c.toNat < 128) : HttpUtil.toIdnDomain toASCII host = .ok host := by
  have hascii : host.toList.all (·.toNat < 128) = true :=
    List.all_eq_true.mpr fun c hc => decide_eq_true (h c hc)
  rw [HttpUtil.toIdnDomain, hascii, Bool.or_true, if_pos rfl]

section
variable {underscore : Bool} {host : String} (h : Uri.isPlainHost underscore host.toList = true)
include h

theorem isIpv6Address_plainHost : isIpv6Address host = false :=
  isIpv6Address_eq_false (Uri.notMem_plainHost h (by decide)) (Uri.notMem_plainHost h (by decide))

theorem getIpv6Address_plainHost : getIpv6Address (some host) = host := by
  rw [getIpv6Address, isIpv6Address_plainHost h]
  rfl

theorem toIdnDomain_plainHost (toASCII : String → Except String String) :
    HttpUtil.toIdnDomain toASCII host = .ok host :=
  toIdnDomain_ascii toASCII fun c hc =>
    Uri.toNat_lt_of_isHostChar (Uri.isHostChar_of_mem h c hc)

end
end Utils
end ZeroVpn
