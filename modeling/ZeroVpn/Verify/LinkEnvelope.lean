import ZeroVpn.Fmt.LinkFormat

/-!
# The envelope of a link

Every format writes its user information, address and parameters with `FmtBase.toUri`. The pieces
are read back as they were written if and only if the writer knows the server for what it is
(`readsBack_iff`): an IPv6 address that ends in an IPv4 address, or has a scope, gets no brackets.
-/

namespace ZeroVpn.Link

open FmtBase

/-- The pieces of a link are read from its URI as they were written. -/
structure ReadsBack (uri : Uri) (userInfo server : String) (n : Int)
    (dicQuery : List (String × String)) : Prop where
  query : getQueryParam (Text.orEmpty uri.rawQuery) = .ok dicQuery
  userInfo : uri.userInfo = some userInfo
  idnHost : uri.idnHost = stripBrackets server
  port : uri.port = n

section
variable {toASCII : String → Except String String} {config : ProfileItem}
  {userInfo server front port : String} {scheme : List Char} {n : Nat}
  {dicQuery : List (String × String)} (hfront : front.toList = scheme ++ [':', '/', '/'])
  (hscheme : Uri.isScheme scheme = true) (hkeys : ∀ e ∈ dicQuery, IsSafeKey e.1)
  (hhost : Uri.IsHost server) (hport : port.toList.all Char.isDigit = true)
include hfront hscheme hkeys hhost hport

/-- Reading the link of a server is reading its authority. -/
theorem readUri_hostOf (remarks : String) {uri : Uri} :
    readUri (front ++ linkText userInfo (hostOf server) port remarks (some dicQuery)) = .ok uri ↔
      ∃ found, Uri.parseAuthority true (authority userInfo (hostOf server) port) = some found ∧
        uri = Uri.ofServer scheme (some (queryString dicQuery).toList)
          (Utils.encodeURIComponent remarks).toList found := by
  have hchars := isAddressChar_hostOf hhost
  have hquery : ∀ order, some dicQuery = some order → ∀ e ∈ order, IsSafeKey e.1 := by
    rintro _ ⟨⟩
    exact hkeys
  rw [readUri, fixIllegalUrl_linkText hfront hscheme hchars hport hquery,
    parse_linkText hfront hscheme hchars hport hquery]
  cases Uri.parseAuthority true (authority userInfo (hostOf server) port) with
  | none => exact iff_of_false (by simp) (by simp)
  | some found =>
    constructor
    · intro h
      exact ⟨found, rfl, (Except.ok.inj h).symm⟩
    · rintro ⟨_, ⟨⟩, rfl⟩
      rfl

theorem readsBack_of_known (hn : Text.digitsToNat port.toList = some n) (hmax : n ≤ 2147483647)
    (hne : dicQuery ≠ []) (hknown : KnownHost server) (remarks : String) :
    ∃ uri, readUri (front ++ linkText userInfo (hostOf server) port remarks (some dicQuery)) =
        .ok uri ∧ ReadsBack uri userInfo server n dicQuery := by
  have hquery : ∀ order, some dicQuery = some order → ∀ e ∈ order, IsSafeKey e.1 := by
    rintro _ ⟨⟩
    exact hkeys
  have hpieces := pieces_uriOf scheme userInfo (hostOf server) remarks n (some dicQuery)
  refine ⟨_, readUri_linkText hfront hscheme (acceptsHost_hostOf hhost hknown) hport hn hmax hquery,
    ?_⟩
  constructor
  case query =>
    rw [hpieces.rawQuery]
    exact getQueryParam_queryString hne hkeys
  case userInfo => exact hpieces.userInfo
  case idnHost => exact hpieces.idnHost.trans (stripBrackets_hostOf server)
  case port => rfl

/-- A server that is not known is no server: the authority is registry-based. -/
theorem registry_of_not_known (hknown : ¬KnownHost server) {remarks : String} {uri : Uri}
    (h : readUri (front ++ linkText userInfo (hostOf server) port remarks (some dicQuery)) =
      .ok uri) : uri.host = none ∧ uri.userInfo = none ∧ uri.port = -1 := by
  rw [KnownHost, Classical.not_imp, not_or] at hknown
  obtain ⟨hcolon, hopen, hipv6⟩ := hknown
  have hsame : hostOf server = server := by
    rw [hostOf, Utils.getIpv6Address]
    simp [hipv6]
  obtain ⟨found, hauthority, rfl⟩ := (readUri_hostOf hfront hscheme hkeys hhost hport remarks).mp h
  rw [hsame] at hauthority
  rw [Uri.parseAuthority_of_colon (isUserInfoText_encodeURIComponent userInfo) hcolon hopen
    hauthority]
  exact ⟨rfl, rfl, rfl⟩

end

/-- The pieces of a link are read as they were written exactly if the server is known. -/
theorem readsBack_iff {toASCII : String → Except String String} {config : ProfileItem}
    {userInfo server front : String} {scheme : List Char} {n : Int}
    {dicQuery : List (String × String)} (hfront : front.toList = scheme ++ [':', '/', '/'])
    (hscheme : Uri.isScheme scheme = true) (hne : dicQuery ≠ [])
    (hkeys : ∀ e ∈ dicQuery, ∀ c ∈ e.1.toList, c.isAlphanum = true ∨ c = '_' ∨ c = '-')
    (hidn : HttpUtil.toIdnDomain toASCII (Text.orEmpty config.server) = .ok server)
    (hhost : Uri.IsHost server) (hport : LinkFormat.HasPort config n)
    (hrange : 1 ≤ n ∧ n ≤ 65535) :
    ∃ link, toUri toASCII config (some userInfo) (some dicQuery) = .ok link ∧
      ((∃ uri, readUri (front ++ link) = .ok uri ∧ ReadsBack uri userInfo server n dicQuery) ↔
        KnownHost server) := by
  obtain ⟨port, hserverPort, hdigits, hint⟩ := hport
  obtain ⟨m, hm, rfl, hbound⟩ := Text.digitsToNat_of_toIntOrNull hdigits hint
  have hsafe : ∀ e ∈ dicQuery, IsSafeKey e.1 := by
    intro e he c hc
    rcases hkeys e he c hc with h | rfl | rfl
    · rw [URLEncoder.isSafe, h]
      rfl
    · decide
    · decide
  refine ⟨linkText userInfo (hostOf server) port config.remarks (some dicQuery), ?_, ?_, ?_⟩
  · rw [toUri_eq_ok hidn, hserverPort]
    rfl
  · rintro ⟨uri, hread, hback⟩
    by_contra hknown
    obtain ⟨-, -, hnone⟩ :=
      registry_of_not_known hfront hscheme hsafe hhost hdigits hknown hread
    rw [hback.port] at hnone
    omega
  · intro hknown
    exact readsBack_of_known hfront hscheme hsafe hhost hdigits hm hbound hne hknown config.remarks

/-! ## An IPv6 address that ends in an IPv4 address -/

def addressedServer (server : String) : ProfileItem :=
  { ProfileItem.create .vless with
    remarks := "Home"
    server := some server
    serverPort := some "443" }

theorem ipv6Server_readsBack : ∃ link uri,
    toUri .ok (addressedServer "2001:db8::1") (some "a b") (some [("obfs-type", "x&y")]) =
        .ok link ∧
      readUri ("vless://" ++ link) = .ok uri ∧
      ReadsBack uri "a b" "2001:db8::1" 443 [("obfs-type", "x&y")] := by
  obtain ⟨link, hlink, hread⟩ := @readsBack_iff .ok (addressedServer "2001:db8::1") "a b"
    "2001:db8::1" "vless://" "vless".toList 443 [("obfs-type", "x&y")] (by decide) (by decide)
    (by decide) (by simp) (by decide) (.ipv6 (by decide)) ⟨"443", rfl, by decide, by decide⟩
    (by decide)
  obtain ⟨uri, huri, hback⟩ := hread.mpr (by decide)
  exact ⟨link, uri, hlink, huri, hback⟩

/-- `java.net.URI` has the address as a host, but the writer gives it no brackets. -/
theorem mapped_address_lost : Uri.isIPv6Reference "::ffff:192.0.2.1".toList = true ∧
    ∃ link uri, toUri .ok (addressedServer "::ffff:192.0.2.1") (some "u")
        (some [("type", "tcp")]) = .ok link ∧
      readUri ("vless://" ++ link) = .ok uri ∧
      uri.host = none ∧ uri.userInfo = none ∧ uri.port = -1 := by
  have hfront : "vless://".toList = "vless".toList ++ [':', '/', '/'] := by decide
  have hscheme : Uri.isScheme "vless".toList = true := by decide
  have hkeys : ∀ e ∈ [("type", "tcp")], IsSafeKey e.1 := by
    unfold IsSafeKey
    simp
    decide
  have hhost : Uri.IsHost "::ffff:192.0.2.1" := .ipv6 (by decide)
  have hport : "443".toList.all Char.isDigit = true := by decide
  have hread := (@readUri_hostOf "u" _ _ _ _ _ hfront hscheme hkeys hhost hport "Home" _).mpr
    ⟨none, rfl, rfl⟩
  exact ⟨by decide, _, _, rfl, hread,
    registry_of_not_known hfront hscheme hkeys hhost hport (by decide) hread⟩

end ZeroVpn.Link
