import ZeroVpn.Fmt.LinkFormat
import ZeroVpn.Verify.DefaultOutbound

/-!
# Credentials in Base64

Shadowsocks and SOCKS links carry `name:password` in Base64, percent-encoded. The reader undoes both
and cuts at the first colon, so a name without one and any password come back.
-/

namespace ZeroVpn

open FmtBase Text

/-- The credentials of a link are read as they were written. -/
theorem FmtBase.readCredentials_encode {name : String} (h : ':' ∉ name.toList) (password : String) :
    readCredentials (Utils.encode (name ++ ":" ++ password) true) = (name, some password) := by
  have hcolon : containsChar (Utils.encode (name ++ ":" ++ password) true) ':' = false := by
    rw [containsChar, List.contains_eq_mem, decide_eq_false_iff_not]
    exact Utils.notMem_encode (by decide) (by decide +kernel) _ true
  rw [readCredentials, hcolon, if_neg Bool.false_ne_true,
    Utils.decode_encode (credentials_ne_empty _ _) true, splitFirst_append (by decide) h]

namespace LinkFormat

/-- The formats whose user information is a name and a password in Base64. -/
inductive HasCredentials : LinkFormat → Prop
  | shadowsocks : HasCredentials .shadowsocks
  | socks : HasCredentials .socks

/-- The method of a Shadowsocks profile, the user name of a SOCKS profile. -/
def accountName (fmt : LinkFormat) (p : ProfileItem) : Option String :=
  if fmt = shadowsocks then p.method else p.username

/-- A method is not empty, a user name not blank, and neither has a colon. -/
def IsAccountName (fmt : LinkFormat) (name : String) : Prop :=
  ':' ∉ name.toList ∧ if fmt = shadowsocks then name ≠ "" else isBlank name = false

section
variable {toASCII : String → Except String String} {p : ProfileItem} {fmt : LinkFormat}
  {name password : String}

theorem userInfo_eq (hfmt : HasCredentials fmt) (hname : fmt.accountName p = some name)
    (hvalid : fmt.IsAccountName name) (hpassword : p.password = some password) :
    fmt.userInfo p = some (Utils.encode (name ++ ":" ++ password) true) := by
  cases hfmt with
  | shadowsocks =>
    have hmethod : p.method = some name := hname
    rw [userInfo, hmethod, hpassword]
    rfl
  | socks =>
    have husername : p.username = some name := hname
    have hblank : isNullOrBlank (some name) = false := hvalid.2
    rw [userInfo, husername, hpassword, hblank]
    rfl

/-- The profile that is read from a URI with credentials. -/
theorem parse_of_credentials {str : String} {uri : Uri} (hfmt : HasCredentials fmt)
    (huri : readUri str = .ok uri) (hhost : uri.idnHost ≠ "") (hport : 0 < uri.port)
    (hquery : uri.rawQuery = none)
    (huser : uri.userInfo = some (Utils.encode (name ++ ":" ++ password) true))
    (hcolon : ':' ∉ name.toList) :
    ∃ q, fmt.parse lowercase str = .ok (some q) ∧ fmt.accountName q = some name ∧
      q.password = some password ∧ q.server = some uri.idnHost ∧
      q.serverPort = some (toString uri.port) := by
  have hne : Utils.encode (name ++ ":" ++ password) true ≠ "" :=
    Utils.encode_ne_empty (credentials_ne_empty _ _) true
  cases hfmt with
  | shadowsocks =>
    have hsip : ShadowsocksFmt.parseSip002 str = .ok (some
        { readAddress (.create .shadowsocks) uri with
          method := some name, password := some password }) := by
      rw [ShadowsocksFmt.parseSip002, huri]
      dsimp only [bind, Except.bind]
      rw [if_neg hhost, if_neg (by omega), huser]
      dsimp only
      rw [if_neg hne, readCredentials_encode hcolon, hquery]
      rfl
    refine ⟨{ readAddress (.create .shadowsocks) uri with
      method := some name, password := some password }, ?_, rfl, rfl, rfl, rfl⟩
    rw [parse, ShadowsocksFmt.parse, hsip]
    rfl
  | socks =>
    refine ⟨{ readAddress (.create .socks) uri with
      username := some name, password := some password }, ?_, rfl, rfl, rfl, rfl⟩
    rw [parse, SocksFmt.parse, huri]
    dsimp only [bind, Except.bind]
    rw [if_neg hhost, if_neg (by omega), huser]
    dsimp only
    rw [if_neg hne, readCredentials_encode hcolon]
    rfl

end

/-- A Shadowsocks or SOCKS profile that can be shared: `host` is its server as `toIdnDomain` writes
it, which `java.net.URI` accepts, and `n` its port. -/
structure Shared (toASCII : String → Except String String) (fmt : LinkFormat) (p : ProfileItem)
    (name password host : String) (n : Int) : Prop where
  format : HasCredentials fmt
  account : fmt.accountName p = some name
  valid : fmt.IsAccountName name
  secret : p.password = some password
  server : HttpUtil.toIdnDomain toASCII (orEmpty p.server) = .ok host
  accepted : Link.AcceptsHost (Link.hostOf host)
  port : HasPort p n
  range : 1 ≤ n ∧ n ≤ 65535

/-- The credentials, the port and the server of a profile come back from its link; the server is
the normalised one, an IPv6 address without its brackets. -/
theorem credentials_of_link {toASCII : String → Except String String}
    {lowercase : String → String} {fmt : LinkFormat} {p : ProfileItem}
    {name password host : String} {n : Int} (h : Shared toASCII fmt p name password host n) :
    ∃ link q, fmt.toUri toASCII p [] = .ok link ∧
      fmt.parse lowercase (fmt.protocolScheme ++ link) = .ok (some q) ∧
      fmt.accountName q = some name ∧ q.password = some password ∧
      q.server = some (Link.stripBrackets host) ∧ q.serverPort = some (toString n) := by
  obtain ⟨link, uri, hlink, huri, hpieces⟩ :=
    readUri_toUri h.server h.accepted h.port (fun _ he => absurd he List.not_mem_nil)
  have huser := hpieces.userInfo
  rw [userInfo_eq h.format h.account h.valid h.secret, orEmpty] at huser
  have hhost : uri.idnHost ≠ "" := by
    rw [hpieces.idnHost]
    exact Link.stripBrackets_ne_empty h.accepted
  have hpos : 0 < uri.port := by
    rw [hpieces.port]
    exact h.range.1
  have hnone : uri.rawQuery = none := by
    rw [hpieces.rawQuery]
    cases h.format <;> rfl
  obtain ⟨q, hparse, hname, hpassword, hidn, hnumber⟩ :=
    @parse_of_credentials fmt name password lowercase _ _ h.format huri hhost hpos hnone huser
      h.valid.1
  rw [hpieces.idnHost, Link.stripBrackets_hostOf] at hidn
  rw [hpieces.port] at hnumber
  exact ⟨link, q, hlink, hparse, hname, hpassword, hidn, hnumber⟩

/-- A server at an IPv6 address, with a password that has colons itself. -/
def shadowsocksServer : ProfileItem :=
  { ProfileItem.create .shadowsocks with
    server := some "::1"
    serverPort := some "0443"
    method := some "aes-256-gcm"
    password := some ":ü:" }

theorem shadowsocksServer_of_link : ∃ link q,
    shadowsocks.toUri plainPlatform.toASCII shadowsocksServer [] = .ok link ∧
      shadowsocks.parse id ("ss://" ++ link) = .ok (some q) ∧
      q.method = some "aes-256-gcm" ∧ q.password = some ":ü:" ∧
      q.server = some "::1" ∧ q.serverPort = some "443" := by
  have hshared : Shared plainPlatform.toASCII .shadowsocks shadowsocksServer "aes-256-gcm" ":ü:"
      "::1" 443 :=
    { format := .shadowsocks
      account := rfl
      valid := ⟨by decide, by decide⟩
      secret := rfl
      server := rfl
      accepted := by decide
      port := ⟨"0443", rfl, by decide, by decide⟩
      range := by decide }
  have hserver : Link.stripBrackets "::1" = "::1" := by decide
  obtain ⟨link, q, hlink, hparse, hname, hpassword, hidn, hport⟩ :=
    @credentials_of_link _ id _ _ _ _ _ _ hshared
  exact ⟨link, q, hlink, hparse, hname, hpassword, hidn.trans (congrArg some hserver), hport⟩

end LinkFormat
end ZeroVpn
