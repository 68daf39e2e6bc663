import ZeroVpn.Verify.LinkRoundTrip

/-!
# The name of a profile through its link

`toUri` percent-encodes the remarks once. The readers take them from `getFragment`, which decodes
them, and then decode them once more; only a legacy Shadowsocks link is decoded once.
-/

namespace ZeroVpn

open FmtBase Utils String Text

/-! ## The text of a link -/

namespace Link

/-- The name of a link, whatever its address and query are. -/
theorem fragment_of_readUri {front main remarks : String} {uri : Uri}
    (hfront : front.toList = scheme ++ [':', '/', '/']) (hscheme : Uri.isScheme scheme = true)
    (hchars : ∀ c ∈ front.toList, isLinkChar c = true)
    (h : readUri (front ++ (main ++ "#" ++ encodeURIComponent remarks)) = .ok uri) :
    uri.fragment = some remarks ∧ '#' ∉ main.toList := by
  have hhash : fixIllegalUrl "#" = "#" := by decide
  have hlist : "#".toList = ['#'] := by decide
  have htext : (fixIllegalUrl
      (front ++ (main ++ "#" ++ encodeURIComponent remarks))).toList =
      scheme ++ ':' :: (('/' :: '/' :: (fixIllegalUrl main).toList) ++
        '#' :: (encodeURIComponent remarks).toList) := by
    rw [fixIllegalUrl_append, fixIllegalUrl_append, fixIllegalUrl_append, hhash,
      fixIllegalUrl_encodeURIComponent, fixIllegalUrl_of_isLinkChar hchars]
    simp only [toList_append, hfront, hlist, List.append_assoc, List.cons_append,
      List.nil_append]
  rw [readUri] at h
  split at h
  · next uri' hparse =>
    cases h
    obtain ⟨hfragment, hnot⟩ := Uri.rawFragment_of_parse htext hscheme hparse
    refine ⟨?_, fun hmem => hnot ?_⟩
    · rw [Uri.fragment, hfragment, ofList_toList, Option.map_some,
        uriDecode_encodeURIComponent]
    · exact List.mem_cons_of_mem _ (List.mem_cons_of_mem _
        (mem_replaceChar (mem_replaceChar hmem (by decide)) (by decide)))
  · cases h

theorem exists_toUri_eq {p : ProfileItem} (h : FmtBase.toUri toASCII p userInfo query = .ok link) :
    ∃ rest, link = encodeURIComponent (orEmpty userInfo) ++ "@" ++ rest ++ "#" ++
      encodeURIComponent p.remarks := by
  rw [FmtBase.toUri] at h
  cases hhost : HttpUtil.toIdnDomain toASCII (orEmpty p.server) with
  | error e =>
    rw [hhost] at h
    cases h
  | ok host =>
    rw [hhost] at h
    refine ⟨getIpv6Address (some host) ++ ":" ++ p.serverPort.getD "null" ++ queryText query,
      (Except.ok.inj h).symm.trans ?_⟩
    simp only [append_assoc]

end Link

namespace LinkFormat

/-- The link is none of SIP002, and read as a legacy one. -/
def ReadsLegacy (fmt : LinkFormat) (str : String) : Prop :=
  fmt = .shadowsocks ∧ ShadowsocksFmt.parseSip002 str = .ok none

theorem exists_toUri_eq {p : ProfileItem} {fmt : LinkFormat}
    (h : fmt.toUri toASCII p order = .ok link) :
    ∃ userInfo rest, link = encodeURIComponent userInfo ++ "@" ++ rest ++ "#" ++
      encodeURIComponent p.remarks := by
  cases fmt <;> exact ⟨_, Link.exists_toUri_eq h⟩

/-- The name that the readers take from a URI. -/
def remarksOf (uri : Uri) : String :=
  ifEmpty (Utils.decodeURIComponent (orEmpty uri.fragment)) "none"

/-- The name was read from the fragment of the link. -/
def NamedBy (q : ProfileItem) (str : String) : Prop :=
  ∃ uri, readUri str = .ok uri ∧ q.remarks = remarksOf uri

variable (config : ProfileItem)

theorem readServer_remarks (uri : Uri) : (readServer config uri).remarks = remarksOf uri := by
  rw [readServer, remarksOf]

theorem readAddress_remarks (uri : Uri) : (readAddress config uri).remarks = remarksOf uri := by
  rw [readAddress, remarksOf]

theorem readPlugin_remarks (queryParam : List (String × String)) :
    (ShadowsocksFmt.readPlugin config queryParam).remarks = config.remarks := by
  unfold ShadowsocksFmt.readPlugin
  split
  · rfl
  · split <;> rfl

variable {q : ProfileItem} {lowercase : String → String} {fmt : LinkFormat}

section read
variable {str : String}

theorem vless_remarks (h : VlessFmt.parse str = .ok (some q)) : NamedBy q str := by
  obtain ⟨uri, huri, h⟩ := bind_eq_ok.mp h
  refine ⟨uri, huri, ?_⟩
  split at h
  · cases h
  · split at h
    · cases h
    · obtain ⟨queryParam, -, h⟩ := bind_eq_ok.mp h
      rw [← Option.some.inj (Except.ok.inj h)]
      simp only [getItemFormQuery, readServer_remarks]

theorem trojan_remarks (h : TrojanFmt.parse str = .ok q) : NamedBy q str := by
  obtain ⟨uri, huri, h⟩ := bind_eq_ok.mp h
  refine ⟨uri, huri, ?_⟩
  split at h
  · rw [← Except.ok.inj h]
    simp only [readServer_remarks]
  · obtain ⟨queryParam, -, h⟩ := bind_eq_ok.mp h
    rw [← Except.ok.inj h]
    simp only [getItemFormQuery, readServer_remarks]

theorem sip002_remarks (h : ShadowsocksFmt.parseSip002 str = .ok (some q)) : NamedBy q str := by
  obtain ⟨uri, huri, h⟩ := bind_eq_ok.mp h
  refine ⟨uri, huri, ?_⟩
  dsimp only at h
  split at h
  · cases h
  · split at h
    · cases h
    · split at h
      · cases h
      · split at h
        · cases h
        · split at h
          · rw [← Option.some.inj (Except.ok.inj h)]
            split <;> simp only [readAddress_remarks]
          · obtain ⟨queryParam, -, h⟩ := bind_eq_ok.mp h
            rw [← Option.some.inj (Except.ok.inj h), readPlugin_remarks]
            split <;> simp only [readAddress_remarks]

theorem socks_remarks (h : SocksFmt.parse str = .ok (some q)) : NamedBy q str := by
  obtain ⟨uri, huri, h⟩ := bind_eq_ok.mp h
  refine ⟨uri, huri, ?_⟩
  split at h
  · cases h
  · split at h
    · cases h
    · split at h
      · rw [← Option.some.inj (Except.ok.inj h)]
        simp only [readAddress_remarks]
      · split at h
        · rw [← Option.some.inj (Except.ok.inj h)]
          simp only [readAddress_remarks]
        · split at h
          · rw [← Option.some.inj (Except.ok.inj h)]
            simp only [readAddress_remarks]
          · rw [← Option.some.inj (Except.ok.inj h)]
            simp only [readAddress_remarks]

theorem wireguard_remarks (h : WireguardFmt.parse str = .ok (some q)) : NamedBy q str := by
  obtain ⟨uri, huri, h⟩ := bind_eq_ok.mp h
  refine ⟨uri, huri, ?_⟩
  split at h
  · cases h
  · obtain ⟨queryParam, -, h⟩ := bind_eq_ok.mp h
    rw [← Option.some.inj (Except.ok.inj h), WireguardFmt.readQuery, readAddress_remarks]

theorem hysteria2_remarks (h : Hysteria2Fmt.parse str = .ok q) : NamedBy q str := by
  obtain ⟨uri, huri, h⟩ := bind_eq_ok.mp h
  refine ⟨uri, huri, ?_⟩
  split at h
  · rw [← Except.ok.inj h, Hysteria2Fmt.readLink, readServer_remarks]
  · obtain ⟨queryParam, -, h⟩ := bind_eq_ok.mp h
    rw [← Except.ok.inj h]
    simp only [Hysteria2Fmt.readQuery, getItemFormQuery, Hysteria2Fmt.readLink, readServer_remarks]

theorem map_some_eq_ok {x : Except String ProfileItem} (h : x.map some = .ok (some q)) :
    x = .ok q := by
  cases x with
  | error e => cases h
  | ok p =>
    cases h
    rfl

/-- The name is read from the fragment and decoded again. -/
theorem remarks_of_parse (h : fmt.parse lowercase str = .ok (some q))
    (hlegacy : ¬fmt.ReadsLegacy str) : NamedBy q str := by
  cases fmt with
  | vless => exact vless_remarks h
  | trojan => exact trojan_remarks (map_some_eq_ok h)
  | socks => exact socks_remarks h
  | wireguard => exact wireguard_remarks h
  | hysteria2 => exact hysteria2_remarks (map_some_eq_ok h)
  | shadowsocks =>
    obtain ⟨config, hsip, h⟩ := bind_eq_ok.mp h
    cases config with
    | none => exact absurd ⟨rfl, hsip⟩ hlegacy
    | some config =>
      cases h
      exact sip002_remarks hsip

theorem parseLegacy_of_parse (h : fmt.parse lowercase str = .ok (some q))
    (hlegacy : fmt.ReadsLegacy str) : ShadowsocksFmt.parseLegacy lowercase str = some q := by
  obtain ⟨rfl, hsip⟩ := hlegacy
  rw [parse, ShadowsocksFmt.parse, hsip] at h
  exact Except.ok.inj h

end read

/-- The address of a link does not begin with the scheme. -/
theorem removeAll_scheme_ne_nil (userInfo : String) (rest : List Char) :
    removeAllAux AppConfig.shadowsocks.toList 0
      ((encodeURIComponent userInfo).toList ++ '@' :: rest) ≠ [] := by
  have hcolon : ':' ∉ (encodeURIComponent userInfo).toList :=
    notMem_encodeURIComponent (by decide)
  have hscheme : AppConfig.shadowsocks.toList = ['s', 's', ':', '/', '/'] := by decide
  have hnot : ¬AppConfig.shadowsocks.toList.isPrefixOf
      ((encodeURIComponent userInfo).toList ++ '@' :: rest) = true := by
    rw [hscheme]
    generalize (encodeURIComponent userInfo).toList = cs at hcolon ⊢
    -- the third character is the colon of the scheme
    rcases cs with _ | ⟨a, _ | ⟨b, _ | ⟨c, cs⟩⟩⟩
    · simp
    · simp
    · simp
    · simp only [List.mem_cons, not_or] at hcolon
      simp [hcolon.2.2.1]
  cases htext : (encodeURIComponent userInfo).toList ++ '@' :: rest with
  | nil => simp at htext
  | cons c cs =>
    rw [htext] at hnot
    rw [removeAllAux, if_neg hnot]
    exact List.cons_ne_nil _ _

/-- A legacy link is decoded once. -/
theorem legacy_remarks {userInfo rest remarks : String} {q : ProfileItem}
    (hhash : '#' ∉ (encodeURIComponent userInfo ++ "@" ++ rest).toList)
    (h : ShadowsocksFmt.parseLegacy lowercase (AppConfig.shadowsocks ++
      (encodeURIComponent userInfo ++ "@" ++ rest ++ "#" ++
        encodeURIComponent remarks)) = some q) : q.remarks = remarks := by
  have hlist : "#".toList = ['#'] ∧ "@".toList = ['@'] := by decide
  have haddress : (encodeURIComponent userInfo ++ "@" ++ rest).toList =
      (encodeURIComponent userInfo).toList ++ '@' :: rest.toList := by
    simp only [toList_append, hlist.2, List.append_assoc, List.singleton_append]
  obtain ⟨main, hmain⟩ : ∃ main, main = removeAllAux AppConfig.shadowsocks.toList 0
    ((encodeURIComponent userInfo).toList ++ '@' :: rest.toList) := ⟨_, rfl⟩
  -- the scheme goes, the name stays
  have hremoved : removeAll AppConfig.shadowsocks (AppConfig.shadowsocks ++
      (encodeURIComponent userInfo ++ "@" ++ rest ++ "#" ++
        encodeURIComponent remarks)) =
      ofList main ++ "#" ++ encodeURIComponent remarks := by
    have hname : removeAllAux AppConfig.shadowsocks.toList 0
        (encodeURIComponent remarks).toList = (encodeURIComponent remarks).toList :=
      removeAllAux_of_notMem (by decide : ':' ∈ AppConfig.shadowsocks.toList)
        (notMem_encodeURIComponent (by decide))
    rw [← toList_inj, removeAll, toList_ofList, toList_append,
      removeAllAux_append_self (by decide), toList_append, toList_append, haddress, hlist.1,
      List.append_assoc, List.singleton_append,
      removeAllAux_append_cons (by decide) (by decide) (Nat.zero_le _), hname, ← hmain]
    simp only [toList_append, toList_ofList, hlist.1, List.append_assoc,
      List.singleton_append]
  have hnot : '#' ∉ main := by
    intro hmem
    rw [hmain] at hmem
    rw [haddress] at hhash
    exact hhash (mem_of_mem_removeAllAux hmem)
  have hne : ofList main ≠ "" := by
    intro hempty
    have hnil := congrArg toList hempty
    rw [toList_ofList] at hnil
    rw [hnil] at hmain
    exact removeAll_scheme_ne_nil userInfo rest.toList hmain.symm
  have hsplit : ShadowsocksFmt.splitRemarks
      (ofList main ++ "#" ++ encodeURIComponent remarks) =
      (ofList main, some (encodeURIComponent remarks)) := by
    rw [ShadowsocksFmt.splitRemarks, splitFirst_append hlist.1]
    · exact if_neg hne
    · rwa [toList_ofList]
  rw [ShadowsocksFmt.parseLegacy, hremoved, hsplit] at h
  obtain ⟨groups, -, hq⟩ := Option.map_eq_some_iff.mp h
  rw [← hq]
  simp only [Option.map_some, Option.getD_some, decodeURIComponent_encodeURIComponent]

section share
variable {toASCII : String → Except String String} {p : ProfileItem}
  {order : List (String × String)} {link : String}

/-- Outside legacy links the name is decoded twice. -/
theorem remarks_of_link (hlink : fmt.toUri toASCII p order = .ok link)
    (hparse : fmt.parse lowercase (fmt.protocolScheme ++ link) = .ok (some q))
    (hlegacy : ¬fmt.ReadsLegacy (fmt.protocolScheme ++ link)) :
    q.remarks = ifEmpty (decodeURIComponent p.remarks) "none" := by
  obtain ⟨uri, huri, hq⟩ := remarks_of_parse hparse hlegacy
  obtain ⟨userInfo, rest, rfl⟩ := exists_toUri_eq hlink
  obtain ⟨hfragment, -⟩ := Link.fragment_of_readUri fmt.protocolScheme_toList fmt.isScheme_scheme
    fmt.isLinkChar_protocolScheme huri
  rw [hq, remarksOf, hfragment, orEmpty, Option.getD_some]

theorem remarks_of_legacy_link (hlink : fmt.toUri toASCII p order = .ok link)
    (hparse : fmt.parse lowercase (fmt.protocolScheme ++ link) = .ok (some q))
    (hlegacy : fmt.ReadsLegacy (fmt.protocolScheme ++ link)) : q.remarks = p.remarks := by
  have hread := parseLegacy_of_parse hparse hlegacy
  obtain ⟨userInfo, rest, rfl⟩ := exists_toUri_eq hlink
  obtain ⟨rfl, hsip⟩ := hlegacy
  obtain ⟨uri, huri, -⟩ := bind_eq_ok.mp hsip
  obtain ⟨-, hhash⟩ := Link.fragment_of_readUri (protocolScheme_toList .shadowsocks)
    (isScheme_scheme .shadowsocks) (isLinkChar_protocolScheme .shadowsocks) huri
  exact legacy_remarks hhash hread

/-- The link of a server that `java.net.URI` accepts, with a port in digits, is a legacy one if the
port is not positive. -/
theorem readsLegacy_iff (hlink : fmt.toUri toASCII p order = .ok link) {host : String} {n : Int}
    (hidn : HttpUtil.toIdnDomain toASCII (orEmpty p.server) = .ok host)
    (hhost : Link.AcceptsHost (Link.hostOf host)) (hport : HasPort p n) :
    fmt.ReadsLegacy (fmt.protocolScheme ++ link) ↔ fmt = .shadowsocks ∧ n ≤ 0 := by
  refine and_congr_right ?_
  rintro rfl
  obtain ⟨link', uri, hlink', huri, hpieces⟩ := @readUri_toUri toASCII p [] shadowsocks host n hidn
    hhost hport (List.forall_mem_nil _)
  obtain rfl : link' = link := Except.ok.inj (hlink'.symm.trans hlink)
  have hne : uri.idnHost ≠ "" := by
    rw [hpieces.idnHost]
    exact Link.stripBrackets_ne_empty hhost
  rw [ShadowsocksFmt.parseSip002, huri]
  dsimp only [bind, Except.bind]
  rw [if_neg hne, hpieces.port, hpieces.userInfo]
  by_cases hn : n ≤ 0
  · rw [if_pos hn]
    exact iff_of_true rfl hn
  · rw [if_neg hn]
    dsimp only
    have huser : orEmpty (shadowsocks.userInfo p) ≠ "" :=
      encode_ne_empty (credentials_ne_empty _ _) true
    rw [if_neg huser, hpieces.rawQuery]
    exact iff_of_false nofun hn

/-- A name survives sharing when decoding leaves it alone, or when the link is a legacy one: of a
Shadowsocks server that `java.net.URI` accepts, the one of port 0. -/
theorem remarks_survive_iff (hremarks : p.remarks ≠ "")
    (hlink : fmt.toUri toASCII p order = .ok link)
    (hparse : fmt.parse lowercase (fmt.protocolScheme ++ link) = .ok (some q)) :
    (q.remarks = p.remarks ↔
      Utils.decodeURIComponent p.remarks = p.remarks ∨
        fmt.ReadsLegacy (fmt.protocolScheme ++ link)) ∧
    ∀ host n, HttpUtil.toIdnDomain toASCII (orEmpty p.server) = .ok host →
      Link.AcceptsHost (Link.hostOf host) → HasPort p n →
      (fmt.ReadsLegacy (fmt.protocolScheme ++ link) ↔ fmt = .shadowsocks ∧ n ≤ 0) := by
  refine ⟨?_, fun host n => readsLegacy_iff hlink⟩
  by_cases hlegacy : fmt.ReadsLegacy (fmt.protocolScheme ++ link)
  · exact iff_of_true (remarks_of_legacy_link hlink hparse hlegacy) (.inr hlegacy)
  · rw [remarks_of_link hlink hparse hlegacy, or_iff_left hlegacy]
    by_cases hempty : Utils.decodeURIComponent p.remarks = ""
    · -- the reader would then call the profile `none`, which decodes to itself
      rw [hempty, ifEmpty]
      constructor
      · intro hnone
        rw [← hnone] at hempty
        exact absurd hempty (by decide)
      · intro hname
        exact absurd hname.symm hremarks
    · rw [ifEmpty, if_neg hempty]

end share

/-- A server with a name. -/
def named (remarks : String) : ProfileItem := { Link.wsServer none with remarks }

theorem exists_link_named (remarks : String) : ∃ link q,
    vless.toUri plainPlatform.toASCII (named remarks) (VlessFmt.dicQuery (named remarks)) =
        .ok link ∧
      vless.parse id ("vless://" ++ link) = .ok (some q) := by
  have hshareable : Link.Shareable .vless .ws (named remarks) :=
    { Link.wsServer_shareable none with }
  obtain ⟨link, q, hlink, hparse, -⟩ := Link.parse_toUri hshareable (List.Perm.refl _)
    plainPlatform.toASCII (Link.wsServer_carried (plainEnv [] []) none).server
  exact ⟨link, q, hlink, hparse⟩

theorem named_home_survives : ∃ link q,
    vless.toUri plainPlatform.toASCII (named "home") (VlessFmt.dicQuery (named "home")) =
        .ok link ∧
      vless.parse id ("vless://" ++ link) = .ok (some q) ∧ q.remarks = "home" := by
  obtain ⟨link, q, hlink, hparse⟩ := exists_link_named "home"
  have hremarks : (named "home").remarks ≠ "" := by decide
  have hdecode : Utils.decodeURIComponent (named "home").remarks = (named "home").remarks := by
    decide
  exact ⟨link, q, hlink, hparse, (remarks_survive_iff hremarks hlink hparse).1.mpr (.inl hdecode)⟩

/-- The second decoding takes an escape in the name for what it stands for. -/
theorem escape_in_name_decoded : ∃ link q,
    vless.toUri plainPlatform.toASCII (named "a%20b") (VlessFmt.dicQuery (named "a%20b")) =
        .ok link ∧
      vless.parse id ("vless://" ++ link) = .ok (some q) ∧
      (named "a%20b").remarks = "a%20b" ∧ q.remarks = "a b" := by
  obtain ⟨link, q, hlink, hparse⟩ := exists_link_named "a%20b"
  have hlegacy : ¬vless.ReadsLegacy ("vless://" ++ link) := by
    rintro ⟨hfmt, -⟩
    cases hfmt
  have hdecode : ifEmpty (Utils.decodeURIComponent (named "a%20b").remarks) "none" =
      "a b" := by
    decide
  exact ⟨link, q, hlink, hparse, rfl, (remarks_of_link hlink hparse hlegacy).trans hdecode⟩

end LinkFormat
end ZeroVpn
