import ZeroVpn.Handler.SettingsManager

/-!
# From a profile to an outbound

`convert` dispatches on the type of the profile, builds the outbound of the protocol and applies
the global settings. It gives no outbound for a type without a builder or for unreadable mux
settings, and throws where the port (or another number) of the profile cannot be read.
-/

namespace ZeroVpn.CoreOutboundBuilder

open Text

/-- The texts between commas, trimmed, without the empty ones. -/
def splitTrimmed (s : String) : List String :=
  ((split ',' s).map trim).filter (· ≠ "")

section
variable (env : AppEnv)

def getServerAddress (profileItem : ProfileItem) : Except String String := do
  let server := orEmpty profileItem.server
  if Utils.isPureIpAddress server then return server
  let domain ← HttpUtil.toIdnDomain env.platform.toASCII server
  if env.decodeSettingsStringOr AppConfig.prefOutboundDomainResolveMethod
      AppConfig.defaultOutboundDomainResolveMethod ≠ "2" then return domain
  match HttpUtil.resolveHostToIP env.platform.getAllByName domain
      (env.decodeSettingsBool AppConfig.prefPreferIpv6) with
  | some (ip :: _) => return ip
  | _ => return domain

def createInitOutbound (configType : EConfigType) : Option OutboundBean :=
  match configType with
  | .vmess | .vless | .shadowsocks | .socks | .http | .trojan =>
    some { protocol := configType.lowerName, settings := some {}, streamSettings := some {} }
  | .wireguard =>
    some { protocol := configType.lowerName
           settings := some { secretKey := some "", peers := some [{}] } }
  | .hysteria | .hysteria2 =>
    some { protocol := EConfigType.hysteria.lowerName, settings := some {}
           streamSettings := some {} }
  | _ => none

/-! ## Transport -/

def createTcpHttpRequest (host path : Option String) : RequestBean :=
  let parsedHost := splitTrimmed (orEmpty host)
  let parsedPath := splitTrimmed (orEmpty path)
  { version := some "1.1"
    method := some "GET"
    headers :=
      { host := if parsedHost = [] then none else some parsedHost
        userAgent := some ["Mozilla/5.0 (Linux; Android 10; K) AppleWebKit/537.36 (KHTML, like Gecko) Chrome/126.0.6478.122 Mobile Safari/537.36"]
        acceptEncoding := some ["gzip, deflate"]
        connection := some ["keep-alive"]
        pragma := some "no-cache" }
    path := if parsedPath = [] then ["/"] else parsedPath }

/-- The masks of a KCP stream: the one of the seed in front of the one of the header. -/
def kcpMasks (headerType host seed : Option String) : List MaskBean :=
  let header := match headerType with
    | none => []
    | some t =>
      if t = "" || t = "none" then []
      else [{ type := "mkcp-legacy"
              settings := some {
                header := some (if t = "wechat-video" then "wechat" else t)
                value := if t = "dns" && !isNullOrEmpty host then host else none } }]
  let seed : MaskBean :=
    if isNullOrEmpty seed then { type := "mkcp-legacy" }
    else { type := "mkcp-legacy", settings := some { value := seed } }
  (header ++ [seed]).reverse

/-- The interval of port hopping: at least five seconds, 30 if it cannot be read. -/
def hopInterval (portHoppingInterval : Option String) : String :=
  match nullIfBlank (portHoppingInterval.map trim) with
  | none => "30"
  | some raw =>
    match toIntOrNull raw with
    | some n => if n < 5 then "30" else raw
    | none =>
      match split '-' raw with
      | [start, stop] =>
        match toIntOrNull (trim start), toIntOrNull (trim stop) with
        | some start, some stop =>
          let minStart := max 5 start
          let minEnd := max minStart stop
          toString minStart ++ "-" ++ toString minEnd
        | _, _ => "30"
      | _ => "30"

def hysteriaFinalMask (profileItem : ProfileItem) : FinalMaskBean :=
  let brutalUp := nullIfBlank profileItem.bandwidthUp
  let brutalDown := nullIfBlank profileItem.bandwidthDown
  { quicParams := some {
      brutalUp, brutalDown
      congestion := if brutalUp.isSome || brutalDown.isSome then some "brutal" else none
      udpHop :=
        if isNullOrBlank profileItem.portHopping then none
        else some { ports := profileItem.portHopping
                    interval := some (hopInterval profileItem.portHoppingInterval) } }
    udp :=
      if isNullOrBlank profileItem.obfsPassword then none
      else some [{ type := "salamander", settings := some { password := profileItem.obfsPassword } }] }

/-- The settings of one transport, and the server name it suggests. -/
def transportSettings (streamSettings : StreamSettingsBean) (profileItem : ProfileItem) :
    Option NetworkType → StreamSettingsBean × Option String
  | some .tcp =>
    if profileItem.headerType = some AppConfig.headerTypeHttp then
      let request := createTcpHttpRequest profileItem.host profileItem.path
      ({ streamSettings with
          tcpSettings :=
            some { header := { type := AppConfig.headerTypeHttp, request := some request } } },
        request.headers.host.bind (·.head?))
    else ({ streamSettings with tcpSettings := some {} }, profileItem.host)
  | some .kcp =>
    ({ streamSettings with
        kcpSettings := some { mtu := profileItem.kcpMtu.getD 1350, tti := profileItem.kcpTti.getD 50 }
        finalmask := some (.bean {
          udp := some (kcpMasks profileItem.headerType profileItem.host profileItem.seed) }) }, none)
  | some .ws =>
    ({ streamSettings with
        wsSettings := some { host := some (orEmpty profileItem.host)
                             path := some (profileItem.path.getD "/") } }, profileItem.host)
  | some .httpUpgrade =>
    ({ streamSettings with
        httpupgradeSettings := some { host := some (orEmpty profileItem.host)
                                      path := some (profileItem.path.getD "/") } },
      profileItem.host)
  | some .xhttp =>
    ({ streamSettings with
        xhttpSettings := some { host := some (orEmpty profileItem.host)
                                path := some (profileItem.path.getD "/")
                                mode := profileItem.xhttpMode
                                extra := profileItem.xhttpExtra.bind env.platform.parseString } },
      profileItem.host)
  | some .h2 | some .http =>
    let host := splitTrimmed (orEmpty profileItem.host)
    ({ streamSettings with
        network := some NetworkType.h2.type
        httpSettings := some { host, path := some (profileItem.path.getD "/") } }, host.head?)
  | some .grpc =>
    ({ streamSettings with
        grpcSettings := some { multiMode := some (profileItem.mode == some "multi")
                               serviceName := orEmpty profileItem.serviceName
                               authority := some (orEmpty profileItem.authority)
                               idleTimeout := some 60
                               healthCheckTimeout := some 20 } }, profileItem.authority)
  | some .hysteria =>
    ({ streamSettings with
        hysteriaSettings := some { version := 2, auth := some (orEmpty profileItem.password) }
        finalmask := some (.bean (hysteriaFinalMask profileItem)) }, none)
  | none => (streamSettings, none)

/-- A final mask given as JSON replaces the generated one. -/
def updateOutboundFinalMask (streamSettings : StreamSettingsBean) (profileItem : ProfileItem) :
    StreamSettingsBean :=
  match profileItem.finalMask.bind env.platform.parseString with
  | some mask => { streamSettings with finalmask := some (.json mask) }
  | none => streamSettings

def populateTransportSettings (streamSettings : StreamSettingsBean) (profileItem : ProfileItem) :
    StreamSettingsBean × Option String :=
  let network := ifEmpty (orEmpty profileItem.network) NetworkType.tcp.type
  let (stream, sni) := transportSettings env { streamSettings with network := some network }
    profileItem (NetworkType.find? network)
  (updateOutboundFinalMask env stream profileItem, sni)

/-! ## TLS -/

/-- Put a mask in a scope that has none. -/
def appendMask (finalMaskObj : JsonObject) (scope : String) (mask : MaskBean) : JsonObject :=
  match finalMaskObj.get scope with
  | some (.arr (_ :: _)) => finalMaskObj
  | _ => finalMaskObj.add scope (.arr [mask.toJson])

def fragmentMask (security : Option String) : MaskBean :=
  let packets := env.decodeSettingsStringOr AppConfig.prefFragmentPackets "tlshello"
  { type := "fragment"
    settings := some {
      packets := some (if security = some AppConfig.reality && packets = "tlshello" then "1-3"
        else packets)
      length := some (env.decodeSettingsStringOr AppConfig.prefFragmentLength "50-100")
      delay := some (env.decodeSettingsStringOr AppConfig.prefFragmentInterval "10-20")
      maxSplit := some (env.decodeSettingsStringOr AppConfig.prefFragmentMaxsplit "10") } }

def noiseMask : MaskBean :=
  { type := "noise"
    settings := some { noise := some [{ rand := some "10-20", delay := some "10-16" }] } }

def updateOutboundFragment (streamSettings : StreamSettingsBean) : StreamSettingsBean :=
  if !env.decodeSettingsBool AppConfig.prefFragmentEnabled then streamSettings
  else if streamSettings.security ≠ some AppConfig.tls &&
      streamSettings.security ≠ some AppConfig.reality then streamSettings
  else if !isNullOrBlank (streamSettings.sockopt.bind (·.dialerProxy)) then streamSettings
  else
    let finalMaskObj := (streamSettings.finalmask.map (·.toJsonObject)).getD []
    let finalMaskObj := appendMask finalMaskObj "tcp" (fragmentMask env streamSettings.security)
    let finalMaskObj := appendMask finalMaskObj "udp" noiseMask
    { streamSettings with finalmask := some (.json finalMaskObj) }

/-- The server name of the TLS handshake. -/
def serverName (profileItem : ProfileItem) (sniExt : Option String) : Option String :=
  if !isNullOrEmpty profileItem.sni then profileItem.sni
  else if !isNullOrBlank sniExt && Utils.isDomainName env.platform.isValidUrl sniExt then sniExt
  else if !isNullOrBlank profileItem.server &&
      Utils.isDomainName env.platform.isValidUrl profileItem.server then profileItem.server
  else sniExt

def tlsSettings (profileItem : ProfileItem) (sniExt : Option String) : TlsSettingsBean where
  allowInsecure := profileItem.insecure == some true && isNullOrEmpty profileItem.pinnedCA256
  serverName := nullIfBlank (serverName env profileItem sniExt)
  fingerprint := nullIfBlank profileItem.fingerPrint
  alpn := (profileItem.alpn.map splitTrimmed).filter (· ≠ [])
  cipherSuites := nullIfBlank profileItem.cipherSuites
  echConfigList := nullIfBlank profileItem.echConfigList
  verifyPeerCertByName := nullIfBlank profileItem.verifyPeerCertByName
  pinnedPeerCertSha256 := nullIfBlank profileItem.pinnedCA256
  publicKey := nullIfBlank profileItem.publicKey
  shortId := nullIfBlank profileItem.shortId
  spiderX := nullIfBlank profileItem.spiderX
  mldsa65Verify := nullIfBlank profileItem.mldsa65Verify

def populateTlsSettings (streamSettings : StreamSettingsBean) (profileItem : ProfileItem)
    (sniExt : Option String) : StreamSettingsBean :=
  match nullIfBlank (some (orEmpty profileItem.security)) with
  | none => { streamSettings with security := none }
  | some security =>
    let tls := tlsSettings env profileItem sniExt
    let stream := { streamSettings with security := some security }
    let stream :=
      if security = AppConfig.tls then
        { stream with tlsSettings := some tls, realitySettings := none }
      else if security = AppConfig.reality then
        { stream with tlsSettings := none, realitySettings := some tls }
      else stream
    if isNullOrEmpty profileItem.finalMask then updateOutboundFragment env stream else stream

/-- Transport and TLS settings of a profile. -/
def populateStream (streamSettings : StreamSettingsBean) (profileItem : ProfileItem) :
    StreamSettingsBean :=
  let (stream, sni) := populateTransportSettings env streamSettings profileItem
  populateTlsSettings env stream profileItem sni

/-! ## The builders of the protocols -/

/-- An outbound with an address and a port; `fill` writes the other settings. -/
def toOutboundServer (configType : EConfigType) (profileItem : ProfileItem)
    (fill : OutSettingsBean → OutSettingsBean) : Except String (Option OutboundBean) :=
  match createInitOutbound configType with
  | none => .ok none
  | some outboundBean => do
    let address ← getServerAddress env profileItem
    let port ← Utils.toInt (orEmpty profileItem.serverPort)
    return some { outboundBean with
      settings := outboundBean.settings.map fun settings =>
        fill { settings with address := some (.host address), port := some port } }

/-- An outbound with an address, a port, and transport and TLS settings. -/
def toOutboundStream (configType : EConfigType) (profileItem : ProfileItem)
    (fill : OutSettingsBean → OutSettingsBean) : Except String (Option OutboundBean) := do
  let outboundBean ← toOutboundServer env configType profileItem fill
  return outboundBean.map fun outboundBean => { outboundBean with
    streamSettings := outboundBean.streamSettings.map (populateStream env · profileItem) }

def toOutboundVmess (profileItem : ProfileItem) : Except String (Option OutboundBean) :=
  toOutboundStream env .vmess profileItem fun settings =>
    { settings with
      id := some (orEmpty profileItem.password)
      security := profileItem.method
      level := some AppConfig.defaultLevel }

def toOutboundVless (profileItem : ProfileItem) : Except String (Option OutboundBean) :=
  toOutboundStream env .vless profileItem fun settings =>
    { settings with
      id := some (orEmpty profileItem.password)
      encryption := profileItem.method
      flow := profileItem.flow
      level := some AppConfig.defaultLevel }

def toOutboundShadowsocks (profileItem : ProfileItem) : Except String (Option OutboundBean) :=
  toOutboundStream env .shadowsocks profileItem fun settings =>
    { settings with
      password := profileItem.password
      method := profileItem.method
      level := some AppConfig.defaultLevel }

def toOutboundTrojan (profileItem : ProfileItem) : Except String (Option OutboundBean) :=
  toOutboundStream env .trojan profileItem fun settings =>
    { settings with
      password := profileItem.password
      flow := profileItem.flow
      level := some AppConfig.defaultLevel }

/-- The account of a SOCKS or HTTP server, if the profile has a user name. -/
def fillAccount (profileItem : ProfileItem) (settings : OutSettingsBean) : OutSettingsBean :=
  let settings := { settings with level := some AppConfig.defaultLevel }
  if isNullOrBlank profileItem.username then settings
  else { settings with
    user := some (orEmpty profileItem.username)
    pass := some (orEmpty profileItem.password) }

def toOutboundSocks (profileItem : ProfileItem) : Except String (Option OutboundBean) :=
  toOutboundServer env .socks profileItem (fillAccount profileItem)

def toOutboundHttp (profileItem : ProfileItem) : Except String (Option OutboundBean) :=
  toOutboundServer env .http profileItem (fillAccount profileItem)

/-- The local addresses of a WireGuard profile; IPv6 ones only with the IPv6 setting. -/
def wireguardAddresses (profileItem : ProfileItem) : List String :=
  let raw := ((profileItem.localAddress.map splitTrimmed).filter (· ≠ [])).getD
    [AppConfig.wireguardLocalAddressV4]
  if env.decodeSettingsBool AppConfig.prefIpv6Enabled then raw
  else
    let ipv4 := raw.filter (!containsChar · ':')
    if ipv4 = [] then [AppConfig.wireguardLocalAddressV4] else ipv4

def wireguardReserved (profileItem : ProfileItem) : Except String (Option (List Int)) :=
  match nullIfBlank profileItem.reserved with
  | none => .ok none
  | some reserved => do
    let numbers ← ((split ',' reserved).filter (!isBlank ·)).mapM fun s =>
      Utils.toInt (trim s)
    return some numbers

/-- The peer of a WireGuard profile. -/
def fillPeer (profileItem : ProfileItem) (peer : WireGuardBean) : WireGuardBean :=
  { peer with
    publicKey := orEmpty profileItem.publicKey
    preSharedKey := nullIfBlank profileItem.preSharedKey
    endpoint := Utils.getIpv6Address profileItem.server ++ ":" ++
      profileItem.serverPort.getD "null" }

def toOutboundWireguard (profileItem : ProfileItem) : Except String (Option OutboundBean) :=
  match createInitOutbound .wireguard with
  | none => .ok none
  | some outboundBean => do
    let reserved ← wireguardReserved profileItem
    return some { outboundBean with
      settings := outboundBean.settings.map fun settings =>
        { settings with
          secretKey := profileItem.secretKey
          address := some (.addresses (wireguardAddresses env profileItem))
          port := none
          peers := settings.peers.map fun
            | [] => []
            | peer :: rest => fillPeer profileItem peer :: rest
          mtu := profileItem.mtu
          reserved }
      streamSettings :=
        if isNullOrBlank profileItem.finalMask then outboundBean.streamSettings
        else some { updateOutboundFinalMask env {} profileItem with network := none } }

def toOutboundHysteria2 (profileItem : ProfileItem) : Except String (Option OutboundBean) :=
  let profileItem := { profileItem with
    network := some NetworkType.hysteria.type
    alpn := some "h3" }
  toOutboundStream env .hysteria2 profileItem fun settings => { settings with version := some 2 }

/-! ## Global settings -/

/-- Mux is switched on and applies to the protocol and the transport. -/
def muxEnabled (outbound : OutboundBean) : Bool :=
  if [EConfigType.shadowsocks, .socks, .http, .trojan, .wireguard, .hysteria2, .hysteria].any
      (·.isProtocol outbound.protocol) then false
  else if outbound.streamSettings.bind (·.network) = some NetworkType.xhttp.type then false
  else env.decodeSettingsBool AppConfig.prefMuxEnabled

/-- `none` where the mux settings are not numbers. -/
def updateOutboundWithGlobalSettings (outbound : OutboundBean) : Option OutboundBean :=
  if muxEnabled env outbound then do
    let concurrency ←
      toIntOrNull (env.decodeSettingsStringOr AppConfig.prefMuxConcurrency "8")
    let xudpConcurrency ← toIntOrNull (env.decodeSettingsStringOr
      AppConfig.prefMuxXudpConcurrency AppConfig.defaultMuxXudpConcurrency)
    let hasFlow := EConfigType.vless.isProtocol outbound.protocol &&
      !isNullOrEmpty (outbound.settings.bind (·.flow))
    return { outbound with mux := outbound.mux.map fun mux =>
      { mux with
        enabled := true
        concurrency := some (if hasFlow then -1 else concurrency)
        xudpConcurrency := some xudpConcurrency
        xudpProxyUDP443 := some (env.decodeSettingsStringOr AppConfig.prefMuxXudpQuic "reject") } }
  else
    some { outbound with
      mux := outbound.mux.map fun mux => { mux with enabled := false, concurrency := some (-1) } }

/-- The outbound of the protocol, before the global settings. -/
def toOutbound (profileItem : ProfileItem) : Except String (Option OutboundBean) :=
  match profileItem.configType with
  | .vmess => toOutboundVmess env profileItem
  | .shadowsocks => toOutboundShadowsocks env profileItem
  | .socks => toOutboundSocks env profileItem
  | .vless => toOutboundVless env profileItem
  | .trojan => toOutboundTrojan env profileItem
  | .wireguard => toOutboundWireguard env profileItem
  | .hysteria2 => toOutboundHysteria2 env profileItem
  | .http => toOutboundHttp env profileItem
  | _ => .ok none

def convert (profileItem : ProfileItem) : Except String (Option OutboundBean) := do
  let outbound ← toOutbound env profileItem
  return outbound.bind (updateOutboundWithGlobalSettings env)

end
end ZeroVpn.CoreOutboundBuilder
