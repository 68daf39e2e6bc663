import ZeroVpn.Core.CoreConfigContextBuilder
import ZeroVpn.Core.CoreOutboundBuilder

/-!
# Building the configuration

`buildUnifiedConfig` consumes the plan of resolved outbounds in order, and then assembles routing,
DNS and the other sections. The code mutates one configuration; here each function returns the
changed one, and `BuildState` collects what `buildOutbounds` writes. A thrown exception is the
message of an `Except`.
-/

namespace ZeroVpn

/-- Balancer data plus optional probe settings. -/
structure BalancerStrategy where
  balancer : BalancerBean
  observatory : Option ObservatoryObject := none
  burstObservatory : Option BurstObservatoryObject := none

/-- The content of a result: a configuration, a JSON object or a text. -/
inductive ConfigContent where
  | empty
  | unified (config : V2rayConfig)
  | json (o : JsonObject)
  | raw (text : String)

structure ConfigResult where
  status : Bool
  guid : Option String := none
  content : ConfigContent := .empty
  errorMessage : String := ""

/-- What `buildOutbounds` changes. -/
structure BuildState where
  config : V2rayConfig
  existingTags : List String
  policyGroupBalancerTags : KV String String := ∅
  balancerStrategies : List BalancerStrategy := []

namespace BuildState

/-- Add outbounds in front or at the end and remember their tags. -/
def add (st : BuildState) (prepend : Bool) (outbounds : List OutboundBean) : BuildState :=
  { st with
    config := { st.config with
      outbounds := if prepend then outbounds ++ st.config.outbounds
        else st.config.outbounds ++ outbounds }
    existingTags := st.existingTags ++ outbounds.map (·.tag) }

/-- Register a group; a balancer whose tag is taken is left out. -/
def addGroup (st : BuildState) (tag : String) (strategy : BalancerStrategy) : BuildState :=
  let balancers := st.config.routing.balancers.getD []
  let config := if balancers.any (·.tag = strategy.balancer.tag) then st.config
    else { st.config with
      routing := { st.config.routing with balancers := some (balancers ++ [strategy.balancer]) } }
  { st with
    config
    balancerStrategies := st.balancerStrategies ++ [strategy]
    policyGroupBalancerTags := st.policyGroupBalancerTags.set tag strategy.balancer.tag }

end BuildState

namespace CoreConfigManager
open CoreOutboundBuilder CoreConfigContextBuilder Text

section
variable (env : AppEnv)

def needTun : Bool := env.isVpnMode && !env.isUsingHevTun

def initV2rayConfig : Except String V2rayConfig :=
  if needTun env then
    if env.platform.assetsReadable then .ok v2rayConfigWithTunTemplate
    else .error "Missing asset: v2ray_config_with_tun.json"
  else
    if env.platform.assetsReadable then .ok v2rayConfigTemplate
    else .error "Missing asset: v2ray_config.json"

/-! ## Inbounds -/

def configureSniffing (sniffing : SniffingBean) : SniffingBean :=
  let fakedns := env.decodeSettingsBool AppConfig.prefFakeDnsEnabled
  let sniffAllTlsAndHttp := env.decodeSettingsBool AppConfig.prefSniffingEnabled true
  let destOverride := if sniffAllTlsAndHttp then sniffing.destOverride else []
  { sniffing with
    enabled := fakedns || sniffAllTlsAndHttp
    routeOnly := some (env.decodeSettingsBool AppConfig.prefRouteOnlyEnabled)
    destOverride := if fakedns then destOverride ++ ["fakedns"] else destOverride }

def configureSocksInbound (inbound : InboundBean) : InboundBean :=
  let account := match env.getSocksUsername, env.getSocksPassword with
    | some user, some pass => some { user, pass : SocksAccountBean }
    | _, _ => none
  { inbound with
    listen := if env.decodeSettingsBool AppConfig.prefProxySharing then inbound.listen
      else some AppConfig.loopback
    port := some env.getSocksPort
    settings := some { inbound.settings.getD {} with
      udp := some (env.decodeSettingsBool AppConfig.prefSocksEnableUdp AppConfig.defaultSocksEnableUdp)
      auth := some (if account.isSome then "password" else "noauth")
      accounts := account.map fun a => [a] }
    sniffing := inbound.sniffing.map (configureSniffing env) }

def httpInbound (inbound1 : InboundBean) : InboundBean :=
  { inbound1 with
    tag := EConfigType.http.lowerName
    port := some env.getHttpPort
    protocol := EConfigType.http.lowerName
    settings := inbound1.settings.map fun settings => { settings with auth := none, udp := none } }

def setMtu (inbound : InboundBean) : InboundBean :=
  { inbound with
    settings := inbound.settings.map fun settings => { settings with mtu := some env.getVpnMtu } }

/-- The first inbound with the tag `tun` gets the MTU and the sniffing of the SOCKS inbound. -/
def configureTunInbound (sniffing : Option SniffingBean) : List InboundBean → List InboundBean
  | [] => []
  | inbound :: rest =>
    if inbound.tag = "tun" then { setMtu env inbound with sniffing } :: rest
    else inbound :: configureTunInbound sniffing rest

def enableLocalProxy : Bool :=
  (env.isVpnMode && env.isUsingHevTun) || env.isRootMode ||
    env.decodeSettingsBool AppConfig.prefRootLanSharing ||
    env.decodeSettingsBool AppConfig.prefEnableLocalProxy true

def configureInbounds (config : V2rayConfig) : V2rayConfig :=
  match config.inbounds with
  | [] => config
  | first :: rest =>
    let inbound1 := configureSocksInbound env first
    let inbounds := inbound1 :: rest
    let inbounds := if Utils.isXray then inbounds else inbounds ++ [httpInbound env inbound1]
    let inbounds := if enableLocalProxy env then inbounds
      else inbounds.filter fun e => e.protocol ≠ "socks" && e.protocol ≠ "http"
    let inbounds := if needTun env then configureTunInbound env inbound1.sniffing inbounds
      else inbounds
    { config with inbounds }

/-! ## Outbounds -/

def handleNormalResolvedOutbound (resolvedOutbound : ResolvedOutbound) (prepend : Bool)
    (st : BuildState) : Except String BuildState :=
  match resolvedOutbound.resolvedProfiles with
  | [] => .ok st
  | profile :: _ => do
    match ← convert env profile with
    | none => return st
    | some outbound => return st.add prepend [{ outbound with tag := resolvedOutbound.tag }]

/-- The outbounds of the profiles that can be converted, each with its profile. -/
def convertProfiles : List ProfileItem → Except String (List (OutboundBean × ProfileItem))
  | [] => .ok []
  | profile :: profiles => do
    let outbound ← convert env profile
    let rest ← convertProfiles profiles
    return (outbound.map fun o => (o, profile)).toList ++ rest

def chainTag (tag : String) (index : Nat) : String :=
  if index = 0 then tag else AppConfig.tagProxy ++ "-" ++ tag ++ "-" ++ toString index

/-- The hops under their tags. -/
def tagChain (tag : String) (chainOutbounds : List OutboundBean) : List OutboundBean :=
  chainOutbounds.mapIdx fun index outbound => { outbound with tag := chainTag tag index }

/-- Each hop but the last dials through the next one. -/
def linkChain : List OutboundBean → List OutboundBean
  | hop :: next :: rest =>
    hop.updateSockopt (fun sockopt => { sockopt with dialerProxy := some next.tag }) ::
      linkChain (next :: rest)
  | hops => hops

def handleProxyChainResolvedOutbound (resolvedOutbound : ResolvedOutbound) (prepend : Bool)
    (st : BuildState) : Except String BuildState := do
  let chainOutbounds := (← convertProfiles env resolvedOutbound.resolvedProfiles).map (·.1)
  match chainOutbounds with
  | [] => return st
  | [outbound] => return st.add prepend [{ outbound with tag := resolvedOutbound.tag }]
  | _ =>
    let chain := tagChain resolvedOutbound.tag chainOutbounds
    if chain.any (·.tag ∈ st.existingTags) then return st
    else return st.add prepend (linkChain chain)

def memberTagStart (tag : String) : String := AppConfig.tagProxy ++ "-" ++ tag ++ "-"

def memberTag (tag : String) (index : Nat) (profile : ProfileItem) : String :=
  memberTagStart tag ++ toString (index + 1) ++ "-" ++ trim profile.remarks

/-- The members from the `index`-th on under their tags, without those whose tag is taken. -/
def membersToAdd (tag : String) :
    Nat → List String → List (OutboundBean × ProfileItem) → List OutboundBean
  | _, _, [] => []
  | index, existingTags, (outbound, profile) :: pairs =>
    let memberTag := memberTag tag index profile
    if memberTag ∈ existingTags then membersToAdd tag (index + 1) existingTags pairs
    else { outbound with tag := memberTag } ::
      membersToAdd tag (index + 1) (existingTags ++ [memberTag]) pairs

def balancerTagOf (tag : String) : String :=
  if tag = AppConfig.tagProxy then AppConfig.tagBalancer else AppConfig.tagBalancerPre ++ "-" ++ tag

/-- The duration pattern `[1-9]\d*(ms|s|m|h)`. -/
def observatoryDurationPattern : RegularExpression Char :=
  Regex.oneOf "123456789".toList * .star Regex.digit *
    (.char 'm' * .char 's' + .char 's' + .char 'm' + .char 'h')

def decodeObservatoryDuration (key default : String) : String :=
  match (env.decodeSettingsString key).map trim with
  | none => default
  | some value =>
    if value ≠ "" && Regex.matchesAll observatoryDurationPattern value then value else default

def decodeObservatorySampling : Int :=
  (((env.decodeSettingsString AppConfig.prefObservatoryLeastLoadSampling).bind fun s =>
    toIntOrNull (trim s)).filter (0 < ·)).getD AppConfig.observatoryLeastLoadSampling

def buildBalancerStrategy (strategyType : BalancerStrategyType) (selector : List String)
    (balancerTag : String) (fallbackTag : Option String) : BalancerStrategy :=
  let probeUrl := env.decodeSettingsStringOr AppConfig.prefDelayTestUrl AppConfig.delayTestUrl
  { balancer :=
      { tag := balancerTag, selector, fallbackTag, strategy := strategyType.policyGroupType }
    observatory :=
      if strategyType.requiresObservatory || fallbackTag.isSome then
        some { subjectSelector := selector, probeUrl
               probeInterval := decodeObservatoryDuration env
                 AppConfig.prefObservatoryLeastPingInterval AppConfig.observatoryLeastPingInterval
               enableConcurrency := true }
      else none
    burstObservatory :=
      if strategyType.requiresBurstObservatory then
        some { subjectSelector := selector
               pingConfig :=
                { destination := probeUrl
                  httpMethod := some (env.decodeSettingsStringOr
                    AppConfig.prefObservatoryLeastLoadMethod AppConfig.observatoryLeastLoadMethod)
                  interval := decodeObservatoryDuration env
                    AppConfig.prefObservatoryLeastLoadInterval AppConfig.observatoryLeastLoadInterval
                  sampling := decodeObservatorySampling env
                  timeout := some (decodeObservatoryDuration env
                    AppConfig.prefObservatoryLeastLoadTimeout
                    AppConfig.observatoryLeastLoadTimeout) } }
      else none }

/-- The fallback of a group's balancer: the configured tag, or else the first member. -/
def groupFallbackTag (profile : ProfileItem) (firstMember : String) : Option String :=
  if usesFallback profile then
    some ((profile.policyGroupFallbackTag.filter fun tag =>
      tag ≠ "" && tag ≠ AppConfig.tagProxy).getD firstMember)
  else none

/-- The strategy of a group whose first member has the tag `firstMember`. -/
def groupStrategy (resolvedOutbound : ResolvedOutbound) (firstMember : String) : BalancerStrategy :=
  buildBalancerStrategy env (BalancerStrategyType.ofType resolvedOutbound.profile.policyGroupType)
    [memberTagStart resolvedOutbound.tag] (balancerTagOf resolvedOutbound.tag)
    (groupFallbackTag resolvedOutbound.profile firstMember)

def handlePolicyGroupResolvedOutbound (resolvedOutbound : ResolvedOutbound) (prepend : Bool)
    (st : BuildState) : Except String BuildState := do
  let memberPairs ← convertProfiles env resolvedOutbound.resolvedProfiles
  match membersToAdd resolvedOutbound.tag 0 st.existingTags memberPairs with
  | [] => return st
  | first :: rest =>
    return (st.add prepend (first :: rest)).addGroup resolvedOutbound.tag
      (groupStrategy env resolvedOutbound first.tag)

def buildOutbounds (resolvedOutbound : ResolvedOutbound) (prepend : Bool) (st : BuildState) :
    Except String BuildState :=
  if resolvedOutbound.tag ∈ st.existingTags then .ok st
  else
    match resolvedOutbound.resolvedType with
    | .normal => handleNormalResolvedOutbound env resolvedOutbound prepend st
    | .proxychain => handleProxyChainResolvedOutbound env resolvedOutbound prepend st
    | .policygroup => handlePolicyGroupResolvedOutbound env resolvedOutbound prepend st

/-- The plan: the first entry is prepended, the others are appended. -/
def buildPlan (primary : ResolvedOutbound) (routing : List ResolvedOutbound) (st : BuildState) :
    Except String BuildState := do
  let st ← buildOutbounds env primary true st
  routing.foldlM (fun st spec => buildOutbounds env spec false st) st

/-! ## Routing -/

/-- A ruleset item read as a rule of the configuration. -/
def toRulesBean (item : RulesetItem) : RulesBean where
  ip := item.ip
  domain := item.domain
  process := item.process
  outboundTag := some item.outboundTag
  port := item.port
  network := item.network
  protocol := item.protocol

def extGeoip (ip : String) : String :=
  if ip = AppConfig.geoipCn then "ext:" ++ AppConfig.geoipOnlyCnPrivateDat ++ ":cn"
  else if ip = AppConfig.geoipPrivate then "ext:" ++ AppConfig.geoipOnlyCnPrivateDat ++ ":private"
  else ip

/-- The process condition of a rule, as user IDs. -/
def ruleProcess (process : Option (List String)) : Option (List String) :=
  if env.canUseProcessRouting then
    process.bind fun processList =>
      if processList = [] then some []
      else
        let uids := env.packageNamesToUids processList
        if uids = [] then none else some uids
  else none

/-- The target of a rule: the balancer of a group, or the tag itself; a tag that names no outbound
is replaced by `proxy`. -/
def retarget (outbounds : List OutboundBean) (policyGroupBalancerTags : KV String String)
    (outboundTag : String) (rule : RulesBean) : RulesBean :=
  match policyGroupBalancerTags.get outboundTag with
  | some balancerTag => { rule with outboundTag := none, balancerTag := some balancerTag }
  | none =>
    if !isBlank outboundTag && outboundTag ∉ AppConfig.builtinOutboundTags &&
        outbounds.all (·.tag ≠ outboundTag) then
      { rule with outboundTag := some AppConfig.tagProxy }
    else rule

def userRule (outbounds : List OutboundBean) (policyGroupBalancerTags : KV String String)
    (item : RulesetItem) : RulesBean :=
  let rule := toRulesBean item
  let rule := { rule with
    ip := rule.ip.map (·.map extGeoip)
    process := ruleProcess env rule.process }
  retarget outbounds policyGroupBalancerTags item.outboundTag rule

def addRule (config : V2rayConfig) (rule : RulesBean) : V2rayConfig :=
  { config with routing := { config.routing with rules := config.routing.rules ++ [rule] } }

def addRuleFirst (config : V2rayConfig) (rule : RulesBean) : V2rayConfig :=
  { config with routing := { config.routing with rules := rule :: config.routing.rules } }

def appendRoutingUserRule (policyGroupBalancerTags : KV String String) (config : V2rayConfig)
    (item : RulesetItem) : V2rayConfig :=
  if !item.enabled then config
  else addRule config (userRule env config.outbounds policyGroupBalancerTags item)

def configureRouting (policyGroupBalancerTags : KV String String) (config : V2rayConfig) :
    V2rayConfig :=
  let config := { config with
    routing := { config.routing with
      domainStrategy := env.decodeSettingsStringOr AppConfig.prefRoutingDomainStrategy "AsIs" } }
  (env.decodeRoutingRulesets.getD []).foldl (appendRoutingUserRule env policyGroupBalancerTags) config

/-! ## DNS -/

def configureFakeDns (config : V2rayConfig) : V2rayConfig :=
  if env.decodeSettingsBool AppConfig.prefLocalDnsEnabled &&
      env.decodeSettingsBool AppConfig.prefFakeDnsEnabled then
    { config with fakedns := some [{}] }
  else config

/-- The domains of the rules with a tag. -/
def domainsOf (rules : List RoutingDomainRule) (tag : String) : List String :=
  (rules.filter (·.outboundTag = tag)).flatMap (·.domain)

/-- The entries `name:address` of the hosts setting, split at the first colon. -/
def userHosts (text : String) : List (String × DnsHost) :=
  (split ',' text).filterMap fun entry =>
    if isBlank entry then none
    else
      match splitFirst ':' entry with
      | (name, some address) => some (trim name, .one (trim address))
      | (_, none) => none

def buildDnsHostsFromRoutingRules (rules : List RoutingDomainRule) : LinkedMap String DnsHost :=
  let hosts := LinkedMap.empty.putAll ((domainsOf rules AppConfig.tagBlocked).map fun domain =>
    (domain, .one AppConfig.loopback))
  let hosts := hosts.put AppConfig.googleapisCnDomain (.one AppConfig.googleapisComDomain)
  let hosts := hosts.putAll (AppConfig.dnsAddresses.map fun e => (e.1, .many e.2))
  match nullIfBlank (env.decodeSettingsString AppConfig.prefDnsHosts) with
  | none => hosts
  | some text => hosts.putAll (userHosts text)

def cnRegionFilter (domain : String) : Bool :=
  startsWith domain "geosite:" && (endsWith domain "-cn" || endsWith domain "@cn") ||
    domain == AppConfig.geositeCn

/-- The domestic servers for Chinese domains, with their tags. -/
def buildDnsCnModeFromRoutingRules (rules : List RoutingDomainRule) (domesticDns : List String) :
    List ServersBean :=
  let directDomains := domainsOf rules AppConfig.tagDirect
  if AppConfig.geositeCn ∉ directDomains then []
  else
    let cnDomains := directDomains.filter cnRegionFilter
    if cnDomains = [] then []
    else domesticDns.mapIdx fun index address =>
      { address, domains := some cnDomains, expectIPs := some [AppConfig.geoipCn]
        skipFallback := some true
        tag := some (AppConfig.tagDomesticDns ++ "_cn_expect_" ++ toString index) }

/-- The servers of one rule. -/
def ruleServers (remoteDns domesticDns : List String) (ruleIndex : Nat) (rule : RoutingDomainRule) :
    List ServersBean :=
  if rule.outboundTag = AppConfig.tagDirect then
    domesticDns.mapIdx fun dnsIndex address =>
      { address, domains := some rule.domain, skipFallback := some true
        tag := some (AppConfig.tagDomesticDns ++ "_" ++ toString ruleIndex ++ "_" ++
          toString dnsIndex) }
  else if rule.outboundTag = AppConfig.tagBlocked then []
  else [{ address := remoteDns.headD "", domains := some rule.domain }]

def buildDnsFromRoutingRules (rules : List RoutingDomainRule) (remoteDns domesticDns : List String) :
    List ServersBean :=
  (rules.mapIdx (ruleServers remoteDns domesticDns)).flatten

/-- The rule that sends the queries of the DNS module to the proxy. -/
def dnsProxyRule (policyGroupBalancerTags : KV String String) : RulesBean :=
  match policyGroupBalancerTags.get AppConfig.tagProxy with
  | some balancerTag =>
    { balancerTag := some balancerTag, inboundTag := some [AppConfig.tagDns] }
  | none => { outboundTag := some AppConfig.tagProxy, inboundTag := some [AppConfig.tagDns] }

def configureDns (rules : List RoutingDomainRule) (policyGroupBalancerTags : KV String String)
    (config : V2rayConfig) : V2rayConfig :=
  let remoteDns := env.getRemoteDnsServers
  let domesticDns := env.getDomesticDnsServers
  let cnServers := buildDnsCnModeFromRoutingRules rules domesticDns
  let servers := buildDnsFromRoutingRules rules remoteDns domesticDns
  -- only the servers for direct domains have tags
  let domesticDnsTags := servers.filterMap (·.tag) ++ cnServers.filterMap (·.tag)
  let config := { config with
    dns := some {
      servers := some (remoteDns.map .address ++ cnServers.map .server ++ servers.map .server)
      hosts := some (buildDnsHostsFromRoutingRules env rules)
      tag := some AppConfig.tagDns
      enableParallelQuery :=
        if domesticDns.length + remoteDns.length > 2 then some true else none } }
  let config := if domesticDnsTags = [] then config
    else addRule config
      { outboundTag := some AppConfig.tagDirect, inboundTag := some domesticDnsTags }
  addRule config (dnsProxyRule policyGroupBalancerTags)

def dnsOutbound : OutboundBean := { protocol := "dns", tag := "dns-out", mux := none }

/-- Add the DNS outbound unless it is there. -/
def ensureDnsOutbound (config : V2rayConfig) : V2rayConfig :=
  if config.outbounds.any fun e => e.protocol = "dns" && e.tag = "dns-out" then config
  else { config with outbounds := config.outbounds ++ [dnsOutbound] }

/-- The rule that hijacks port 53 of an inbound. -/
def dnsOutRule (inboundTag : String) : RulesBean :=
  { inboundTag := some [inboundTag], outboundTag := some "dns-out", port := some "53" }

/-- The entry for fake addresses. It lists all domains but the blocked ones, to come first. -/
def fakeDnsServer (rules : List RoutingDomainRule) : ServersBean where
  address := "fakedns"
  domains := some (AppConfig.geositeCn ::
    ((rules.filter (·.outboundTag ≠ AppConfig.tagBlocked)).flatMap (·.domain)).eraseDups)

def addFakeDnsServer (rules : List RoutingDomainRule) (config : V2rayConfig) : V2rayConfig :=
  { config with
    dns := config.dns.map fun dns => { dns with
      servers := dns.servers.map fun servers => .server (fakeDnsServer rules) :: servers } }

def configureLocalDns (rules : List RoutingDomainRule) (config : V2rayConfig) : V2rayConfig :=
  if !env.decodeSettingsBool AppConfig.prefLocalDnsEnabled then config
  else
    let config := if env.decodeSettingsBool AppConfig.prefFakeDnsEnabled
      then addFakeDnsServer rules config else config
    let config := if env.isVpnMode
      then addRuleFirst config (dnsOutRule (if env.isUsingHevTun then "socks" else "tun")) else config
    ensureDnsOutbound config

def configureRootModeDns (config : V2rayConfig) : V2rayConfig :=
  if !env.isRootMode then config
  else
    let config := if config.routing.rules.any fun rule =>
        rule.outboundTag = some "dns-out" && rule.port = some "53"
      then config else addRuleFirst config (dnsOutRule "socks")
    ensureDnsOutbound config

/-! ## The other sections -/

/-- With a group as primary, everything that no rule matches goes to its balancer. -/
def addCatchAllRule (primary : ResolvedOutbound) (config : V2rayConfig) : V2rayConfig :=
  if primary.resolvedType = .policygroup then
    if config.routing.domainStrategy = "IPIfNonMatch" then
      addRule config { ip := some ["0.0.0.0/0", "::/0"], balancerTag := some AppConfig.tagBalancer }
    else
      addRule config { network := some "tcp,udp", balancerTag := some AppConfig.tagBalancer }
  else config

def applyObservability (strategies : List BalancerStrategy) (config : V2rayConfig) : V2rayConfig :=
  let observatories := strategies.filterMap (·.observatory)
  let bursts := strategies.filterMap (·.burstObservatory)
  let selectors := (observatories.flatMap (·.subjectSelector)).eraseDups
  let burstSelectors := (bursts.flatMap (·.subjectSelector)).eraseDups
  { config with
    observatory := match observatories with
      | template :: _ =>
        if selectors = [] then config.observatory
        else some { template with subjectSelector := selectors }
      | [] => config.observatory
    burstObservatory := match bursts with
      | template :: _ =>
        if burstSelectors = [] then config.burstObservatory
        else some { template with subjectSelector := burstSelectors }
      | [] => config.burstObservatory }

def applySpeedDisabled (config : V2rayConfig) : V2rayConfig :=
  if env.decodeSettingsBool AppConfig.prefSpeedEnabled then config
  else { config with
    stats := none
    policy := config.policy.map fun policy => { policy with system := none } }

/-- Let the core dial the resolved addresses of an outbound. -/
def useIP (item : OutboundBean) : OutboundBean :=
  item.updateSockopt fun sockopt =>
    { sockopt with
      domainStrategy := some "UseIP"
      happyEyeballs := some {
        prioritizeIPv6 := some (env.decodeSettingsBool AppConfig.prefPreferIpv6)
        interleave := some 2 } }

/-- One round of the resolving loop. -/
def resolveOutboundDomain (item : OutboundBean) (newHosts : LinkedMap String DnsHost) :
    OutboundBean × LinkedMap String DnsHost :=
  match item.getServerAddress with
  | none | some "" => (item, newHosts)
  | some domain =>
    if domain ∈ newHosts.keys then (useIP env item, newHosts)
    else
      match HttpUtil.resolveHostToIP env.platform.getAllByName domain
          (env.decodeSettingsBool AppConfig.prefPreferIpv6) with
      | none | some [] => (item, newHosts)
      | some [ip] => (useIP env item, newHosts.put domain (.one ip))
      | some ips => (useIP env item, newHosts.put domain (.many ips))

def resolveOutboundDomains : List OutboundBean → LinkedMap String DnsHost →
    List OutboundBean × LinkedMap String DnsHost
  | [], newHosts => ([], newHosts)
  | item :: items, newHosts =>
    let (item, newHosts) := if item.isProxy then resolveOutboundDomain env item newHosts
      else (item, newHosts)
    let (items, newHosts) := resolveOutboundDomains items newHosts
    (item :: items, newHosts)

def resolveOutboundDomainsToHosts (config : V2rayConfig) : V2rayConfig :=
  if env.decodeSettingsStringOr AppConfig.prefOutboundDomainResolveMethod
      AppConfig.defaultOutboundDomainResolveMethod ≠ "1" then config
  else
    match config.dns with
    | none => config
    | some dns =>
      let (outbounds, newHosts) :=
        resolveOutboundDomains env config.outbounds (dns.hosts.getD LinkedMap.empty)
      { config with outbounds, dns := some { dns with hosts := some newHosts } }

/-! ## The whole configuration -/

/-- The configuration before any outbound of the plan is added. -/
def baseConfig (primary : ResolvedOutbound) : Except String V2rayConfig := do
  let config ← initV2rayConfig env
  let config := { config with
    loglevel := some (env.decodeSettingsStringOr AppConfig.prefLoglevel "warning")
    remarks := some primary.profile.remarks }
  let config := configureInbounds env config
  return { config with outbounds := config.outbounds.tail }

/-- Everything after the outbounds. -/
def finishConfig (context : CoreConfigContext) (primary : ResolvedOutbound) (st : BuildState) :
    V2rayConfig :=
  let config := configureRouting env st.policyGroupBalancerTags st.config
  let config := configureFakeDns env config
  let config := configureDns env context.routingDomainRules st.policyGroupBalancerTags config
  let config := configureLocalDns env context.routingDomainRules config
  let config := configureRootModeDns env config
  let config := addCatchAllRule primary config
  let config := applyObservability st.balancerStrategies config
  let config := applySpeedDisabled env config
  resolveOutboundDomainsToHosts env config

def buildUnifiedConfig (context : CoreConfigContext) : Except String V2rayConfig :=
  match context.resolvedOutbounds with
  | [] => .error "resolvedOutbounds must not be empty for a non-CUSTOM context"
  | primary :: routing => do
    let config ← baseConfig env primary
    let st ← buildPlan env primary routing
      { config, existingTags := config.outbounds.map (·.tag) }
    return finishConfig env context primary st

/-! ## Custom configurations -/

/-- Add or remove what the traffic statistics need. -/
def configureStats (json : JsonObject) : JsonObject :=
  if env.decodeSettingsBool AppConfig.prefSpeedEnabled then
    let json := if json.has "stats" then json else json.add "stats" (.obj [])
    if json.has "policy" then json
    else json.add "policy" (.obj [("system", .obj [("statsOutboundUplink", .bool true),
      ("statsOutboundDownlink", .bool true)])])
  else
    let json := json.remove "stats"
    match (json.get "policy").bind (·.asObject) with
    | none => json
    | some policy =>
      let policy := policy.remove "system"
      if policy = [] then json.remove "policy" else json.modify "policy" fun _ => .obj policy

/-- Replace the package names of a rule by user IDs, unless no package is installed. -/
def ruleToUids (rule : Json) : Json :=
  match rule.asObject with
  | none => rule
  | some rule =>
    let packages := (((rule.get "process").bind (·.asArray)).getD []).filterMap (·.asString)
    let uids := env.packageNamesToUids packages
    if uids = [] then .obj rule else .obj (rule.add "process" (.arr (uids.map .str)))

def rulesToUids (json : JsonObject) : JsonObject :=
  json.modify "routing" fun routing =>
    match routing.asObject with
    | none => routing
    | some routing => .obj (routing.modify "rules" fun rules =>
      match rules.asArray with
      | none => rules
      | some rules => .arr (rules.map (ruleToUids env)))

def isTunInbound (inbound : Json) : Bool :=
  (inbound.asObject.bind fun o => (o.get "protocol").bind (·.asString)) == some "tun"

/-- Add the tun inbound of the template to a configuration without one. -/
def ensureTunInbound (json : JsonObject) : Except String JsonObject := do
  let inbounds := ((json.get "inbounds").bind (·.asArray)).getD []
  if inbounds.any isTunInbound then return json
  let template ← initV2rayConfig env
  let tun := (template.inbounds.find? (·.tag = "tun")).map (setMtu env)
  return json.add "inbounds" (.arr (inbounds ++ (tun.map (·.toJson)).toList))

def buildV2rayCustomConfig (guid : String) : Except String ConfigResult :=
  match env.store.serverRaw.get guid with
  | none =>
    return { status := false, guid := some guid
             errorMessage := "Failed to build config context, config is empty" }
  | some raw =>
    match env.platform.parseString raw with
    | none => return { status := true, guid := some guid, content := .raw raw }
    | some json => do
      let json := configureStats env json
      if !needTun env then
        return { status := true, guid := some guid, content := .json (Json.dropNullsMembers json) }
      let json := if env.canUseProcessRouting then rulesToUids env json else json
      let json ← ensureTunInbound env json
      return { status := true, guid := some guid, content := .json (Json.dropNullsMembers json) }

/-! ## The result -/

def toConfigResult (context : CoreConfigContext) (config : V2rayConfig) : ConfigResult :=
  { status := true, guid := some context.guid, content := .unified config }

def buildResult (context : CoreConfigContext) : Except String ConfigResult :=
  if context.isCustom then buildV2rayCustomConfig env context.guid
  else do
    let config ← buildUnifiedConfig env context
    return toConfigResult context config

def getV2rayConfig (guid : String) : ConfigResult :=
  match build env guid with
  | none =>
    { status := false, guid := some guid, errorMessage := "Failed to build config context" }
  | some context =>
    match buildResult env context with
    | .ok result => result
    | .error message =>
      { status := false, guid := some guid
        errorMessage := "Failed to get V2ray config: " ++ message }

end
end CoreConfigManager
end ZeroVpn
