import ZeroVpn.Handler.SettingsManager

/-!
# The plan of a configuration

`build` analyses the selected profile, the targets of the enabled routing rules and the fallback
targets of policy groups into one ordered list of resolved outbounds; the selected profile comes
first, under the tag `proxy`. The exception handlers of the source have nothing to catch here:
every function it calls in them is total.
-/

namespace ZeroVpn

structure ResolvedOutbound where
  tag : String
  profile : ProfileItem
  resolvedProfiles : List ProfileItem
  resolvedType : CoreResolvedType

structure RoutingDomainRule where
  domain : List String
  outboundTag : String

structure CoreConfigContext where
  guid : String
  isCustom : Bool := false
  resolvedOutbounds : List ResolvedOutbound := []
  routingDomainRules : List RoutingDomainRule := []

namespace CoreConfigContextBuilder

section
variable (env : AppEnv)

/-- The remarks match the filter, read as a regular expression or else as a text. -/
def matchesFilter (filter : Option String) (remarks : String) : Bool :=
  match filter with
  | none => true
  | some filter =>
    if Text.isBlank filter then true
    else (env.platform.containsMatchIn filter remarks).getD (Text.contains remarks filter)

/-- What a group or chain member has to satisfy. -/
def isMember (profile : ProfileItem) : Bool :=
  Utils.isUsableServer env.platform.isValidUrl profile.server && !profile.configType.isComplexType

def resolvePolicyGroupProfiles (config : ProfileItem) : List ProfileItem :=
  (env.store.allServerList.filterMap env.store.serverConfig).filter fun profile =>
    (Text.isNullOrBlank config.policyGroupSubscriptionId ||
      some profile.subscriptionId == config.policyGroupSubscriptionId) &&
    matchesFilter env config.policyGroupFilter profile.remarks && isMember env profile

def resolveProxyChainProfiles (config : ProfileItem) : List ProfileItem :=
  if Text.isNullOrBlank config.proxyChainProfiles then [config]
  else
    let remarks := Text.split ',' (Text.orEmpty config.proxyChainProfiles)
    ((remarks.filterMap fun remark => env.getServerViaRemarks remark).filter (isMember env)).reverse

/-- The neighbours of the subscription in the order next, current, previous. -/
def resolveProxyChainProfilesFromGroup (config : ProfileItem) : List ProfileItem :=
  if config.subscriptionId = "" then [config]
  else
    match env.store.subscription config.subscriptionId with
    | none => [config]
    | some subItem =>
      (env.getServerViaRemarks subItem.nextProfile).toList ++ [config] ++
        (env.getServerViaRemarks subItem.prevProfile).toList

/-- A chain of at most one node is a single node. -/
def chainType (profiles : List ProfileItem) : CoreResolvedType :=
  if profiles.length ≤ 1 then .normal else .proxychain

def resolveOutbound (tag : String) (profile : ProfileItem) : Option ResolvedOutbound :=
  match profile.configType with
  | .custom => none
  | .policygroup =>
    some { tag, profile, resolvedProfiles := resolvePolicyGroupProfiles env profile
           resolvedType := .policygroup }
  | .proxychain =>
    let chainProfiles := resolveProxyChainProfiles env profile
    some { tag, profile, resolvedProfiles := chainProfiles, resolvedType := chainType chainProfiles }
  | _ =>
    let chainProfiles := resolveProxyChainProfilesFromGroup env profile
    some { tag, profile, resolvedProfiles := chainProfiles, resolvedType := chainType chainProfiles }

/-- The tags of the enabled rules that are not built in, each once. -/
def routingTags (rulesetItems : List RulesetItem) : List String :=
  (((rulesetItems.filter (·.enabled)).map (·.outboundTag)).filter fun tag =>
    !Text.isBlank tag && tag ∉ AppConfig.builtinOutboundTags).eraseDups

/-- The outbound of a routing tag, unless no profile, or none that can be used, has that name. -/
def resolveRoutingOutbound (tag : String) : Option ResolvedOutbound := do
  let profile ← env.getServerViaRemarks tag
  let resolvedOutbound ← resolveOutbound env tag profile
  if resolvedOutbound.resolvedProfiles = [] then none else some resolvedOutbound

def resolveRoutingOutbounds : List ResolvedOutbound :=
  match env.decodeRoutingRulesets with
  | none => []
  | some rulesetItems => (routingTags rulesetItems).filterMap (resolveRoutingOutbound env)

/-- Whether a group's balancer has a fallback. -/
def usesFallback (profile : ProfileItem) : Bool :=
  (BalancerStrategyType.ofType profile.policyGroupType).supportsObservatory &&
    profile.policyGroupTestOutbounds != some false

/-- The outbound of a fallback tag; groups and custom configurations are no fallbacks. -/
def resolveFallbackOutbound (tag : String) : Option ResolvedOutbound := do
  let profile ← env.getServerViaRemarks tag
  if profile.configType = .custom ∨ profile.configType = .policygroup then none
  else resolveOutbound env tag profile

def resolveFallbackOutbounds (resolvedOutbounds : List ResolvedOutbound) : List ResolvedOutbound :=
  let groups := resolvedOutbounds.filter fun r =>
    r.resolvedType = .policygroup && usesFallback r.profile
  let tags := (groups.filterMap (·.profile.policyGroupFallbackTag)).filter fun tag =>
    tag ∉ AppConfig.builtinOutboundTags && tag ∉ resolvedOutbounds.map (·.tag)
  tags.eraseDups.filterMap (resolveFallbackOutbound env)

def normalizedOutboundTag (outboundTag : String) : String :=
  if outboundTag = AppConfig.tagDirect then AppConfig.tagDirect
  else if outboundTag = AppConfig.tagBlocked then AppConfig.tagBlocked
  else AppConfig.tagProxy

def collectRoutingDomainRulesForDns : List RoutingDomainRule :=
  match env.decodeRoutingRulesets with
  | none => []
  | some rulesetItems =>
    (rulesetItems.filter fun rule => rule.enabled && rule.domain.getD [] ≠ []).map fun rule =>
      { domain := rule.domain.getD [], outboundTag := normalizedOutboundTag rule.outboundTag }

def build (guid : String) : Option CoreConfigContext := do
  let config ← env.store.serverConfig guid
  if config.configType = .custom then some { guid, isCustom := true }
  else
    let primary ← resolveOutbound env AppConfig.tagProxy config
    let resolvedOutbounds := primary :: resolveRoutingOutbounds env
    some { guid
           resolvedOutbounds := resolvedOutbounds ++ resolveFallbackOutbounds env resolvedOutbounds
           routingDomainRules := collectRoutingDomainRulesForDns env }

end
end CoreConfigContextBuilder
end ZeroVpn
