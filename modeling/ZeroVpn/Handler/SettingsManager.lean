import ZeroVpn.Handler.MmkvManager
import ZeroVpn.Dto.V2rayConfig
import ZeroVpn.Util.Utils

/-!
# Settings

`Platform` holds what the application asks of Android and of third-party libraries, `AppEnv` adds
the stored profiles, the settings and the routing rulesets. The functions are those of
`SettingsManager` that the configuration builder uses.
-/

namespace ZeroVpn

structure Platform where
  sdkInt : Nat
  /-- `TProxyService.isNativeLibraryAvailable` -/
  isNativeLibraryAvailable : Bool
  /-- One of the Android URL patterns matches. -/
  isValidUrl : String → Bool
  /-- `IDN.toASCII` -/
  toASCII : String → Except String String
  /-- `InetAddress.getAllByName`, `none` where it throws. -/
  getAllByName : String → Option (List InetAddress)
  /-- `Regex(pattern).containsMatchIn(text)`, `none` where the pattern is rejected. -/
  containsMatchIn : String → String → Option Bool
  /-- `JsonUtil.parseString`, `none` if the text is not a JSON object. -/
  parseString : String → Option JsonObject
  /-- The UID of an installed package. -/
  getPackageUid : String → Option String
  /-- Java's per-character case folding. -/
  fold : Char → Char
  /-- Whether the assets can be read. -/
  assetsReadable : Bool
  /-- The value of `Random.nextInt(10000, 65535)`. -/
  randomSocksPort : Int

structure AppEnv where
  platform : Platform
  store : Store
  settingsString : String → Option String
  settingsBool : String → Option Bool
  routingRuleset : Option (Stored (List RulesetItem))
  runtimeSocksPort : Option Int

namespace AppEnv

variable (env : AppEnv)

/-! ## Decoding -/

def decodeSettingsString (key : String) : Option String := env.settingsString key

/-- `decodeSettingsString` with a default value. -/
def decodeSettingsStringOr (key default : String) : String :=
  (env.settingsString key).getD default

def decodeSettingsBool (key : String) (default : Bool := false) : Bool :=
  (env.settingsBool key).getD default

/-- An empty text reads as `null`, an unreadable one as no items. -/
def decodeRoutingRulesets : Option (List RulesetItem) :=
  env.routingRuleset.bind fun
    | .blank => none
    | .unreadable => some []
    | .json items => some items

/-! ## Settings -/

def getServerViaRemarks (remarks : Option String) : Option ProfileItem :=
  match remarks with
  | none => none
  | some remarks =>
    if remarks = "" then none
    else (env.store.allServerList.filterMap env.store.serverConfig).find? (·.remarks == remarks)

def getSocksPort : Int :=
  if env.decodeSettingsBool AppConfig.prefDynamicSocksPort then
    env.runtimeSocksPort.getD env.platform.randomSocksPort
  else Utils.parseInt (env.decodeSettingsString AppConfig.prefSocksPort) AppConfig.portSocks

/-- A 32-bit sum. -/
def getHttpPort : Int :=
  (env.getSocksPort + if Utils.isXray then 0 else 1).bmod (2 ^ 32)

def getSocksUsername : Option String :=
  ((env.decodeSettingsString AppConfig.prefSocksUsername).map Text.trim).filter (· ≠ "")

def getSocksPassword : Option String :=
  ((env.decodeSettingsString AppConfig.prefSocksPassword).map Text.trim).filter (· ≠ "")

/-- The usable addresses of a comma-separated DNS setting, or the default if there are none. -/
def dnsServers (key default : String) : List String :=
  let ret := (Text.split ',' (env.decodeSettingsStringOr key default)).filter fun s =>
    Utils.isPureIpAddress s || Utils.isCoreDNSAddress s
  if ret = [] then [default] else ret

def getDomesticDnsServers : List String :=
  env.dnsServers AppConfig.prefDomesticDns AppConfig.dnsDirect

def getRemoteDnsServers : List String := env.dnsServers AppConfig.prefRemoteDns AppConfig.dnsProxy

def getVpnMtu : Int :=
  Utils.parseInt (env.decodeSettingsString AppConfig.prefVpnMtu) AppConfig.vpnMtu

def isUsingHevTun : Bool :=
  env.decodeSettingsBool AppConfig.prefUseHevTunnel true && env.platform.isNativeLibraryAvailable

def isVpnMode : Bool :=
  match env.decodeSettingsString AppConfig.prefMode with
  | none => true
  | some mode => mode == AppConfig.vpn

def isRootMode : Bool := env.decodeSettingsBool AppConfig.prefRootModeEnable

/-- Process routing needs Android 10, the built-in tun and the route-only setting. -/
def canUseProcessRouting : Bool :=
  29 ≤ env.platform.sdkInt && !env.isUsingHevTun &&
    env.decodeSettingsBool AppConfig.prefRouteOnlyEnabled

/-! ## Package names -/

def resolveUid (packageName : String) : Option String :=
  if packageName = AppConfig.unidentifiedPackage then some "-1"
  else env.platform.getPackageUid packageName

def packageNamesToUids (packageNames : List String) : List String :=
  packageNames.filterMap env.resolveUid

/-- `getRemoteDnsServers().first()` exists. -/
theorem getRemoteDnsServers_ne_nil : env.getRemoteDnsServers ≠ [] := by
  unfold getRemoteDnsServers dnsServers
  dsimp only
  split
  · exact List.cons_ne_nil _ _
  · assumption

end AppEnv
end ZeroVpn
