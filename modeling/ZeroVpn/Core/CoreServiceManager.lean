import ZeroVpn.Core.CoreConfigManager

/-!
# Launching the core

`launchCore` up to the point where an engine takes over: the selected profile passes
`validateProfile`, AmneziaWG profiles go to their own engine, and for the others the configuration
is built and checked.
-/

namespace ZeroVpn

namespace WireguardFmt

def awgParams : List String :=
  ["Jc", "Jmin", "Jmax", "S1", "S2", "S3", "S4", "H1", "H2", "H3", "H4", "I1", "I2", "I3", "I4", "I5"]

/-- `\s` of a regular expression. -/
def isRegexSpace (c : Char) : Bool :=
  c == ' ' || c == '\t' || c == '\n' || c.toNat == 11 || c.toNat == 12 || c == '\r'

/-- A line ends here: a multi-line `^` matches after this character. -/
def isLineEnd (c : Char) : Bool :=
  c == '\n' || c == '\r' || c.toNat == 0x85 || c.toNat == 0x2028 || c.toNat == 0x2029

/-- `\s*(Jc|…|I5)\s*=` matches at the start of the text. -/
def startsWithAwgParam (fold : Char → Char) (cs : List Char) : Bool :=
  let cs := cs.dropWhile isRegexSpace
  awgParams.any fun param =>
    (cs.take param.length).map fold == param.toList.map fold &&
      ((cs.drop param.length).dropWhile isRegexSpace).head? == some '='

/-- The pattern matches at the start of some line. -/
def containsAwgParam (fold : Char → Char) : List Char → Bool
  | [] => false
  | c :: cs => (isLineEnd c && startsWithAwgParam fold cs) || containsAwgParam fold cs

def hasAwgParams (fold : Char → Char) (item : ProfileItem) : Bool :=
  item.configType == .wireguard &&
    match item.rawConf with
    | none => false
    | some conf => startsWithAwgParam fold conf.toList || containsAwgParam fold conf.toList

end WireguardFmt

namespace CoreServiceManager
open WireguardFmt CoreConfigManager

section
variable (env : AppEnv)

def validateProfile (config : ProfileItem) : Except String Unit :=
  if hasAwgParams env.platform.fold config then
    if Text.isNullOrBlank config.rawConf then .error "AmneziaWG configuration text is missing"
    else .ok ()
  else if Text.orEmpty (config.server.map Text.trim) = "" then
    .error "Server address is missing in the selected profile"
  else
    match config.serverPort.bind fun port => Text.toIntOrNull (Text.trim port) with
    | none => .error "Invalid server port in the selected profile"
    | some port =>
      if 1 ≤ port ∧ port ≤ 65535 then .ok ()
      else .error "Invalid server port in the selected profile"

/-- The content is a JSON object with an array of outbounds; a built configuration always is. -/
def validateConfigContent : ConfigContent → Except String Unit
  | .unified _ => .ok ()
  | .json o =>
    if ((o.get "outbounds").bind (·.asArray)).isSome then .ok ()
    else .error "Generated configuration has no outbounds"
  | .empty | .raw _ => .error "Generated configuration is not valid JSON"

/-- The engine that is started. -/
inductive Launch where
  | awg (config : ProfileItem)
  | core (config : ProfileItem) (content : ConfigContent)

/-- The launch of a core configuration that has been built. -/
def launchBuilt (config : ProfileItem) (result : ConfigResult) : Except String Launch :=
  if result.status then do
    validateConfigContent result.content
    return .core config result.content
  else
    .error (if Text.isBlank result.errorMessage then "Failed to get V2Ray config"
      else result.errorMessage)

def launchCore : Except String Launch :=
  match env.store.selected with
  | none => .error "No server selected"
  | some guid =>
    match env.store.serverConfig guid with
    | none => .error "Failed to decode server config"
    | some config => do
      validateProfile env config
      if hasAwgParams env.platform.fold config then return .awg config
      else launchBuilt config (getV2rayConfig env guid)

end
end CoreServiceManager
end ZeroVpn
