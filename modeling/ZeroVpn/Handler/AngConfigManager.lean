import ZeroVpn.Handler.MmkvManager
import ZeroVpn.Fmt.V2rayNFmt

/-!
# Importing profiles and working on groups

The operations of `AngConfigManager` on the profile store: the batch import with its fallbacks,
the subscription update, the ranking by test results and the removal of failed servers of a group,
and `saveServer` of the editors. Base64, Gson, regular expressions, URLs, the network and the link
parsers of the other formats are the fields of `ImportEnv`; `Utils.getUuid` is a supply of texts.
-/

namespace ZeroVpn
open MmkvManager Text

/-- A link parser: a profile, nothing, or an exception. -/
abbrev FmtParser := String → Except String (Option ProfileItem)

structure FmtParsers where
  vmess : FmtParser
  shadowsocks : FmtParser
  socks : FmtParser
  trojan : FmtParser
  vless : FmtParser
  wireguard : FmtParser
  hysteria2 : FmtParser

/-- The text and the headers of an HTTP answer. -/
structure HttpTextResult where
  content : String
  headers : List (String × String) := []

structure ImportEnv where
  /-- Java's per-character case folding. -/
  fold : Char → Char
  /-- `Utils.decode`. -/
  decode : Option String → String
  parsers : FmtParsers
  /-- `Regex(pattern).containsMatchIn(input)`. -/
  containsMatchIn : String → String → Except String Bool
  /-- The v2rayN share item of a JSON text. -/
  shareItem : String → Option V2rayNShareItem
  /-- `Regex.escape`. -/
  escape : String → String
  /-- The elements of a JSON array, printed by `toJson` and by `toJsonPretty`. -/
  jsonArray : String → Except String (List (String × String))
  /-- `CustomFmt.parse`. -/
  parseCustom : String → Except String ProfileItem
  parseWireguardConfFile : String → Except String ProfileItem
  extractAmneziaWireguardConf : String → Except String (Option String)
  isValidUrl : String → Bool
  isValidSubUrl : String → Bool
  /-- The fragment of `URI(Utils.fixIllegalUrl(url))`. -/
  uriFragment : String → Except String (Option String)
  toIdnUrl : String → Except String String
  /-- The answer to the request through the local proxy. -/
  fetchViaProxy : String → SubscriptionItem → Option HttpTextResult
  fetchDirect : String → SubscriptionItem → Option HttpTextResult
  currentTimeMillis : Int

structure SubscriptionUpdateResult where
  configCount : Nat := 0
  successCount : Nat := 0
  failureCount : Nat := 0
  skipCount : Nat := 0

def SubscriptionUpdateResult.plus (a b : SubscriptionUpdateResult) : SubscriptionUpdateResult :=
  ⟨a.configCount + b.configCount, a.successCount + b.successCount, a.failureCount + b.failureCount,
    a.skipCount + b.skipCount⟩

structure ParsedProfile where
  profile : ProfileItem
  rawConfig : Option String := none

namespace AngConfigManager

/-! ## Parsing -/

/-- The address with its last part hidden, and the port. -/
def generateDescription (profile : ProfileItem) : String :=
  if isNullOrBlank profile.server && isNullOrBlank profile.serverPort then ""
  else
    let addrPart := match profile.server with
      | some server =>
        if containsChar server ':' then
          ":".intercalate ((split ':' server).take 2) ++ ":***"
        else ".".intercalate (split '.' server).dropLast ++ ".***"
      | none => ""
    addrPart ++ " : " ++ profile.serverPort.getD ""

def configFmtParsers (parsers : FmtParsers) : List (String × FmtParser) :=
  [(AppConfig.vmess, parsers.vmess),
    (AppConfig.shadowsocks, parsers.shadowsocks),
    (AppConfig.socks, parsers.socks),
    (AppConfig.socks4, parsers.socks),
    (AppConfig.socks5, parsers.socks),
    (AppConfig.trojan, parsers.trojan),
    (AppConfig.vless, parsers.vless),
    (AppConfig.wireguard, parsers.wireguard),
    (AppConfig.hysteria2, parsers.hysteria2),
    (AppConfig.hy2, parsers.hysteria2)]

/-- The first profile a parser of a matching scheme gives. -/
def firstConfig (str : String) : List (String × FmtParser) → Except String (Option ProfileItem)
  | [] => .ok none
  | (scheme, parser) :: rest =>
    if startsWith str scheme then do
      match ← parser str with
      | some config => return some config
      | none => firstConfig str rest
    else firstConfig str rest

/-- The destination group and the description of an imported profile. -/
def assign (config : ProfileItem) (subid : String) : ProfileItem :=
  { config with subscriptionId := subid, description := some (generateDescription config) }

section
variable (env : ImportEnv)

/-- The subscription's filter admits the remarks. -/
def passesFilter (subItem : Option SubscriptionItem) (config : ProfileItem) : Except String Bool :=
  match (subItem.bind (·.filter)).filter (!isBlank ·) with
  | some filter => if isBlank config.remarks then .ok true
      else env.containsMatchIn filter config.remarks
  | none => .ok true

/-- An exception reads as no profile. -/
def parseConfig (str subid : String) (subItem : Option SubscriptionItem) : Option ProfileItem :=
  if str = "" then none
  else match firstConfig str (configFmtParsers env.parsers) with
    | .ok (some config) =>
      match passesFilter env subItem config with
      | .ok true => some (assign config subid)
      | _ => none
    | _ => none

def isV2raynLine (line : String) : Bool :=
  startsWithIgnoreCase env.fold line AppConfig.v2raynfmts

/-- The distinct lines of a text, last one first. -/
def batchLines (servers : String) : List String := (lines servers).eraseDups.reverse

/-- The profiles of a batch: the v2rayN items, then the other links. -/
def parseLines (servers subid : String) (subItem : Option SubscriptionItem) :
    Except String (List ProfileItem) := do
  let lines := batchLines servers
  let configs := (lines.filter (!isV2raynLine env ·)).filterMap (parseConfig env · subid subItem)
  let v2raynConfigs ←
    V2rayNFmt.parse (fun s => env.decode (some s)) env.shareItem env.escape
      (lines.filter (isV2raynLine env ·)) subid
  return v2raynConfigs ++ configs

/-- The profiles of a text that is no list of links: an array of custom configurations, one custom
configuration, a WireGuard file or an Amnezia backup. -/
def parseCustomArray (server subid : String) : Except String (List ParsedProfile) := do
  let elements ← env.jsonArray server
  elements.reverse.mapM fun (json, pretty) => do
    let config ← env.parseCustom json
    return ⟨assign config subid, some pretty⟩

def parseCustomSingle (server subid : String) : Except String (List ParsedProfile) := do
  let config ← env.parseCustom server
  return [⟨assign config subid, some server⟩]

def parseWireguard (conf subid : String) : Except String (List ParsedProfile) := do
  let config ← env.parseWireguardConfFile conf
  return [⟨assign config subid, some conf⟩]

def parseAmnezia (server subid : String) : Except String (List ParsedProfile) := do
  match ← env.extractAmneziaWireguardConf server with
  | some conf => parseWireguard env conf subid
  | none => return []

/-- An exception reads as no profile. -/
def parsedOrNil (r : Except String (List ParsedProfile)) : List ParsedProfile :=
  match r with
  | .ok configs => configs
  | .error _ => []

/-- What `parseCustomConfigServer` commits. -/
def customProfiles (server subid : String) : List ParsedProfile :=
  if contains server "inbounds" && contains server "outbounds" &&
      contains server "routing" then
    match parsedOrNil (parseCustomArray env server subid) with
    | [] => parsedOrNil (parseCustomSingle env server subid)
    | configs => configs
  else if startsWithIgnoreCase env.fold
        (trimStart (String.ofList (server.toList.filter (· != Char.ofNat 0xFEFF)))) "[Interface]" &&
      containsIgnoreCase env.fold server "[Peer]" then
    parsedOrNil (parseWireguard env server subid)
  else if contains server "\"containers\"" || contains server "\"last_config\"" then
    parsedOrNil (parseAmnezia env server subid)
  else []

/-! ## Committing -/

/-- `uuids i` is the value of `Utils.getUuid` for the `i`-th profile. -/
def commitProfiles (uuids : Nat → String) (configs : List ParsedProfile) (subid : String)
    (append : Bool) : StoreM Unit :=
  let keyed := configs.zipIdx.map fun e => (uuids e.2, e.1)
  let keyToProfile := LinkedMap.ofEntries (keyed.map fun e => (e.1, e.2.profile))
  let rawConfigs := KV.setAll (∅ : KV String String)
    (keyed.filterMap fun e => e.2.rawConfig.map fun raw => (e.1, raw))
  saveServerProfiles env.fold keyToProfile rawConfigs subid append

/-- Commit what was parsed, if anything, and count it. -/
def commitParsed (uuids : Nat → String) (configs : List ParsedProfile) (subid : String)
    (append : Bool) : StoreM Nat :=
  if configs = [] then pure 0 else do
    commitProfiles env uuids configs subid append
    pure configs.length

def parseBatchConfig (uuids : Nat → String) (servers : Option String) (subid : String)
    (append : Bool) : StoreM Nat :=
  match servers with
  | none => pure 0
  | some servers => do
    let subItem ← decodeSubscription subid
    match parseLines env servers subid subItem with
    | .ok configs => commitParsed env uuids (configs.map fun c => ⟨c, none⟩) subid append
    | .error _ => pure 0

def parseCustomConfigServer (uuids : Nat → String) (server : Option String) (subid : String)
    (append : Bool) : StoreM Nat :=
  match server with
  | none => pure 0
  | some server => commitParsed env uuids (customProfiles env server subid) subid append

/-- Go on with the next parser when a text gave no profile. -/
def orElseCount (count : Nat) (next : StoreM Nat) : StoreM Nat :=
  if count = 0 then next else pure count

def parseConfigViaSub (uuids : Nat → String) (server : Option String) (subid : String)
    (append : Bool) : StoreM Nat := do
  let count ← parseBatchConfig env uuids (some (env.decode server)) subid append
  let count ← orElseCount count (parseBatchConfig env uuids server subid append)
  orElseCount count (parseCustomConfigServer env uuids server subid append)

/-! ## Subscriptions -/

/-- One `key=value` part of the quota header. -/
def userInfoPart (part : String) : Option (String × Int) :=
  match splitFirst '=' part with
  | (key, some value) =>
    if key = "" then none
    else (toLongOrNull (trim value)).map fun n =>
      (lowercaseAscii (trim key), n)
  | _ => none

def setUserInfo (item : SubscriptionItem) (entry : String × Int) : SubscriptionItem :=
  if entry.1 = "upload" then { item with upload := entry.2 }
  else if entry.1 = "download" then { item with download := entry.2 }
  else if entry.1 = "total" then { item with total := entry.2 }
  else if entry.1 = "expire" then { item with expire := entry.2 }
  else item

/-- Missing fields keep their previous value. -/
def applySubscriptionUserInfo (item : SubscriptionItem) (headers : List (String × String)) :
    SubscriptionItem :=
  match headers.find? fun h =>
    equalsIgnoreCase env.fold h.1 AppConfig.subscriptionUserinfoHeader with
  | some header => ((split ';' header.2).filterMap userInfoPart).foldl setUserInfo item
  | none => item

/-- The body of a subscription: through the local proxy, or directly when that gives nothing. -/
def fetchSubscription (url : String) (item : SubscriptionItem) : Option HttpTextResult :=
  match (env.fetchViaProxy url item).filter (·.content != "") with
  | some result => some result
  | none => (env.fetchDirect url item).filter (·.content != "")

/-- The request a subscription update makes, or the result it stops with. -/
def subscriptionUrl (guid : String) (item : SubscriptionItem) :
    Except SubscriptionUpdateResult String :=
  if !item.enabled then .error { skipCount := 1 }
  else if guid = "" || item.remarks = "" || item.url = "" then .error { skipCount := 1 }
  else match env.toIdnUrl item.url with
    | .error _ => .error { failureCount := 1 }
    | .ok url =>
      if !env.isValidUrl url then .error { failureCount := 1 }
      else if !item.allowInsecureUrl && !env.isValidSubUrl url then .error { failureCount := 1 }
      else .ok url

/-- Store the subscription after its group was updated with `count` profiles. -/
def storeUpdated (uuid guid : String) (item : SubscriptionItem) (count : Nat) :
    StoreM SubscriptionUpdateResult :=
  if 0 < count then do
    encodeSubscription guid uuid { item with lastUpdated := env.currentTimeMillis }
    pure { configCount := count, successCount := 1 }
  else if 0 < item.total then do
    encodeSubscription guid uuid item
    pure { failureCount := 1 }
  else pure { failureCount := 1 }

/-- `uuid` is drawn if the subscription is stored under a blank ID. -/
def updateConfigViaSub (uuids : Nat → String) (uuid guid : String) (item : SubscriptionItem) :
    StoreM SubscriptionUpdateResult :=
  match subscriptionUrl env guid item with
  | .error result => pure result
  | .ok url =>
    match fetchSubscription env url item with
    | none => pure { failureCount := 1 }
    | some text => Prog.tryCatch (do
        let item := applySubscriptionUserInfo env item text.headers
        let count ← parseConfigViaSub env uuids (some text.content) guid false
        storeUpdated env uuid guid item count) fun _ => pure { failureCount := 1 }

/-- Update subscriptions one after the other. -/
def updateEach (uuids : Nat → Nat → String) (ids : Nat → String) (n : Nat) :
    List (String × SubscriptionItem) → StoreM SubscriptionUpdateResult
  | [] => pure {}
  | (guid, item) :: rest => do
    let result ← updateConfigViaSub env (uuids n) (ids n) guid item
    let results ← updateEach uuids ids (n + 1) rest
    pure (result.plus results)

/-- `uuids i` and `ids i` serve the update of the `i`-th subscription. -/
def updateConfigViaSubAll (uuids : Nat → Nat → String) (ids : Nat → String) :
    StoreM SubscriptionUpdateResult :=
  Prog.tryCatch (do
    let subscriptions ← decodeSubscriptions
    updateEach env uuids ids 0 subscriptions) fun _ => pure {}

def importUrlAsSubscription (uuid url : String) : StoreM Nat := do
  let subscriptions ← decodeSubscriptions
  if subscriptions.any (·.2.url == url) then pure 0
  else match env.uriFragment url with
    | .error e => .fail (.other e)
    | .ok fragment => do
      encodeSubscription "" uuid {
        remarks := fragment.getD "import sub", url := url, addedTime := env.currentTimeMillis }
      pure 1

/-- Import the subscription links among the lines. -/
def importUrls (uuids : Nat → String) (n : Nat) : List String → StoreM Nat
  | [] => pure 0
  | str :: rest =>
    if env.isValidSubUrl str then do
      let count ← importUrlAsSubscription env (uuids n) str
      let counts ← importUrls uuids (n + 1) rest
      pure (count + counts)
    else importUrls uuids (n + 1) rest

/-- A line that is no URI ends the loop; the subscriptions stored before it stay. -/
def parseBatchSubscription (uuids : Nat → String) (servers : Option String) : StoreM Nat :=
  match servers with
  | none => pure 0
  | some servers =>
    Prog.tryCatch (importUrls env uuids 0 (lines servers).eraseDups) fun _ => pure 0

/-- The values of `Utils.getUuid` an import draws. -/
structure UuidSupply where
  /-- For the profiles of the text itself. -/
  own : Nat → String
  /-- For the profiles of the subscriptions updated at the end. -/
  updates : Nat → Nat → String
  /-- For updated subscriptions that are stored under a blank ID. -/
  updatedSubscriptions : Nat → String
  /-- For new subscriptions, found in the text or in its decoding. -/
  subscriptions : Nat → String
  decodedSubscriptions : Nat → String

/-- Update all subscriptions if the import added one. -/
def updateIfAdded (uuids : UuidSupply) (countSub : Nat) : StoreM Unit :=
  if 0 < countSub then do
    let _ ← updateConfigViaSubAll env uuids.updates uuids.updatedSubscriptions
    pure ()
  else pure ()

/-- A failed write ends the import with no counts. -/
def countNothing : StoreException → StoreM (Nat × Nat)
  | .profileStorage _ => pure (0, 0)
  | .other message => .fail (.other message)

def importBatchConfig (uuids : UuidSupply) (server : Option String) (subid : String)
    (append : Bool) : StoreM (Nat × Nat) :=
  Prog.tryCatch (do
    let count ← parseConfigViaSub env uuids.own server subid append
    let countSub ← parseBatchSubscription env uuids.subscriptions server
    let countSub ← orElseCount countSub
      (parseBatchSubscription env uuids.decodedSubscriptions (some (env.decode server)))
    updateIfAdded env uuids countSub
    pure (count, countSub)) countNothing

end

/-! ## Groups -/

/-- The sort keys of servers: an untested or failed server ranks last. -/
def readDelays : List String → StoreM (List (String × Int))
  | [] => pure []
  | guid :: guids => do
    let aff ← decodeServerAffiliationInfo guid
    let delay := (aff.map (·.testDelayMillis)).getD 0
    let rest ← readDelays guids
    pure ((guid, if delay ≤ 0 then 9223372036854775807 else delay) :: rest)

/-- `sortedBy { it.second }`; the sort is stable. -/
def sortByDelay (delays : List (String × Int)) : List String :=
  (delays.insertionSort fun a b => a.2 ≤ b.2).map Prod.fst

def sortByTestResultsForSub (subId : String) : StoreM Unit := do
  let serverList ← decodeServerList subId
  if serverList = [] then pure () else do
    let delays ← readDelays serverList
    encodeServerList (sortByDelay delays) subId

/-- The servers of a list whose last test failed. -/
def readInvalid : List String → StoreM (List String)
  | [] => pure []
  | guid :: guids => do
    let aff ← decodeServerAffiliationInfo guid
    let rest ← readInvalid guids
    pure (if aff.any (·.testDelayMillis < 0) then guid :: rest else rest)

def removeInvalidServer (subId : String) : StoreM Unit := do
  let serverList ← decodeServerList subId
  let invalidServers ← readInvalid serverList
  removeServers invalidServers subId

end AngConfigManager

/-! ## The editors -/

namespace BaseServerActivity

/-- The profile `saveServer` stores: the open group replaces an empty subscription. -/
def savedProfile (subscriptionId : Option String) (config : ProfileItem) : ProfileItem :=
  let config := { config with description := some (AngConfigManager.generateDescription config) }
  if config.subscriptionId = "" && !isNullOrEmpty subscriptionId then
    { config with subscriptionId := orEmpty subscriptionId }
  else config

/-- `saveServer` after the validation of the form. -/
def saveServer (editGuid uuid : String) (subscriptionId : Option String) (config : ProfileItem) :
    StoreM String :=
  encodeServerConfig editGuid uuid (savedProfile subscriptionId config)

end BaseServerActivity
end ZeroVpn
