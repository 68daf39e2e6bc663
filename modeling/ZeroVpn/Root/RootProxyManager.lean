import ZeroVpn.Handler.SettingsManager
import ZeroVpn.Std.Netfilter

/-!
# Root mode

The scripts of `RootProxyManager`, a line per command of the source. Commands on chains, policy rules,
routes, pid files and helper processes are terms of `Command`; any other command is kept as its text.
-/

namespace ZeroVpn
open Netfilter

/-- The chains of the scripts: the built-in ones, then the dedicated ones. -/
inductive ChainName
  | output | forward | prerouting
  /-- `CORE_FILTER` -/
  | coreFilter
  /-- `CORE_FWD` -/
  | coreFwd
  /-- `CORE_DNS` -/
  | coreDns
  /-- `CORE6_FILTER` -/
  | core6Filter
  /-- `CORE6_FWD` -/
  | core6Fwd
  /-- `CORE6_PRE` -/
  | core6Pre
deriving DecidableEq, Repr

def ChainName.isBuiltin : ChainName → Bool
  | output | forward | prerouting => true
  | _ => false

structure ChainKey where
  family : Family
  table : Table
  name : ChainName
deriving DecidableEq, Repr

abbrev ChainRule := Rule ChainName

inductive IpSelector
  | fwmark (mark : Nat)
  | iif (name : String)
  | to (cidr : Cidr)
  | «from» (cidr : Cidr)
  | all
deriving DecidableEq

inductive IpAction
  | lookup (table : Nat)
  | lookupMain
  /-- `lookup main suppress_prefixlength 0` -/
  | lookupMainSpecific
  | goto (pref : Nat)
  | nop
deriving DecidableEq

/-- An entry of the routing policy. -/
structure IpRule where
  selector : IpSelector
  action : IpAction
  pref : Nat
deriving DecidableEq

/-- The processes a setup starts: the loop that pins the priority of the core, and the tunnel. -/
inductive Helper
  | oomGuard | tun2socks
deriving DecidableEq, Repr

inductive Command
  /-- `set -e` and `set +e` -/
  | setErrexit (on : Bool)
  /-- Any other command. -/
  | shell (text : String)
  /-- `nohup … &` -/
  | spawn (helper : Helper)
  /-- `T2S_PID=$!` -/
  | savePid
  /-- `echo $! > file` -/
  | writeLastPid (helper : Helper)
  /-- `echo $T2S_PID > file` -/
  | writeSavedPid (helper : Helper)
  /-- `[ -f file ] && kill $(cat file)` -/
  | kill (helper : Helper)
  /-- `rm -f file` -/
  | removePidFile (helper : Helper)
  /-- `-N`, `-F`, `-X`, `-A`, `-I`, `-D` -/
  | newChain (key : ChainKey)
  | flush (key : ChainKey)
  | deleteChain (key : ChainKey)
  | append (key : ChainKey) (rule : ChainRule)
  | insert (key : ChainKey) (rule : ChainRule)
  | delete (key : ChainKey) (rule : ChainRule)
  | ruleAdd (family : Family) (rule : IpRule)
  | ruleDel (family : Family) (rule : IpRule)
  /-- `ip rule del pref` -/
  | ruleDelPref (pref : Nat)
  /-- `ip route replace default dev utun7788 table 2024` -/
  | routeReplace (family : Family)
  /-- `ip route flush table 2024` -/
  | routeFlush (family : Family)
deriving DecidableEq

/-- A line of a script; `orTrue` is the suffix `|| true`. -/
structure Line where
  command : Command
  orTrue : Bool := false

/-- What root mode asks of the application and of the device. -/
structure RootContext where
  env : AppEnv
  /-- The selected packages. -/
  perAppProxySet : Option (List String)
  appUid : Nat
  corePid : Nat
  binPath : String
  logFile : String
  binExists : Bool
  /-- The runtime directory exists or could be made. -/
  runDirReady : Bool
  /-- The tunnel's configuration could be written. -/
  configWritten : Bool

namespace RootProxyManager

def bypassCidrs : List Cidr :=
  [.v4 0 0 0 0 8, .v4 10 0 0 0 8, .v4 127 0 0 0 8, .v4 169 254 0 0 16,
    .v4 172 16 0 0 12, .v4 192 168 0 0 16, .v4 224 0 0 0 4, .v4 240 0 0 0 4]

/-- `::1/128`, `fe80::/10`, `fc00::/7` and `ff00::/8`. -/
def bypassCidrsV6 : List Cidr :=
  [.v6 0 1 128, .v6 0xfe80 0 10, .v6 0xfc00 0 7, .v6 0xff00 0 8]

def cidrsOf : Family → List Cidr
  | .v4 => bypassCidrs
  | .v6 => bypassCidrsV6

/-! ## Marking the device's own packets -/

/-- A chain of the mangle table. -/
def mangle (family : Family) (name : ChainName) : ChainKey := ⟨family, .mangle, name⟩

def jumpTo (chain : ChainName) : ChainRule := ⟨[], .jump chain⟩

/-- Fill a chain and hook it into a built-in one. -/
def installChain (key : ChainKey) (rules : List ChainRule) (hook : ChainName) : List Line :=
  [⟨.newChain key, true⟩, ⟨.flush key, false⟩] ++ rules.map (fun rule => ⟨.append key rule, false⟩) ++
    [⟨.delete { key with name := hook } (jumpTo key.name), true⟩,
      ⟨.append { key with name := hook } (jumpTo key.name), false⟩]

section
variable (appUid : Nat) (perAppEnabled bypassApps : Bool) (selectedUids : List String)

def allowMode : Bool := perAppEnabled && !bypassApps

/-- The UIDs that go direct. -/
def bypassedUids : List String :=
  if perAppEnabled && bypassApps && selectedUids ≠ [] then selectedUids else []

def markingRules (family : Family) : List ChainRule :=
  [⟨[.mark AppConfig.rootFwmark], .ret⟩, ⟨[.uidOwner (toString appUid)], .ret⟩] ++
    -- bypass mode: selected apps go fully direct, with their DNS
    (bypassedUids perAppEnabled bypassApps selectedUids).map (fun uid => ⟨[.uidOwner uid], .ret⟩) ++
    -- DNS of every other process, before the local destinations
    [⟨[.dport .udp 53], .setXmark AppConfig.rootMarkRoute⟩,
      ⟨[.dport .tcp 53], .setXmark AppConfig.rootMarkRoute⟩] ++
    (cidrsOf family).map (fun cidr => ⟨[.dst cidr], .ret⟩) ++
    if allowMode perAppEnabled bypassApps then
      selectedUids.map fun uid => ⟨[.uidOwner uid], .setXmark AppConfig.rootMarkRoute⟩
    else [⟨[], .setXmark AppConfig.rootMarkRoute⟩]

def buildMangleMarking (family : Family) : List Line :=
  installChain (mangle family .coreFilter)
    (markingRules appUid perAppEnabled bypassApps selectedUids family) .output

def rejectWith : String := "icmp6-adm-prohibited"

def blackholeRules : List ChainRule :=
  [⟨[.mark AppConfig.rootFwmark], .ret⟩, ⟨[.uidOwner (toString appUid)], .ret⟩,
    ⟨[.outIface "lo"], .ret⟩] ++
    bypassCidrsV6.map (fun cidr => ⟨[.dst cidr], .ret⟩) ++
    -- bypassed apps keep their native v6
    (bypassedUids perAppEnabled bypassApps selectedUids).map (fun uid => ⟨[.uidOwner uid], .ret⟩) ++
    if allowMode perAppEnabled bypassApps then
      selectedUids.map fun uid => ⟨[.uidOwner uid], .reject rejectWith⟩
    else [⟨[], .reject rejectWith⟩]

def buildV6Blackhole : List Line :=
  installChain ⟨.v6, .filter, .core6Filter⟩
    (blackholeRules appUid perAppEnabled bypassApps selectedUids) .output

end

/-! ## LAN and tethering sharing -/

/-- The policy rule of marked packets. -/
def markRule : IpRule :=
  ⟨.fwmark AppConfig.rootMarkRoute, .lookup AppConfig.rootRouteTable, AppConfig.rootRulePriority⟩

def mssRule : ChainRule := ⟨[.outIface AppConfig.rootTunName, .tcpSyn], .setMss 1350⟩

def lanCidrs : List Cidr := [.v4 10 0 0 0 8, .v4 172 16 0 0 12, .v4 192 168 0 0 16]

/-- The policy routing of tethered clients: the return path over the main table, local networks
direct, the rest over the tun table. -/
def lanRules : List IpRule :=
  [⟨.iif "lo", .goto 6000, 5000⟩,
    ⟨.iif AppConfig.rootTunName, .lookupMainSpecific, 5010⟩,
    ⟨.iif AppConfig.rootTunName, .goto 6000, 5020⟩,
    ⟨.to (.v4 10 0 0 0 8), .lookupMain, 5025⟩,
    ⟨.to (.v4 172 16 0 0 12), .lookupMain, 5026⟩,
    ⟨.to (.v4 192 168 0 0 16), .lookupMain, 5027⟩,
    ⟨.from (.v4 10 0 0 0 8), .lookup AppConfig.rootRouteTable, 5030⟩,
    ⟨.from (.v4 172 16 0 0 12), .lookup AppConfig.rootRouteTable, 5040⟩,
    ⟨.from (.v4 192 168 0 0 16), .lookup AppConfig.rootRouteTable, 5050⟩,
    ⟨.all, .nop, 6000⟩]

/-- The tun's IPv6 address and its default route and policy rule. -/
def tunV6Lines : List Line :=
  [⟨.shell ("ip -6 addr add " ++ AppConfig.rootTunAddrV6 ++ " dev " ++ AppConfig.rootTunName), true⟩,
    ⟨.routeReplace .v6, true⟩, ⟨.ruleAdd .v6 markRule, true⟩]

/-- The marks of forwarded clients' packets. -/
def forwardedRules : List ChainRule :=
  [⟨[.notInIface AppConfig.rootTunName, .dport .udp 53], .setXmark AppConfig.rootMarkRoute⟩,
    ⟨[.notInIface AppConfig.rootTunName, .dport .tcp 53], .setXmark AppConfig.rootMarkRoute⟩] ++
    bypassCidrsV6.map (fun cidr => ⟨[.notInIface AppConfig.rootTunName, .dst cidr], .ret⟩) ++
    [⟨[.notInIface AppConfig.rootTunName], .setXmark AppConfig.rootMarkRoute⟩]

/-- The first configured resolver with a plain IPv4 address. -/
def lanDns (env : AppEnv) : String :=
  (env.getRemoteDnsServers.find? fun s =>
    Utils.isPureIpAddress s && !Text.containsChar s ':').getD AppConfig.rootLanDns

def buildLanShareSetup (env : AppEnv) (captureDeviceTraffic ipv6 : Bool) : List Line :=
  let fwd : ChainKey := ⟨.v4, .filter, .coreFwd⟩
  let forward : ChainKey := ⟨.v4, .filter, .forward⟩
  let dnsChain : ChainKey := ⟨.v4, .nat, .coreDns⟩
  let v6fwd : ChainKey := ⟨.v6, .filter, .core6Fwd⟩
  let v6forward : ChainKey := ⟨.v6, .filter, .forward⟩
  let noRoute : Line := ⟨.append v6fwd ⟨[], .reject "icmp6-no-route"⟩, false⟩
  [⟨.setErrexit false, false⟩,
    ⟨.shell "echo 1 > /proc/sys/net/ipv4/ip_forward", true⟩,
    ⟨.newChain fwd, true⟩, ⟨.flush fwd, false⟩,
    ⟨.append fwd ⟨[.inIface AppConfig.rootTunName], .accept⟩, false⟩,
    ⟨.append fwd ⟨[.outIface AppConfig.rootTunName], .accept⟩, false⟩,
    ⟨.delete forward (jumpTo .coreFwd), true⟩, ⟨.insert forward (jumpTo .coreFwd), false⟩,
    ⟨.delete (mangle .v4 .forward) mssRule, true⟩, ⟨.append (mangle .v4 .forward) mssRule, false⟩] ++
  installChain dnsChain (lanCidrs.map fun cidr =>
    ⟨[.notInIface AppConfig.rootTunName, .dst cidr, .dport .udp 53], .dnat (lanDns env)⟩) .prerouting ++
  lanRules.map (fun rule => ⟨.ruleAdd .v4 rule, true⟩) ++
  [⟨.newChain v6fwd, true⟩, ⟨.flush v6fwd, false⟩,
    ⟨.delete v6forward (jumpTo .core6Fwd), true⟩, ⟨.insert v6forward (jumpTo .core6Fwd), false⟩] ++
  if ipv6 then
    (if captureDeviceTraffic then [] else tunV6Lines) ++
    [⟨.append v6fwd ⟨[.inIface AppConfig.rootTunName], .accept⟩, false⟩,
      ⟨.append v6fwd ⟨[.outIface AppConfig.rootTunName], .accept⟩, false⟩] ++
    installChain (mangle .v6 .core6Pre) forwardedRules .prerouting ++
    -- forwarded packets that were not marked are refused
    [noRoute]
  else [noRoute]

/-! ## Setup and teardown -/

/-- The helpers and the way into the tun. -/
def startLines (ctx : RootContext) : List Line :=
  let tun := AppConfig.rootTunName
  [⟨.setErrexit true, false⟩,
    ⟨.shell ("BIN='" ++ ctx.binPath ++ "'"), false⟩,
    ⟨.spawn .oomGuard, false⟩, ⟨.writeLastPid .oomGuard, false⟩,
    ⟨.shell "if [ ! -e /dev/net/tun ]; then mkdir -p /dev/net; mknod /dev/net/tun c 10 200; chmod 666 /dev/net/tun; fi", false⟩,
    ⟨.spawn .tun2socks, false⟩, ⟨.savePid, false⟩, ⟨.writeSavedPid .tun2socks, false⟩,
    ⟨.shell ("echo " ++ AppConfig.rootOomScore ++ " > /proc/$T2S_PID/oom_score_adj"), true⟩,
    ⟨.shell ("i=0; while [ $i -lt 20 ]; do ip link show " ++ tun ++
      " >/dev/null 2>&1 && break; sleep 0.3; i=$((i+1)); done"), false⟩,
    ⟨.shell ("ip link show " ++ tun ++ " >/dev/null 2>&1 || \x7b echo 'tun device did not come up'; cat '" ++
      ctx.logFile ++ "' 2>/dev/null; exit 1; \x7d"), false⟩,
    ⟨.shell ("echo 0 > /proc/sys/net/ipv4/conf/" ++ tun ++ "/rp_filter"), true⟩,
    ⟨.shell "echo 0 > /proc/sys/net/ipv4/conf/all/rp_filter", true⟩,
    ⟨.shell ("ip addr add " ++ AppConfig.rootTunAddrV4 ++ " dev " ++ tun), true⟩,
    ⟨.shell ("ip link set dev " ++ tun ++ " up"), false⟩,
    ⟨.routeReplace .v4, false⟩, ⟨.ruleAdd .v4 markRule, false⟩]

/-- The UIDs of the selected packages. -/
def selectedUids (ctx : RootContext) : List String :=
  if ctx.env.decodeSettingsBool AppConfig.prefPerAppProxy then
    let pkgs := ctx.perAppProxySet.getD []
    if pkgs ≠ [] then ctx.env.packageNamesToUids pkgs else []
  else []

def setupLines (ctx : RootContext) (captureDeviceTraffic forceLanShare : Bool) : List Line :=
  let ipv6 := ctx.env.decodeSettingsBool AppConfig.prefIpv6Enabled
  let lanShare := forceLanShare || ctx.env.decodeSettingsBool AppConfig.prefRootLanSharing
  let perAppEnabled := ctx.env.decodeSettingsBool AppConfig.prefPerAppProxy
  let bypassApps := ctx.env.decodeSettingsBool AppConfig.prefBypassApps
  let uids := selectedUids ctx
  startLines ctx ++
  (if captureDeviceTraffic then buildMangleMarking ctx.appUid perAppEnabled bypassApps uids .v4
    else []) ++
  (if lanShare then buildLanShareSetup ctx.env captureDeviceTraffic ipv6 else []) ++
  if captureDeviceTraffic then
    [⟨.setErrexit false, false⟩] ++
    if ipv6 then tunV6Lines ++ buildMangleMarking ctx.appUid perAppEnabled bypassApps uids .v6
    else buildV6Blackhole ctx.appUid perAppEnabled bypassApps uids
  else []

def buildTun2socksSetup (ctx : RootContext) (captureDeviceTraffic forceLanShare : Bool) :
    Option (List Line) :=
  if ctx.binExists && ctx.runDirReady && ctx.configWritten then
    some (setupLines ctx captureDeviceTraffic forceLanShare)
  else none

/-- Unhook a chain, empty it and delete it. -/
def dropChain (key : ChainKey) (hook : ChainName) : List Line :=
  [⟨.delete { key with name := hook } (jumpTo key.name), true⟩, ⟨.flush key, true⟩,
    ⟨.deleteChain key, true⟩]

def lanPrefs : List Nat := [5000, 5010, 5020, 5025, 5026, 5027, 5030, 5040, 5050, 6000]

def buildTeardown (ctx : RootContext) : List Line :=
  dropChain (mangle .v4 .coreFilter) .output ++
  dropChain (mangle .v6 .coreFilter) .output ++
  dropChain ⟨.v6, .filter, .core6Filter⟩ .output ++
  [⟨.ruleDel .v4 markRule, true⟩, ⟨.ruleDel .v6 markRule, true⟩,
    ⟨.routeFlush .v4, true⟩, ⟨.routeFlush .v6, true⟩] ++
  dropChain ⟨.v4, .filter, .coreFwd⟩ .forward ++
  [⟨.delete (mangle .v4 .forward) mssRule, true⟩] ++
  dropChain ⟨.v4, .nat, .coreDns⟩ .prerouting ++
  dropChain ⟨.v6, .filter, .core6Fwd⟩ .forward ++
  dropChain (mangle .v6 .core6Pre) .prerouting ++
  lanPrefs.map (fun pref => ⟨.ruleDelPref pref, true⟩) ++
  [⟨.shell ("ip link set dev " ++ AppConfig.rootTunName ++ " down"), true⟩,
    ⟨.kill .tun2socks, true⟩, ⟨.removePidFile .tun2socks, false⟩,
    ⟨.kill .oomGuard, true⟩, ⟨.removePidFile .oomGuard, false⟩,
    ⟨.shell ("echo 0 > /proc/" ++ toString ctx.corePid ++ "/oom_score_adj"), true⟩]

end RootProxyManager

end ZeroVpn
