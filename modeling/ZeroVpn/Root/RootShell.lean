import ZeroVpn.Root.RootProxyManager

/-!
# Running the scripts of root mode

`Kernel` is what the scripts install. A script is run a line at a time; the fate of a line says
whether its command is run, fails, or is where the script ends. A command that is run may still
fail by itself, when there is nothing to delete or the chain it names is missing.
-/

namespace ZeroVpn
open Netfilter

def ChainName.entries : List ChainName :=
  [output, forward, prerouting, coreFilter, coreFwd, coreDns, core6Filter, core6Fwd, core6Pre]

/-- What the scripts install. The routes are the devices of the default routes in the tunnel's
table. -/
structure Kernel where
  chains : ChainKey → Option (List ChainRule)
  ipRules : Family → List IpRule
  routes : Family → List String
  processes : List (Nat × Helper)
  pidFiles : Helper → Option Nat

variable (k : Kernel) {command : Command} {sh sh' : Shell}

namespace Kernel

def setChain (k : Kernel) (key : ChainKey) (rules : Option (List ChainRule)) : Kernel :=
  { k with chains := fun key' => if key' = key then rules else k.chains key' }

@[simp] theorem setChain_self (key : ChainKey) (rules : Option (List ChainRule)) :
    (k.setChain key rules).chains key = rules := if_pos rfl

theorem setChain_of_ne {key key' : ChainKey} (h : key' ≠ key) (rules : Option (List ChainRule)) :
    (k.setChain key rules).chains key' = k.chains key' :=
  if_neg h

@[simp] theorem setChain_setChain (key : ChainKey) (rules rules' : Option (List ChainRule)) :
    (k.setChain key rules).setChain key rules' = k.setChain key rules' := by
  unfold setChain
  congr 1
  funext key'
  by_cases h : key' = key <;> simp [h]

def setIpRules (k : Kernel) (family : Family) (rules : List IpRule) : Kernel :=
  { k with ipRules := fun f => if f = family then rules else k.ipRules f }

def setRoutes (k : Kernel) (family : Family) (routes : List String) : Kernel :=
  { k with routes := fun f => if f = family then routes else k.routes f }

def setPidFile (k : Kernel) (helper : Helper) (pid : Option Nat) : Kernel :=
  { k with pidFiles := fun h => if h = helper then pid else k.pidFiles h }

/-- A pid that is not in use. -/
def freshPid (k : Kernel) : Nat := (k.processes.map Prod.fst).foldr max 0 + 1

/-- The chain `name` of the table of `key` jumps to `key`. -/
def jumps (k : Kernel) (key : ChainKey) (name : ChainName) : Bool :=
  ((k.chains { key with name := name }).getD []).any fun r => r.target = .jump key.name

def isReferenced (k : Kernel) (key : ChainKey) : Bool := ChainName.entries.any (k.jumps key)

/-- The chain a rule jumps to exists. -/
def resolves (k : Kernel) (key : ChainKey) (rule : ChainRule) : Bool :=
  match rule.target with
  | .jump chain => (k.chains { key with name := chain }).isSome
  | _ => true

end Kernel

/-- The shell that runs a script. -/
structure Shell where
  kernel : Kernel
  errexit : Bool := false
  /-- `$!` -/
  lastPid : Option Nat := none
  /-- `$T2S_PID` -/
  savedPid : Option Nat := none
  /-- `$?` is zero. -/
  status : Bool := true

/-- Run a command; `none` if it fails. -/
def Command.effect (sh : Shell) : Command → Option Shell
  | .setErrexit on => some { sh with errexit := on }
  | .shell _ => some sh
  | .spawn helper =>
    let pid := sh.kernel.freshPid
    some { sh with
      kernel := { sh.kernel with processes := (pid, helper) :: sh.kernel.processes }
      lastPid := some pid }
  | .savePid => some { sh with savedPid := sh.lastPid }
  | .writeLastPid helper => some { sh with kernel := sh.kernel.setPidFile helper sh.lastPid }
  | .writeSavedPid helper => some { sh with kernel := sh.kernel.setPidFile helper sh.savedPid }
  | .kill helper =>
    (sh.kernel.pidFiles helper).map fun pid =>
      { sh with kernel := { sh.kernel with
          processes := sh.kernel.processes.filter fun process => process.1 ≠ pid } }
  | .removePidFile helper => some { sh with kernel := sh.kernel.setPidFile helper none }
  | .newChain key =>
    match sh.kernel.chains key with
    | none => some { sh with kernel := sh.kernel.setChain key (some []) }
    | some _ => none
  | .flush key =>
    (sh.kernel.chains key).map fun _ => { sh with kernel := sh.kernel.setChain key (some []) }
  | .deleteChain key =>
    if sh.kernel.chains key = some [] ∧ sh.kernel.isReferenced key = false then
      some { sh with kernel := sh.kernel.setChain key none }
    else none
  | .append key rule =>
    if sh.kernel.resolves key rule then
      (sh.kernel.chains key).map fun rules =>
        { sh with kernel := sh.kernel.setChain key (some (rules ++ [rule])) }
    else none
  | .insert key rule =>
    if sh.kernel.resolves key rule then
      (sh.kernel.chains key).map fun rules =>
        { sh with kernel := sh.kernel.setChain key (some (rule :: rules)) }
    else none
  | .delete key rule =>
    match sh.kernel.chains key with
    | some rules =>
      if rule ∈ rules then
        some { sh with kernel := sh.kernel.setChain key (some (rules.erase rule)) }
      else none
    | none => none
  | .ruleAdd family rule =>
    if rule ∈ sh.kernel.ipRules family then none
    else some { sh with kernel := sh.kernel.setIpRules family (sh.kernel.ipRules family ++ [rule]) }
  | .ruleDel family rule =>
    if rule ∈ sh.kernel.ipRules family then
      some { sh with kernel := sh.kernel.setIpRules family ((sh.kernel.ipRules family).erase rule) }
    else none
  | .ruleDelPref pref =>
    if (sh.kernel.ipRules .v4).any (·.pref == pref) then
      some { sh with
        kernel := sh.kernel.setIpRules .v4 ((sh.kernel.ipRules .v4).eraseP (·.pref == pref)) }
    else none
  | .routeReplace family =>
    some { sh with kernel := sh.kernel.setRoutes family [AppConfig.rootTunName] }
  | .routeFlush family => some { sh with kernel := sh.kernel.setRoutes family [] }

/-- The chain a command changes. -/
def Command.chain? : Command → Option ChainKey
  | .newChain key | .flush key | .deleteChain key => some key
  | .append key _ | .insert key _ | .delete key _ => some key
  | _ => none

inductive KernelPart
  | chain (key : ChainKey) | ipRules | routes | helpers

/-- The part of the kernel a command may change. -/
def Command.part? : Command → Option KernelPart
  | .newChain key | .flush key | .deleteChain key => some (.chain key)
  | .append key _ | .insert key _ | .delete key _ => some (.chain key)
  | .ruleAdd _ _ | .ruleDel _ _ | .ruleDelPref _ => some .ipRules
  | .routeReplace _ | .routeFlush _ => some .routes
  | .spawn _ | .writeLastPid _ | .writeSavedPid _ | .kill _ | .removePidFile _ => some .helpers
  | .setErrexit _ | .shell _ | .savePid => none

/-- Two kernels agree outside a part. -/
structure Kernel.AgreesOutside (part? : Option KernelPart) (k k' : Kernel) : Prop where
  chains : ∀ key, part? ≠ some (.chain key) → k'.chains key = k.chains key
  ipRules : part? ≠ some .ipRules → k'.ipRules = k.ipRules
  routes : part? ≠ some .routes → k'.routes = k.routes
  helpers : part? ≠ some .helpers → k'.processes = k.processes ∧ k'.pidFiles = k.pidFiles

namespace Kernel.AgreesOutside

theorem refl (part? : Option KernelPart) (k : Kernel) : AgreesOutside part? k k :=
  ⟨fun _ _ => rfl, fun _ => rfl, fun _ => rfl, fun _ => ⟨rfl, rfl⟩⟩

theorem setChain (key : ChainKey) (rules : Option (List ChainRule)) :
    AgreesOutside (some (.chain key)) k (k.setChain key rules) := by
  refine ⟨fun key' hkey => Kernel.setChain_of_ne k ?_ rules, fun _ => rfl, fun _ => rfl,
    fun _ => ⟨rfl, rfl⟩⟩
  rintro rfl
  exact hkey rfl

theorem setIpRules (family : Family) (rules : List IpRule) :
    AgreesOutside (some .ipRules) k (k.setIpRules family rules) :=
  ⟨fun _ _ => rfl, fun h => absurd rfl h, fun _ => rfl, fun _ => ⟨rfl, rfl⟩⟩

theorem setRoutes (family : Family) (routes : List String) :
    AgreesOutside (some .routes) k (k.setRoutes family routes) :=
  ⟨fun _ _ => rfl, fun _ => rfl, fun h => absurd rfl h, fun _ => ⟨rfl, rfl⟩⟩

theorem setHelpers (processes : List (Nat × Helper)) (pidFiles : Helper → Option Nat) :
    AgreesOutside (some .helpers) k { k with processes := processes, pidFiles := pidFiles } :=
  ⟨fun _ _ => rfl, fun _ => rfl, fun _ => rfl, fun h => absurd rfl h⟩

end Kernel.AgreesOutside

/-- A command changes its part of the kernel only. -/
theorem Command.effect_agreesOutside (h : command.effect sh = some sh') :
    Kernel.AgreesOutside command.part? sh.kernel sh'.kernel := by
  cases command with
  | newChain key | deleteChain key =>
    rw [effect] at h
    split at h <;> cases h
    exact .setChain _ _ _
  | flush key =>
    obtain ⟨rules, -, rfl⟩ := Option.map_eq_some_iff.mp h
    exact .setChain _ _ _
  | append key rule | insert key rule =>
    rw [effect] at h
    split at h
    · obtain ⟨rules, -, rfl⟩ := Option.map_eq_some_iff.mp h
      exact .setChain _ _ _
    · cases h
  | delete key rule =>
    rw [effect] at h
    split at h
    · split at h <;> cases h
      exact .setChain _ _ _
    · cases h
  | ruleAdd family rule | ruleDel family rule | ruleDelPref pref =>
    rw [effect] at h
    split at h <;> cases h
    exact .setIpRules _ _ _
  | routeReplace family | routeFlush family =>
    cases h
    exact .setRoutes _ _ _
  | kill helper =>
    obtain ⟨pid, -, rfl⟩ := Option.map_eq_some_iff.mp h
    exact .setHelpers _ _ _
  | spawn helper | writeLastPid helper | writeSavedPid helper | removePidFile helper =>
    cases h
    exact .setHelpers _ _ _
  | setErrexit on | shell text | savePid =>
    cases h
    exact .refl _ _

/-- A command leaves every chain but its own. -/
theorem Command.effect_chains (h : command.effect sh = some sh') {key : ChainKey}
    (hkey : command.chain? ≠ some key) : sh'.kernel.chains key = sh.kernel.chains key := by
  refine (effect_agreesOutside h).chains key fun hpart => hkey ?_
  cases command <;> cases hpart <;> rfl

/-- Only `set` changes the error mode. -/
theorem Command.effect_errexit (h : command.effect sh = some sh')
    (hset : ∀ on, command ≠ .setErrexit on) : sh'.errexit = sh.errexit := by
  cases command with
  | setErrexit on => exact absurd rfl (hset on)
  | flush key =>
    obtain ⟨rules, -, rfl⟩ := Option.map_eq_some_iff.mp h
    rfl
  | kill helper =>
    obtain ⟨pid, -, rfl⟩ := Option.map_eq_some_iff.mp h
    rfl
  | append key rule | insert key rule =>
    rw [effect] at h
    split at h
    · obtain ⟨rules, -, rfl⟩ := Option.map_eq_some_iff.mp h
      rfl
    · cases h
  | delete key rule =>
    rw [effect] at h
    split at h
    · split at h <;> cases h
      rfl
    · cases h
  | newChain key | deleteChain key | ruleAdd family rule | ruleDel family rule | ruleDelPref pref =>
    rw [effect] at h
    split at h <;> cases h
    rfl
  | _ => cases h; rfl

/-- What happens at a line: its command is run, it fails without effect, or the script ends. -/
inductive Fate
  | ok | fail | abort
deriving DecidableEq

/-- Run a line; `error` if the script ends there. Without `set -e` no line ends it. -/
def Line.step (fate : Fate) (line : Line) (sh : Shell) : Except Shell Shell :=
  if fate = .abort ∧ sh.errexit = true then .error sh
  else
    match if fate = .ok then line.command.effect sh else none with
    | some sh' => .ok { sh' with status := true }
    | none =>
      if line.orTrue then .ok { sh with status := true }
      else if sh.errexit then .error sh
      else .ok { sh with status := false }

/-- A line ends the script, is passed over, or has the effect of its command. -/
theorem Line.step_cases (fate : Fate) (line : Line) (sh : Shell) :
    (line.step fate sh = .error sh ∧ sh.errexit = true ∧ (line.orTrue = false ∨ fate = .abort)) ∨
      (∃ status, line.step fate sh = .ok { sh with status := status }) ∨
      fate = .ok ∧ ∃ sh', line.command.effect sh = some sh' ∧
        line.step fate sh = .ok { sh' with status := true } := by
  unfold step
  by_cases habort : fate = .abort ∧ sh.errexit = true
  · exact .inl ⟨if_pos habort, habort.2, .inr habort.1⟩
  · rw [if_neg habort]
    cases heffect : if fate = .ok then line.command.effect sh else none with
    | some sh' =>
      split at heffect
      · next hok => exact .inr (.inr ⟨hok, sh', heffect, rfl⟩)
      · cases heffect
    | none =>
      by_cases htrue : line.orTrue = true
      · exact .inr (.inl ⟨true, if_pos htrue⟩)
      · by_cases herr : sh.errexit = true
        · exact .inl ⟨(if_neg htrue).trans (if_pos herr), herr, .inl (Bool.eq_false_iff.mpr htrue)⟩
        · exact .inr (.inl ⟨false, (if_neg htrue).trans (if_neg herr)⟩)

/-- Run lines, the first of which is the `n`-th of the script. -/
def runLines (fate : Nat → Fate) : Nat → List Line → Shell → Except Shell Shell
  | _, [], sh => .ok sh
  | n, line :: rest, sh =>
    match line.step (fate n) sh with
    | .ok sh' => runLines fate (n + 1) rest sh'
    | .error sh' => .error sh'

/-- Whether the script succeeds, and what it leaves. -/
def RootShell.runScript (fate : Nat → Fate) (script : List Line) (k : Kernel) : Bool × Kernel :=
  match runLines fate 0 script { kernel := k } with
  | .ok sh => (sh.status, sh.kernel)
  | .error sh => (false, sh.kernel)

namespace RootProxyManager

/-- The commands of a teardown that have something to remove succeed. -/
def teardown (ctx : RootContext) (k : Kernel) : Kernel :=
  (RootShell.runScript (fun _ => .ok) (buildTeardown ctx) k).2

/-- Set up from scratch, and undo a setup that fails. -/
def setUp (ctx : RootContext) (captureDeviceTraffic forceLanShare : Bool) (fate : Nat → Fate)
    (k : Kernel) : Bool × Kernel :=
  let k := teardown ctx k
  match buildTun2socksSetup ctx captureDeviceTraffic forceLanShare with
  | none => (false, k)
  | some script =>
    match RootShell.runScript fate script k with
    | (true, k) => (true, k)
    | (false, k) => (false, teardown ctx k)

def start (ctx : RootContext) (fate : Nat → Fate) (k : Kernel) : Bool × Kernel :=
  setUp ctx true false fate k

def startClientSharing (ctx : RootContext) (fate : Nat → Fate) (k : Kernel) : Bool × Kernel :=
  setUp ctx false true fate k

def stop (ctx : RootContext) (k : Kernel) : Kernel := teardown ctx k

end RootProxyManager
end ZeroVpn
