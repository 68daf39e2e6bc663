import ZeroVpn.Root.RootShell

/-!
# The OUTPUT chains of root mode

What the marking and the blackhole chain do to a packet, and which chains a setup without faults
leaves in the OUTPUT hook.
-/

namespace ZeroVpn
open Netfilter AppConfig List Command

/-! ## Walking through the chains -/

namespace Netfilter.Packet

/-- The owner match of the text of a UID. -/
def ownedBy (p : Packet) (uid : String) : Bool := Match.admits p (.uidOwner uid)

variable (p : Packet)

theorem admits_mark (value : Nat) : Match.admits p (.mark value) = (p.mark == value) := rfl

theorem admits_outIface (name : String) :
    Match.admits p (.outIface name) = (p.outIface == name) := rfl

theorem admits_uidOwner (uid : String) : Match.admits p (.uidOwner uid) = p.ownedBy uid := rfl

/-- DNS over TCP or UDP. -/
def isDns (p : Packet) : Bool := (p.proto == .udp || p.proto == .tcp) && p.dport == 53

end Netfilter.Packet

namespace RootProxyManager

section
variable {jump : ChainName → Packet → Outcome} {appUid : Nat} {perAppEnabled bypassApps : Bool}
  {selectedUids : List String} {p : Packet}

/-- The helper, the core and bypassed apps. -/
def exempt (appUid : Nat) (perAppEnabled bypassApps : Bool) (selectedUids : List String)
    (p : Packet) : Bool :=
  p.mark == rootFwmark || p.ownedBy (toString appUid) ||
    (bypassedUids perAppEnabled bypassApps selectedUids).any p.ownedBy

/-- The settings capture the owner of the packet. -/
def selects (perAppEnabled bypassApps : Bool) (selectedUids : List String) (p : Packet) : Bool :=
  !allowMode perAppEnabled bypassApps || selectedUids.any p.ownedBy

/-- The packet goes to one of the local destinations. -/
def isLocal (family : Family) (p : Packet) : Bool :=
  (cidrsOf family).any fun cidr => cidr.contains p.dst

/-- The packets the marking chain marks. -/
def marks (appUid : Nat) (perAppEnabled bypassApps : Bool) (selectedUids : List String)
    (family : Family) (p : Packet) : Bool :=
  !exempt appUid perAppEnabled bypassApps selectedUids p &&
    (p.isDns || !isLocal family p && selects perAppEnabled bypassApps selectedUids p)

/-- The last rules of the marking chain. -/
theorem walk_selection (p : Packet) :
    walk jump (if allowMode perAppEnabled bypassApps then
        selectedUids.map fun uid => ⟨[.uidOwner uid], .setXmark rootMarkRoute⟩
      else [⟨[], .setXmark rootMarkRoute⟩]) p =
      (none, if selects perAppEnabled bypassApps selectedUids p then
        { p with mark := rootMarkRoute } else p) := by
  unfold selects
  by_cases hallow : allowMode perAppEnabled bypassApps = true
  · rw [if_pos hallow, walk_setXmarks (fun uid => .uidOwner uid) _ (fun _ _ _ => rfl), hallow]
    rfl
  · rw [if_neg hallow, Bool.eq_false_iff.mpr hallow]
    rfl

variable (family : Family)

/-- The rules after the exemptions. -/
theorem walk_dns_and_rest :
    walk jump ([⟨[.dport .udp 53], .setXmark rootMarkRoute⟩,
        ⟨[.dport .tcp 53], .setXmark rootMarkRoute⟩] ++
      ((cidrsOf family).map (fun cidr => ⟨[.dst cidr], .ret⟩) ++
      if allowMode perAppEnabled bypassApps then
        selectedUids.map fun uid => ⟨[.uidOwner uid], .setXmark rootMarkRoute⟩
      else [⟨[], .setXmark rootMarkRoute⟩])) p =
      (none, if p.isDns || !isLocal family p && selects perAppEnabled bypassApps selectedUids p then
        { p with mark := rootMarkRoute } else p) := by
  -- the later rules do not look at the mark
  have hrest (p : Packet) :
      walk jump ((cidrsOf family).map (fun cidr => ⟨[.dst cidr], .ret⟩) ++
        if allowMode perAppEnabled bypassApps then
          selectedUids.map fun uid => ⟨[.uidOwner uid], .setXmark rootMarkRoute⟩
        else [⟨[], .setXmark rootMarkRoute⟩]) p =
        (none, if !isLocal family p && selects perAppEnabled bypassApps selectedUids p then
          { p with mark := rootMarkRoute } else p) := by
    rw [walk_rets (fun cidr => .dst cidr), walk_selection]
    change (if isLocal family p then _ else _) = _
    cases isLocal family p <;> rfl
  have hmarked := (hrest { p with mark := rootMarkRoute }).trans
    (congrArg (Prod.mk none) (ite_self _))
  rw [cons_append, cons_append, nil_append, walk_setXmark, walk_setXmark,
    walk_setXmark, hmarked, hrest]
  unfold Packet.isDns
  by_cases hport : p.dport = 53
  · rcases hproto : p.proto with _ | _ | _ <;> simp [Match.admits, hport, hproto]
  · simp [Match.admits, hport]

theorem walk_markingRules :
    walk jump (markingRules appUid perAppEnabled bypassApps selectedUids family) p =
      (none, if marks appUid perAppEnabled bypassApps selectedUids family p then
        { p with mark := rootMarkRoute } else p) := by
  unfold markingRules
  rw [append_assoc, append_assoc, append_assoc, cons_append, cons_append,
    nil_append, walk_ret, walk_ret, walk_rets (fun uid => .uidOwner uid), walk_dns_and_rest]
  unfold marks exempt
  simp only [all_cons, all_nil, Bool.and_true, Packet.admits_mark, Packet.admits_uidOwner]
  cases p.mark == rootFwmark with
  | true => rfl
  | false =>
    cases p.ownedBy (toString appUid) with
    | true => rfl
    | false =>
      change (if (bypassedUids perAppEnabled bypassApps selectedUids).any p.ownedBy then _ else _) = _
      cases (bypassedUids perAppEnabled bypassApps selectedUids).any p.ownedBy <;> rfl

/-- The marking chain has a rule that marks the packet exactly if the packet leaves it marked anew. -/
theorem setsMark_markingRules :
    setsMark jump (markingRules appUid perAppEnabled bypassApps selectedUids family) p =
      marks appUid perAppEnabled bypassApps selectedUids family p := by
  have hlast : setsMark jump (if allowMode perAppEnabled bypassApps then
        selectedUids.map fun uid => ⟨[.uidOwner uid], .setXmark rootMarkRoute⟩
      else [⟨[], .setXmark rootMarkRoute⟩]) p =
      selects perAppEnabled bypassApps selectedUids p := by
    unfold selects
    cases allowMode perAppEnabled bypassApps with
    | true => exact setsMark_setXmarks (fun uid => .uidOwner uid) _ _
    | false => rfl
  have hdns : (Match.admits p (.dport .udp 53) || Match.admits p (.dport .tcp 53)) = p.isDns := by
    rw [Packet.isDns, Bool.and_or_distrib_right]
    rfl
  unfold markingRules
  rw [append_assoc, append_assoc, append_assoc, cons_append, cons_append,
    nil_append, setsMark_ret, setsMark_ret, setsMark_rets (fun uid => .uidOwner uid),
    cons_append, cons_append, nil_append, setsMark_setXmark, setsMark_setXmark,
    setsMark_rets (fun cidr => .dst cidr), hlast]
  simp only [all_cons, all_nil, Bool.and_true, ← Bool.or_assoc, hdns]
  unfold marks exempt isLocal
  rw [Bool.not_or, Bool.not_or, Bool.and_assoc, Bool.and_assoc]
  rfl

theorem walk_blackholeRules :
    walk jump (blackholeRules appUid perAppEnabled bypassApps selectedUids) p =
      (if exempt appUid perAppEnabled bypassApps selectedUids p || p.outIface == "lo" ||
          isLocal .v6 p || !selects perAppEnabled bypassApps selectedUids p then none
        else some .reject, p) := by
  have hlast : walk jump (if allowMode perAppEnabled bypassApps then
        selectedUids.map fun uid => ⟨[.uidOwner uid], .reject rejectWith⟩
      else [⟨[], .reject rejectWith⟩]) p =
      (if selects perAppEnabled bypassApps selectedUids p then some .reject else none, p) := by
    unfold selects Packet.ownedBy
    by_cases hallow : allowMode perAppEnabled bypassApps = true
    · rw [if_pos hallow, ← append_nil (selectedUids.map _),
        walk_rejects (fun uid => .uidOwner uid), hallow]
      cases selectedUids.any fun uid => Match.admits p (.uidOwner uid) <;> rfl
    · rw [if_neg hallow, Bool.eq_false_iff.mpr hallow]
      rfl
  unfold blackholeRules
  rw [append_assoc, append_assoc, cons_append, cons_append, cons_append,
    nil_append, walk_ret, walk_ret, walk_ret, walk_rets (fun cidr => .dst cidr),
    walk_rets (fun uid => .uidOwner uid), hlast]
  change (if _ then _ else if _ then _ else if _ then _ else
    if isLocal .v6 p then _ else
      if (bypassedUids perAppEnabled bypassApps selectedUids).any p.ownedBy then _ else _) = _
  unfold exempt
  simp only [all_cons, all_nil, Bool.and_true, Packet.admits_mark, Packet.admits_uidOwner,
    Packet.admits_outIface]
  cases p.mark == rootFwmark with
  | true => rfl
  | false =>
    cases p.ownedBy (toString appUid) with
    | true => rfl
    | false =>
      cases (bypassedUids perAppEnabled bypassApps selectedUids).any p.ownedBy <;>
        cases p.outIface == "lo" <;> cases isLocal .v6 p <;>
        cases selects perAppEnabled bypassApps selectedUids p <;> rfl

end
end RootProxyManager

/-! ## Scripts without faults -/

namespace Kernel

/-- Nothing installed, the built-in chains empty. -/
def initial : Kernel where
  chains key := if key.name.isBuiltin then some [] else none
  ipRules _ := []
  routes _ := []
  processes := []
  pidFiles _ := none

end Kernel

/-- A run of lines without faults. -/
def runOk (lines : List Line) (sh : Shell) : Except Shell Shell :=
  lines.foldlM (fun sh line => line.step .ok sh) sh

theorem runLines_ok (n : Nat) (lines : List Line) (sh : Shell) :
    runLines (fun _ => .ok) n lines sh = runOk lines sh := by
  induction lines generalizing n sh with
  | nil => rfl
  | cons line lines ih =>
    rw [runLines, runOk, foldlM_cons]
    cases line.step .ok sh with
    | error sh' => rfl
    | ok sh' => exact ih (n + 1) sh'

variable {lines : List Line} {sh sh' : Shell} {key : ChainKey} {rules : List ChainRule}

theorem runOk_append (h : runOk lines sh = .ok sh') :
    runOk (lines ++ lines') sh = runOk lines' sh' := by
  unfold runOk at h ⊢
  rw [foldlM_append, h]
  rfl

theorem step_of_effect {line : Line} (h : line.command.effect sh = some sh') :
    line.step .ok sh = .ok { sh' with status := true } := by
  unfold Line.step
  rw [if_neg (by simp), if_pos rfl, h]

theorem runOk_cons_of_effect {line : Line} (h : line.command.effect sh = some sh') :
    runOk (line :: lines) sh = runOk lines { sh' with status := true } := by
  unfold runOk
  rw [foldlM_cons, step_of_effect h]
  rfl

/-- A deletion that finds nothing, in a line that goes on. -/
theorem runOk_cons_of_none {command : Command} (h : command.effect sh = none) :
    runOk (⟨command, true⟩ :: lines) sh = runOk lines { sh with status := true } := by
  unfold runOk
  rw [foldlM_cons, Line.step, if_pos rfl, h]
  rfl

/-- The rule leaves its chain for another one. -/
def isJump (rule : ChainRule) : Bool :=
  match rule.target with
  | .jump _ => true
  | _ => false

theorem effect_append (hrule : isJump rule = false) (h : sh.kernel.chains key = some rules) :
    (append key rule).effect sh =
      some { sh with kernel := sh.kernel.setChain key (some (rules ++ [rule])) } := by
  have hresolves : sh.kernel.resolves key rule = true := by
    unfold Kernel.resolves
    unfold isJump at hrule
    split
    · next chain hjump =>
      rw [hjump] at hrule
      cases hrule
    · rfl
  rw [effect, if_pos hresolves, h]
  rfl

theorem runOk_appends {new : List ChainRule} (hnew : ∀ r ∈ new, isJump r = false) (sh : Shell)
    (h : sh.kernel.chains key = some rules) (rest : List Line) :
    ∃ status, runOk (new.map (fun rule => ⟨.append key rule, false⟩) ++ rest) sh =
      runOk rest { sh with
        kernel := sh.kernel.setChain key (some (rules ++ new)), status := status } := by
  induction new generalizing sh rules with
  | nil =>
    refine ⟨sh.status, ?_⟩
    have hsame : sh.kernel.setChain key (some (rules ++ [])) = sh.kernel := by
      rw [append_nil, ← h]
      unfold Kernel.setChain
      congr 1
      funext key'
      by_cases hkey : key' = key <;> simp [hkey]
    rw [hsame]
    rfl
  | cons r new ih =>
    have hr : isJump r = false := hnew r mem_cons_self
    rw [map_cons, cons_append, runOk_cons_of_effect (effect_append hr h)]
    obtain ⟨status, ih⟩ := ih (fun r' hr' => hnew r' (mem_cons_of_mem _ hr'))
      { sh with kernel := sh.kernel.setChain key (some (rules ++ [r])), status := true }
      (Kernel.setChain_self _ _ _)
    refine ⟨status, ih.trans ?_⟩
    simp only [Kernel.setChain_setChain, append_assoc, singleton_append]

namespace RootProxyManager

/-- A new chain is filled and hooked at the end of the built-in one. -/
theorem runOk_installChain (hrules : ∀ r ∈ rules, isJump r = false) (hne : hook ≠ key.name)
    (hkey : sh.kernel.chains key = none)
    (hhook : sh.kernel.chains { key with name := hook } = some hooked)
    (hnew : jumpTo key.name ∉ hooked) (rest : List Line) :
    runOk (installChain key rules hook ++ rest) sh =
      runOk rest { sh with
        kernel := (sh.kernel.setChain key (some rules)).setChain { key with name := hook }
          (some (hooked ++ [jumpTo key.name]))
        status := true } := by
  have hkeys : ({ key with name := hook } : ChainKey) ≠ key := by
    intro h
    exact hne (congrArg ChainKey.name h)
  have hcreate : (newChain key).effect sh =
      some { sh with kernel := sh.kernel.setChain key (some []) } := by
    rw [effect, hkey]
  have hflush : (flush key).effect
      { sh with kernel := sh.kernel.setChain key (some []), status := true } =
      some { sh with kernel := sh.kernel.setChain key (some []), status := true } := by
    rw [effect, Kernel.setChain_self, Option.map_some, Kernel.setChain_setChain]
  have hhook' : (sh.kernel.setChain key (some rules)).chains { key with name := hook } =
      some hooked := by
    rw [Kernel.setChain_of_ne _ hkeys, hhook]
  -- there is no old jump to delete
  have hdelete (status : Bool) : (Command.delete { key with name := hook } (jumpTo key.name)).effect
      { sh with kernel := sh.kernel.setChain key (some rules), status := status } = none := by
    rw [effect]
    rw [hhook']
    exact if_neg hnew
  have hjump (status : Bool) : (append { key with name := hook } (jumpTo key.name)).effect
      { sh with kernel := sh.kernel.setChain key (some rules), status := status } =
      some { sh with
        kernel := (sh.kernel.setChain key (some rules)).setChain { key with name := hook }
          (some (hooked ++ [jumpTo key.name])), status := status } := by
    have hresolves : (sh.kernel.setChain key (some rules)).resolves { key with name := hook }
        (jumpTo key.name) = true := by
      change ((sh.kernel.setChain key (some rules)).chains key).isSome = true
      rw [Kernel.setChain_self]
      rfl
    rw [effect]
    rw [if_pos hresolves, hhook']
    rfl
  unfold installChain
  rw [append_assoc, append_assoc, cons_append, cons_append, nil_append,
    runOk_cons_of_effect hcreate, runOk_cons_of_effect hflush]
  obtain ⟨status, happ⟩ := runOk_appends hrules
    { sh with kernel := sh.kernel.setChain key (some []), status := true }
    (Kernel.setChain_self _ key _)
    ([⟨.delete { key with name := hook } (jumpTo key.name), true⟩,
      ⟨.append { key with name := hook } (jumpTo key.name), false⟩] ++ rest)
  simp only [Kernel.setChain_setChain, nil_append] at happ ⊢
  rw [happ, cons_append, runOk_cons_of_none (hdelete status), cons_append, nil_append,
    runOk_cons_of_effect (hjump true)]

/-- The line changes no chain with one of the names, and does not turn `set -e` on. -/
def avoids (names : List ChainName) (line : Line) : Bool :=
  match line.command.chain? with
  | some key => !names.contains key.name
  | none => line.command ≠ .setErrexit true

/-- Without `set -e` a script goes on to its end, and leaves the chains its lines avoid. -/
theorem runOk_frame (h : ∀ line ∈ lines, avoids names line = true) (herr : sh.errexit = false) :
    ∃ sh', runOk lines sh = .ok sh' ∧ sh'.errexit = false ∧
      ∀ key : ChainKey, key.name ∈ names → sh'.kernel.chains key = sh.kernel.chains key := by
  induction lines generalizing sh with
  | nil => exact ⟨sh, rfl, herr, fun _ _ => rfl⟩
  | cons line lines ih =>
    have hrest : ∀ line ∈ lines, avoids names line = true :=
      fun line hin => h line (mem_cons_of_mem _ hin)
    have hline := h line mem_cons_self
    have hstep : ∃ sh₁, line.step .ok sh = .ok sh₁ ∧ sh₁.errexit = false ∧
        ∀ key : ChainKey, key.name ∈ names → sh₁.kernel.chains key = sh.kernel.chains key := by
      rcases line.step_cases .ok sh with ⟨-, hon, -⟩ | ⟨status, hs⟩ | ⟨-, sh₁, heffect, hs⟩
      · rw [herr] at hon
        cases hon
      · exact ⟨_, hs, herr, fun _ _ => rfl⟩
      · refine ⟨_, hs, ?_, fun key hkey => ?_⟩
        · by_cases hset : ∃ on, line.command = .setErrexit on
          · obtain ⟨on, hset⟩ := hset
            rw [hset] at heffect
            cases heffect
            unfold avoids at hline
            rw [hset] at hline
            cases on
            · rfl
            · simp [chain?] at hline
          · exact (effect_errexit heffect fun on hon => hset ⟨on, hon⟩).trans herr
        · refine effect_chains heffect fun hchain => ?_
          unfold avoids at hline
          rw [hchain] at hline
          simp [hkey] at hline
    obtain ⟨sh₁, hs, herr₁, hframe⟩ := hstep
    obtain ⟨sh₂, hrun, herr₂, hframe₂⟩ := ih hrest herr₁
    refine ⟨sh₂, ?_, herr₂, fun key hkey => (hframe₂ key hkey).trans (hframe key hkey)⟩
    unfold runOk at hrun ⊢
    rw [foldlM_cons, hs]
    exact hrun

/-- The names of the chains in the OUTPUT hook. -/
def outputNames : List ChainName := [.output, .coreFilter, .core6Filter]

theorem tunV6_avoids : ∀ line ∈ tunV6Lines, avoids outputNames line = true := by
  rw [← all_eq_true]
  rfl

theorem lanShare_avoids (env : AppEnv) (captureDeviceTraffic ipv6 : Bool) :
    ∀ line ∈ buildLanShareSetup env captureDeviceTraffic ipv6,
      avoids outputNames line = true := by
  rw [← all_eq_true]
  cases captureDeviceTraffic <;> cases ipv6 <;> rfl

theorem noJump_marking {selectedUids : List String} :
    ∀ r ∈ markingRules appUid perAppEnabled bypassApps selectedUids family, isJump r = false := by
  unfold markingRules
  cases allowMode perAppEnabled bypassApps <;> simp [isJump, or_imp, forall_and]

theorem noJump_blackhole {selectedUids : List String} :
    ∀ r ∈ blackholeRules appUid perAppEnabled bypassApps selectedUids, isJump r = false := by
  unfold blackholeRules
  cases allowMode perAppEnabled bypassApps <;> simp [isJump, or_imp, forall_and]

/-- The chain holds the rules, and the OUTPUT chain of its table jumps to it and does nothing else. -/
structure Hooked (k : Kernel) (key : ChainKey) (rules : List ChainRule) : Prop where
  chain : k.chains key = some rules
  output : k.chains { key with name := .output } = some [jumpTo key.name]

/-- What root mode leaves in the OUTPUT hook. -/
structure OutputChains (ctx : RootContext) (k : Kernel) : Prop where
  marking : ∀ family, (family = .v6 → ctx.env.decodeSettingsBool prefIpv6Enabled = true) →
    Hooked k (mangle family .coreFilter)
      (markingRules ctx.appUid (ctx.env.decodeSettingsBool prefPerAppProxy)
        (ctx.env.decodeSettingsBool prefBypassApps) (selectedUids ctx) family)
  blackhole : ctx.env.decodeSettingsBool prefIpv6Enabled = false →
    k.chains (mangle .v6 .output) = some [] ∧
      Hooked k ⟨.v6, .filter, .core6Filter⟩
        (blackholeRules ctx.appUid (ctx.env.decodeSettingsBool prefPerAppProxy)
          (ctx.env.decodeSettingsBool prefBypassApps) (selectedUids ctx))
  filter : ∀ family, (family = .v6 → ctx.env.decodeSettingsBool prefIpv6Enabled = true) →
    k.chains ⟨family, .filter, .output⟩ = some []
  nat : ∀ family, k.chains ⟨family, .nat, .output⟩ = some []

theorem runOk_startLines (ctx : RootContext) :
    ∃ sh, runOk (startLines ctx) { kernel := .initial } = .ok sh ∧
      sh.kernel.chains = Kernel.initial.chains :=
  ⟨_, rfl, rfl⟩

/-- The LAN rules, if any, leave the OUTPUT hook; after them `set -e` is off. -/
theorem runOk_lanShare (env : AppEnv) (lanShare ipv6 : Bool) (rest : List Line) (sh : Shell) :
    ∃ sh', runOk ((if lanShare then buildLanShareSetup env true ipv6 else []) ++
        ([⟨.setErrexit false, false⟩] ++ rest)) sh = runOk rest sh' ∧ sh'.errexit = false ∧
      ∀ key : ChainKey, key.name ∈ outputNames → sh'.kernel.chains key = sh.kernel.chains key := by
  have hoff (sh : Shell) : runOk ([⟨.setErrexit false, false⟩] ++ rest) sh =
      runOk rest { sh with errexit := false, status := true } := rfl
  cases lanShare with
  | false => exact ⟨_, hoff sh, rfl, fun _ _ => rfl⟩
  | true =>
    have hlines := lanShare_avoids env true ipv6
    -- the block itself begins with `set +e`
    obtain ⟨tail, htail⟩ : ∃ tail, buildLanShareSetup env true ipv6 =
        ⟨.setErrexit false, false⟩ :: tail := ⟨_, rfl⟩
    rw [htail] at hlines ⊢
    obtain ⟨sh', hrun, -, hframe⟩ := runOk_frame
      (fun line hin => hlines line (mem_cons_of_mem _ hin))
      (show ({ sh with errexit := false, status := true } : Shell).errexit = false from rfl)
    refine ⟨{ sh' with errexit := false, status := true }, ?_, rfl, hframe⟩
    exact runOk_append (show runOk (⟨.setErrexit false, false⟩ :: tail) sh = .ok sh' from hrun)

/-- The chains of the OUTPUT hook with the IPv4 marking only. -/
def markedV4 (rules : List ChainRule) : Kernel :=
  (Kernel.initial.setChain (mangle .v4 .coreFilter) (some rules)).setChain (mangle .v4 .output)
    (some [jumpTo .coreFilter])

/-- A setup without faults succeeds and leaves its chains in the OUTPUT hook. -/
theorem outputChains_setup (ctx : RootContext) (forceLanShare : Bool) :
    ∃ k, RootShell.runScript (fun _ => .ok) (setupLines ctx true forceLanShare) .initial =
      (true, k) ∧ OutputChains ctx k := by
  generalize hrules : markingRules ctx.appUid (ctx.env.decodeSettingsBool prefPerAppProxy)
    (ctx.env.decodeSettingsBool prefBypassApps) (selectedUids ctx) .v4 = rules
  have hnoJump : ∀ r ∈ rules, isJump r = false := hrules ▸ noJump_marking
  obtain ⟨sh₁, hstart, hchains⟩ := runOk_startLines ctx
  unfold RootShell.runScript
  rw [runLines_ok]
  unfold setupLines
  dsimp only
  rw [if_pos rfl, if_pos rfl, append_assoc, append_assoc, runOk_append hstart,
    buildMangleMarking, hrules,
    runOk_installChain hnoJump (show ChainName.output ≠ .coreFilter by decide)
      (show sh₁.kernel.chains (mangle .v4 .coreFilter) = none by rw [hchains]; rfl)
      (show sh₁.kernel.chains (mangle .v4 .output) = some [] by rw [hchains]; rfl)
      not_mem_nil]
  generalize hsh₂ : ({ sh₁ with kernel := _, status := true } : Shell) = sh₂
  have hchains₂ : sh₂.kernel.chains = (markedV4 rules).chains := by
    rw [← hsh₂]
    simp only [Kernel.setChain, markedV4, hchains]
    rfl
  obtain ⟨sh₃, hlan, herr, hframe⟩ := runOk_lanShare ctx.env
    (forceLanShare || ctx.env.decodeSettingsBool prefRootLanSharing)
    (ctx.env.decodeSettingsBool prefIpv6Enabled) _ sh₂
  rw [hlan]
  rw [hchains₂] at hframe
  cases hipv6 : ctx.env.decodeSettingsBool prefIpv6Enabled with
  | true =>
    rw [if_pos rfl]
    obtain ⟨sh₄, htun, -, hframe₄⟩ := runOk_frame tunV6_avoids herr
    have hsame (key : ChainKey) (hkey : key.name ∈ outputNames) :
        sh₄.kernel.chains key = (markedV4 rules).chains key :=
      (hframe₄ key hkey).trans (hframe key hkey)
    rw [runOk_append htun, ← append_nil (buildMangleMarking _ _ _ _ _), buildMangleMarking,
      runOk_installChain noJump_marking (show ChainName.output ≠ .coreFilter by decide)
        (show sh₄.kernel.chains (mangle .v6 .coreFilter) = none from hsame _ (by decide))
        (show sh₄.kernel.chains (mangle .v6 .output) = some [] from hsame _ (by decide))
        not_mem_nil]
    refine ⟨_, rfl, ⟨fun family _ => ?_, fun h => ?_, fun family _ => ?_, fun family => ?_⟩⟩
    · cases family with
      | v4 => exact ⟨(hsame _ (by decide)).trans (congrArg some hrules.symm), hsame _ (by decide)⟩
      | v6 => exact ⟨rfl, rfl⟩
    · rw [hipv6] at h
      cases h
    · cases family <;> exact hsame _ (by decide)
    · cases family <;> exact hsame _ (by decide)
  | false =>
    rw [if_neg (by decide), ← append_nil (buildV6Blackhole _ _ _ _), buildV6Blackhole,
      runOk_installChain noJump_blackhole (show ChainName.output ≠ .core6Filter by decide)
        (show sh₃.kernel.chains ⟨.v6, .filter, .core6Filter⟩ = none from hframe _ (by decide))
        (show sh₃.kernel.chains ⟨.v6, .filter, .output⟩ = some [] from hframe _ (by decide))
        not_mem_nil]
    refine ⟨_, rfl, ⟨fun family h6 => ?_, fun _ => ⟨hframe _ (by decide), rfl, rfl⟩,
      fun family h6 => ?_, fun family => ?_⟩⟩
    · cases family with
      | v4 => exact ⟨(hframe _ (by decide)).trans (congrArg some hrules.symm), hframe _ (by decide)⟩
      | v6 => rw [hipv6] at h6; cases h6 rfl
    · cases family with
      | v4 => exact hframe _ (by decide)
      | v6 => rw [hipv6] at h6; cases h6 rfl
    · cases family <;> exact hframe _ (by decide)

end RootProxyManager

/-! ## The OUTPUT hook -/

namespace Kernel

/-- A packet walks through the OUTPUT chain of a table. -/
def traverse (k : Kernel) (table : Table) (p : Packet) : Outcome :=
  walkChain (fun name => (k.chains ⟨p.family, table, name⟩).getD []) ChainName.entries.length
    .output p

/-- Go on with the packet unless it was rejected. -/
def unlessRejected (outcome : Outcome) (next : Packet → Outcome) : Outcome :=
  match outcome with
  | (some .reject, p) => (some .reject, p)
  | (_, p) => next p

/-- The way of a locally generated packet: mangle, nat, filter. -/
def outputHook (k : Kernel) (p : Packet) : Outcome :=
  unlessRejected (k.traverse .mangle p) fun p =>
    unlessRejected (k.traverse .nat p) fun p => k.traverse .filter p

theorem traverse_of_empty {k : Kernel} {p : Packet}
    (h : k.chains ⟨p.family, table, .output⟩ = some []) : k.traverse table p = (none, p) := by
  change walk _ ((k.chains ⟨p.family, table, .output⟩).getD []) p = _
  rw [h]
  rfl

/-- A packet that enters a hooked chain gets its outcome there. -/
theorem traverse_of_hooked {k : Kernel} {p : Packet}
    (h : RootProxyManager.Hooked k ⟨p.family, table, name⟩ rules) :
    ∃ jump, k.traverse table p = walk jump rules p := by
  refine ⟨walkChain (fun name => (k.chains ⟨p.family, table, name⟩).getD []) 7, ?_⟩
  have hchain : walkChain (fun name => (k.chains ⟨p.family, table, name⟩).getD []) 8 name p =
      walk (walkChain (fun name => (k.chains ⟨p.family, table, name⟩).getD []) 7) rules p := by
    rw [walkChain, h.chain]
    rfl
  change walk _ ((k.chains ⟨p.family, table, .output⟩).getD []) p = _
  rw [h.output, Option.getD_some, RootProxyManager.jumpTo, walk_jump]
  exact hchain

end Kernel
end ZeroVpn
