import ZeroVpn.Root.OutputSpec
import ZeroVpn.Verify.DefaultOutbound

/-!
# DNS in root mode

The marking chains mark every DNS query that is not exempt before they return local destinations.
The chain that rejects IPv6 when IPv6 is off has no such rule: a query to a local IPv6 resolver, or
in proxy mode of a process that is not selected, leaves unmarked.
-/

namespace ZeroVpn
open Netfilter RootProxyManager AppConfig

/-- The packet was rejected, or carries the tun mark. -/
def Captured (outcome : Outcome) : Prop :=
  outcome.1 = some .reject ∨ outcome.2.mark = rootMarkRoute

/-- The chains after a root-mode setup in which every command succeeds. -/
theorem outputChains_of_script
    (hscript : buildTun2socksSetup ctx true forceLanShare = some script) :
    OutputChains ctx (RootShell.runScript (fun _ => .ok) script .initial).2 := by
  obtain ⟨k, hrun, hk⟩ := outputChains_setup ctx forceLanShare
  unfold buildTun2socksSetup at hscript
  split at hscript
  · cases hscript
    rw [hrun]
    exact hk
  · cases hscript

section
variable {ctx : RootContext} {k : Kernel} {p : Packet}

/-- The packet is of the helper, of the core or of a bypassed app. -/
def RootContext.exempts (ctx : RootContext) (p : Packet) : Bool :=
  exempt ctx.appUid (ctx.env.decodeSettingsBool prefPerAppProxy)
    (ctx.env.decodeSettingsBool prefBypassApps) (selectedUids ctx) p

/-- The per-app settings capture the owner of the packet. -/
def RootContext.selects (ctx : RootContext) (p : Packet) : Bool :=
  RootProxyManager.selects (ctx.env.decodeSettingsBool prefPerAppProxy)
    (ctx.env.decodeSettingsBool prefBypassApps) (selectedUids ctx) p

def RootContext.ipv6 (ctx : RootContext) : Bool :=
  ctx.env.decodeSettingsBool prefIpv6Enabled

/-- With a marking chain in the mangle table, the packet goes on marked or as it was. -/
theorem outputHook_of_marking (h : OutputChains ctx k) (hfamily : p.family = .v6 → ctx.ipv6 = true) :
    k.outputHook p = (none,
      if !ctx.exempts p && (p.isDns || !isLocal p.family p && ctx.selects p) then
        { p with mark := rootMarkRoute } else p) := by
  obtain ⟨jump, hmangle⟩ := Kernel.traverse_of_hooked (h.marking p.family hfamily)
  -- the other tables are empty
  have hrest (q : Packet) (hq : q.family = p.family) :
      Kernel.unlessRejected (k.traverse .nat q) (k.traverse .filter) = (none, q) := by
    have hnat : k.chains ⟨q.family, .nat, .output⟩ = some [] := h.nat q.family
    have hfilter : k.chains ⟨q.family, .filter, .output⟩ = some [] :=
      h.filter q.family (hq ▸ hfamily)
    rw [Kernel.traverse_of_empty hnat]
    exact Kernel.traverse_of_empty hfilter
  unfold Kernel.outputHook
  rw [hmangle, walk_markingRules]
  refine hrest _ ?_
  split <;> rfl

/-- With IPv6 off an IPv6 packet goes on as it was, or is rejected. -/
theorem outputHook_of_blackhole (h : OutputChains ctx k) (hfamily : p.family = .v6)
    (hipv6 : ctx.ipv6 = false) :
    k.outputHook p = (if ctx.exempts p || p.outIface == "lo" || isLocal .v6 p || !ctx.selects p then
      none else some .reject, p) := by
  obtain ⟨hmangle, hhooked⟩ := h.blackhole hipv6
  rw [← hfamily] at hmangle
  rw [← hfamily] at hhooked
  obtain ⟨jump, hfilter⟩ := Kernel.traverse_of_hooked hhooked
  unfold Kernel.outputHook
  rw [Kernel.traverse_of_empty hmangle]
  change Kernel.unlessRejected (k.traverse .nat p) (k.traverse .filter) = _
  rw [Kernel.traverse_of_empty (h.nat p.family)]
  change k.traverse .filter p = _
  rw [hfilter, walk_blackholeRules]
  rfl

/-- The packet is of none of the exempt kinds. -/
theorem exempts_eq_false (hmark : p.mark ≠ rootFwmark) (happ : p.uid ≠ some ctx.appUid)
    (hbypass : ctx.env.decodeSettingsBool prefPerAppProxy = true →
      ctx.env.decodeSettingsBool prefBypassApps = true →
      ∀ uid ∈ selectedUids ctx, p.ownedBy uid = false) : ctx.exempts p = false := by
  have howner : p.ownedBy (toString ctx.appUid) = false := by
    unfold Packet.ownedBy Match.admits
    cases huid : p.uid with
    | none => rfl
    | some n =>
      refine beq_eq_false_iff_ne.mpr fun heq => happ ?_
      rw [huid, Text.toString_inj heq]
  have hbypassed : (bypassedUids (ctx.env.decodeSettingsBool prefPerAppProxy)
      (ctx.env.decodeSettingsBool prefBypassApps) (selectedUids ctx)).any p.ownedBy =
      false := by
    unfold bypassedUids
    split
    · next hmode =>
      simp only [Bool.and_eq_true] at hmode
      exact List.any_eq_false.mpr fun uid hin => by simp [hbypass hmode.1.1 hmode.1.2 uid hin]
    · rfl
  unfold RootContext.exempts exempt
  rw [howner, hbypassed, beq_eq_false_iff_ne.mpr hmark]
  rfl

end

/-- After a root-mode setup, a DNS query that leaves over no loopback interface and is not of the
helper, of the core or of a bypassed app is marked or rejected, unless IPv6 is off, the query goes
over IPv6, and its destination is local or its owner is not selected. -/
theorem dns_captured_iff (ctx : RootContext) (forceLanShare : Bool) (script : List Line)
    (hscript : buildTun2socksSetup ctx true forceLanShare = some script) (p : Packet)
    (hdns : p.isDns = true) (hlo : p.outIface ≠ "lo") (hmark : p.mark ≠ rootFwmark)
    (happ : p.uid ≠ some ctx.appUid)
    (hbypass : ctx.env.decodeSettingsBool prefPerAppProxy = true →
      ctx.env.decodeSettingsBool prefBypassApps = true →
      ∀ uid ∈ selectedUids ctx, p.ownedBy uid = false) :
    Captured ((RootShell.runScript (fun _ => .ok) script .initial).2.outputHook p) ↔
      p.mark = rootMarkRoute ∨ p.family = .v4 ∨ ctx.ipv6 = true ∨
        isLocal .v6 p = false ∧ ctx.selects p = true := by
  have hchains := outputChains_of_script hscript
  have hexempt := exempts_eq_false hmark happ hbypass
  by_cases hoff : p.family = .v6 ∧ ctx.ipv6 = false
  · obtain ⟨hfamily, hipv6⟩ := hoff
    rw [outputHook_of_blackhole hchains hfamily hipv6, hexempt, beq_eq_false_iff_ne.mpr hlo, hfamily,
      hipv6]
    unfold Captured
    cases isLocal .v6 p <;> cases ctx.selects p <;> simp
  · have hon : p.family = .v6 → ctx.ipv6 = true := fun h6 =>
      Bool.of_not_eq_false fun h => hoff ⟨h6, h⟩
    rw [outputHook_of_marking hchains hon, hexempt, hdns]
    refine iff_of_true (.inr rfl) ?_
    cases hfamily : p.family with
    | v4 => exact .inr (.inl rfl)
    | v6 => exact .inr (.inr (.inl (hon hfamily)))

/-- Root mode with default settings: no per-app selection, IPv6 off. -/
def plainContext : RootContext where
  env := plainEnv [] []
  perAppProxySet := none
  appUid := 10100
  corePid := 4000
  binPath := "/data/app/lib/libhevsockstun.so"
  logFile := "/data/user/0/files/sys_cache/tun2socks.log"
  binExists := true
  runDirReady := true
  configWritten := true

/-- A query of the system's resolver over UDP to `8.8.8.8`. -/
def publicQuery : Packet where
  family := .v4
  proto := .udp
  dport := 53
  dst := 8 * 2 ^ 24 + 8 * 2 ^ 16 + 8 * 2 ^ 8 + 8
  uid := some 1051
  outIface := "wlan0"
  mark := 0

/-- A query of the system's resolver over UDP to `fd00::1`. -/
def localQuery : Packet where
  family := .v6
  proto := .udp
  dport := 53
  dst := 0xfd00 * 2 ^ 112 + 1
  uid := some 1051
  outIface := "wlan0"
  mark := 0

theorem publicQuery_captured :
    Captured ((RootShell.runScript (fun _ => .ok) (setupLines plainContext true false)
      .initial).2.outputHook publicQuery) :=
  (dns_captured_iff plainContext false _ rfl publicQuery rfl (by decide) (by decide) (by decide)
    nofun).mpr (.inr (.inl rfl))

/-- With IPv6 off, the query to a local IPv6 resolver is neither marked nor rejected. -/
theorem localQuery_not_captured :
    buildTun2socksSetup plainContext true false = some (setupLines plainContext true false) ∧
      localQuery.isDns = true ∧ localQuery.outIface ≠ "lo" ∧
      localQuery.mark ≠ rootFwmark ∧ localQuery.uid ≠ some plainContext.appUid ∧
      plainContext.env.decodeSettingsBool prefPerAppProxy = false ∧
      ¬Captured ((RootShell.runScript (fun _ => .ok) (setupLines plainContext true false)
        .initial).2.outputHook localQuery) := by
  refine ⟨rfl, by decide, by decide, by decide, by decide, rfl, ?_⟩
  unfold Captured
  decide

end ZeroVpn
