import ZeroVpn.Verify.RootCapture

/-!
# IPv6 parity of root capture

With IPv6 off, the chain of `buildV6Blackhole` rejects the packets of the applications whose IPv4
packets the chain of `buildMangleMarking` marks. The two chains have their rules in different orders:
one returns local destinations before the bypassed applications, the other one after them.
-/

namespace ZeroVpn
open Netfilter RootProxyManager

section
variable (appUid : Nat) (perAppEnabled bypassApps : Bool) (selectedUids : List String)

/-- The rules of a chain after a script without faults on a fresh system. -/
def rulesAfter (lines : List Line) (key : ChainKey) : List ChainRule :=
  ((RootShell.runScript (fun _ => .ok) lines .initial).2.chains key).getD []

/-- The chain of `buildMangleMarking`. -/
def markingChain (family : Family) : List ChainRule :=
  rulesAfter (buildMangleMarking appUid perAppEnabled bypassApps selectedUids family)
    (mangle family .coreFilter)

/-- The chain of `buildV6Blackhole`. -/
def blackholeChain : List ChainRule :=
  rulesAfter (buildV6Blackhole appUid perAppEnabled bypassApps selectedUids)
    ⟨.v6, .filter, .core6Filter⟩

end

section
variable {appUid : Nat} {perAppEnabled bypassApps : Bool} {selectedUids : List String}

theorem rulesAfter_installChain {key : ChainKey} {rules : List ChainRule}
    (hrules : ∀ r ∈ rules, isJump r = false) (hkey : key.name.isBuiltin = false) :
    rulesAfter (installChain key rules .output) key = rules := by
  have hname : ChainName.output ≠ key.name := by
    intro h
    rw [← h] at hkey
    cases hkey
  have hnone : Kernel.initial.chains key = none :=
    if_neg (by rw [hkey]; exact Bool.false_ne_true)
  have hhook : Kernel.initial.chains { key with name := .output } = some [] := rfl
  unfold rulesAfter RootShell.runScript
  rw [runLines_ok, ← List.append_nil (installChain _ _ _),
    runOk_installChain hrules hname hnone hhook List.not_mem_nil]
  change ((Kernel.setChain _ { key with name := .output } _).chains key).getD [] = rules
  rw [Kernel.setChain_of_ne _ (fun h => hname (congrArg ChainKey.name h).symm),
    Kernel.setChain_self]
  rfl

theorem markingChain_eq (family : Family) :
    markingChain appUid perAppEnabled bypassApps selectedUids family =
      markingRules appUid perAppEnabled bypassApps selectedUids family :=
  rulesAfter_installChain noJump_marking rfl

theorem blackholeChain_eq :
    blackholeChain appUid perAppEnabled bypassApps selectedUids =
      blackholeRules appUid perAppEnabled bypassApps selectedUids :=
  rulesAfter_installChain noJump_blackhole rfl

theorem ownedBy_congr {p q : Packet} (huid : p.uid = q.uid) : p.ownedBy = q.ownedBy := by
  funext uid
  unfold Packet.ownedBy Match.admits
  rw [huid]

/-- Exemption and selection look at the owner and at the mark only. -/
theorem exempt_congr {p q : Packet} (huid : p.uid = q.uid) (hmark : p.mark = q.mark) :
    exempt appUid perAppEnabled bypassApps selectedUids p =
      exempt appUid perAppEnabled bypassApps selectedUids q := by
  unfold exempt
  rw [hmark, ownedBy_congr huid]

theorem selects_congr {p q : Packet} (huid : p.uid = q.uid) :
    selects perAppEnabled bypassApps selectedUids p =
      selects perAppEnabled bypassApps selectedUids q := by
  unfold selects
  rw [ownedBy_congr huid]

theorem exempt_of_core {p : Packet}
    (h : p.uid = some appUid ∨ p.mark = AppConfig.rootFwmark) :
    exempt appUid perAppEnabled bypassApps selectedUids p = true := by
  unfold exempt
  rcases h with huid | hmark
  · have howned : p.ownedBy (toString appUid) = true := by
      rw [ownedBy_of_uid huid, beq_self_eq_true]
    rw [howned, Bool.or_true, Bool.true_or]
  · rw [hmark, beq_self_eq_true, Bool.true_or, Bool.true_or]

end

/-- An IPv6 packet to no local destination and not over loopback is rejected if and only if an IPv4
packet with its owner and its mark, no DNS query and to no local destination, is marked. A packet of
the client or with the helper's mark goes through each of the chains as it was. -/
theorem v6_rejected_iff_v4_marked (appUid : Nat) (perAppEnabled bypassApps : Bool)
    (selectedUids : List String) (jump : ChainName → Packet → Outcome) :
    (∀ p4 p6 : Packet, p4.family = .v4 → p6.family = .v6 → p4.uid = p6.uid → p4.mark = p6.mark →
      p4.isDns = false → isLocal .v4 p4 = false →
      p6.isDns = false → isLocal .v6 p6 = false → p6.outIface ≠ "lo" →
      ((walk jump (blackholeChain appUid perAppEnabled bypassApps selectedUids) p6).1 =
          some .reject ↔
        setsMark jump (markingChain appUid perAppEnabled bypassApps selectedUids .v4) p4 = true)) ∧
    ∀ p : Packet, p.uid = some appUid ∨ p.mark = AppConfig.rootFwmark →
      (∀ family,
        setsMark jump (markingChain appUid perAppEnabled bypassApps selectedUids family) p = false ∧
        walk jump (markingChain appUid perAppEnabled bypassApps selectedUids family) p =
          (none, p)) ∧
      walk jump (blackholeChain appUid perAppEnabled bypassApps selectedUids) p = (none, p) := by
  constructor
  · intro p4 p6 _ _ huid hmark hdns hlocal4 _ hlocal6 hlo
    rw [blackholeChain_eq, walk_blackholeRules, markingChain_eq, setsMark_markingRules, marks, hdns,
      hlocal4, hlocal6, beq_eq_false_iff_ne.mpr hlo, exempt_congr huid hmark, selects_congr huid]
    cases exempt appUid perAppEnabled bypassApps selectedUids p6 <;>
      cases selects perAppEnabled bypassApps selectedUids p6 <;> simp
  · intro p hcore
    have hexempt : exempt appUid perAppEnabled bypassApps selectedUids p = true :=
      exempt_of_core hcore
    refine ⟨fun family => ?_, ?_⟩
    · rw [markingChain_eq, setsMark_markingRules, walk_markingRules, marks, hexempt]
      exact ⟨rfl, rfl⟩
    · rw [blackholeChain_eq, walk_blackholeRules, hexempt]
      rfl

/-- A packet of the browser over TCP to port 443 of `2001::8`. -/
def browserPacketV6 (mark : Nat) : Packet where
  family := .v6
  proto := .tcp
  dport := 443
  dst := 0x2001 * 2 ^ 112 + 8
  uid := some 10200
  outIface := "wlan0"
  mark := mark

/-- Proxy mode with the browser selected, and its packets with the tun mark or without a mark. -/
theorem browser_v6_rejected :
    (∀ mark ∈ [0, AppConfig.rootMarkRoute],
      (walk (fun _ p => (none, p)) (blackholeChain 10100 true false ["10200"])
        (browserPacketV6 mark)).1 = some .reject) ∧
      walk (fun _ p => (none, p)) (blackholeChain 10100 true false ["10200"])
        (browserPacketV6 AppConfig.rootFwmark) = (none, browserPacketV6 AppConfig.rootFwmark) := by
  have h := v6_rejected_iff_v4_marked 10100 true false ["10200"] fun _ p => (none, p)
  refine ⟨fun mark hmark => ?_, (h.2 _ (.inr rfl)).2⟩
  refine (h.1 (browserPacket mark) (browserPacketV6 mark) rfl rfl rfl rfl rfl ?_ rfl ?_ ?_).mpr ?_
  · exact show isLocal .v4 (browserPacket 0) = false by decide
  · exact show isLocal .v6 (browserPacketV6 0) = false by decide
  · exact show "wlan0" ≠ "lo" by decide
  · simp only [List.mem_cons, List.not_mem_nil, or_false] at hmark
    rcases hmark with rfl | rfl <;> decide

end ZeroVpn
