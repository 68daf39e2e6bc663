import ZeroVpn.Root.TeardownSpec
import ZeroVpn.Std.Run
import ZeroVpn.Verify.RootDns

/-!
# Teardown in root mode

A setup adds every hook at most once and every policy rule at most once, wherever it stops, so a
teardown takes all of them away again. A helper process is found by its pid file: one whose pid was
not written stays.
-/

namespace ZeroVpn
open Netfilter RootProxyManager Leftovers Command List

/-! ## Invariants of a script -/

/-- The shell at the end of a script. -/
def finalShell : Except Shell Shell → Shell
  | .ok sh | .error sh => sh

theorem runScript_kernel (fate : Nat → Fate) (script : List Line) (k : Kernel) :
    (RootShell.runScript fate script k).2 =
      (finalShell (runLines fate 0 script { kernel := k })).kernel := by
  unfold RootShell.runScript
  cases runLines fate 0 script { kernel := k } <;> rfl

/-- A run of a line and more lines ends there, or goes on from what the line did. -/
theorem runLines_cons (fate : Nat → Fate) (n : Nat) (line : Line) (lines : List Line) (sh : Shell) :
    runLines fate n (line :: lines) sh = .error sh ∨
      (∃ status, runLines fate n (line :: lines) sh =
        runLines fate (n + 1) lines { sh with status := status }) ∨
      ∃ sh', line.command.effect sh = some sh' ∧ runLines fate n (line :: lines) sh =
        runLines fate (n + 1) lines { sh' with status := true } := by
  rw [runLines]
  rcases line.step_cases (fate n) sh with ⟨hstep, -⟩ | ⟨status, hstep⟩ | ⟨-, sh', heffect, hstep⟩
  · rw [hstep]
    exact .inl rfl
  · rw [hstep]
    exact .inr (.inl ⟨status, rfl⟩)
  · rw [hstep]
    exact .inr (.inr ⟨sh', heffect, rfl⟩)

/-- A property of the lines to come and the shell that every line keeps holds at the end. -/
theorem runLines_invariant {P : List Line → Shell → Prop}
    (hskip : ∀ {line lines sh} status, P (line :: lines) sh → P lines { sh with status := status })
    (heffect : ∀ {line lines sh sh'}, P (line :: lines) sh → line.command.effect sh = some sh' →
      P lines { sh' with status := true }) (fate : Nat → Fate) (n : Nat) (h : P lines sh) :
    ∃ rest, P rest (finalShell (runLines fate n lines sh)) := by
  induction lines generalizing n sh with
  | nil => exact ⟨[], h⟩
  | cons line lines ih =>
    rcases runLines_cons fate n line lines sh with hend | ⟨status, hrun⟩ | ⟨sh', heff, hrun⟩
    · rw [hend]
      exact ⟨line :: lines, h⟩
    · rw [hrun]
      exact ih (n + 1) (hskip status h)
    · rw [hrun]
      exact ih (n + 1) (heffect h heff)

/-! ## Chains and policy rules of a setup -/

/-- The slot a command fills. -/
def Command.slot? : Command → Option Slot
  | .append key rule | .insert key rule => if key.name.isBuiltin then some ⟨key, rule⟩ else none
  | _ => none

/-- The slots that lines fill. -/
def pending (lines : List Line) : List Slot := lines.filterMap (·.command.slot?)

/-- The command installs what teardowns remove. -/
def Command.installs : Command → Bool
  | .newChain key | .flush key => key ∈ dedicated.map Prod.fst
  | .append key rule | .insert key rule =>
    if key.name.isBuiltin then ⟨key, rule⟩ ∈ slots
    else key ∈ dedicated.map Prod.fst && !isJump rule
  | .delete key rule => ⟨key, rule⟩ ∈ slots
  | .ruleAdd family rule => rule ∈ ourRules family
  | .setErrexit _ | .shell _ | .spawn _ | .savePid | .writeLastPid _ | .writeSavedPid _ => true
  | .routeReplace _ => true
  | _ => false

/-- The command installs, and has nothing to do with helpers. -/
def Command.installsNetwork (command : Command) : Bool :=
  match command.part? with
  | some .helpers => false
  | _ => command.installs

/-- What may be installed while the lines are still to come. -/
def RootProxyManager.Leftovers.before (lines : List Line) : Leftovers :=
  { Leftovers.all with hooks := slots.filter (· ∉ pending lines) }

/-- The lines to come install, fill each slot once, and find their slots free. -/
structure Installing (k₀ : Kernel) (lines : List Line) (sh : Shell) : Prop where
  installs : ∀ line ∈ lines, line.command.installs = true
  once : (pending lines).Nodup
  chains : ChainsLeft k₀ (Leftovers.before lines) sh.kernel
  rules : RulesLeft k₀ .all sh.kernel

variable {key : ChainKey} {rules : List ChainRule} (ctx : RootContext)

variable {k₀ k : Kernel} {line : Line} {lines : List Line} {sh : Shell} {fate : Nat → Fate}

section
variable {sh' : Shell}

theorem dedicated_notBuiltin : ∀ key ∈ dedicated.map Prod.fst, key.name.isBuiltin = false := by decide

/-- No two slots are in one chain. -/
theorem slots_unique : ∀ s ∈ slots, ∀ s' ∈ slots, s.key = s'.key → s = s' := by decide

theorem pref_inj_ourRules (family : Family) :
    ∀ rule ∈ ourRules family, ∀ rule' ∈ ourRules family, rule.pref = rule'.pref → rule = rule' := by
  cases family <;> decide

theorem pending_subset : pending lines ⊆ pending (line :: lines) := by
  intro s hs
  unfold pending at hs ⊢
  rw [filterMap_cons]
  split
  · exact hs
  · exact mem_cons_of_mem _ hs

theorem before_hooks_subset :
    (before (line :: lines)).hooks ⊆ (before lines).hooks := by
  intro s hs
  obtain ⟨hslot, hfree⟩ := mem_filter.mp hs
  refine mem_filter.mpr ⟨hslot, decide_eq_true fun hin => ?_⟩
  exact of_decide_eq_true hfree (pending_subset hin)

theorem chainsLeft_later (h : ChainsLeft k₀ (before (line :: lines)) k) {k' : Kernel}
    (hk : k'.chains = k.chains) : ChainsLeft k₀ (before lines) k' :=
  h.mono hk before_hooks_subset (List.Subset.refl _) (List.Subset.refl _)

/-- A new rule in a dedicated chain. -/
theorem chainsLeft_fill (h : ChainsLeft k₀ (before (line :: lines)) k)
    (hkey : key ∈ dedicated.map Prod.fst) (hjump : ∀ rule ∈ rules, isJump rule = false) :
    ChainsLeft k₀ (before lines) (k.setChain key (some rules)) := by
  refine (chainsLeft_later h rfl).change (fun _ hne => Kernel.setChain_of_ne _ hne _)
    (fun _ _ => ⟨fun _ => id, id, id⟩) (.inr ⟨dedicated_notBuiltin key hkey, ?_⟩)
  exact .inr ⟨hkey, rules, Kernel.setChain_self _ _ _, hjump, .inr hkey⟩

/-- A rule of a dedicated chain before the command has no jump either. -/
theorem noJump_of_chainsLeft (h : ChainsLeft k₀ l k) (hkey : key.name.isBuiltin = false)
    (hrules : k.chains key = some rules) :
    ∀ rule ∈ rules, isJump rule = false := by
  rcases h.own key hkey with hnone | ⟨-, rules', hrules', hjump, -⟩
  · rw [hrules] at hnone
    cases hnone
  · rw [hrules] at hrules'
    cases hrules'
    exact hjump

/-- The chain of a slot still to be filled is as it was. -/
theorem chains_of_pending (h : ChainsLeft k₀ (before lines) k) {s : Slot} (hslot : s ∈ slots)
    (hpending : s ∈ pending lines) : k.chains s.key = k₀.chains s.key := by
  rcases h.builtin s.key (slots_builtin s hslot) with hsame | ⟨hook, _, hin, -⟩
  · exact hsame
  · obtain ⟨hin, hfree⟩ := mem_filter.mp hin
    refine absurd ?_ (of_decide_eq_true hfree)
    rw [slots_unique _ hin s hslot rfl]
    exact hpending

/-- A rule that is put into its slot for the first time. -/
theorem chainsLeft_hook (h : ChainsLeft k₀ (before (line :: lines)) k)
    (honce : (pending (line :: lines)).Nodup) (hslot : ⟨key, rule⟩ ∈ slots)
    (hline : line.command.slot? = some ⟨key, rule⟩) {rules' : List ChainRule}
    (hrules : k.chains key = some rules) (hmem : rule ∈ rules')
    (herase : rules'.erase rule = rules) :
    ChainsLeft k₀ (before lines) (k.setChain key (some rules')) := by
  have hpending : pending (line :: lines) = ⟨key, rule⟩ :: pending lines := by
    unfold pending
    rw [filterMap_cons, hline]
  rw [hpending, nodup_cons] at honce
  have hbase : k₀.chains key = some rules := by
    rw [← hrules]
    refine (chains_of_pending h hslot ?_).symm
    rw [hpending]
    exact mem_cons_self
  refine (chainsLeft_later h rfl).change (fun _ hne => Kernel.setChain_of_ne _ hne _)
    (fun _ _ => ⟨fun _ => id, id, id⟩) (.inl ⟨slots_builtin _ hslot, .inr ⟨rule, rules',
      mem_filter.mpr ⟨hslot, decide_eq_true honce.1⟩, Kernel.setChain_self _ _ _, hmem, ?_⟩⟩)
  rw [hbase, herase]

/-- A rule that is put into a chain, at its end or in front. -/
theorem chainsLeft_put (hclean : Clean k₀) (h : ChainsLeft k₀ (before (line :: lines)) k)
    (honce : (pending (line :: lines)).Nodup)
    (hinstalls : (Command.append key rule).installs = true)
    (hline : line.command.slot? = (Command.append key rule).slot?) {rules' : List ChainRule}
    (hrules : k.chains key = some rules) (hmem : ∀ r, r ∈ rules' ↔ r ∈ rules ∨ r = rule)
    (herase : rule ∉ rules → rules'.erase rule = rules) :
    ChainsLeft k₀ (before lines) (k.setChain key (some rules')) := by
  cases hbuiltin : key.name.isBuiltin with
  | true =>
    have hslot : ⟨key, rule⟩ ∈ slots := by
      simpa [Command.installs, hbuiltin] using hinstalls
    have hfills : line.command.slot? = some ⟨key, rule⟩ := by
      rw [hline]
      exact if_pos hbuiltin
    have hbase := chains_of_pending h hslot (by simp [pending, hfills])
    exact chainsLeft_hook h honce hslot hfills hrules ((hmem rule).mpr (.inr rfl))
      (herase (hclean.slot_notMem hslot (hbase ▸ hrules)))
  | false =>
    have hown : key ∈ dedicated.map Prod.fst ∧ isJump rule = false := by
      simpa [Command.installs, hbuiltin] using hinstalls
    refine chainsLeft_fill h hown.1 fun r hr => ?_
    rcases (hmem r).mp hr with hold | rfl
    · exact noJump_of_chainsLeft h hbuiltin hrules r hold
    · exact hown.2

theorem chainsLeft_effect (hclean : Clean k₀) (h : Installing k₀ (line :: lines) sh)
    (heffect : line.command.effect sh = some sh') :
    ChainsLeft k₀ (before lines) sh'.kernel := by
  have hinstalls := h.installs line mem_cons_self
  have hframe := effect_agreesOutside heffect
  have hchains := h.chains
  have honce := h.once
  obtain ⟨command, orTrue⟩ := line
  cases command with
  | newChain key =>
    rw [effect] at heffect
    split at heffect <;> cases heffect
    exact chainsLeft_fill hchains (of_decide_eq_true hinstalls) (forall_mem_nil _)
  | flush key =>
    obtain ⟨rules, -, rfl⟩ := Option.map_eq_some_iff.mp heffect
    exact chainsLeft_fill hchains (of_decide_eq_true hinstalls) (forall_mem_nil _)
  | append key rule =>
    rw [effect] at heffect
    split at heffect
    · obtain ⟨rules, hrules, rfl⟩ := Option.map_eq_some_iff.mp heffect
      refine chainsLeft_put hclean hchains honce hinstalls rfl hrules (by simp) fun hfree => ?_
      rw [erase_append_right _ hfree]
      simp
    · cases heffect
  | insert key rule =>
    rw [effect] at heffect
    split at heffect
    · obtain ⟨rules, hrules, rfl⟩ := Option.map_eq_some_iff.mp heffect
      exact chainsLeft_put hclean hchains honce hinstalls rfl hrules (by simp [or_comm])
        fun _ => erase_cons_head rule rules
    · cases heffect
  | delete key rule =>
    have hafter := chainsLeft_delete hclean hchains (of_decide_eq_true hinstalls)
    rw [attempt_of_effect rfl heffect] at hafter
    exact hafter.mono rfl (fun s hs => before_hooks_subset (mem_filter.mp hs).1)
      (List.Subset.refl _) (List.Subset.refl _)
  | setErrexit on | shell text | spawn helper | savePid | writeLastPid helper
  | writeSavedPid helper | ruleAdd family rule | routeReplace family =>
    exact chainsLeft_later hchains (funext fun key => hframe.chains key (by rintro ⟨⟩))
  | _ => cases hinstalls

theorem rulesLeft_effect (h : RulesLeft k₀ .all sh.kernel) (hinstalls : line.command.installs = true)
    (heffect : line.command.effect sh = some sh') : RulesLeft k₀ .all sh'.kernel := by
  have hframe := effect_agreesOutside heffect
  obtain ⟨command, orTrue⟩ := line
  cases command with
  | ruleAdd family rule =>
    rw [effect] at heffect
    split at heffect
    · cases heffect
    · next hnew =>
      cases heffect
      intro f
      obtain ⟨added, hadded, hnodup, hsub⟩ := h f
      by_cases hf : f = family
      · subst hf
        have hours : rule ∈ ourRules f := of_decide_eq_true hinstalls
        refine ⟨added ++ [rule], ?_, ?_, ?_⟩
        · change (if f = f then sh.kernel.ipRules f ++ [rule] else _) = _
          rw [if_pos rfl, hadded, append_assoc]
        · rw [map_append, map_singleton, nodup_append_comm, singleton_append,
            nodup_cons]
          refine ⟨fun hin => hnew ?_, hnodup⟩
          obtain ⟨rule', hin', hpref⟩ := mem_map.mp hin
          rw [← pref_inj_ourRules f rule' (hsub hin') rule hours hpref, hadded]
          exact mem_append_right _ hin'
        · exact append_subset.mpr ⟨hsub, cons_subset.mpr ⟨hours, nil_subset _⟩⟩
      · exact ⟨added, (if_neg hf).trans hadded, hnodup, hsub⟩
  | newChain key | flush key | append key rule | insert key rule | delete key rule | setErrexit on
  | shell text | spawn helper | savePid | writeLastPid helper | writeSavedPid helper
  | routeReplace family => exact h.congr (hframe.ipRules (by rintro ⟨⟩)) rfl
  | _ => cases hinstalls

/-- A line that is passed over leaves less to come. -/
theorem Installing.skip (h : Installing k₀ (line :: lines) sh) (status : Bool) :
    Installing k₀ lines { sh with status := status } where
  installs := fun line hin => h.installs line (mem_cons_of_mem _ hin)
  once := by
    have honce := h.once
    unfold pending at honce ⊢
    rw [filterMap_cons] at honce
    split at honce
    · exact honce
    · exact (nodup_cons.mp honce).2
  chains := chainsLeft_later h.chains rfl
  rules := h.rules

theorem Installing.effect (hclean : Clean k₀) (h : Installing k₀ (line :: lines) sh)
    (heffect : line.command.effect sh = some sh') :
    Installing k₀ lines { sh' with status := true } := by
  have hrest := h.skip true
  refine ⟨hrest.installs, hrest.once, ?_, ?_⟩
  · change ChainsLeft k₀ (before lines) sh'.kernel
    exact chainsLeft_effect hclean h heffect
  · change RulesLeft k₀ .all sh'.kernel
    exact rulesLeft_effect h.rules (h.installs line mem_cons_self) heffect

end

/-! ## The script of a setup -/

theorem pending_append (lines lines' : List Line) :
    pending (lines ++ lines') = pending lines ++ pending lines' := filterMap_append

theorem pending_installChain {hook : ChainName} (hkey : key.name.isBuiltin = false)
    (hhook : hook.isBuiltin = true) :
    pending (installChain key rules hook) = [⟨{ key with name := hook }, jumpTo key.name⟩] := by
  have hrules : pending (rules.map fun rule => ⟨.append key rule, false⟩) = [] := by
    unfold pending
    rw [filterMap_eq_nil_iff]
    intro line hin
    obtain ⟨rule, -, rfl⟩ := mem_map.mp hin
    exact if_neg (by simp [hkey])
  unfold installChain
  rw [pending_append, pending_append, hrules]
  simp [pending, slot?, hhook]

theorem network_installChain (hmem : (key, hook) ∈ dedicated)
    (hjump : ∀ rule ∈ rules, isJump rule = false) :
    ∀ line ∈ installChain key rules hook, line.command.installsNetwork = true := by
  have hkey : key ∈ dedicated.map Prod.fst := mem_map.mpr ⟨_, hmem, rfl⟩
  have hslot : ⟨{ key with name := hook }, jumpTo key.name⟩ ∈ slots :=
    mem_append_left _ (mem_map.mpr ⟨_, hmem, rfl⟩)
  have hhook : hook.isBuiltin = true := slots_builtin _ hslot
  have hown := dedicated_notBuiltin key hkey
  intro line hin
  unfold installChain at hin
  simp only [mem_append, mem_cons, not_mem_nil, or_false, mem_map] at hin
  rcases hin with ((rfl | rfl) | ⟨rule, hrule, rfl⟩) | rfl | rfl
  · exact decide_eq_true hkey
  · exact decide_eq_true hkey
  · change (if key.name.isBuiltin = true then _ else _) = true
    rw [if_neg (by simp [hown]), hjump rule hrule, decide_eq_true hkey]
    rfl
  · exact decide_eq_true hslot
  · change (if hook.isBuiltin = true then _ else _) = true
    rw [if_pos hhook]
    exact decide_eq_true hslot

theorem network_lanShare (env : AppEnv) (captureDeviceTraffic ipv6 : Bool) :
    ∀ line ∈ buildLanShareSetup env captureDeviceTraffic ipv6,
      line.command.installsNetwork = true := by
  rw [← all_eq_true]
  cases captureDeviceTraffic <;> cases ipv6 <;> rfl

theorem pending_lanShare (env : AppEnv) (captureDeviceTraffic ipv6 : Bool) :
    pending (buildLanShareSetup env captureDeviceTraffic ipv6) =
      [⟨⟨.v4, .filter, .forward⟩, jumpTo .coreFwd⟩, ⟨mangle .v4 .forward, mssRule⟩,
        ⟨⟨.v4, .nat, .prerouting⟩, jumpTo .coreDns⟩, ⟨⟨.v6, .filter, .forward⟩, jumpTo .core6Fwd⟩] ++
      if ipv6 then [⟨mangle .v6 .prerouting, jumpTo .core6Pre⟩] else [] := by
  cases captureDeviceTraffic <;> cases ipv6 <;> rfl

/-- After the helpers and the way into the tun, a setup installs chains, rules and routes. -/
theorem setup_network (captureDeviceTraffic forceLanShare : Bool) :
    ∃ network, setupLines ctx captureDeviceTraffic forceLanShare = startLines ctx ++ network ∧
      ∀ line ∈ network, line.command.installsNetwork = true := by
  have htun : ∀ line ∈ tunV6Lines, line.command.installsNetwork = true := by
    rw [← all_eq_true]
    rfl
  have hmarking (family : Family) :
      ∀ line ∈ buildMangleMarking ctx.appUid (ctx.env.decodeSettingsBool AppConfig.prefPerAppProxy)
        (ctx.env.decodeSettingsBool AppConfig.prefBypassApps) (selectedUids ctx) family,
        line.command.installsNetwork = true :=
    network_installChain (by cases family <;> decide) noJump_marking
  unfold setupLines
  refine ⟨_, (append_assoc _ _ _).trans (append_assoc _ _ _), fun line hin => ?_⟩
  rcases mem_append.mp hin with hin | hin
  · split at hin
    · exact hmarking .v4 line hin
    · cases hin
  · rcases mem_append.mp hin with hin | hin
    · split at hin
      · exact network_lanShare _ _ _ line hin
      · cases hin
    · split at hin
      · rcases mem_append.mp hin with hin | hin
        · rw [mem_singleton.mp hin]
          rfl
        · split at hin
          · rcases mem_append.mp hin with hin | hin
            · exact htun line hin
            · exact hmarking .v6 line hin
          · exact network_installChain (by decide) noJump_blackhole line hin
      · cases hin

theorem installs_of_network {command : Command} (h : command.installsNetwork = true) :
    command.installs = true ∧ command.part? ≠ some .helpers := by
  unfold installsNetwork at h
  split at h
  · cases h
  · next hpart => exact ⟨h, hpart⟩

theorem setup_installs (captureDeviceTraffic forceLanShare : Bool) :
    ∀ line ∈ setupLines ctx captureDeviceTraffic forceLanShare, line.command.installs = true := by
  have hstart : ∀ line ∈ startLines ctx, line.command.installs = true := by
    rw [← all_eq_true]
    rfl
  obtain ⟨network, hsplit, hnetwork⟩ := setup_network ctx captureDeviceTraffic forceLanShare
  intro line hin
  rw [hsplit] at hin
  rcases mem_append.mp hin with hin | hin
  · exact hstart line hin
  · exact (installs_of_network (hnetwork line hin)).1

theorem pending_marking (appUid : Nat) (perAppEnabled bypassApps : Bool) (uids : List String)
    (family : Family) : pending (buildMangleMarking appUid perAppEnabled bypassApps uids family) =
      [⟨mangle family .output, jumpTo .coreFilter⟩] :=
  pending_installChain rfl rfl

theorem pending_blackhole (appUid : Nat) (perAppEnabled bypassApps : Bool) (uids : List String) :
    pending (buildV6Blackhole appUid perAppEnabled bypassApps uids) =
      [⟨⟨.v6, .filter, .output⟩, jumpTo .core6Filter⟩] :=
  pending_installChain rfl rfl

/-- A setup fills every slot at most once. -/
theorem setup_once (captureDeviceTraffic forceLanShare : Bool) :
    (pending (setupLines ctx captureDeviceTraffic forceLanShare)).Nodup := by
  have hstart : pending (startLines ctx) = [] := rfl
  have htun : pending tunV6Lines = [] := rfl
  have herrexit : pending [⟨.setErrexit false, false⟩] = [] := rfl
  unfold setupLines
  generalize (forceLanShare || ctx.env.decodeSettingsBool AppConfig.prefRootLanSharing) = lanShare
  cases captureDeviceTraffic <;> cases lanShare <;>
    cases ctx.env.decodeSettingsBool AppConfig.prefIpv6Enabled <;>
    simp only [reduceIte, Bool.false_eq_true, pending_append, hstart, htun, herrexit,
      pending_lanShare, pending_marking, pending_blackhole] <;>
    decide

/-- Whatever happens during a setup, its chains and policy rules are within the bound. -/
theorem network_left (hclean : Clean k₀) (ctx : RootContext)
    (captureDeviceTraffic forceLanShare : Bool) (fate : Nat → Fate) :
    ChainsLeft k₀ .all
        (RootShell.runScript fate (setupLines ctx captureDeviceTraffic forceLanShare) k₀).2 ∧
      RulesLeft k₀ .all
        (RootShell.runScript fate (setupLines ctx captureDeviceTraffic forceLanShare) k₀).2 := by
  have hfirst : Installing k₀ (setupLines ctx captureDeviceTraffic forceLanShare)
      { kernel := k₀ } := by
    have hleft := hclean.left
    exact ⟨setup_installs _ _ _, setup_once _ _ _, (hleft _).chains, (hleft _).rules⟩
  obtain ⟨rest, hlast⟩ := runLines_invariant (fun status h => h.skip status)
    (fun h heffect => h.effect hclean heffect) fate 0 hfirst
  rw [runScript_kernel]
  refine ⟨hlast.chains.mono rfl ?_ (List.Subset.refl _) (List.Subset.refl _), hlast.rules⟩
  exact fun s hs => (mem_filter.mp hs).1

/-! ## The helpers of a setup -/

/-- The command notes the pid of a helper. -/
def Command.recordsPid : Command → Bool
  | .savePid | .writeLastPid _ | .writeSavedPid _ => true
  | _ => false

/-- Every command that notes a pid is run. -/
def RecordsPids (fate : Nat → Fate) (script : List Line) : Prop :=
  ∀ n line, script[n]? = some line → line.command.recordsPid = true → fate n = .ok

/-- The helpers that may run are in their pid files. -/
def Running (helpers : List Helper) (sh : Shell) : Prop :=
  HelpersLeft { Leftovers.all with helpers := helpers } sh.kernel

/-- A new helper may run whose pid is `$!` only. -/
def Started (helpers : List Helper) (helper : Helper) (sh : Shell) : Prop :=
  ∀ process ∈ sh.kernel.processes,
    process.2 ∈ helpers ∧ sh.kernel.pidFiles process.2 = some process.1 ∨
      process.2 = helper ∧ sh.lastPid = some process.1

section
variable {helpers : List Helper} {helper : Helper} {n : Nat}

theorem mem_all_pidFiles (helper : Helper) : helper ∈ Leftovers.all.pidFiles := by
  cases helper <;> decide

theorem mem_all_helpers (helper : Helper) : helper ∈ Leftovers.all.helpers := by
  cases helper <;> decide

theorem Running.all (h : Running helpers sh) : HelpersLeft .all sh.kernel :=
  ⟨fun process hin => ⟨mem_all_helpers _, (h.running process hin).2⟩, h.pidFile⟩

/-- Writing `$!` into the pid file of the new helper. -/
theorem running_of_started (h : Started helpers helper sh) (hnew : helper ∉ helpers) :
    HelpersLeft { Leftovers.all with helpers := helper :: helpers }
      (sh.kernel.setPidFile helper sh.lastPid) := by
  refine ⟨fun process hin => ?_, fun helper' => .inr (mem_all_pidFiles helper')⟩
  rcases h process hin with ⟨hold, hfile⟩ | ⟨hhelper, hlast⟩
  · have hne : process.2 ≠ helper := fun heq => hnew (heq ▸ hold)
    exact ⟨mem_cons_of_mem _ hold, (if_neg hne).trans hfile⟩
  · exact ⟨hhelper ▸ mem_cons_self, (if_pos hhelper).trans hlast⟩

theorem runLines_of_ok (hfate : fate n = .ok) (heffect : line.command.effect sh = some sh') :
    runLines fate n (line :: lines) sh = runLines fate (n + 1) lines { sh' with status := true } := by
  rw [runLines, hfate, step_of_effect heffect]

/-- A line that has nothing to do with helpers. -/
theorem helpersLeft_other (h : Running helpers sh) (hline : line.command.part? ≠ some .helpers)
    (hrest : ∀ sh', Running helpers sh' →
      HelpersLeft .all (finalShell (runLines fate (n + 1) lines sh')).kernel) :
    HelpersLeft .all (finalShell (runLines fate n (line :: lines) sh)).kernel := by
  rcases runLines_cons fate n line lines sh with hend | ⟨status, hrun⟩ | ⟨sh', heffect, hrun⟩
  · rw [hend]
    exact h.all
  · rw [hrun]
    exact hrest { sh with status := status } h
  · rw [hrun]
    have hframe := effect_agreesOutside heffect
    exact hrest _ (HelpersLeft.congr h (hframe.helpers hline) ⟨rfl, rfl⟩)

theorem helpersLeft_spawn (h : Running helpers sh)
    (hrest : ∀ sh', Started helpers helper sh' →
      HelpersLeft .all (finalShell (runLines fate (n + 1) lines sh')).kernel) :
    HelpersLeft .all
      (finalShell (runLines fate n (⟨.spawn helper, false⟩ :: lines) sh)).kernel := by
  rcases runLines_cons fate n ⟨.spawn helper, false⟩ lines sh with
    hend | ⟨status, hrun⟩ | ⟨sh', heffect, hrun⟩
  · rw [hend]
    exact h.all
  · rw [hrun]
    exact hrest { sh with status := status } fun process hin => .inl (h.running process hin)
  · cases heffect
    rw [hrun]
    refine hrest _ fun process hin => ?_
    rcases mem_cons.mp hin with rfl | hold
    · exact .inr ⟨rfl, rfl⟩
    · exact .inl (h.running process hold)

/-- After the helpers are started, nothing more happens to them. -/
theorem helpersLeft_rest (h : Running helpers sh)
    (hlines : ∀ line ∈ lines, line.command.part? ≠ some .helpers) :
    HelpersLeft .all (finalShell (runLines fate n lines sh)).kernel := by
  induction lines generalizing n sh with
  | nil => exact h.all
  | cons line lines ih =>
    refine helpersLeft_other h (hlines line mem_cons_self) fun sh' h' => ?_
    exact ih h' fun line hin => hlines line (mem_cons_of_mem _ hin)

/-- The start of a setup: both helpers, each with its pid noted. -/
theorem helpersLeft_start (h : Running [] sh) (hfate₃ : fate 3 = .ok) (hfate₆ : fate 6 = .ok)
    (hfate₇ : fate 7 = .ok) (hlines : ∀ line ∈ lines, line.command.part? ≠ some .helpers) :
    HelpersLeft .all (finalShell (runLines fate 0
      (⟨.setErrexit true, false⟩ :: ⟨.shell bin, false⟩ ::
        ⟨.spawn .oomGuard, false⟩ :: ⟨.writeLastPid .oomGuard, false⟩ :: ⟨.shell node, false⟩ ::
        ⟨.spawn .tun2socks, false⟩ :: ⟨.savePid, false⟩ :: ⟨.writeSavedPid .tun2socks, false⟩ ::
        lines) sh)).kernel := by
  refine helpersLeft_other h (by exact nofun) fun sh₁ h₁ => ?_
  refine helpersLeft_other h₁ (by exact nofun) fun sh₂ h₂ => ?_
  refine helpersLeft_spawn h₂ fun sh₃ h₃ => ?_
  rw [runLines_of_ok hfate₃ rfl]
  refine helpersLeft_other (running_of_started h₃ not_mem_nil) (by exact nofun)
    fun sh₄ h₄ => ?_
  refine helpersLeft_spawn h₄ fun sh₅ h₅ => ?_
  rw [runLines_of_ok hfate₆ rfl, runLines_of_ok hfate₇ rfl]
  exact helpersLeft_rest (running_of_started h₅ (by decide)) hlines

/-- If every pid is noted, the helpers of a setup are in their pid files. -/
theorem helpers_left (hclean : Clean k₀) (ctx : RootContext)
    (captureDeviceTraffic forceLanShare : Bool)
    (hrecords : RecordsPids fate (setupLines ctx captureDeviceTraffic forceLanShare)) :
    HelpersLeft .all
      (RootShell.runScript fate (setupLines ctx captureDeviceTraffic forceLanShare) k₀).2 := by
  have hfate₃ : fate 3 = .ok := hrecords 3 ⟨.writeLastPid .oomGuard, false⟩ rfl rfl
  have hfate₆ : fate 6 = .ok := hrecords 6 ⟨.savePid, false⟩ rfl rfl
  have hfate₇ : fate 7 = .ok := hrecords 7 ⟨.writeSavedPid .tun2socks, false⟩ rfl rfl
  have hfirst : Running [] { kernel := k₀ } := (hclean.left _).helpers
  obtain ⟨network, hsplit, hnetwork⟩ := setup_network ctx captureDeviceTraffic forceLanShare
  have htail : ∀ line ∈ (startLines ctx).drop 8 ++ network,
      line.command.part? ≠ some .helpers := by
    have hstart : ∀ line ∈ (startLines ctx).drop 8, line.command.installsNetwork = true := by
      rw [← all_eq_true]
      rfl
    intro line hin
    exact (installs_of_network ((mem_append.mp hin).elim (hstart line) (hnetwork line))).2
  rw [runScript_kernel, hsplit]
  exact helpersLeft_start hfirst hfate₃ hfate₆ hfate₇ htail

/-- Whatever else happens during a setup, what it leaves is within the bound. -/
theorem setup_left (hclean : Clean k₀) (ctx : RootContext)
    (captureDeviceTraffic forceLanShare : Bool)
    (hrecords : RecordsPids fate (setupLines ctx captureDeviceTraffic forceLanShare)) :
    Left k₀ .all
      (RootShell.runScript fate (setupLines ctx captureDeviceTraffic forceLanShare) k₀).2 where
  chains := (network_left hclean ctx captureDeviceTraffic forceLanShare fate).1
  rules := (network_left hclean ctx captureDeviceTraffic forceLanShare fate).2
  routes := fun family => .inr (by cases family <;> decide)
  helpers := helpers_left hclean ctx captureDeviceTraffic forceLanShare hrecords

end

/-! ## Sequences of calls -/

/-- The calls into root mode; the fates are those of the lines of the setup script. -/
inductive RootCall
  | start (ctx : RootContext) (fate : Nat → Fate)
  | startClientSharing (ctx : RootContext) (fate : Nat → Fate)
  | stop (ctx : RootContext)

namespace RootCall

/-- Whether a setup is in place after the call, and the kernel. A call after which none is ends with
a teardown. -/
def run (s : Bool × Kernel) : RootCall → Bool × Kernel
  | start ctx fate => RootProxyManager.start ctx fate s.2
  | startClientSharing ctx fate => RootProxyManager.startClientSharing ctx fate s.2
  | stop ctx => (false, RootProxyManager.stop ctx s.2)

/-- No fault hits a command that notes the pid of a helper. -/
def NotesPids : RootCall → Prop
  | start ctx fate => RecordsPids fate (setupLines ctx true false)
  | startClientSharing ctx fate => RecordsPids fate (setupLines ctx false true)
  | stop _ => True

end RootCall

/-- After a setup, a teardown leads back to the clean kernel; one that failed has done so already. -/
theorem setUp_torn (hclean : Clean k₀) (h : ∀ ctx, teardown ctx k = k₀) (ctx : RootContext)
    (captureDeviceTraffic forceLanShare : Bool)
    (hrecords : RecordsPids fate (setupLines ctx captureDeviceTraffic forceLanShare)) :
    ((setUp ctx captureDeviceTraffic forceLanShare fate k).1 = false →
        (setUp ctx captureDeviceTraffic forceLanShare fate k).2 = k₀) ∧
      ∀ ctx', teardown ctx' (setUp ctx captureDeviceTraffic forceLanShare fate k).2 = k₀ := by
  have hleft := setup_left hclean ctx captureDeviceTraffic forceLanShare hrecords
  have hagain : ∀ ctx', teardown ctx' k₀ = k₀ := teardown_of_left hclean (hclean.left _)
  unfold setUp buildTun2socksSetup
  rw [h ctx]
  dsimp only
  split
  · exact ⟨fun _ => rfl, hagain⟩
  · next script hscript =>
    split at hscript
    · cases hscript
      obtain ⟨status, k', hrun⟩ : ∃ status k', RootShell.runScript fate
          (setupLines ctx captureDeviceTraffic forceLanShare) k₀ = (status, k') := ⟨_, _, rfl⟩
      rw [hrun] at hleft ⊢
      cases status with
      | true => exact ⟨Bool.noConfusion, teardown_of_left hclean hleft⟩
      | false =>
        have htorn : teardown ctx k' = k₀ := teardown_of_left hclean hleft ctx
        dsimp only
        rw [htorn]
        exact ⟨fun _ => rfl, hagain⟩
    · cases hscript

/-- From a clean kernel, in every sequence of calls in which no fault hits a command that notes the
pid of a helper, every call that ends with a teardown leaves the clean kernel. -/
theorem teardown_complete (k₀ : Kernel) (hclean : Clean k₀) (calls : List RootCall)
    (h : Run.StepsMeet RootCall.run (fun _ call => call.NotesPids) (false, k₀) calls) :
    Run.Always RootCall.run (fun s => s.1 = false → s.2 = k₀) (false, k₀) calls := by
  have hagain : ∀ ctx, teardown ctx k₀ = k₀ := teardown_of_left hclean (hclean.left _)
  refine Run.Always.imp (j := fun s => (s.1 = false → s.2 = k₀) ∧ ∀ ctx, teardown ctx s.2 = k₀)
    (Run.always_of_stepsMeet ?_ ⟨fun _ => rfl, hagain⟩ h) fun _ hs => hs.1
  intro s call hs hcall
  cases call with
  | start ctx fate => exact setUp_torn hclean hs.2 ctx true false hcall
  | startClientSharing ctx fate => exact setUp_torn hclean hs.2 ctx false true hcall
  | stop ctx =>
    have htorn : RootProxyManager.stop ctx s.2 = k₀ := hs.2 ctx
    change (_ → RootProxyManager.stop ctx s.2 = k₀) ∧
      ∀ ctx', teardown ctx' (RootProxyManager.stop ctx s.2) = k₀
    rw [htorn]
    exact ⟨fun _ => rfl, hagain⟩

theorem initial_clean : Clean .initial where
  chains {key rules} h := by
    unfold Kernel.initial at h
    dsimp only at h
    split at h
    · next hbuiltin =>
      cases h
      exact ⟨hbuiltin, nofun⟩
    · cases h
  mss h := by
    cases h
    exact not_mem_nil
  mark _ := not_mem_nil
  prefs _ h := nomatch h
  routes _ := rfl
  processes := rfl
  pidFiles _ := rfl

/-- Only the given line of a script fails; if `set -e` is on, the script ends there. -/
def abortAt (n : Nat) : Nat → Fate := fun i => if i = n then .abort else .ok

/-- The tunnel does not come up, and so the setup is undone; then the device shares its connection,
until it is told to stop. -/
def failedStart : List RootCall :=
  [.start plainContext (abortAt 10), .startClientSharing plainContext (abortAt 100),
    .stop plainContext]

theorem failedStart_torn_down :
    Run.Always RootCall.run (fun s => s.1 = false → s.2 = .initial) (false, .initial)
      failedStart := by
  refine teardown_complete .initial initial_clean failedStart ⟨?_, ?_, trivial, trivial⟩
  · intro n line hline hrecords
    by_cases hn : n = 10
    · subst hn
      cases hline
      cases hrecords
    · exact if_neg hn
  · intro n line hline hrecords
    by_cases hn : n = 100
    · subst hn
      cases hline
    · exact if_neg hn

/-- The setup ends where the pid of the first helper is to be written: the helper is started, the
setup is undone, and the helper still runs. -/
theorem unnoted_helper_stays :
    Clean .initial ∧
      (RootProxyManager.start plainContext (abortAt 3) .initial).1 = false ∧
      (RootProxyManager.start plainContext (abortAt 3) .initial).2.processes =
        [(1, .oomGuard)] :=
  ⟨initial_clean, rfl, rfl⟩

end ZeroVpn
