import ZeroVpn.Root.OutputSpec

/-!
# What a teardown removes

`Leftovers` bounds what a setup may have left in the kernel, and `Leftovers.after` what may still be
left after a command of the teardown. Every command keeps the bound, and the bound of a whole
teardown is empty: nothing is left.
-/

namespace ZeroVpn
open Netfilter List Command

/-! ## Running a teardown -/

/-- Run a command on a kernel; one that fails changes nothing. -/
def Command.attempt (k : Kernel) (command : Command) : Kernel :=
  ((command.effect { kernel := k }).map (·.kernel)).getD k

/-- The command reads no variable of the shell and sets none. -/
def Command.isStateless : Command → Bool
  | .setErrexit _ | .spawn _ | .savePid | .writeLastPid _ | .writeSavedPid _ => false
  | _ => true

theorem Command.attempt_agreesOutside (command : Command) (k : Kernel) :
    Kernel.AgreesOutside command.part? k (command.attempt k) := by
  unfold attempt
  cases h : command.effect { kernel := k } with
  | none => exact .refl _ _
  | some sh' => exact effect_agreesOutside h

variable {command : Command}

/-- The effect of a stateless command depends on the kernel only. -/
theorem Command.effect_of_isStateless (h : command.isStateless = true) (sh : Shell) :
    command.effect sh =
      (command.effect { kernel := sh.kernel }).map fun sh' => { sh with kernel := sh'.kernel } := by
  cases command with
  | setErrexit on | spawn helper | savePid | writeLastPid helper | writeSavedPid helper => cases h
  | newChain key =>
    rw [effect, effect]
    cases sh.kernel.chains key <;> rfl
  | flush key =>
    rw [effect, effect, Option.map_map]
    rfl
  | kill helper =>
    rw [effect, effect, Option.map_map]
    rfl
  | append key rule | insert key rule =>
    rw [effect, effect]
    split
    · rw [Option.map_map]
      rfl
    · rfl
  | delete key rule =>
    rw [effect, effect]
    cases sh.kernel.chains key with
    | none => rfl
    | some rules =>
      dsimp only
      split <;> rfl
  | deleteChain key | ruleAdd family rule | ruleDel family rule | ruleDelPref pref =>
    rw [effect, effect]
    split <;> rfl
  | shell text | removePidFile helper | routeReplace family | routeFlush family => rfl

theorem Command.attempt_of_effect (h : command.isStateless = true) {sh sh' : Shell}
    (heffect : command.effect sh = some sh') : command.attempt sh.kernel = sh'.kernel := by
  rw [effect_of_isStateless h, Option.map_eq_some_iff] at heffect
  obtain ⟨sh₁, heffect, rfl⟩ := heffect
  unfold attempt
  rw [heffect]
  rfl

/-- A script of stateless commands attempts them one after the other. -/
theorem runOk_stateless {lines : List Line} (h : ∀ line ∈ lines, line.command.isStateless = true)
    {sh : Shell} (herr : sh.errexit = false) :
    ∃ sh', runOk lines sh = .ok sh' ∧
      sh'.kernel = lines.foldl (fun k line => line.command.attempt k) sh.kernel := by
  induction lines generalizing sh with
  | nil => exact ⟨sh, rfl, rfl⟩
  | cons line lines ih =>
    have hstep : ∃ sh₁, line.step .ok sh = .ok sh₁ ∧ sh₁.errexit = false ∧
        sh₁.kernel = line.command.attempt sh.kernel := by
      unfold Line.step attempt
      rw [if_pos rfl, effect_of_isStateless (h line mem_cons_self) sh]
      cases line.command.effect { kernel := sh.kernel } with
      | some sh' => exact ⟨_, rfl, herr, rfl⟩
      | none =>
        rw [herr]
        cases line.orTrue <;> exact ⟨_, rfl, rfl, rfl⟩
    obtain ⟨sh₁, hs, herr₁, hkernel⟩ := hstep
    obtain ⟨sh', hrun, hfold⟩ := ih (fun line hin => h line (mem_cons_of_mem _ hin)) herr₁
    refine ⟨sh', ?_, by rw [hfold, hkernel]; rfl⟩
    unfold runOk at hrun ⊢
    rw [foldlM_cons, hs]
    exact hrun

namespace RootProxyManager

theorem teardown_stateless (ctx : RootContext) :
    ∀ line ∈ buildTeardown ctx, line.command.isStateless = true := by
  rw [← all_eq_true]
  rfl

theorem teardown_eq_foldl (ctx : RootContext) (k : Kernel) :
    teardown ctx k = (buildTeardown ctx).foldl (fun k line => line.command.attempt k) k := by
  obtain ⟨sh', hrun, hkernel⟩ := runOk_stateless (teardown_stateless ctx)
    (show ({ kernel := k } : Shell).errexit = false from rfl)
  unfold teardown RootShell.runScript
  rw [runLines_ok, hrun]
  exact hkernel

/-! ## What may be left -/

/-- A rule of a built-in chain. -/
structure Slot where
  key : ChainKey
  rule : ChainRule
deriving DecidableEq

/-- The dedicated chains, each with the built-in chain it is hooked into. -/
def dedicated : List (ChainKey × ChainName) :=
  [(mangle .v4 .coreFilter, .output), (mangle .v6 .coreFilter, .output),
    (⟨.v6, .filter, .core6Filter⟩, .output), (⟨.v4, .filter, .coreFwd⟩, .forward),
    (⟨.v4, .nat, .coreDns⟩, .prerouting), (⟨.v6, .filter, .core6Fwd⟩, .forward),
    (mangle .v6 .core6Pre, .prerouting)]

/-- The rules that setups add to built-in chains. -/
def slots : List Slot :=
  dedicated.map (fun e => ⟨{ e.1 with name := e.2 }, jumpTo e.1.name⟩) ++
    [⟨mangle .v4 .forward, mssRule⟩]

/-- The policy rules of setups. -/
def ourRules : Family → List IpRule
  | .v4 => markRule :: lanRules
  | .v6 => [markRule]

/-- The slot makes its table jump to the chain. -/
def Slot.jumpsTo (s : Slot) (key : ChainKey) : Bool :=
  s.key.family = key.family && s.key.table = key.table && s.rule.target = .jump key.name

/-- Nothing of root mode is installed. -/
structure Clean (k : Kernel) : Prop where
  chains : ∀ {key rules}, k.chains key = some rules →
    key.name.isBuiltin = true ∧ ∀ rule ∈ rules, isJump rule = false
  mss : ∀ {rules}, k.chains (mangle .v4 .forward) = some rules → mssRule ∉ rules
  mark : ∀ family, markRule ∉ k.ipRules family
  prefs : ∀ rule ∈ k.ipRules .v4, rule.pref ∉ lanPrefs
  routes : ∀ family, k.routes family = []
  processes : k.processes = []
  pidFiles : ∀ helper, k.pidFiles helper = none

/-- A bound of what a setup has left: rules in built-in chains, dedicated chains and those that hold
rules, policy rules, families with a route, running helpers and their pid files. -/
structure Leftovers where
  hooks : List Slot
  chains : List ChainKey
  filled : List ChainKey
  rules : Family → List IpRule
  routes : List Family
  helpers : List Helper
  pidFiles : List Helper

/-- Everything a setup installs. -/
def Leftovers.all : Leftovers where
  hooks := slots
  chains := dedicated.map Prod.fst
  filled := dedicated.map Prod.fst
  rules := ourRules
  routes := [.v4, .v6]
  helpers := [.oomGuard, .tun2socks]
  pidFiles := [.oomGuard, .tun2socks]

namespace Leftovers

/-- What may be left after a command of a teardown. -/
def after (l : Leftovers) : Command → Leftovers
  | .delete key rule => { l with hooks := l.hooks.filter (· ≠ ⟨key, rule⟩) }
  | .flush key => { l with filled := l.filled.filter (· ≠ key) }
  | .deleteChain key =>
    if key ∈ l.filled ∨ l.hooks.any (·.jumpsTo key) = true then l
    else { l with chains := l.chains.filter (· ≠ key) }
  | .ruleDel family rule =>
    { l with rules := fun f => if f = family then (l.rules f).filter (· ≠ rule) else l.rules f }
  | .ruleDelPref pref =>
    { l with rules := fun f => if f = .v4 then (l.rules f).filter (·.pref ≠ pref) else l.rules f }
  | .routeFlush family => { l with routes := l.routes.filter (· ≠ family) }
  | .kill helper => { l with helpers := l.helpers.filter (· ≠ helper) }
  | .removePidFile helper => { l with pidFiles := l.pidFiles.filter (· ≠ helper) }
  | _ => l

/-- The command removes what setups install. The pid file of a helper stays while it may run. -/
def admits (l : Leftovers) : Command → Bool
  | .delete key rule => ⟨key, rule⟩ ∈ slots
  | .flush key | .deleteChain key => !key.name.isBuiltin
  | .ruleDel _ rule => rule = markRule
  | .ruleDelPref pref => pref ∈ lanPrefs
  | .removePidFile helper => helper ∉ l.helpers
  | .routeFlush _ | .kill _ | .shell _ => true
  | _ => false

/-- Every line is admitted by what may be left before it. -/
def admitsLines : Leftovers → List Line → Bool
  | _, [] => true
  | l, line :: lines => l.admits line.command && admitsLines (l.after line.command) lines

end Leftovers

/-- A built-in chain is that of `k₀` but for a hook that `l` allows, which is there once. -/
def BuiltinLeft (k₀ : Kernel) (l : Leftovers) (k : Kernel) (key : ChainKey) : Prop :=
  k.chains key = k₀.chains key ∨
    ∃ rule rules, ⟨key, rule⟩ ∈ l.hooks ∧ k.chains key = some rules ∧ rule ∈ rules ∧
      k₀.chains key = some (rules.erase rule)

/-- A chain that is not built in is one that `l` allows. -/
def OwnLeft (l : Leftovers) (k : Kernel) (key : ChainKey) : Prop :=
  k.chains key = none ∨
    key ∈ l.chains ∧ ∃ rules, k.chains key = some rules ∧ (∀ rule ∈ rules, isJump rule = false) ∧
      (rules = [] ∨ key ∈ l.filled)

/-- The chains of `k` are those of `k₀` but for what `l` allows. -/
structure ChainsLeft (k₀ : Kernel) (l : Leftovers) (k : Kernel) : Prop where
  builtin : ∀ key, key.name.isBuiltin = true → BuiltinLeft k₀ l k key
  own : ∀ key, key.name.isBuiltin = false → OwnLeft l k key

/-- The policy rules of `k` are those of `k₀` and some that `l` allows, no two of one priority. -/
def RulesLeft (k₀ : Kernel) (l : Leftovers) (k : Kernel) : Prop :=
  ∀ family, ∃ added, k.ipRules family = k₀.ipRules family ++ added ∧
    (added.map IpRule.pref).Nodup ∧ added ⊆ l.rules family

def RoutesLeft (l : Leftovers) (k : Kernel) : Prop :=
  ∀ family, k.routes family = [] ∨ family ∈ l.routes

/-- Every helper process is in its pid file. -/
structure HelpersLeft (l : Leftovers) (k : Kernel) : Prop where
  running : ∀ process ∈ k.processes,
    process.2 ∈ l.helpers ∧ k.pidFiles process.2 = some process.1
  pidFile : ∀ helper, k.pidFiles helper = none ∨ helper ∈ l.pidFiles

/-- What was installed on top of `k₀` is within `l`. -/
structure Left (k₀ : Kernel) (l : Leftovers) (k : Kernel) : Prop where
  chains : ChainsLeft k₀ l k
  rules : RulesLeft k₀ l k
  routes : RoutesLeft l k
  helpers : HelpersLeft l k

/-! ## One command of a teardown -/

section
variable {k₀ k : Kernel} {l : Leftovers}

theorem slots_builtin : ∀ s ∈ slots, s.key.name.isBuiltin = true := by decide

/-- The rules of the slots are in no chain of a clean kernel. -/
theorem Clean.slot_notMem (hclean : Clean k₀) {s : Slot} (hs : s ∈ slots)
    (h : k₀.chains s.key = some rules) : s.rule ∉ rules := by
  intro hin
  rcases mem_append.mp hs with hjump | hmss
  · obtain ⟨e, -, rfl⟩ := mem_map.mp hjump
    have hno : isJump (jumpTo e.1.name) = false := (hclean.chains h).2 _ hin
    cases hno
  · cases mem_singleton.mp hmss
    exact hclean.mss h hin

/-- On the clean kernel itself nothing is left. -/
theorem Clean.left (hclean : Clean k₀) (l : Leftovers) : Left k₀ l k₀ := by
  refine ⟨⟨fun _ _ => .inl rfl, fun key hkey => .inl ?_⟩, fun family => ⟨[], ?_⟩,
    fun family => .inl (hclean.routes family), ⟨?_, fun helper => .inl (hclean.pidFiles helper)⟩⟩
  · cases hbase : k₀.chains key with
    | none => rfl
    | some rules =>
      rw [(hclean.chains hbase).1] at hkey
      cases hkey
  · exact ⟨(append_nil _).symm, nodup_nil, nil_subset _⟩
  · rw [hclean.processes]
    exact fun _ hin => nomatch hin

variable {key : ChainKey} {rule : ChainRule} {l' : Leftovers} {k' : Kernel}

theorem attempt_delete_of_notMem (h : ∀ rules, k.chains key = some rules → rule ∉ rules) :
    (delete key rule).attempt k = k := by
  unfold attempt effect
  dsimp only
  cases hrules : k.chains key with
  | none => rfl
  | some rules =>
    dsimp only
    rw [if_neg (h rules hrules)]
    rfl

theorem attempt_delete_of_mem {rules : List ChainRule} (hrules : k.chains key = some rules)
    (h : rule ∈ rules) :
    (delete key rule).attempt k = k.setChain key (some (rules.erase rule)) := by
  unfold attempt effect
  dsimp only
  rw [hrules]
  dsimp only
  rw [if_pos h]
  rfl

theorem BuiltinLeft.mono (h : BuiltinLeft k₀ l k key) (hk : k'.chains key = k.chains key)
    (hhooks : ∀ rule, ⟨key, rule⟩ ∈ l.hooks → ⟨key, rule⟩ ∈ l'.hooks) :
    BuiltinLeft k₀ l' k' key := by
  unfold BuiltinLeft
  rw [hk]
  exact h.imp_right fun ⟨rule, rules, hin, hrest⟩ => ⟨rule, rules, hhooks rule hin, hrest⟩

theorem OwnLeft.mono (h : OwnLeft l k key) (hk : k'.chains key = k.chains key)
    (hchains : key ∈ l.chains → key ∈ l'.chains) (hfilled : key ∈ l.filled → key ∈ l'.filled) :
    OwnLeft l' k' key := by
  unfold OwnLeft
  rw [hk]
  exact h.imp_right fun ⟨hin, rules, hrules, hjump, hempty⟩ =>
    ⟨hchains hin, rules, hrules, hjump, hempty.imp_right hfilled⟩

/-- The chains did not change, and their bound did not shrink. -/
theorem ChainsLeft.mono (h : ChainsLeft k₀ l k) (hk : k'.chains = k.chains)
    (hhooks : l.hooks ⊆ l'.hooks) (hchains : l.chains ⊆ l'.chains)
    (hfilled : l.filled ⊆ l'.filled) : ChainsLeft k₀ l' k' where
  builtin key hkey := (h.builtin key hkey).mono (congrFun hk key) fun _ hin => hhooks hin
  own key hkey := (h.own key hkey).mono (congrFun hk key) (fun hin => hchains hin)
    fun hin => hfilled hin

/-- One chain changed, and the bound of the others did not shrink. -/
theorem ChainsLeft.change (h : ChainsLeft k₀ l k)
    (hk : ∀ key', key' ≠ key → k'.chains key' = k.chains key')
    (hl : ∀ key', key' ≠ key → (∀ rule, ⟨key', rule⟩ ∈ l.hooks → ⟨key', rule⟩ ∈ l'.hooks) ∧
      (key' ∈ l.chains → key' ∈ l'.chains) ∧ (key' ∈ l.filled → key' ∈ l'.filled))
    (hself : key.name.isBuiltin = true ∧ BuiltinLeft k₀ l' k' key ∨
      key.name.isBuiltin = false ∧ OwnLeft l' k' key) : ChainsLeft k₀ l' k' := by
  refine ⟨fun key' hkey' => ?_, fun key' hkey' => ?_⟩
  · by_cases heq : key' = key
    · subst heq
      exact (hself.resolve_right fun hown => by simp [hkey'] at hown).2
    · exact (h.builtin key' hkey').mono (hk key' heq) (hl key' heq).1
  · by_cases heq : key' = key
    · subst heq
      exact (hself.resolve_left fun hbuiltin => by simp [hkey'] at hbuiltin).2
    · exact (h.own key' hkey').mono (hk key' heq) (hl key' heq).2.1 (hl key' heq).2.2

theorem attempt_chains (hpart : command.part? = some (.chain key)) (key' : ChainKey)
    (hne : key' ≠ key) : (command.attempt k).chains key' = k.chains key' := by
  refine (command.attempt_agreesOutside k).chains key' fun h => hne ?_
  exact (KernelPart.chain.inj (Option.some.inj (hpart.symm.trans h))).symm

theorem chainsLeft_delete (hclean : Clean k₀) (h : ChainsLeft k₀ l k)
    (hslot : ⟨key, rule⟩ ∈ slots) :
    ChainsLeft k₀ (l.after (.delete key rule)) ((delete key rule).attempt k) := by
  have hkey : key.name.isBuiltin = true := slots_builtin _ hslot
  refine h.change (attempt_chains rfl) (fun key' hne => ⟨fun rule' hin => ?_, id, id⟩)
    (.inl ⟨hkey, ?_⟩)
  · exact mem_filter.mpr ⟨hin, by simp [hne]⟩
  · rcases h.builtin key hkey with hsame | ⟨rule', rules, hin, hrules, hmem, hbase⟩
    · -- there is nothing to delete
      rw [attempt_delete_of_notMem fun rules hrules => hclean.slot_notMem hslot (hsame ▸ hrules)]
      exact .inl hsame
    · by_cases hrule : rule' = rule
      · subst hrule
        rw [attempt_delete_of_mem hrules hmem]
        exact .inl ((Kernel.setChain_self _ _ _).trans hbase.symm)
      · have hnot : rule ∉ rules := by
          intro hmem'
          have hne : rule ≠ rule' := fun h => hrule h.symm
          exact hclean.slot_notMem hslot hbase ((mem_erase_of_ne hne).mpr hmem')
        rw [attempt_delete_of_notMem fun rules' hrules' => by
          rw [hrules] at hrules'
          cases hrules'
          exact hnot]
        refine .inr ⟨rule', rules, mem_filter.mpr ⟨hin, ?_⟩, hrules, hmem, hbase⟩
        simp [hrule]

theorem chainsLeft_flush (h : ChainsLeft k₀ l k) (hkey : key.name.isBuiltin = false) :
    ChainsLeft k₀ (l.after (.flush key)) ((flush key).attempt k) := by
  refine h.change (attempt_chains rfl) (fun key' hne => ⟨fun _ => id, id, fun hin => ?_⟩)
    (.inr ⟨hkey, ?_⟩)
  · exact mem_filter.mpr ⟨hin, by simp [hne]⟩
  · unfold attempt effect
    dsimp only
    rcases h.own key hkey with hnone | ⟨hin, rules, hrules, -⟩
    · rw [hnone]
      exact .inl hnone
    · rw [hrules]
      exact .inr ⟨hin, [], Kernel.setChain_self _ _ _, nofun, .inl rfl⟩

/-- A chain that no slot in use jumps to is not referenced. -/
theorem isReferenced_eq_false (hclean : Clean k₀) (h : ChainsLeft k₀ l k)
    (hjumps : l.hooks.any (·.jumpsTo key) = false) : k.isReferenced key = false := by
  have hno (rule : ChainRule) (hjump : isJump rule = false) : ¬rule.target = .jump key.name := by
    intro htarget
    unfold isJump at hjump
    rw [htarget] at hjump
    cases hjump
  refine any_eq_false.mpr fun name _ => ?_
  unfold Kernel.jumps
  rw [Bool.not_eq_true, any_eq_false]
  intro rule hrule
  rw [decide_eq_true_eq]
  cases hname : name.isBuiltin with
  | true =>
    rcases h.builtin { key with name := name } hname with hsame | ⟨hook, rules, hin, hrules, -, hbase⟩
    · rw [hsame] at hrule
      cases hbase : k₀.chains { key with name := name } with
      | none => rw [hbase] at hrule; cases hrule
      | some rules =>
        rw [hbase] at hrule
        exact hno rule ((hclean.chains hbase).2 rule hrule)
    · rw [hrules] at hrule
      by_cases heq : rule = hook
      · intro htarget
        have hslot := any_eq_false.mp hjumps _ hin
        simp [Slot.jumpsTo, ← heq, htarget] at hslot
      · exact hno rule ((hclean.chains hbase).2 rule ((mem_erase_of_ne heq).mpr hrule))
  | false =>
    rcases h.own { key with name := name } hname with hnone | ⟨-, rules, hrules, hjump, -⟩
    · rw [hnone] at hrule
      cases hrule
    · rw [hrules] at hrule
      exact hno rule (hjump rule hrule)

theorem chainsLeft_deleteChain (hclean : Clean k₀) (h : ChainsLeft k₀ l k)
    (hkey : key.name.isBuiltin = false) :
    ChainsLeft k₀ (l.after (.deleteChain key)) ((deleteChain key).attempt k) := by
  -- the chain is gone, or as it was
  have hself : ((deleteChain key).attempt k).chains key = none ∨
      ((deleteChain key).attempt k).chains key = k.chains key ∧
        ¬(k.chains key = some [] ∧ k.isReferenced key = false) := by
    unfold attempt effect
    dsimp only
    split
    · exact .inl (Kernel.setChain_self _ _ _)
    · next hnot => exact .inr ⟨rfl, hnot⟩
  unfold Leftovers.after
  dsimp only
  split
  · refine h.change (attempt_chains rfl) (fun _ _ => ⟨fun _ => id, id, id⟩) (.inr ⟨hkey, ?_⟩)
    rcases hself with hgone | ⟨hsame, -⟩
    · exact .inl hgone
    · exact (h.own key hkey).mono hsame id id
  · next hfree =>
    rw [not_or, Bool.not_eq_true] at hfree
    refine h.change (attempt_chains rfl) (fun key' hne => ⟨fun _ => id, fun hin => ?_, id⟩)
      (.inr ⟨hkey, ?_⟩)
    · exact mem_filter.mpr ⟨hin, by simp [hne]⟩
    · rcases hself with hgone | ⟨hsame, hnot⟩
      · exact .inl hgone
      · rcases h.own key hkey with hnone | ⟨-, rules, hrules, -, hempty⟩
        · exact .inl (hsame.trans hnone)
        · refine absurd ⟨?_, isReferenced_eq_false hclean h hfree.2⟩ hnot
          rw [hrules, hempty.resolve_right hfree.1]

theorem chainsLeft_attempt (hclean : Clean k₀) (h : ChainsLeft k₀ l k)
    (hadmits : l.admits command = true) : ChainsLeft k₀ (l.after command) (command.attempt k) := by
  have hframe := command.attempt_agreesOutside k
  cases command with
  | delete key rule => exact chainsLeft_delete hclean h (of_decide_eq_true hadmits)
  | flush key => exact chainsLeft_flush h (Bool.not_eq_true' _ ▸ hadmits)
  | deleteChain key => exact chainsLeft_deleteChain hclean h (Bool.not_eq_true' _ ▸ hadmits)
  | ruleDel family rule | ruleDelPref pref | routeFlush family | kill helper
  | removePidFile helper | shell text =>
    exact h.mono (funext fun key => hframe.chains key nofun) (Subset.refl _)
      (Subset.refl _) (Subset.refl _)
  | _ => cases hadmits

theorem RulesLeft.congr (h : RulesLeft k₀ l k) (hk : k'.ipRules = k.ipRules)
    (hl : l'.rules = l.rules) : RulesLeft k₀ l' k' := by
  unfold RulesLeft
  rw [hk, hl]
  exact h

/-- Of rules with different priorities, the first of a priority is the only one. -/
theorem mem_eraseP_pref {rules : List IpRule} (hnodup : (rules.map IpRule.pref).Nodup) {pref : Nat}
    {rule : IpRule} (h : rule ∈ rules.eraseP (·.pref == pref)) : rule.pref ≠ pref := by
  induction rules with
  | nil => cases h
  | cons first rules ih =>
    rw [map_cons, nodup_cons] at hnodup
    rw [eraseP_cons] at h
    cases hfirst : first.pref == pref with
    | true =>
      rw [hfirst] at h
      intro heq
      refine hnodup.1 (mem_map.mpr ⟨rule, h, ?_⟩)
      rw [heq, beq_iff_eq.mp hfirst]
    | false =>
      rw [hfirst] at h
      rcases mem_cons.mp h with rfl | hin
      · exact beq_eq_false_iff_ne.mp hfirst
      · exact ih hnodup.2 hin

theorem rulesLeft_ruleDel (hclean : Clean k₀) (h : RulesLeft k₀ l k) (family : Family) :
    RulesLeft k₀ (l.after (.ruleDel family markRule)) ((ruleDel family markRule).attempt k) := by
  intro f
  obtain ⟨added, hadded, hnodup, hsub⟩ := h f
  unfold attempt effect Leftovers.after
  dsimp only
  by_cases hf : f = family
  · subst hf
    rw [if_pos rfl]
    split
    · refine ⟨added.erase markRule, ?_, ?_, fun rule hin => ?_⟩
      · change (if f = f then (k.ipRules f).erase markRule else k.ipRules f) = _
        rw [if_pos rfl, hadded, erase_append_right _ (hclean.mark f)]
      · exact hnodup.sublist (erase_sublist.map _)
      · have hmem := hnodup.of_map.mem_erase_iff.mp hin
        exact mem_filter.mpr ⟨hsub hmem.2, by simp [hmem.1]⟩
    · next hnot =>
      refine ⟨added, hadded, hnodup, fun rule hin => mem_filter.mpr ⟨hsub hin, ?_⟩⟩
      refine decide_eq_true ?_
      rintro rfl
      exact hnot (hadded ▸ mem_append_right _ hin)
  · rw [if_neg hf]
    refine ⟨added, ?_, hnodup, hsub⟩
    split
    · exact (if_neg hf).trans hadded
    · exact hadded

theorem rulesLeft_ruleDelPref (hclean : Clean k₀) (h : RulesLeft k₀ l k) (hpref : pref ∈ lanPrefs) :
    RulesLeft k₀ (l.after (.ruleDelPref pref)) ((ruleDelPref pref).attempt k) := by
  intro f
  obtain ⟨added, hadded, hnodup, hsub⟩ := h f
  unfold attempt effect Leftovers.after
  dsimp only
  cases f with
  | v4 =>
    split
    · refine ⟨added.eraseP (·.pref == pref), ?_, ?_, fun rule hin => ?_⟩
      · change (k.ipRules .v4).eraseP (·.pref == pref) = _
        rw [hadded, eraseP_append_right _ fun rule hin => ?_]
        intro heq
        exact hclean.prefs rule hin (beq_iff_eq.mp heq ▸ hpref)
      · exact hnodup.sublist (eraseP_sublist.map _)
      · have hne := mem_eraseP_pref hnodup hin
        exact mem_filter.mpr ⟨hsub (mem_of_mem_eraseP hin), by simp [hne]⟩
    · next hnot =>
      refine ⟨added, hadded, hnodup, fun rule hin => mem_filter.mpr ⟨hsub hin, ?_⟩⟩
      refine decide_eq_true fun heq => hnot ?_
      exact any_eq_true.mpr ⟨rule, hadded ▸ mem_append_right _ hin, by simp [heq]⟩
  | v6 =>
    refine ⟨added, ?_, hnodup, hsub⟩
    split <;> exact hadded

theorem rulesLeft_attempt (hclean : Clean k₀) (h : RulesLeft k₀ l k)
    (hadmits : l.admits command = true) : RulesLeft k₀ (l.after command) (command.attempt k) := by
  have hframe := command.attempt_agreesOutside k
  cases command with
  | ruleDel family rule =>
    cases of_decide_eq_true hadmits
    exact rulesLeft_ruleDel hclean h family
  | ruleDelPref pref => exact rulesLeft_ruleDelPref hclean h (of_decide_eq_true hadmits)
  | deleteChain key =>
    refine h.congr (hframe.ipRules nofun) ?_
    unfold Leftovers.after
    dsimp only
    split <;> rfl
  | delete key rule | flush key | routeFlush family | kill helper | removePidFile helper
  | shell text => exact h.congr (hframe.ipRules nofun) rfl
  | _ => cases hadmits

theorem routesLeft_attempt (h : RoutesLeft l k) (hadmits : l.admits command = true) :
    RoutesLeft (l.after command) (command.attempt k) := by
  have hframe := command.attempt_agreesOutside k
  cases command with
  | routeFlush family =>
    intro f
    by_cases hf : f = family
    · exact .inl (if_pos hf)
    · have hsame : ((routeFlush family).attempt k).routes f = k.routes f := if_neg hf
      rw [hsame]
      exact (h f).imp_right fun hin => mem_filter.mpr ⟨hin, by simp [hf]⟩
  | deleteChain key =>
    have hroutes : (l.after (.deleteChain key)).routes = l.routes := by
      unfold Leftovers.after
      dsimp only
      split <;> rfl
    unfold RoutesLeft
    rw [hframe.routes nofun, hroutes]
    exact h
  | delete key rule | flush key | ruleDel family rule | ruleDelPref pref | kill helper
  | removePidFile helper | shell text =>
    unfold RoutesLeft
    rw [hframe.routes nofun]
    exact h
  | _ => cases hadmits

theorem HelpersLeft.congr (h : HelpersLeft l k)
    (hk : k'.processes = k.processes ∧ k'.pidFiles = k.pidFiles)
    (hl : l'.helpers = l.helpers ∧ l'.pidFiles = l.pidFiles) : HelpersLeft l' k' := by
  refine ⟨?_, ?_⟩
  · rw [hk.1, hk.2, hl.1]
    exact h.running
  · rw [hk.2, hl.2]
    exact h.pidFile

/-- Killing the process of the pid file leaves none of that helper. -/
theorem helpersLeft_kill (h : HelpersLeft l k) (helper : Helper) :
    HelpersLeft (l.after (.kill helper)) ((kill helper).attempt k) := by
  unfold attempt effect
  dsimp only
  cases hpid : k.pidFiles helper with
  | none =>
    refine ⟨fun process hin => ?_, h.pidFile⟩
    obtain ⟨hhelper, hfile⟩ := h.running process hin
    have hne : process.2 ≠ helper := by
      intro heq
      rw [heq, hpid] at hfile
      cases hfile
    exact ⟨mem_filter.mpr ⟨hhelper, by simp [hne]⟩, hfile⟩
  | some pid =>
    refine ⟨fun process hin => ?_, h.pidFile⟩
    obtain ⟨hin, hother⟩ := mem_filter.mp hin
    obtain ⟨hhelper, hfile⟩ := h.running process hin
    have hne : process.2 ≠ helper := by
      intro heq
      rw [heq, hpid] at hfile
      exact of_decide_eq_true hother (Option.some.inj hfile).symm
    exact ⟨mem_filter.mpr ⟨hhelper, by simp [hne]⟩, hfile⟩

theorem helpersLeft_removePidFile (h : HelpersLeft l k) (hgone : helper ∉ l.helpers) :
    HelpersLeft (l.after (.removePidFile helper)) ((removePidFile helper).attempt k) := by
  refine ⟨fun process hin => ?_, fun helper' => ?_⟩
  · obtain ⟨hhelper, hfile⟩ := h.running process hin
    have hne : process.2 ≠ helper := fun heq => hgone (heq ▸ hhelper)
    exact ⟨hhelper, (if_neg hne).trans hfile⟩
  · by_cases heq : helper' = helper
    · exact .inl (if_pos heq)
    · have hsame : ((removePidFile helper).attempt k).pidFiles helper' =
          k.pidFiles helper' := if_neg heq
      rw [hsame]
      exact (h.pidFile helper').imp_right fun hin => mem_filter.mpr ⟨hin, by simp [heq]⟩

theorem helpersLeft_attempt (h : HelpersLeft l k) (hadmits : l.admits command = true) :
    HelpersLeft (l.after command) (command.attempt k) := by
  have hframe := command.attempt_agreesOutside k
  cases command with
  | kill helper => exact helpersLeft_kill h helper
  | removePidFile helper => exact helpersLeft_removePidFile h (of_decide_eq_true hadmits)
  | deleteChain key =>
    refine h.congr (hframe.helpers nofun) ?_
    unfold Leftovers.after
    dsimp only
    split <;> exact ⟨rfl, rfl⟩
  | delete key rule | flush key | ruleDel family rule | ruleDelPref pref | routeFlush family
  | shell text => exact h.congr (hframe.helpers nofun) ⟨rfl, rfl⟩
  | _ => cases hadmits

/-! ## A whole teardown -/

theorem left_foldl (hclean : Clean k₀) {lines : List Line} (h : Left k₀ l k)
    (hadmits : l.admitsLines lines = true) :
    Left k₀ (lines.foldl (fun l line => l.after line.command) l)
      (lines.foldl (fun k line => line.command.attempt k) k) := by
  induction lines generalizing l k with
  | nil => exact h
  | cons line lines ih =>
    unfold Leftovers.admitsLines at hadmits
    rw [Bool.and_eq_true] at hadmits
    obtain ⟨hline, hrest⟩ := hadmits
    exact ih ⟨chainsLeft_attempt hclean h.chains hline, rulesLeft_attempt hclean h.rules hline,
      routesLeft_attempt h.routes hline, helpersLeft_attempt h.helpers hline⟩ hrest

/-- A kernel on which nothing is left is the clean one. -/
theorem eq_of_left (hclean : Clean k₀) (h : Left k₀ l k)
    (hempty : l.hooks = [] ∧ l.chains = [] ∧ (∀ family, l.rules family = []) ∧ l.routes = [] ∧
      l.helpers = [] ∧ l.pidFiles = []) : k = k₀ := by
  obtain ⟨hhooks, hchains, hrules, hroutes, hhelpers, hpidFiles⟩ := hempty
  have h₁ : k.chains = k₀.chains := by
    funext key
    cases hkey : key.name.isBuiltin with
    | true =>
      rcases h.chains.builtin key hkey with hsame | ⟨_, _, hin, -⟩
      · exact hsame
      · rw [hhooks] at hin
        cases hin
    | false =>
      rcases h.chains.own key hkey with hnone | ⟨hin, -⟩
      · cases hbase : k₀.chains key with
        | none => exact hnone
        | some rules =>
          rw [(hclean.chains hbase).1] at hkey
          cases hkey
      · rw [hchains] at hin
        cases hin
  have h₂ : k.ipRules = k₀.ipRules := by
    funext family
    obtain ⟨added, hadded, -, hsub⟩ := h.rules family
    rw [hrules family] at hsub
    rw [hadded, eq_nil_of_subset_nil hsub, append_nil]
  have h₃ : k.routes = k₀.routes := by
    funext family
    rw [hclean.routes family]
    refine (h.routes family).resolve_right fun hin => ?_
    rw [hroutes] at hin
    cases hin
  have h₄ : k.processes = k₀.processes := by
    rw [hclean.processes]
    refine eq_nil_iff_forall_not_mem.mpr fun process hin => ?_
    have hrunning := (h.helpers.running process hin).1
    rw [hhelpers] at hrunning
    cases hrunning
  have h₅ : k.pidFiles = k₀.pidFiles := by
    funext helper
    rw [hclean.pidFiles helper]
    refine (h.helpers.pidFile helper).resolve_right fun hin => ?_
    rw [hpidFiles] at hin
    cases hin
  cases k
  cases k₀
  cases h₁
  cases h₂
  cases h₃
  cases h₄
  cases h₅
  rfl

/-- A teardown removes everything a setup may have installed. -/
theorem teardown_of_left (hclean : Clean k₀) (h : Left k₀ .all k) (ctx : RootContext) :
    teardown ctx k = k₀ := by
  rw [teardown_eq_foldl]
  have hadmits : Leftovers.all.admitsLines (buildTeardown ctx) = true := rfl
  refine eq_of_left hclean (left_foldl hclean h hadmits) ⟨rfl, rfl, fun family => ?_, rfl, rfl, rfl⟩
  cases family <;> rfl

end
end RootProxyManager
end ZeroVpn
