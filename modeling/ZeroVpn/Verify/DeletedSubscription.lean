import ZeroVpn.Verify.LostUpdate
import ZeroVpn.Handler.ImportSpec

/-!
# Deleting a subscription during its update

`updateConfigViaSub` works on the item it was called with; the request it makes comes before its
first access to the store. At its end it stores that item again, and `encodeSubscription` puts an
ID that is not listed back into the list. A removal that runs at the same time therefore lasts only
if the item has been written before the removal starts and the update is over before the removal
writes the list of IDs, or if the update has nothing to store.
-/

namespace ZeroVpn
open MmkvManager AngConfigManager Prog Store

/-- Nothing of a subscription is left. -/
structure Store.Forgotten (s : Store) (guid : String) : Prop where
  unlisted : guid ∉ s.subsList
  noEntry : s.sub.get guid = none
  noServers : s.serverList guid = []

/-! ## The removal -/

theorem Store.notMem_subsList_setSubsList (s t : Store) (guid : String) :
    guid ∉ (t.setSubsList (s.subsList.erase guid)).subsList := by
  have hnodup : s.subsList.Nodup := nodup_eraseDups _
  intro hin
  exact hnodup.not_mem_erase (List.mem_eraseDups.mp hin)

theorem get_remove_self {α : Type} (m : KV String α) (guid : String) :
    (m.remove guid).get guid = none := by
  rw [KV.get_remove, if_pos rfl]

theorem Store.forgotten_dropGroup {s : Store} {guid : String} (hlist : guid ∉ s.subsList)
    (hentry : s.sub.get guid = none) : (s.dropGroup (getSubscriptionId guid)).Forgotten guid := by
  refine ⟨hlist, hentry, ?_⟩
  rw [serverList, listed_dropGroup, if_pos rfl]

theorem removeServerViaSubid_keeps_sub (id : Option String) :
    (removeServerViaSubid id).Keeps sub := by
  refine (keeps_read _).bind fun serverList => (keeps_forM (fun guid => ?_) _).bind fun _ =>
    keeps_withLock fun s => rfl
  exact removeListed_keeps (fun _ => rfl) (fun _ _ => rfl) (fun _ _ => rfl) guid

/-- Undisturbed, the removal leaves nothing. -/
theorem forgotten_removeSubscription (guid : String) (s : Store) :
    ((removeSubscription guid).exec s).Forgotten guid := by
  have hrun : (removeSubscription guid).exec s =
      (({ s with sub := s.sub.remove guid } : Store).setSubsList
        (s.subsList.erase guid)).dropGroup (getSubscriptionId guid) := by
    unfold removeSubscription exec
    dsimp only [decodeSubsList, encodeSubsList]
    rw [run_write_bind, run_read_bind, run_write_bind, run_removeServerViaSubid]
    rfl
  rw [hrun]
  refine forgotten_dropGroup (s.notMem_subsList_setSubsList _ guid) ?_
  exact get_remove_self _ _

/-- A removal beside a program that leaves the subscription entries alone, and that is over when
the removal has written the list of IDs. -/
theorem forgotten_of_keeps_sub {α : Type} {guid : String} {p : StoreM α} {s : Store}
    (hkeep : p.Keeps sub) {schedule : List Side} {c : Pair Store StoreException α Unit}
    (hexec : Pair.exec ⟨p, removeSubscription guid, s⟩ schedule = some c) (hdone : c.isDone = true)
    (hlate : Side.left ∉ Pair.afterRight 3 schedule) : c.state.Forgotten guid := by
  obtain ⟨-, hdone⟩ := Bool.and_eq_true_iff.mp hdone
  -- the entry goes
  obtain ⟨p₁, s₁, q₁, t₁, rest₁, hp₁, -, hq₁, hexec₁, hafter₁⟩ :=
    Pair.exec_next_right hkeep hexec hdone rfl
  cases hq₁
  have hentry₁ : (s₁.sub.remove guid).get guid = none := get_remove_self _ _
  -- the list is read
  obtain ⟨p₂, s₂, q₂, t₂, rest₂, hp₂, hv₂, hq₂, hexec₂, hafter₂⟩ :=
    Pair.exec_next_right hp₁ hexec₁ hdone rfl
  cases hq₂
  -- the list is written
  obtain ⟨p₃, s₃, q₃, t₃, rest₃, hp₃, hv₃, hq₃, hexec₃, hafter₃⟩ :=
    Pair.exec_next_right hp₂ hexec₂ hdone rfl
  cases hq₃
  rw [hafter₁, hafter₂, hafter₃, Pair.afterRight_zero] at hlate
  have hstate : c.state =
      (removeServerViaSubid (some guid)).exec (s₃.setSubsList (s₂.subsList.erase guid)) :=
    Pair.exec_right hlate hexec₃ hdone
  rw [hstate, exec, run_removeServerViaSubid]
  refine forgotten_dropGroup (s₂.notMem_subsList_setSubsList s₃ guid) ?_
  change s₃.sub.get guid = none
  rw [hv₃.trans hv₂]
  exact hentry₁

/-! ## The update -/

section
variable (env : ImportEnv)

/-- The answer an update works on, if it gets one. -/
def fetched (guid : String) (item : SubscriptionItem) : Option HttpTextResult :=
  match subscriptionUrl env guid item with
  | .error _ => none
  | .ok url => fetchSubscription env url item

/-- With the subscription's filter or, once its entry is gone, without a filter, the answer has no
profile for the group, and no quota. -/
def StoresNothing (guid : String) (item : SubscriptionItem) (s : Store) : Prop :=
  ∀ text, fetched env guid item = some text →
    (∀ subItem, subItem = s.subscription guid ∨ subItem = none →
      importedProfiles env (some text.content) guid subItem = []) ∧
    (applySubscriptionUserInfo env item text.headers).total ≤ 0

/-- The number of the step in which an undisturbed update stores the item. -/
def writeBackStep (uuids : Nat → String) (guid : String) (text : HttpTextResult) (s : Store) : Nat :=
  (parseConfigViaSub env uuids (some text.content) guid false).stepCount s + 1

/-- The item is stored before the removal's first step, and the update is over before the removal
has written the list of IDs. -/
def EndsBeforeRemoval (uuids : Nat → String) (guid : String) (item : SubscriptionItem) (s : Store)
    (schedule : List Side) : Prop :=
  ∃ text, fetched env guid item = some text ∧
    writeBackStep env uuids guid text s ≤ Pair.leftSteps schedule ∧
      Side.left ∉ Pair.afterRight 3 schedule

variable {env} {uuids : Nat → String} {uuid guid : String} {item : SubscriptionItem} {s : Store}

theorem updateConfigViaSub_of_fetched {text : HttpTextResult}
    (h : fetched env guid item = some text) :
    updateConfigViaSub env uuids uuid guid item =
      (parseConfigViaSub env uuids (some text.content) guid false >>=
        storeUpdated env uuid guid (applySubscriptionUserInfo env item text.headers)).tryCatch
          fun _ => pure { failureCount := 1 } := by
  unfold fetched at h
  unfold updateConfigViaSub
  cases hurl : subscriptionUrl env guid item with
  | error result =>
    rw [hurl] at h
    cases h
  | ok url =>
    rw [hurl] at h
    dsimp only at h ⊢
    rw [h]

theorem updateConfigViaSub_of_not_fetched (h : fetched env guid item = none) :
    ∃ result, updateConfigViaSub env uuids uuid guid item = pure result := by
  unfold fetched at h
  unfold updateConfigViaSub
  cases hurl : subscriptionUrl env guid item with
  | error result => exact ⟨result, rfl⟩
  | ok url =>
    rw [hurl] at h
    dsimp only at h ⊢
    rw [h]
    exact ⟨_, rfl⟩

/-! ### An update with nothing to store -/

/-- The subscription's entry reads as `subItem`, or not at all. -/
def ReadsOrGone (guid : String) (subItem : Option SubscriptionItem) (s : Store) : Prop :=
  s.subscription guid = subItem ∨ s.subscription guid = none

variable {text : String} {subItem : Option SubscriptionItem}

theorem parseBatchConfig_quiet
    (h : ∀ item, item = subItem ∨ item = none → linkProfiles env text guid item = []) :
    (parseBatchConfig env uuids (some text) guid false).Within (ReadsOrGone guid subItem)
      (fun s s' => s' = s) (· = 0) := by
  refine within_read_bind fun s hs => ⟨rfl, ?_⟩
  have hnil := h (s.subscription guid) hs
  unfold linkProfiles at hnil
  cases hp : parseLines env text guid (s.subscription guid) with
  | error e => rfl
  | ok configs =>
    rw [hp] at hnil
    rw [List.map_eq_nil_iff.mp hnil]
    rfl

theorem importedProfiles_eq_nil :
    importedProfiles env (some text) guid subItem = [] ↔
      linkProfiles env (env.decode (some text)) guid subItem = [] ∧
        linkProfiles env text guid subItem = [] ∧ customProfiles env text guid = [] := by
  unfold importedProfiles
  cases linkProfiles env (env.decode (some text)) guid subItem with
  | cons => simp
  | nil =>
    dsimp only
    cases linkProfiles env text guid subItem <;> simp

theorem parseConfigViaSub_quiet
    (h : ∀ item, item = subItem ∨ item = none → importedProfiles env (some text) guid item = []) :
    (parseConfigViaSub env uuids (some text) guid false).Within (ReadsOrGone guid subItem)
      (fun s s' => s' = s) (· = 0) := by
  refine (parseBatchConfig_quiet fun item hi => (importedProfiles_eq_nil.mp (h item hi)).1).bind ?_
  rintro _ rfl
  refine (parseBatchConfig_quiet fun item hi => (importedProfiles_eq_nil.mp (h item hi)).2.1).bind ?_
  rintro _ rfl
  change Prog.Within _ _ (commitParsed env uuids (customProfiles env text guid) guid false) _
  rw [(importedProfiles_eq_nil.mp (h none (.inr rfl))).2.2]
  rfl

theorem updateConfigViaSub_quiet (h : StoresNothing env guid item s) :
    (updateConfigViaSub env uuids uuid guid item).Within (ReadsOrGone guid (s.subscription guid))
      (fun s s' => s' = s) fun _ => True := by
  cases hf : fetched env guid item with
  | none =>
    obtain ⟨result, hr⟩ := updateConfigViaSub_of_not_fetched hf
    rw [hr]
    trivial
  | some text =>
    obtain ⟨hnil, htotal⟩ := h text hf
    rw [updateConfigViaSub_of_fetched hf]
    refine ((parseConfigViaSub_quiet hnil).bind ?_).tryCatch fun _ => trivial
    rintro _ rfl
    unfold storeUpdated
    rw [if_neg (Nat.lt_irrefl 0), if_neg (by omega)]
    trivial

/-- The removal takes the entry away and does not put it back. -/
theorem removeSubscription_within (subItem : Option SubscriptionItem) :
    (removeSubscription guid).Within (ReadsOrGone guid subItem)
      (fun _ s' => ReadsOrGone guid subItem s') fun _ => True := by
  refine fun s _ => ⟨.inr ?_, ?_⟩
  · change ((s.sub.remove guid).get guid).bind Stored.decode = none
    rw [get_remove_self]
    rfl
  · have hkeep : (do
        let subsList ← decodeSubsList
        encodeSubsList (subsList.erase guid)
        removeServerViaSubid guid : StoreM Unit).Keeps sub :=
      (keeps_read _).bind fun subsList => (keeps_write fun _ => rfl).bind fun _ =>
        removeServerViaSubid_keeps_sub guid
    refine hkeep.within fun s s' hv hs => ?_
    have hread : s'.subscription guid = s.subscription guid := by
      unfold subscription
      rw [hv]
    unfold ReadsOrGone at hs ⊢
    rw [hread]
    exact hs

/-! ### An update that stores the item in time -/

/-- `encodeSubscription` after the write of the item. -/
def relist (key : String) : StoreM Unit := do
  let subsList ← decodeSubsList
  if key ∈ subsList then pure () else encodeSubsList (subsList ++ [key])

theorem relist_keeps_sub (key : String) : (relist key).Keeps sub := by
  refine (keeps_read _).bind fun subsList => ?_
  split
  · exact keeps_pure _
  · exact keeps_write fun _ => rfl

/-- What is left after the item has been stored does not touch the subscription entries. -/
theorem storeUpdated_late {h : StoreException → StoreM SubscriptionUpdateResult}
    (hh : ∀ e, (h e).Keeps sub) {count n : Nat} {p : StoreM SubscriptionUpdateResult}
    {s' : Store} (hstep : ((storeUpdated env uuid guid item count).tryCatch h).stepN (1 + n) s =
      some (p, s')) : p.Keeps sub := by
  have hpublish (key : String) (result : SubscriptionUpdateResult) :
      ((relist key >>= fun _ => pure result).tryCatch h).Keeps sub :=
    ((relist_keeps_sub key).bind fun _ => keeps_pure _).tryCatch hh
  rw [Nat.add_comm] at hstep
  unfold storeUpdated at hstep
  split at hstep
  · exact ((hpublish (if Text.isBlank guid then uuid else guid) _).stepN hstep).1
  · split at hstep
    · exact ((hpublish (if Text.isBlank guid then uuid else guid) _).stepN hstep).1
    · cases hstep

end

/-- In every complete interleaving of an update of a subscription with its removal, nothing of the
subscription is left if the update has nothing to store, or if it stores the item before the
removal starts and is over before the removal has written the list of IDs. -/
theorem deleted_subscription_stays_deleted (env : ImportEnv) (uuids : Nat → String)
    (uuid guid : String) (item : SubscriptionItem) (s : Store) (schedule : List Side)
    {c : Pair Store StoreException SubscriptionUpdateResult Unit}
    (hexec : Pair.exec ⟨updateConfigViaSub env uuids uuid guid item, removeSubscription guid, s⟩
      schedule = some c) (hdone : c.isDone = true)
    (h : StoresNothing env guid item s ∨ EndsBeforeRemoval env uuids guid item s schedule) :
    c.state.Forgotten guid := by
  rcases h with hnothing | ⟨text, hf, hn, hlate⟩
  · have hright := (Bool.and_eq_true_iff.mp hdone).2
    rw [Pair.exec_quiet (updateConfigViaSub_quiet hnothing)
      (removeSubscription_within (s.subscription guid)) (.inl rfl) hexec hright]
    exact forgotten_removeSubscription guid s
  · obtain ⟨p, t, rest, hsteps, hrest, -, hafter⟩ := Pair.exec_leftSteps hexec
    obtain ⟨n, hn⟩ := Nat.exists_eq_add_of_le hn
    rw [hn, writeBackStep, Nat.add_assoc, updateConfigViaSub_of_fetched hf,
      Prog.stepN_tryCatch_add ((run_parseConfigViaSub _ _).trans (run_commitParsed _ _))] at hsteps
    rw [hafter] at hlate
    exact forgotten_of_keeps_sub (storeUpdated_late (fun _ => Prog.keeps_pure _) hsteps) hrest
      hdone hlate

/-- The answer of a subscription with one VLESS link. -/
def oneLink : HttpTextResult := { content := homeLink }

/-- The subscription `https://a.example` can be fetched, without the proxy. -/
def oneLinkEnv : ImportEnv := { offlineEnv with
  isValidUrl := fun url => url = "https://a.example"
  isValidSubUrl := fun url => url = "https://a.example"
  toIdnUrl := .ok
  fetchDirect := fun _ _ => some oneLink }

def oneSubscription : SubscriptionItem := { remarks := "s", url := "https://a.example" }

/-- The store with that subscription only. -/
def subscribedStore : Store where
  subIds := some (.json ["s"])
  sub := KV.set ∅ "s" (.json oneSubscription)

/-- The removal comes after the update. -/
theorem removal_after_update_stays_deleted :
    ∃ c, Pair.exec ⟨updateConfigViaSub oneLinkEnv (someUuids.updates 0) "v" "s" oneSubscription,
        removeSubscription "s", subscribedStore⟩
        (List.replicate 5 .left ++ List.replicate 9 .right) = some c ∧ c.state.Forgotten "s" := by
  obtain ⟨c, hc⟩ : ∃ c, Pair.exec
      ⟨updateConfigViaSub oneLinkEnv (someUuids.updates 0) "v" "s" oneSubscription,
        removeSubscription "s", subscribedStore⟩
        (List.replicate 5 .left ++ List.replicate 9 .right) = some c := ⟨_, rfl⟩
  have hdone : c.isDone = true := by
    cases hc
    rfl
  refine ⟨c, hc, deleted_subscription_stays_deleted _ _ _ _ _ _ _ hc hdone (.inr ?_)⟩
  exact ⟨oneLink, rfl, by decide, by decide⟩

/-- The removal runs while the update waits for the answer. Both finish, and the subscription is
back in the list of IDs, with its entry and a server. -/
theorem removal_during_fetch_is_undone :
    (Pair.exec ⟨updateConfigViaSub oneLinkEnv (someUuids.updates 0) "v" "s" oneSubscription,
        removeSubscription "s", subscribedStore⟩
        (List.replicate 5 .right ++ List.replicate 6 .left)).map
      (fun c => (c.isDone, decide ("s" ∈ c.state.subsList), (c.state.sub.get "s").isSome,
        c.state.serverList "s")) = some (true, true, true, ["u"]) := by
  decide

end ZeroVpn
