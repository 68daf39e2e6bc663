import ZeroVpn.Verify.Replacement
import ZeroVpn.Std.Interleave

/-!
# Index updates that run at the same time

The removals and the ranking read the index of a group, compute, and write it back, with a lock
around the write only. `encodeServerConfig` and `saveServerProfiles` do everything in one locked
section. A guid published by such a section stays in the index if the section does not run between
the read and the write-back of the other call; a schedule that puts it there loses the guid.
-/

namespace ZeroVpn
open MmkvManager Prog Store

section keeps
variable {γ : Type} {v : Store → γ}

theorem clearSelectedServer_keeps (hclear : ∀ s, v (clearSelected s) = v s)
    (selected : Option String) (guid : String) : (clearSelectedServer selected guid).Keeps v := by
  unfold clearSelectedServer
  split
  · exact keeps_write hclear
  · exact keeps_pure _

theorem removeListed_keeps (hclear : ∀ s, v (clearSelected s) = v s)
    (hprofile : ∀ s guid, v (removeProfile s guid) = v s)
    (haff : ∀ s guid, v (removeAff s guid) = v s) (guid : String) :
    (removeListed guid).Keeps v := by
  refine (keeps_read _).bind fun selected =>
    (clearSelectedServer_keeps hclear _ _).bind fun _ => ?_
  exact (keeps_write fun s => hprofile s guid).bind fun _ =>
    keeps_write fun s => haff s guid

end keeps

/-- A call that reads an index and writes it back. -/
inductive IndexRewrite where
  | removeServer (guid : String)
  | removeServers (guids : List String) (subscriptionId : String)
  | removeServerViaSubid (subscriptionId : Option String)
  | sortByTestResultsForSub (subId : String)

namespace IndexRewrite

def program : IndexRewrite → StoreM Unit
  | removeServer guid => MmkvManager.removeServer guid
  | removeServers guids id => MmkvManager.removeServers guids id
  | removeServerViaSubid id => MmkvManager.removeServerViaSubid id
  | sortByTestResultsForSub id => AngConfigManager.sortByTestResultsForSub id

/-- What the call does before it reads the index. -/
def lookup : IndexRewrite → StoreM (Option ProfileItem)
  | removeServer guid => if Text.isBlank guid then pure none else decodeServerConfig guid
  | _ => pure none

/-- The call from the read of the index to its write-back. -/
def rewrite : IndexRewrite → Option ProfileItem → StoreM Unit
  | removeServer guid, config =>
    if Text.isBlank guid then pure () else do
      let subId := getSubscriptionId (config.map (·.subscriptionId))
      let serverList ← decodeServerList subId
      encodeServerList (serverList.erase guid) subId
  | removeServers guids id, _ =>
    if guids = [] then pure () else do
      let subId := getSubscriptionId id
      let serverList ← decodeServerList subId
      unlistServers serverList guids subId
  | removeServerViaSubid id, _ => MmkvManager.removeServerViaSubid id
  | sortByTestResultsForSub id, _ => AngConfigManager.sortByTestResultsForSub id

/-- What the call does after the write-back. -/
def cleanup : IndexRewrite → StoreM Unit
  | removeServer guid => if Text.isBlank guid then pure () else removeListed guid
  | removeServers guids _ =>
    if guids = [] then pure () else do
      let selectedServer ← getSelectServer
      guids.forM (removePayloads selectedServer)
  | _ => pure ()

variable (r : IndexRewrite)

theorem program_eq : r.program = (r.lookup >>= r.rewrite) >>= fun _ => r.cleanup := by
  cases r with
  | removeServer guid =>
    rw [program, lookup, cleanup, MmkvManager.removeServer]
    by_cases hb : Text.isBlank guid = true
    · have hrewrite : (removeServer guid).rewrite = fun _ => pure () := by
        funext config
        rw [rewrite, if_pos hb]
      rw [if_pos hb, if_pos hb, if_pos hb, hrewrite]
      rfl
    · have hrewrite : (removeServer guid).rewrite = fun config =>
          decodeServerList (getSubscriptionId (config.map (·.subscriptionId))) >>= fun serverList =>
            encodeServerList (serverList.erase guid)
              (getSubscriptionId (config.map (·.subscriptionId))) := by
        funext config
        rw [rewrite, if_neg hb]
      rw [if_neg hb, if_neg hb, if_neg hb, hrewrite]
      rfl
  | removeServers guids id =>
    simp only [program, lookup, cleanup, MmkvManager.removeServers]
    by_cases hnil : guids = []
    · have hrewrite : (removeServers guids id).rewrite = fun _ => pure () := by
        funext config
        rw [rewrite, if_pos hnil]
      rw [if_pos hnil, if_pos hnil, hrewrite]
      rfl
    · have hrewrite : (removeServers guids id).rewrite = fun _ =>
          decodeServerList (getSubscriptionId id) >>= fun serverList =>
            unlistServers serverList guids (getSubscriptionId id) := by
        funext config
        rw [rewrite, if_neg hnil]
      rw [if_neg hnil, if_neg hnil, hrewrite]
      rfl
  | removeServerViaSubid id => exact (bind_pure _).symm
  | sortByTestResultsForSub id => exact (bind_pure _).symm

/-- The servers the call is asked to remove; `seen` is the store in which it reads the index. -/
def Asked (seen : Store) : IndexRewrite → String → Prop
  | removeServer g, guid => guid = g
  | removeServers guids _, guid => guid ∈ guids
  | removeServerViaSubid id, guid => guid ∈ seen.listed (getSubscriptionId id)
  | sortByTestResultsForSub _, _ => False

/-- After `n` steps the call has not read the index yet, or has written it back. -/
def Outside (r : IndexRewrite) (s : Store) (n : Nat) : Prop :=
  n ≤ r.lookup.stepCount s ∨ (r.lookup >>= r.rewrite).stepCount s ≤ n

theorem lookup_keeps : r.lookup.Keeps (fun s : Store => s) := by
  cases r with
  | removeServer guid =>
    rw [lookup]
    split
    · exact keeps_pure _
    · exact keeps_read _
  | _ => exact keeps_pure _

theorem run_lookup (s : Store) : ∃ config, r.lookup.run s = (.ok config, s) := by
  cases r with
  | removeServer guid =>
    rw [lookup]
    split
    · exact ⟨_, rfl⟩
    · exact ⟨_, rfl⟩
  | _ => exact ⟨_, rfl⟩

/-- The clean-up does not touch the indexes. -/
theorem cleanup_keeps : r.cleanup.Keeps listed := by
  cases r with
  | removeServer guid =>
    rw [cleanup]
    split
    · exact keeps_pure _
    · exact removeListed_keeps (fun _ => rfl) (fun _ _ => rfl) (fun _ _ => rfl) guid
  | removeServers guids id =>
    rw [cleanup]
    split
    · exact keeps_pure _
    · refine (keeps_read _).bind fun selected => keeps_forM (fun guid => ?_) guids
      refine (clearSelectedServer_keeps (fun _ => rfl) _ _).bind fun _ => ?_
      exact (keeps_write (f := fun s : Store => s.removeProfile guid) fun _ => rfl).bind fun _ =>
        (keeps_write (f := fun s : Store => s.removeAff guid) fun _ => rfl).bind fun _ =>
          keeps_write fun _ => rfl
  | _ => exact keeps_pure _

/-- Undisturbed, the rewriting takes only what it is asked to remove out of an index. -/
theorem run_rewrite (config : Option ProfileItem) (s : Store) :
    ∃ s', (r.rewrite config).run s = (.ok (), s') ∧
      ∀ group guid, guid ∈ s.listed group → ¬r.Asked s guid → guid ∈ s'.listed group := by
  cases r with
  | removeServer g =>
    rw [rewrite]
    split
    · exact ⟨s, rfl, fun _ _ h _ => h⟩
    · dsimp only [decodeServerList]
      rw [run_read_bind, run_encodeServerList]
      refine ⟨_, rfl, fun group guid hin hne => ?_⟩
      rw [listed_setServerList]
      split
      · next hg =>
        rw [hg] at hin
        exact (List.mem_erase_of_ne hne).mpr hin
      · exact hin
  | removeServers guids id =>
    rw [rewrite]
    split
    · exact ⟨s, rfl, fun _ _ h _ => h⟩
    · dsimp only [decodeServerList, Store.serverList]
      rw [run_read_bind, getSubscriptionId_idem, run_unlistServers]
      refine ⟨_, rfl, fun group guid hin (hnot : guid ∉ guids) => ?_⟩
      rw [listed_unlist]
      split
      · exact List.mem_filter.mpr ⟨hin, decide_eq_true hnot⟩
      · exact hin
  | removeServerViaSubid id =>
    refine ⟨_, run_removeServerViaSubid id s, fun group guid hin hnot => ?_⟩
    rw [listed_dropGroup]
    split
    · next hg =>
      rw [hg] at hin
      exact absurd hin hnot
    · exact hin
  | sortByTestResultsForSub id =>
    refine ⟨_, run_sortByTestResultsForSub id s, fun group guid hin _ => ?_⟩
    exact (s.listed_sorted id group).mem_iff.mpr hin

end IndexRewrite

/-- A call that publishes guids in one locked section. -/
inductive Publisher where
  | encodeServerConfig (guid : String) (uuid : Uuid) (config : ProfileItem)
  | saveServerProfiles (fold : Char → Char) (batch : ProfileBatch)

namespace Publisher

def program : Publisher → StoreM Unit
  | encodeServerConfig guid uuid config => do
    let _ ← MmkvManager.encodeServerConfig guid uuid.text config
    pure ()
  | saveServerProfiles fold b =>
    MmkvManager.saveServerProfiles fold b.profiles b.rawConfigs b.subscriptionId b.append

/-- The guids the call publishes. -/
def published : Publisher → List String
  | encodeServerConfig guid uuid _ => [if Text.isBlank guid then uuid.text else guid]
  | saveServerProfiles _ b => b.profiles.keys

/-- The group the call publishes to. -/
def subscriptionId : Publisher → String
  | encodeServerConfig _ _ config => config.subscriptionId
  | saveServerProfiles _ b => b.subscriptionId

theorem mem_serverList_exec {q : Publisher} {guid : String} (h : guid ∈ q.published) (s : Store) :
    guid ∈ (q.program.exec s).serverList q.subscriptionId := by
  cases q with
  | encodeServerConfig g uuid config =>
    rw [List.mem_singleton.mp h]
    unfold exec program
    rw [run_bind, run_encodeServerConfig]
    exact mem_listed_publish.mpr (.inr ⟨rfl, rfl⟩)
  | saveServerProfiles fold b =>
    obtain ⟨profile, hp⟩ := LinkedMap.mem_keys.mp h
    have hne : b.profiles.entries ≠ [] := List.ne_nil_of_mem hp
    unfold program
    rw [exec_saveServerProfiles, if_neg hne]
    unfold Store.serverList
    rw [listed_replaceAll, subscriptionId, if_pos rfl]
    exact mem_newServerList.mpr (.inr h)

/-- A call that publishes something is one step. -/
theorem oneShot {q : Publisher} {guid : String} (h : guid ∈ q.published) : q.program.OneShot := by
  cases q with
  | encodeServerConfig g uuid config =>
    have hassoc : (encodeServerConfig g uuid config).program =
        withLock (publishServerConfig (if Text.isBlank g then uuid.text else g) config) >>=
          fun _ => pure () := bind_assoc _ _ _
    rw [hassoc]
    exact oneShot_withLock_bind _ fun _ => ()
  | saveServerProfiles fold b =>
    obtain ⟨profile, hp⟩ := LinkedMap.mem_keys.mp h
    have hne : b.profiles.entries ≠ [] := List.ne_nil_of_mem hp
    rw [program, MmkvManager.saveServerProfiles, if_neg hne]
    exact oneShot_withLock _

end Publisher

/-- In every complete interleaving in which the publishing section does not run between the other
call's read of the index and its write-back, every published guid that the other call was not asked
to remove ends up in the index. -/
theorem published_stays_indexed (r : IndexRewrite) (q : Publisher) (s : Store)
    (schedule : List Side) {c : Pair Store StoreException Unit Unit}
    (hexec : Pair.exec ⟨r.program, q.program, s⟩ schedule = some c) (hdone : c.isDone = true)
    (houtside : r.Outside s (Pair.leftSteps schedule)) {guid : String}
    (hguid : guid ∈ q.published)
    (hasked : ¬r.Asked
      (if Pair.leftSteps schedule ≤ r.lookup.stepCount s then q.program.exec s else s) guid) :
    guid ∈ c.state.serverList q.subscriptionId := by
  obtain ⟨p, t, hsteps, hstate⟩ := Pair.exec_oneShot (Publisher.oneShot hguid) hexec hdone
  rw [r.program_eq] at hsteps
  rw [hstate]
  by_cases hearly : Pair.leftSteps schedule ≤ r.lookup.stepCount s
  · rw [if_pos hearly] at hasked
    obtain ⟨rfl, hrest⟩ := Prog.early_exec r.lookup_keeps hearly hsteps
    have hpub := Publisher.mem_serverList_exec hguid t
    rcases hrest (q.program.exec t) with h | ⟨config, h⟩
    · rw [h]
      exact hpub
    · obtain ⟨u, hrun, hkeep⟩ := r.run_rewrite config (q.program.exec t)
      rw [h, Prog.exec, Prog.run_bind, hrun]
      have hlisted : (r.cleanup.exec u).listed = u.listed := r.cleanup_keeps.exec u
      change guid ∈ (r.cleanup.exec u).listed _
      rw [hlisted]
      exact hkeep _ guid hpub hasked
  · have hlate := houtside.resolve_left hearly
    obtain ⟨config, hlookup⟩ := r.run_lookup s
    obtain ⟨u, hrewrite, -⟩ := r.run_rewrite config s
    have hrun : (r.lookup >>= r.rewrite).run s = (.ok (), u) := by
      rw [Prog.run_bind, hlookup]
      exact hrewrite
    obtain ⟨hkeep, -⟩ := Prog.late_keeps hrun r.cleanup_keeps hlate hsteps
    have hlisted : (p.exec (q.program.exec t)).listed = (q.program.exec t).listed :=
      hkeep.exec _
    unfold Store.serverList
    rw [hlisted]
    exact Publisher.mem_serverList_exec hguid t

/-- A new server for group `s`. -/
def newServer : Publisher :=
  .encodeServerConfig "h" Uuid.sample { configType := .vless, subscriptionId := "s" }

/-- The new server is published before the removal of the old one reads the index. -/
theorem publish_before_read_stays_indexed :
    ∃ c, Pair.exec ⟨(IndexRewrite.removeServers ["g"] "s").program, newServer.program, oneServer⟩
        (.right :: List.replicate 6 .left) = some c ∧ "h" ∈ c.state.serverList "s" := by
  obtain ⟨c, hc⟩ : ∃ c, Pair.exec
      ⟨(IndexRewrite.removeServers ["g"] "s").program, newServer.program, oneServer⟩
      (.right :: List.replicate 6 .left) = some c := ⟨_, rfl⟩
  have hdone : c.isDone = true := by
    cases hc
    rfl
  exact ⟨c, hc, published_stays_indexed (.removeServers ["g"] "s") newServer oneServer _ hc hdone
    (.inl (by decide)) (show "h" ∈ newServer.published by decide) (show "h" ∉ ["g"] by decide)⟩

/-- The new server is published after the removal of another one has read the index and before it
writes it back. Both calls finish and the new server is in no index. -/
theorem publish_between_read_and_write_is_lost :
    "h" ∈ newServer.published ∧ newServer.subscriptionId = "s" ∧ "h" ∉ ["g"] ∧
      (Pair.exec ⟨(IndexRewrite.removeServers ["g"] "s").program, newServer.program, oneServer⟩
        ([.left, .right] ++ List.replicate 5 .left)).map
          (fun c => (c.isDone, decide ("h" ∈ c.state.serverList "s"))) = some (true, false) := by
  decide

end ZeroVpn
