import ZeroVpn.Desktop.Store
import ZeroVpn.Std.Run
import Mathlib.Data.List.GetD

/-!
# Profiles and their subscriptions on the desktop

As long as every assignment finds the lists that it was made from, and a loaded subscription is
still there when its profiles are stored, no profile is left without its subscription and no
manually added profile is lost (`profiles_attached_of_inTime`). The code checks neither: a refresh stores
the profiles of a subscription that was removed while it was loading, and an assignment outside of
the `synchronized` blocks overwrites what was stored since its value was read.
-/

namespace ZeroVpn.DesktopStore

open List

def DataFile.urls (data : DataFile) : List String := data.subscriptions.map SubRec.url

/-- Every profile that belongs to a subscription belongs to one that exists. -/
def DataFile.Attached (data : DataFile) : Prop :=
  ∀ p ∈ data.profiles, ∀ url, p.sub = some url → url ∈ data.urls

/-- A manually added profile. -/
def DataFile.HasManual (data : DataFile) (id : String) : Prop :=
  ∃ p ∈ data.profiles, p.id = id ∧ p.sub = none

/-- The same profiles and subscriptions. -/
structure SameLists (data data' : DataFile) : Prop where
  profiles : data.profiles = data'.profiles
  subscriptions : data.subscriptions = data'.subscriptions

/-- New profiles are stored for a subscription that exists. -/
def Change.Wanted (data : DataFile) : Change → Prop
  | replaceProfiles url _ => url ∈ data.urls
  | _ => True

/-- The next step is not an assignment, or one that finds the lists it was made from. -/
def Call.InTime (data : DataFile) : Call → Prop
  | .write change source base _ => SameLists source data ∧ SameLists base data ∧ change.Wanted data
  | _ => True

/-- A step of a call is in time. -/
def InTime (s : System) : Action → Prop
  | .request _ => True
  | .step i _ => (s.calls.getD i .done).InTime s.data

/-- The next step deletes the profile `id`. -/
def Call.Deletes (id : String) : Call → Prop
  | .write change _ _ _ => change = .delete id
  | _ => False

/-- A step of a call deletes the profile `id`. -/
def Deletes (id : String) (s : System) : Action → Prop
  | .request _ => False
  | .step i _ => (s.calls.getD i .done).Deletes id

/-- All calls have ended. -/
def System.Finished (s : System) : Prop := ∀ c ∈ s.calls, c = .done

/-! ## One assignment -/

/-- The records of an assignment are those of the code. -/
def Change.Sound : Change → Prop
  | upsert rec => rec.sub = none
  | replaceProfiles url fresh => ∀ p ∈ fresh, p.sub = some url
  | _ => True

variable {id url : String}

theorem DataFile.HasManual.congr (h : SameLists data data') (hid : data'.HasManual id) :
    data.HasManual id := by
  unfold HasManual
  rw [h.profiles]
  exact hid

section value
variable {data : DataFile} {change : Change}

theorem sameLists_value (hsource : SameLists source data) (hbase : SameLists base data) :
    SameLists (change.value source base) (change.value data data) := by
  cases change <;> constructor <;>
    simp only [Change.value, hsource.profiles, hsource.subscriptions, hbase.profiles,
      hbase.subscriptions]

/-- Where the profiles of a subscription come from. -/
theorem mem_value (hsound : change.Sound) (hwanted : change.Wanted data) {p : ProfileRec}
    (hp : p ∈ (change.value data data).profiles) (hsub : p.sub = some url) :
    p ∈ data.profiles ∧ change ≠ .removeProfiles url ∨ url ∈ data.urls := by
  cases change with
  | pings | select | selectFirst | addSubscription | removeSubscription | updateInfo =>
    exact .inl ⟨hp, nofun⟩
  | delete id => exact .inl ⟨mem_of_mem_filter hp, nofun⟩
  | upsert rec =>
    rcases mem_append.mp hp with hold | hnew
    · exact .inl ⟨mem_of_mem_filter hold, nofun⟩
    · rw [mem_singleton.mp hnew] at hsub
      cases hsub.symm.trans hsound
  | removeProfiles url' =>
    obtain ⟨hold, hne⟩ := mem_filter.mp hp
    refine .inl ⟨hold, fun hsame => of_decide_eq_true hne ?_⟩
    rw [hsub, Change.removeProfiles.inj hsame]
  | replaceProfiles url' fresh =>
    rcases mem_append.mp hp with hold | hnew
    · exact .inl ⟨mem_of_mem_filter hold, nofun⟩
    · have hurl : url = url' := Option.some.inj (hsub.symm.trans (hsound p hnew))
      rw [hurl]
      exact .inr hwanted

/-- A subscription only goes when it is removed. -/
theorem mem_urls_value (hurl : url ∈ data.urls) :
    url ∈ (change.value data data).urls ∨ change = .removeSubscription url := by
  obtain ⟨sub, hsub, rfl⟩ := mem_map.mp hurl
  cases change with
  | pings | select | selectFirst | upsert | delete | removeProfiles | replaceProfiles =>
    exact .inl hurl
  | addSubscription rec =>
    refine .inl ?_
    unfold DataFile.urls Change.value
    rw [map_append]
    by_cases hsame : sub.url = rec.url
    · rw [hsame]
      exact mem_append_right _ mem_cons_self
    · exact mem_append_left _
        (mem_map_of_mem (mem_filter.mpr ⟨hsub, decide_eq_true hsame⟩))
  | removeSubscription url' =>
    by_cases hsame : sub.url = url'
    · exact .inr (congrArg _ hsame.symm)
    · exact .inl (mem_map_of_mem (mem_filter.mpr ⟨hsub, decide_eq_true hsame⟩))
  | updateInfo url' lastFetch info =>
    refine .inl (mem_map.mpr ⟨_, mem_map_of_mem hsub, ?_⟩)
    split <;> rfl

theorem hasManual_value (hsound : change.Sound) (hne : change ≠ .delete id)
    (h : data.HasManual id) : (change.value data data).HasManual id := by
  obtain ⟨p, hp, hid, hsub⟩ := h
  cases change with
  | pings | select | selectFirst | addSubscription | removeSubscription | updateInfo =>
    exact ⟨p, hp, hid, hsub⟩
  | delete id' =>
    refine ⟨p, mem_filter.mpr ⟨hp, decide_eq_true fun hsame => hne ?_⟩, hid, hsub⟩
    rw [← hid, hsame]
  | upsert rec =>
    by_cases hsame : p.id = rec.id
    · exact ⟨rec, mem_append_right _ mem_cons_self, hsame.symm.trans hid, hsound⟩
    · exact ⟨p, mem_append_left _ (mem_filter.mpr ⟨hp, decide_eq_true hsame⟩), hid, hsub⟩
  | removeProfiles url =>
    refine ⟨p, mem_filter.mpr ⟨hp, decide_eq_true ?_⟩, hid, hsub⟩
    rw [hsub]
    exact nofun
  | replaceProfiles url fresh =>
    refine ⟨p, mem_append_left _ (mem_filter.mpr ⟨hp, decide_eq_true ?_⟩), hid, hsub⟩
    rw [hsub]
    exact nofun

end value

/-! ## The calls -/

/-- The call is about to remove the profiles of a subscription. -/
def Call.Cleans (url : String) : Call → Prop
  | .read next => ∀ data, (next data).Cleans url
  | .write change _ _ next => change = .removeProfiles url ∨ next.Cleans url
  | _ => False

/-- A call that removes a subscription goes on to remove its profiles. -/
def Call.Sound : Call → Prop
  | .done => True
  | .read next => ∀ data, (next data).Sound
  | .outside next => ∀ input, (next input).Sound
  | .write change _ _ next =>
    change.Sound ∧ (∀ url, change = .removeSubscription url → next.Cleans url) ∧ next.Sound
  | .lock next => next.Sound
  | .unlock next => next.Sound

section sound
variable {change : Change} {next failed : Call}

theorem sound_save (h : next.Sound) : (save next).Sound :=
  fun _ _ => ⟨trivial, nofun, h⟩

theorem sound_assign (hchange : change.Sound) (hne : ∀ url, change ≠ .removeSubscription url)
    (h : next.Sound) : (assign change next).Sound :=
  fun _ _ => ⟨hchange, fun url hurl => absurd hurl (hne url), h⟩

theorem sound_assignCopy (hchange : change.Sound) (hne : ∀ url, change ≠ .removeSubscription url)
    (h : next.Sound) : (assignCopy change next).Sound :=
  fun _ _ => ⟨hchange, fun url hurl => absurd hurl (hne url), h⟩

theorem sound_noneSelected {next : Bool → Call} (h : ∀ none, (next none).Sound)
    (profiles : List ProfileRec) : (noneSelected next profiles).Sound := by
  induction profiles with
  | nil => exact h true
  | cons p ps ih =>
    intro data
    dsimp only
    split
    · exact h false
    · exact ih

theorem sound_repairSelection (hfailed : failed.Sound) (h : next.Sound) :
    (repairSelection failed next).Sound := by
  have hfirst : (Call.read fun data => if data.profiles = [] then next
      else .read fun base => .read fun source =>
        if source.profiles = [] then failed else .write .selectFirst source base next).Sound := by
    intro data
    dsimp only
    split
    · exact h
    · intro base source
      dsimp only
      split
      · exact hfailed
      · exact ⟨trivial, nofun, h⟩
  intro data
  dsimp only
  split
  · exact hfirst
  · refine fun data => sound_noneSelected (fun none => ?_) _
    cases none
    · exact h
    · exact hfirst

variable (stableId : String → String)

theorem sub_of_mem_fresh {p : ProfileRec} (hp : p ∈ fresh stableId url links) :
    p.sub = some url := by
  obtain ⟨_, -, rfl⟩ := mem_map.mp ((distinctBy_sublist _ _).subset hp)
  rfl

theorem sound_refresh (sub : SubRec) (h : next.Sound) : (refresh stableId sub next).Sound := by
  intro input
  dsimp only
  cases input.fetched with
  | none => exact h
  | some fetched =>
    refine sound_assign (fun _ => sub_of_mem_fresh stableId) nofun ?_
    exact fun _ _ _ => ⟨trivial, nofun, sound_repairSelection h (sound_save h)⟩

theorem sound_refreshAll (subs : List SubRec) : (refreshAll stableId subs).Sound := by
  induction subs with
  | nil => trivial
  | cons sub subs ih => exact sound_refresh stableId sub ih

theorem sound_addSub (url : String) : (addSub stableId url).Sound := by
  intro input
  dsimp only
  cases input.fetched with
  | none => trivial
  | some fetched =>
    dsimp only
    split
    · trivial
    · have hreplace :
          (Call.lock <| assign (.replaceProfiles url (fresh stableId url fetched.links)) <|
            repairSelection (.unlock .done) (save (.unlock .done))).Sound :=
        sound_assign (fun _ => sub_of_mem_fresh stableId) nofun
          (sound_repairSelection trivial (sound_save trivial))
      refine fun data => sound_assignCopy trivial nofun (sound_save ?_)
      cases fetched.info with
      | none => exact hreplace
      | some info => exact sound_assignCopy trivial nofun (sound_save hreplace)

theorem sound_importText (links : List ParsedLink) : (importText stableId links).Sound := by
  induction links with
  | nil => trivial
  | cons p links ih => exact sound_assign rfl nofun (sound_save ih)

theorem sound_call (request : Request) : (request.call stableId).Sound := by
  cases request with
  | updateSubscriptions => exact fun data => sound_refreshAll stableId _
  | refreshSingleSub url =>
    intro data
    dsimp only
    split
    · trivial
    · exact sound_refresh stableId _ trivial
  | addSub url => exact sound_addSub stableId url
  | removeSubscription url =>
    refine fun base source => ⟨trivial, fun url' hurl => ?_, ?_⟩
    swap
    · exact sound_assign trivial nofun (sound_save trivial)
    rw [Change.removeSubscription.inj hurl]
    exact fun _ _ => .inl rfl
  | deleteProfile id =>
    refine sound_assign trivial nofun fun data => ?_
    dsimp only
    split
    · exact sound_assign trivial nofun (sound_save trivial)
    · exact sound_save trivial
  | importText links => exact sound_importText stableId links
  | select id => exact fun _ => ⟨trivial, nofun, sound_save trivial⟩

end sound

/-! ## Runs -/

/-- A profile without its subscription is about to be removed. -/
structure System.Inv (s : System) : Prop where
  sound : ∀ i, (s.calls.getD i .done).Sound
  covered : ∀ p ∈ s.data.profiles, ∀ url, p.sub = some url →
    url ∈ s.data.urls ∨ ∃ i, (s.calls.getD i .done).Cleans url

theorem System.inv_of_attached {data : DataFile} (h : data.Attached) : ({ data } : System).Inv where
  sound := fun _ => trivial
  covered := fun p hp url hurl => .inl (h p hp url hurl)

theorem System.Inv.attached {s : System} (h : s.Inv) (hfinished : s.Finished) :
    s.data.Attached := by
  intro p hp url hurl
  rcases h.covered p hp url hurl with hmem | ⟨i, hi⟩
  · exact hmem
  · have hdone : s.calls.getD i .done = .done := by
      rw [getD_eq_getElem?_getD]
      cases hcall : s.calls[i]? with
      | none => rfl
      | some c => exact hfinished c (mem_of_getElem? hcall)
    rw [hdone] at hi
    exact hi.elim

section step
variable {s : System} {i : Nat} {next : Call}

theorem getD_set_ne (h : j ≠ i) :
    (s.calls.set i next).getD j .done = s.calls.getD j .done := by
  rw [getD_eq_getElem?_getD, getElem?_set_ne h.symm, ← getD_eq_getElem?_getD]

theorem getD_set_self (h : i < s.calls.length) : (s.calls.set i next).getD i .done = next := by
  rw [getD_eq_getElem?_getD, getElem?_set_self h]
  rfl

/-- The call at position `i` goes on. -/
theorem System.Inv.set (h : s.Inv) (hi : i < s.calls.length) (hnext : next.Sound) {s' : System}
    (hcalls : s'.calls = s.calls.set i next)
    (hcovered : ∀ p ∈ s'.data.profiles, ∀ url, p.sub = some url → url ∈ s'.data.urls ∨
      next.Cleans url ∨ ∃ j, j ≠ i ∧ (s.calls.getD j .done).Cleans url) : s'.Inv where
  sound := by
    intro j
    rw [hcalls]
    by_cases hj : j = i
    · rw [hj, getD_set_self hi]
      exact hnext
    · rw [getD_set_ne hj]
      exact h.sound j
  covered := by
    intro p hp url hurl
    rw [hcalls]
    rcases hcovered p hp url hurl with hmem | hclean | ⟨j, hj, hclean⟩
    · exact .inl hmem
    · exact .inr ⟨i, by rwa [getD_set_self hi]⟩
    · exact .inr ⟨j, by rwa [getD_set_ne hj]⟩

/-- A step that assigns nothing. -/
theorem System.Inv.move (h : s.Inv) (hi : i < s.calls.length) (hnext : next.Sound)
    (hcleans : ∀ url, (s.calls.getD i .done).Cleans url → next.Cleans url) {s' : System}
    (hcalls : s'.calls = s.calls.set i next) (hdata : s'.data = s.data) : s'.Inv := by
  refine h.set hi hnext hcalls ?_
  rw [hdata]
  intro p hp url hurl
  rcases h.covered p hp url hurl with hmem | ⟨j, hj⟩
  · exact .inl hmem
  · by_cases hji : j = i
    · exact .inr (.inl (hcleans url (hji ▸ hj)))
    · exact .inr (.inr ⟨j, hji, hj⟩)

theorem System.Inv.write (h : s.Inv) (hi : i < s.calls.length) {change : Change}
    (hcall : s.calls.getD i .done = .write change source base next)
    (hin : (Call.write change source base next).InTime s.data) :
    { s with data := change.value source base, calls := s.calls.set i next }.Inv := by
  obtain ⟨hsource, hbase, hwanted⟩ := hin
  have hsound := h.sound i
  rw [hcall] at hsound
  obtain ⟨hchange, hremove, hnext⟩ := hsound
  have hsame : SameLists (change.value source base) (change.value s.data s.data) :=
    sameLists_value hsource hbase
  -- a subscription of before is still there, or the call goes on to remove its profiles
  have hold {url : String} (hurl : url ∈ s.data.urls) :
      url ∈ (change.value source base).urls ∨ next.Cleans url := by
    have hurls : url ∈ (change.value s.data s.data).urls ∨ change = .removeSubscription url :=
      mem_urls_value hurl
    rw [DataFile.urls, ← hsame.subscriptions] at hurls
    exact hurls.imp_right (hremove url)
  refine h.set hi hnext rfl fun p hp url hurl => ?_
  rw [hsame.profiles] at hp
  rcases mem_value hchange hwanted hp hurl with ⟨hmem, hne⟩ | hmem
  · rcases h.covered p hmem url hurl with hmem | ⟨j, hj⟩
    · exact (hold hmem).imp_right .inl
    · by_cases hji : j = i
      · rw [hji, hcall] at hj
        exact .inr (.inl (hj.resolve_left hne))
      · exact .inr (.inr ⟨j, hji, hj⟩)
  · exact (hold hmem).imp_right .inl

theorem lt_length_of_getD_ne (h : s.calls.getD i .done ≠ .done) : i < s.calls.length := by
  by_contra hlt
  exact h (getD_eq_default _ _ (Nat.not_lt.mp hlt))

theorem System.Inv.advance (h : s.Inv) (input : Input)
    (hin : (s.calls.getD i .done).InTime s.data) :
    (s.advance i input (s.calls.getD i .done)).Inv := by
  have hsound := h.sound i
  have hlt := lt_length_of_getD_ne (s := s) (i := i)
  cases hcall : s.calls.getD i .done with
  | done => exact h
  | read next =>
    rw [hcall] at hsound hlt
    refine h.move (hlt nofun) (hsound s.data) ?_ rfl rfl
    rw [hcall]
    exact fun url hclean => hclean s.data
  | outside next =>
    rw [hcall] at hsound hlt
    refine h.move (hlt nofun) (hsound input) ?_ rfl rfl
    rw [hcall]
    exact fun _ => False.elim
  | write change source base next =>
    rw [hcall] at hlt hin
    exact h.write (hlt nofun) hcall hin
  | lock next =>
    rw [hcall] at hsound hlt
    have hnext : next.Sound := hsound
    rw [System.advance]
    split
    · exact h
    · refine h.move (hlt nofun) hnext ?_ rfl rfl
      rw [hcall]
      exact fun _ => False.elim
  | unlock next =>
    rw [hcall] at hsound hlt
    have hnext : next.Sound := hsound
    refine h.move (hlt nofun) hnext ?_ rfl rfl
    rw [hcall]
    exact fun _ => False.elim

theorem System.advance_hasManual (h : s.Inv) (input : Input)
    (hin : (s.calls.getD i .done).InTime s.data) (hdel : ¬(s.calls.getD i .done).Deletes id)
    (hid : s.data.HasManual id) : (s.advance i input (s.calls.getD i .done)).data.HasManual id := by
  have hsound := h.sound i
  cases hcall : s.calls.getD i .done with
  | done | read next | outside next | unlock next => exact hid
  | lock next =>
    rw [System.advance]
    split <;> exact hid
  | write change source base next =>
    rw [hcall] at hsound hin hdel
    exact (hasManual_value hsound.1 hdel hid).congr (sameLists_value hin.1 hin.2.1)

end step

section run
variable (stableId : String → String) {s : System}

theorem System.Inv.request (h : s.Inv) (request : Request) :
    (s.step stableId (.request request)).Inv := by
  have hgetD (i : Nat) : (s.step stableId (.request request)).calls.getD i .done =
      if i = s.calls.length then request.call stableId else s.calls.getD i .done := by
    rw [System.step]
    rcases Nat.lt_trichotomy i s.calls.length with hlt | heq | hgt
    · rw [getD_append _ _ _ _ hlt, if_neg (Nat.ne_of_lt hlt)]
    · rw [if_pos heq, heq, getD_append_right _ _ _ _ (Nat.le_refl _), Nat.sub_self]
      rfl
    · rw [if_neg (Nat.ne_of_gt hgt), getD_eq_default _ _ (Nat.le_of_lt hgt),
        getD_eq_default]
      rw [length_append]
      exact hgt
  refine ⟨fun i => ?_, fun p hp url hurl => ?_⟩
  · rw [hgetD]
    split
    · exact sound_call stableId request
    · exact h.sound i
  · refine (h.covered p hp url hurl).imp_right fun ⟨i, hi⟩ => ⟨i, ?_⟩
    rw [hgetD, if_neg]
    · exact hi
    · rintro rfl
      rw [getD_eq_default _ _ (Nat.le_refl _)] at hi
      exact hi

theorem System.Inv.step (h : s.Inv) (action : Action) (hin : InTime s action) :
    (s.step stableId action).Inv := by
  cases action with
  | request request => exact h.request stableId request
  | step i input => exact h.advance input hin

theorem System.step_hasManual (h : s.Inv) (action : Action) (hin : InTime s action)
    (hdel : ¬Deletes id s action) (hid : s.data.HasManual id) :
    (s.step stableId action).data.HasManual id := by
  cases action with
  | request request => exact hid
  | step i input => exact System.advance_hasManual h input hin hdel hid

end run

/-- If every assignment finds the lists it was made from, and new profiles are stored for
subscriptions that exist: whenever all calls have ended, every profile of a subscription has its
subscription, and a manually added profile stays until it is deleted. -/
theorem profiles_attached_of_inTime (stableId : String → String) {data : DataFile}
    (hdata : data.Attached) (actions : List Action)
    (h : Run.StepsMeet (System.step stableId) InTime { data } actions) :
    Run.Always (System.step stableId) (fun s => s.Finished → s.data.Attached) { data } actions ∧
      ∀ id before after, actions = before ++ after →
        (before.foldl (System.step stableId) { data }).data.HasManual id →
        Run.StepsMeet (System.step stableId) (fun s action => ¬Deletes id s action)
          (before.foldl (System.step stableId) { data }) after →
        (actions.foldl (System.step stableId) { data }).data.HasManual id := by
  have hinv {actions : List Action}
      (h : Run.StepsMeet (System.step stableId) InTime { data } actions) :=
    Run.always_of_stepsMeet (fun s action hs => hs.step stableId action)
      (System.inv_of_attached hdata) h
  refine ⟨(hinv h).imp fun s hs => hs.attached, ?_⟩
  rintro id before after rfl hid hdel
  obtain ⟨hbefore, hafter⟩ := Run.stepsMeet_append.mp h
  have hrun := Run.always_of_stepsMeet (p := fun s => s.Inv ∧ s.data.HasManual id)
    (fun s action hs hc => ⟨hs.1.step stableId action hc.1,
      System.step_hasManual stableId hs.1 action hc.1 hc.2 hs.2⟩)
    ⟨(hinv hbefore).last, hid⟩ (hafter.and hdel)
  rw [List.foldl_append]
  exact hrun.last.2

/-! ## Races -/

instance (data data' : DataFile) : Decidable (SameLists data data') :=
  decidable_of_iff (data.profiles = data'.profiles ∧ data.subscriptions = data'.subscriptions)
    ⟨fun h => ⟨h.1, h.2⟩, fun h => ⟨h.profiles, h.subscriptions⟩⟩

instance (data : DataFile) (change : Change) : Decidable (change.Wanted data) := by
  cases change <;> unfold Change.Wanted <;> infer_instance

instance (data : DataFile) (call : Call) : Decidable (call.InTime data) := by
  cases call <;> unfold Call.InTime <;> infer_instance

instance (s : System) (action : Action) : Decidable (InTime s action) := by
  cases action <;> unfold InTime <;> infer_instance

instance (id : String) (call : Call) : Decidable (call.Deletes id) := by
  cases call <;> unfold Call.Deletes <;> infer_instance

instance (id : String) (s : System) (action : Action) : Decidable (Deletes id s action) := by
  cases action <;> unfold Deletes <;> infer_instance

instance (data : DataFile) : Decidable data.Attached :=
  decidable_of_iff (∀ p ∈ data.profiles, ∀ url ∈ p.sub, url ∈ data.urls) Iff.rfl

instance (data : DataFile) (id : String) : Decidable (data.HasManual id) :=
  inferInstanceAs (Decidable (∃ p ∈ data.profiles, p.id = id ∧ p.sub = none))

def server : ParsedLink := { name := "vless-server", proto := "vless", link := "vless://u@h:1" }

def serverUrl : String := "http://h/s"

def serverId : String := "a335ada7-c4cd-3e5b-b3ed-91713fc19607"

def manualServer : ProfileRec :=
  { id := serverId, name := server.name, proto := server.proto, link := server.link }

/-- `UUID.nameUUIDFromBytes` at the link alone and in the subscription. -/
def serverIds (text : String) : String :=
  if text = server.link then serverId else "f8bdea45-608e-3199-bb7e-fd3b5f3f3ec2"

def oneSubscription : DataFile := { subscriptions := [{ url := serverUrl, name := "s" }] }

/-- The call at position `i` goes on for some steps. -/
def steps (n i : Nat) : List Action := List.replicate n (.step i {})

/-- A refresh up to the answer of the server. -/
def startRefresh (i : Nat) : List Action :=
  [.request (.refreshSingleSub serverUrl), .step i {},
    .step i { fetched := some { links := [server] } }]

def importServer : List Action := .request (.importText [server]) :: steps 6 0

/-- A refresh and the removal of the subscription, one after the other. -/
def refreshAndRemove : List Action :=
  startRefresh 1 ++ steps 20 1 ++ (.request (.removeSubscription serverUrl) :: steps 9 2)

theorem inOrder_attached :
    ((importServer ++ refreshAndRemove).foldl (System.step serverIds)
        { data := oneSubscription }).data =
        { profiles := [manualServer], selected := some serverId } ∧
      Run.Always (System.step serverIds) (fun s => s.Finished → s.data.Attached)
        { data := oneSubscription } (importServer ++ refreshAndRemove) ∧
      ((importServer ++ refreshAndRemove).foldl (System.step serverIds)
        { data := oneSubscription }).data.HasManual serverId := by
  have h := @profiles_attached_of_inTime serverIds oneSubscription (by decide)
    (importServer ++ refreshAndRemove) (by decide +kernel)
  exact ⟨by decide +kernel, h.1,
    h.2 serverId importServer refreshAndRemove rfl (by decide +kernel) (by decide +kernel)⟩

/-- The subscription is removed while its answer is on the way. -/
def removeInBetween : List Action :=
  startRefresh 0 ++ (.request (.removeSubscription serverUrl) :: steps 9 1) ++ steps 17 0

/-- The import stores its profile between the reading and the assignment of `select`. -/
def selectInBetween : List Action :=
  [.request (.importText [server]), .request (.select none), .step 1 {}] ++ steps 6 0 ++ steps 4 1

/-- The refresh stores a profile without a subscription, and `select` drops a manually added one. -/
theorem races_lose_profiles :
    ¬Run.Always (System.step serverIds) (fun s => s.Finished → s.data.Attached)
        { data := oneSubscription } removeInBetween ∧
      ¬∀ id before after, selectInBetween = before ++ after →
        (before.foldl (System.step serverIds) {}).data.HasManual id →
        Run.StepsMeet (System.step serverIds) (fun s action => ¬Deletes id s action)
          (before.foldl (System.step serverIds) {}) after →
        (selectInBetween.foldl (System.step serverIds) {}).data.HasManual id := by
  refine ⟨fun h => ?_, fun h => ?_⟩
  · have hfinished :
        (removeInBetween.foldl (System.step serverIds) { data := oneSubscription }).Finished := by
      intro c hc
      have hcalls : (removeInBetween.foldl (System.step serverIds)
          { data := oneSubscription }).calls = [.done, .done] := by
        rfl
      rw [hcalls] at hc
      simpa using hc
    exact absurd (h.last hfinished) (by decide +kernel)
  · have hlost := h serverId (selectInBetween.take 9) (selectInBetween.drop 9)
      (List.take_append_drop 9 _).symm (by decide +kernel) (by decide +kernel)
    exact absurd hlost (by decide +kernel)

end ZeroVpn.DesktopStore
