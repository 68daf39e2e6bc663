import Mathlib.Logic.Basic

/-!
# The system proxy of the desktop app

`enable` reports whether all of its three writes succeed, and `disconnect` goes by that report.
-/

namespace ZeroVpn.SysProxy

/-- The values of `Internet Settings`. -/
structure Registry where
  proxyEnable : Nat := 0
  proxyServer : String := ""
  proxyOverride : String := ""

/-- `OVERRIDE` -/
def bypassList : String :=
  "localhost;127.*;10.*;172.16.*;172.17.*;172.18.*;172.19.*;" ++
    "172.2?.*;172.30.*;172.31.*;192.168.*;<local>"

/-- Which of the `reg` commands succeed; one that fails has no effect. -/
structure Outcome where
  proxyEnable : Bool := true
  proxyServer : Bool := true
  proxyOverride : Bool := true

def enable (httpPort : Nat) (ok : Outcome) (r : Registry) : Registry × Bool :=
  if !ok.proxyEnable then (r, false)
  else
    let r := { r with proxyEnable := 1 }
    if !ok.proxyServer then (r, false)
    else
      let r := { r with proxyServer := "127.0.0.1:" ++ toString httpPort }
      if !ok.proxyOverride then (r, false)
      else ({ r with proxyOverride := bypassList }, true)

def disable (r : Registry) : Registry := { r with proxyEnable := 0 }

structure State where
  registry : Registry := {}
  proxyOn : Bool := false

/-- The calls of `Connector`. -/
inductive Call where
  /-- `listens`: there is a profile, its configuration is written and the core opens its port. -/
  | connect (listens : Bool) (httpPort : Nat) (ok : Outcome)
  | disconnect

def State.step (s : State) : Call → State
  | .connect true httpPort ok =>
    let (registry, proxyOn) := enable httpPort ok s.registry
    { registry, proxyOn }
  | .connect false _ _ => s
  | .disconnect => if s.proxyOn then { registry := disable s.registry } else s

/-- The outcome of the `enable` that a call gets to. -/
def Call.outcome? : Call → Option Outcome
  | .connect true _ ok => some ok
  | .connect false _ _ | .disconnect => none

/-- The last `enable` of a run: the registry that it finds, and what its commands do. -/
def lastEnable (s : State) : List Call → Option (Registry × Outcome)
  | [] => none
  | call :: calls => (lastEnable (s.step call) calls).or (call.outcome?.map (s.registry, ·))

/-- All commands succeed, or the first fails and the proxy was off before. -/
def Settles (r : Registry) (ok : Outcome) : Prop :=
  ok.proxyEnable = true ∧ ok.proxyServer = true ∧ ok.proxyOverride = true ∨
    ok.proxyEnable = false ∧ r.proxyEnable = 0

/-- `disconnect` finds what it has to switch off. -/
def Reported (s : State) : Prop := s.proxyOn = true ∨ s.registry.proxyEnable = 0

variable {s : State}

theorem off_iff_reported : (s.step .disconnect).registry.proxyEnable = 0 ↔ Reported s := by
  rw [State.step, Reported]
  split
  · next hon => exact iff_of_true rfl (.inl hon)
  · next hon => exact (or_iff_right hon).symm

theorem reported_disconnect : Reported (s.step .disconnect) ↔ Reported s := by
  rw [State.step]
  split
  · next hon => exact iff_of_true (.inr rfl) (.inl hon)
  · exact .rfl

theorem reported_enable (httpPort : Nat) (ok : Outcome) :
    Reported (s.step (.connect true httpPort ok)) ↔ Settles s.registry ok := by
  obtain ⟨first, second, third⟩ := ok
  cases first with
  | false => simp [Reported, Settles, State.step, enable]
  | true => cases second <;> cases third <;> simp [Reported, Settles, State.step, enable]

/-- What a run leaves is decided by its last `enable`. -/
theorem reported_run (calls : List Call) : Reported (calls.foldl State.step s) ↔
    ((lastEnable s calls).elim (Reported s) fun e => Settles e.1 e.2) := by
  induction calls generalizing s with
  | nil => exact .rfl
  | cons call calls ih =>
    rw [List.foldl_cons, ih, lastEnable]
    cases lastEnable (s.step call) calls with
    | some e => exact .rfl
    | none =>
      cases call with
      | connect listens httpPort ok =>
        cases listens with
        | true => exact reported_enable httpPort ok
        | false => exact .rfl
      | disconnect => exact reported_disconnect

/-- A `disconnect` leaves the proxy off if and only if the last `enable` before it has all of its
commands succeed, or its first one fail with the proxy off. -/
theorem off_after_disconnect {s : State} (calls : List Call) (hs : s.registry.proxyEnable = 0) :
    ((calls ++ [Call.disconnect]).foldl State.step s).registry.proxyEnable = 0 ↔
      ∀ r ok, lastEnable s calls = some (r, ok) → Settles r ok := by
  rw [List.foldl_append, List.foldl_cons, List.foldl_nil, off_iff_reported, reported_run]
  cases lastEnable s calls with
  | none => exact iff_of_true (.inr hs) nofun
  | some e =>
    constructor
    · rintro h _ _ ⟨⟩
      exact h
    · exact fun h => h e.1 e.2 rfl

theorem off_after_failed_first :
    (([.connect true 10809 { proxyEnable := false }, .disconnect] : List Call).foldl State.step
      {}).registry.proxyEnable = 0 := by
  refine (off_after_disconnect [.connect true 10809 { proxyEnable := false }] rfl).mpr ?_
  rintro _ _ ⟨⟩
  exact .inr ⟨rfl, rfl⟩

/-- The proxy is switched on and the next write fails, so that `disconnect` leaves it on. -/
theorem on_after_failed_second :
    (([.connect true 10809 { proxyServer := false }, .disconnect] : List Call).foldl State.step
      {}).registry.proxyEnable = 1 :=
  rfl

end ZeroVpn.SysProxy
