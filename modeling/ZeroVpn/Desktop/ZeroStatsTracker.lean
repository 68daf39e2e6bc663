import Mathlib.Algebra.Order.Ring.Int
import Mathlib.Data.List.Induction

/-!
# Ping statistics

The counters are 32-bit and the delays 64-bit numbers.
-/

namespace ZeroVpn.ZeroStatsTracker
open List

structure Stats where
  lastPing : Option Int := none
  currentPing : Option Int := none
  jitterMs : Option Int := none
  attempts : Int := 0
  failures : Int := 0

def int32 (n : Int) : Int := n.bmod (2 ^ 32)

def int64 (n : Int) : Int := n.bmod (2 ^ 64)

def Stats.lossPercent (s : Stats) : Int :=
  if s.attempts = 0 then 0
  else (int32 (int32 (s.failures * 100) + s.attempts.tdiv 2)).tdiv s.attempts

/-- `(old * 3 + sample) / 4`, or the first sample. -/
def nextJitter (sample : Int) : Option Int → Int
  | none => max sample 0
  | some old => max ((int64 (int64 (old * 3) + sample)).tdiv 4) 0

/-- A negative delay is a failure. -/
def Stats.record (s : Stats) (delayMillis : Int) : Stats :=
  let s := { s with attempts := int32 (s.attempts + 1) }
  if delayMillis < 0 then { s with failures := int32 (s.failures + 1) }
  else
    let s := { s with lastPing := s.currentPing, currentPing := some delayMillis }
    match s.lastPing with
    | none => s
    | some prev =>
      { s with jitterMs := nextJitter (int64 (int64 (delayMillis - prev)).natAbs) s.jitterMs }

inductive Call where
  | record (delayMillis : Int)
  | reset

def Stats.step (s : Stats) : Call → Stats
  | .record d => s.record d
  | .reset => {}

/-- The delays recorded since the last reset. -/
def recorded (calls : List Call) : List Int :=
  calls.foldl (fun ds call => match call with
    | .record d => ds ++ [d]
    | .reset => []) []

/-- The differences of consecutive delays. -/
def differences : List Int → List Int
  | a :: b :: rest => (b - a).natAbs :: differences (b :: rest)
  | _ => []

def successes (ds : List Int) : List Int := ds.filter (0 ≤ ·)

/-- The statistics after the delays `ds`. -/
structure Tracks (ds : List Int) (s : Stats) : Prop where
  attempts : s.attempts = ds.length
  failures : s.failures = ds.countP (· < 0)
  currentPing : s.currentPing = (successes ds).getLast?
  jitter_eq_none : s.jitterMs = none ↔ (successes ds).length < 2
  jitter_le : ∀ j, s.jitterMs = some j →
    0 ≤ j ∧ ∀ m, (∀ d ∈ differences (successes ds), d ≤ m) → j ≤ m

theorem differences_concat : ∀ {ds : List Int}, ds.getLast? = some a → ∀ b,
    differences (ds ++ [b]) = differences ds ++ [((b - a).natAbs : Int)]
  | [], h, _ => by cases h
  | [_], h, _ => by cases h; rfl
  | x :: y :: rest, h, b => by
    have ih := @differences_concat _ (y :: rest) (by rwa [getLast?_cons_cons] at h) b
    simp only [cons_append] at ih ⊢
    rw [differences, ih, differences, cons_append]

theorem lt_of_mem_differences : ∀ {ds : List Int}, (∀ e ∈ ds, 0 ≤ e ∧ e < 2 ^ 60) →
    d ∈ differences ds → d < 2 ^ 60
  | [], _, hd | [_], _, hd => by cases hd
  | a :: b :: rest, h, hd => by
    rcases mem_cons.mp hd with rfl | hd
    · have ha := h a (by simp)
      have hb := h b (by simp)
      omega
    · exact lt_of_mem_differences (fun e he => h e (mem_cons_of_mem _ he)) hd

theorem int32_eq (h : -2 ^ 31 ≤ n ∧ n < 2 ^ 31) : int32 n = n :=
  Int.bmod_eq_of_le (by omega) (by omega)

theorem int64_eq (h : -2 ^ 63 ≤ n ∧ n < 2 ^ 63) : int64 n = n :=
  Int.bmod_eq_of_le (by omega) (by omega)

/-- The average does not exceed both of its parts. -/
theorem nextJitter_le (hsample : 0 ≤ sample ∧ sample < 2 ^ 60) (hm : sample ≤ m)
    (hold : ∀ j, old = some j → 0 ≤ j ∧ j ≤ m ∧ j < 2 ^ 60) :
    0 ≤ nextJitter sample old ∧ nextJitter sample old ≤ m := by
  cases old with
  | none =>
    rw [nextJitter]
    omega
  | some j =>
    obtain ⟨hj, hle, hlt⟩ := hold j rfl
    have hthree : int64 (j * 3) = j * 3 := int64_eq (by omega)
    rw [nextJitter, int64_eq (by omega), Int.tdiv_eq_ediv_of_nonneg (by omega)]
    omega

theorem Tracks.record {ds : List Int} {s : Stats} (h : Tracks ds s) (hlen : ds.length < 2 ^ 31 - 1)
    (hds : ∀ e ∈ ds, e < 2 ^ 60) (hd : d < 2 ^ 60) :
    Tracks (ds ++ [d]) (s.record d) := by
  have hattempts : int32 (s.attempts + 1) = (ds ++ [d]).length := by
    rw [h.attempts, length_append, int32_eq (by omega)]
    rfl
  have hcount : ds.countP (· < 0) ≤ ds.length := countP_le_length
  have hsuccesses : successes (ds ++ [d]) = successes ds ++ if d < 0 then [] else [d] := by
    rw [successes, successes]
    split <;> simp <;> omega
  have hfailures : (ds ++ [d]).countP (· < 0) = ds.countP (· < 0) + if d < 0 then 1 else 0 := by
    simp
  rw [Stats.record]
  by_cases hneg : d < 0
  · rw [if_pos hneg, append_nil] at hsuccesses
    rw [if_pos hneg] at hfailures ⊢
    refine ⟨hattempts, ?_, ?_, ?_, ?_⟩
    · dsimp only
      rw [hfailures, h.failures, int32_eq (by omega)]
      rfl
    all_goals rw [hsuccesses]
    exacts [h.currentPing, h.jitter_eq_none, h.jitter_le]
  · rw [if_neg hneg] at hsuccesses hfailures ⊢
    have hrange : ∀ e ∈ successes ds, 0 ≤ e ∧ e < 2 ^ 60 := by
      intro e he
      obtain ⟨he, hpos⟩ := mem_filter.mp he
      exact ⟨of_decide_eq_true hpos, hds e he⟩
    have hcurrent := h.currentPing
    cases hlast : s.currentPing with
    | none =>
      -- the first success
      rw [hlast] at hcurrent
      have hnil : successes ds = [] := getLast?_eq_none_iff.mp hcurrent.symm
      have hnone : s.jitterMs = none := h.jitter_eq_none.mpr (by rw [hnil]; decide)
      rw [hnil] at hsuccesses
      refine ⟨hattempts, by rw [hfailures]; exact h.failures, ?_, ?_, ?_⟩
      all_goals rw [hsuccesses]
      · rfl
      · exact iff_of_true hnone Nat.one_lt_two
      · intro j hj
        cases hnone.symm.trans hj
    | some prev =>
      rw [hlast] at hcurrent
      have hprev := hrange prev (mem_of_getLast? hcurrent.symm)
      have hne := length_pos_of_mem (mem_of_getLast? hcurrent.symm)
      have hsample : int64 (int64 (d - prev)).natAbs = (d - prev).natAbs := by
        rw [int64_eq (n := d - prev) (by omega), int64_eq (by omega)]
      refine ⟨hattempts, by rw [hfailures]; exact h.failures, ?_, ?_, ?_⟩
      all_goals rw [hsuccesses]
      · rw [getLast?_concat]
      · refine iff_of_false nofun ?_
        rw [length_append, length_singleton]
        omega
      · rintro _ ⟨⟩
        rw [differences_concat hcurrent.symm, hsample]
        have hjitter {m : Int} (hm : ∀ e ∈ differences (successes ds) ++ [((d - prev).natAbs : Int)],
            e ≤ m) := by
          rw [forall_mem_append, forall_mem_singleton] at hm
          refine @nextJitter_le (d - prev).natAbs m s.jitterMs (by omega) hm.2 fun j hj => ?_
          obtain ⟨hpos, hle⟩ := h.jitter_le j hj
          refine ⟨hpos, hle m hm.1, Int.lt_of_le_sub_one (hle _ fun e he => ?_)⟩
          exact Int.le_sub_one_of_lt (lt_of_mem_differences hrange he)
        refine ⟨?_, fun m hm => (hjitter hm).2⟩
        refine (@hjitter (2 ^ 60) fun e he => ?_).1
        rcases mem_append.mp he with he | he
        · exact Int.le_of_lt (lt_of_mem_differences hrange he)
        · rw [mem_singleton.mp he]
          omega

theorem tracks_foldl {calls : List Call} (hlen : (recorded calls).length ≤ 20000000)
    (hds : ∀ d ∈ recorded calls, d < 2 ^ 60) :
    Tracks (recorded calls) (calls.foldl Stats.step {}) := by
  have hempty : Tracks [] {} := ⟨rfl, rfl, rfl, iff_of_true rfl Nat.two_pos, nofun⟩
  induction calls using reverseRecOn with
  | nil => exact hempty
  | append_singleton calls call ih =>
    rw [recorded, foldl_append, ← recorded] at hlen hds ⊢
    rw [foldl_append]
    cases call with
    | reset => exact hempty
    | record d =>
      simp only [foldl_cons, foldl_nil, length_append, forall_mem_append,
        forall_mem_singleton] at hlen hds ⊢
      exact (ih (by omega) hds.1).record (by simp at hlen; omega) hds.1 hds.2

/-- After every sequence of calls the statistics are those of the delays recorded since the last
reset, and the loss is the rounded share of the failures. -/
theorem stats_in_range {calls : List Call} (hlen : (recorded calls).length ≤ 20000000)
    (hds : ∀ d ∈ recorded calls, d < 2 ^ 60) {s : Stats} (hs : calls.foldl Stats.step {} = s) :
    Tracks (recorded calls) s ∧ s.failures ≤ s.attempts ∧
      0 ≤ s.lossPercent ∧ s.lossPercent ≤ 100 ∧
      (0 < s.attempts → s.lossPercent = (200 * s.failures + s.attempts) / (2 * s.attempts)) := by
  have h := tracks_foldl hlen hds
  rw [hs] at h
  have hcount : (recorded calls).countP (· < 0) ≤ (recorded calls).length := countP_le_length
  have hattempts := h.attempts
  have hfailures := h.failures
  have hloss (hpos : 0 < s.attempts) :
      s.lossPercent = (200 * s.failures + s.attempts) / (2 * s.attempts) := by
    have hhundred : int32 (s.failures * 100) = s.failures * 100 := int32_eq (by omega)
    rw [Stats.lossPercent, if_neg (by omega), hhundred,
      Int.tdiv_eq_ediv_of_nonneg (a := s.attempts) (by omega), int32_eq (by omega),
      Int.tdiv_eq_ediv_of_nonneg (by omega), ← Int.ediv_ediv_of_nonneg (by decide)]
    congr 1
    omega
  have hrange : 0 ≤ s.lossPercent ∧ s.lossPercent ≤ 100 := by
    by_cases hzero : s.attempts = 0
    · rw [Stats.lossPercent, if_pos hzero]
      decide
    · rw [hloss (by omega)]
      exact ⟨Int.ediv_nonneg (by omega) (by omega),
        Int.lt_add_one_iff.mp (Int.ediv_lt_of_lt_mul (by omega) (by omega))⟩
  exact ⟨h, by omega, hrange.1, hrange.2, hloss⟩

theorem stats_of_three_pings :
    ([Call.reset, .record 40, .record (-1), .record 52].foldl Stats.step {}).lossPercent = 33 :=
  (@stats_in_range [.reset, .record 40, .record (-1), .record 52] (by decide) (by decide) _
    rfl).2.2.2.2 (by decide)

end ZeroVpn.ZeroStatsTracker
