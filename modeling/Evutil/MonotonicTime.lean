/-
  The monotonic clock of `evutil_time.c`, on its `gettimeofday` fallback.

  * `Timeval`, `timeradd`, `timersub`, `timercmpLt`: `struct timeval` and the `<sys/time.h>`
    macros on it, in `long` arithmetic; a signed overflow, undefined in C, gives `none`.
  * `adjustMonotonicTime`, `evutilGettimeMonotonic`, `gettimeRun`: the ratchet, one call of
    `evutil_gettime_monotonic_`, and successive calls.
  * `ratchet`, `backward`: the clock the fallback is meant to be, in microseconds, and how far
    its readings went back in all.
  * `adjustMonotonicTime_step`, `gettimeRun_ratchet`: one call keeps
    `last_time = reading + adjust_monotonic_clock`; from it, a whole run gives `ratchet` as long
    as the readings went back by at most 2^61 seconds in all.
-/
import Mathlib.Data.List.ReduceOption
import Evutil.CLib

namespace Evutil

/-- `struct timeval`: `tv_sec` and `tv_usec`, both `long` on Linux. -/
structure Timeval where
  sec : Int
  usec : Int
deriving DecidableEq, Repr

/-- A normalised `timeval`: `0 ≤ tv_usec < 1000000`. -/
def Timeval.Normal (t : Timeval) : Prop := 0 ≤ t.usec ∧ t.usec < 1000000

instance : DecidablePred Timeval.Normal := fun _ => inferInstanceAs (Decidable (_ ∧ _))

/-- The time in microseconds. -/
def Timeval.micros (t : Timeval) : Int := t.sec * 1000000 + t.usec

/-- A `long` result: `none` outside `LONG_MIN..LONG_MAX`, a signed overflow. -/
def inLong (v : Int) : Option Int := if LONG_MIN ≤ v ∧ v ≤ LONG_MAX then some v else none

/-- `timeradd(a, b, result)` of `<sys/time.h>`. -/
def timeradd (a b : Timeval) : Option Timeval := do
  let sec ← inLong (a.sec + b.sec)
  let usec ← inLong (a.usec + b.usec)
  if 1000000 ≤ usec then
    let sec ← inLong (sec + 1)
    pure ⟨sec, usec - 1000000⟩
  else pure ⟨sec, usec⟩

/-- `timersub(a, b, result)` of `<sys/time.h>`. -/
def timersub (a b : Timeval) : Option Timeval := do
  let sec ← inLong (a.sec - b.sec)
  let usec ← inLong (a.usec - b.usec)
  if usec < 0 then
    let sec ← inLong (sec - 1)
    pure ⟨sec, usec + 1000000⟩
  else pure ⟨sec, usec⟩

/-- `evutil_timercmp(tvp, uvp, <)`. -/
def timercmpLt (t u : Timeval) : Bool := if t.sec = u.sec then t.usec < u.usec else t.sec < u.sec

/-- `struct evutil_monotonic_timer`. -/
structure MonotonicTimer where
  monotonicClock : Int
  adjustMonotonicClock : Timeval
  lastTime : Timeval
deriving DecidableEq, Repr

/-- `evutil_monotonic_timer_new()` when `mm_malloc` succeeds: every field zero. -/
def evutilMonotonicTimerNew : MonotonicTimer := ⟨0, ⟨0, 0⟩, ⟨0, 0⟩⟩

/-- `CLOCK_MONOTONIC` on Linux. -/
def CLOCK_MONOTONIC : Int := 1

/-- `CLOCK_MONOTONIC_COARSE` on Linux. -/
def CLOCK_MONOTONIC_COARSE : Int := 6

/-- `evutil_configure_monotonic_time_(base, flags)`, with `precise` and `fallback` the
    `EV_MONOT_PRECISE` and `EV_MONOT_FALLBACK` bits of `flags`, and `coarseOk`, `monotonicOk`
    whether `clock_gettime` succeeds on the two clocks. -/
def evutilConfigureMonotonicTime (base : MonotonicTimer) (precise fallback coarseOk monotonicOk : Bool) :
    MonotonicTimer :=
  if !precise && !fallback && coarseOk then { base with monotonicClock := CLOCK_MONOTONIC_COARSE }
  else if !fallback && monotonicOk then { base with monotonicClock := CLOCK_MONOTONIC }
  else { base with monotonicClock := -1 }

/-- `adjust_monotonic_time(base, tv)`: the timer after it and the new `*tv`. -/
def adjustMonotonicTime (base : MonotonicTimer) (tv : Timeval) :
    Option (MonotonicTimer × Timeval) := do
  let tv ← timeradd tv base.adjustMonotonicClock
  if timercmpLt tv base.lastTime then
    let adjust ← timersub base.lastTime tv
    let adj ← timeradd adjust base.adjustMonotonicClock
    pure ({ base with adjustMonotonicClock := adj, lastTime := base.lastTime }, base.lastTime)
  else pure ({ base with lastTime := tv }, tv)

/-- A `struct timespec` from `clock_gettime`. -/
structure Timespec where
  sec : Int
  nsec : Int

/-- `evutil_gettime_monotonic_(base, tp)`. `gettimeofday` and `clockGettime` are what the two
    system calls give, `none` when they fail. The result is the return value, the timer after
    the call and what was written to `*tp`. -/
def evutilGettimeMonotonic (base : MonotonicTimer) (gettimeofday : Option Timeval)
    (clockGettime : Option Timespec) : Option (Int × MonotonicTimer × Option Timeval) :=
  if base.monotonicClock < 0 then
    match gettimeofday with
    | none => some (-1, base, none)
    | some tp => do
      let (base, tp) ← adjustMonotonicTime base tp
      pure (0, base, some tp)
  else
    match clockGettime with
    | none => some (-1, base, none)
    | some ts => some (0, base, some ⟨ts.sec, ts.nsec.tdiv 1000⟩)

/-- Successive calls of `evutil_gettime_monotonic_` on the `gettimeofday` fallback, one reading
    each (`none` when `gettimeofday` fails): the timer after them and the times written to `tp`
    by the successful ones. -/
def gettimeRun (base : MonotonicTimer) : List (Option Timeval) → Option (MonotonicTimer × List Timeval)
  | [] => some (base, [])
  | g :: gs => do
    let (_, base, tp) ← evutilGettimeMonotonic base g none
    let (base, ts) ← gettimeRun base gs
    pure (base, tp.toList ++ ts)

/-! ## The clock it is meant to be -/

/-- The times a ratcheting clock returns, in microseconds, for successive readings: each goes
    forward by what the reading went forward, and stays when the reading went back. `t` and `r`
    are the last time and the last reading, both `0` for a new timer. -/
def ratchet (t r : Int) : List Int → List Int
  | [] => []
  | r' :: rs => (t + max 0 (r' - r)) :: ratchet (t + max 0 (r' - r)) r' rs

/-- How far successive readings went back in all, from the last reading `r`. -/
def backward (r : Int) : List Int → Int
  | [] => 0
  | r' :: rs => max 0 (r - r') + backward r' rs

theorem backward_nonneg : ∀ (r : Int) (rs : List Int), 0 ≤ backward r rs
  | _, [] => le_rfl
  | r, r' :: rs => by
    have := backward_nonneg r' rs
    simp only [backward]
    omega

/-- The ratchet never goes back. -/
theorem ratchet_chain : ∀ (t r : Int) (rs : List Int), (ratchet t r rs).Chain (· ≤ ·) t
  | _, _, [] => List.Chain.nil
  | t, r, r' :: rs => List.Chain.cons (by omega) (ratchet_chain _ r' rs)

/-! ## `long` arithmetic on normalised values -/

theorem inLong_of {v : Int} (h1 : LONG_MIN ≤ v) (h2 : v ≤ LONG_MAX) : inLong v = some v :=
  if_pos ⟨h1, h2⟩

section Arith

variable {a b : Timeval}

theorem timeradd_spec (ha : a.Normal) (hb : b.Normal) (hlo : LONG_MIN ≤ a.sec + b.sec)
    (hhi : a.sec + b.sec < LONG_MAX) :
    ∃ c, timeradd a b = some c ∧ c.Normal ∧ c.micros = a.micros + b.micros := by
  unfold Timeval.Normal at ha hb
  unfold LONG_MIN at hlo
  unfold LONG_MAX at hhi
  unfold timeradd
  rw [inLong_of (by unfold LONG_MIN; omega) (by unfold LONG_MAX; omega),
    inLong_of (v := a.usec + b.usec) (by unfold LONG_MIN; omega) (by unfold LONG_MAX; omega)]
  simp only [Option.bind_eq_bind, Option.some_bind]
  split_ifs with hu
  · rw [inLong_of (by unfold LONG_MIN; omega) (by unfold LONG_MAX; omega)]
    refine ⟨_, rfl, ?_, ?_⟩ <;> simp only [Timeval.Normal, Timeval.micros] <;> omega
  · refine ⟨_, rfl, ?_, ?_⟩ <;> simp only [Timeval.Normal, Timeval.micros] <;> omega

theorem timersub_spec (ha : a.Normal) (hb : b.Normal) (hlo : LONG_MIN < a.sec - b.sec)
    (hhi : a.sec - b.sec ≤ LONG_MAX) :
    ∃ c, timersub a b = some c ∧ c.Normal ∧ c.micros = a.micros - b.micros := by
  unfold Timeval.Normal at ha hb
  unfold LONG_MIN at hlo
  unfold LONG_MAX at hhi
  unfold timersub
  rw [inLong_of (by unfold LONG_MIN; omega) (by unfold LONG_MAX; omega),
    inLong_of (v := a.usec - b.usec) (by unfold LONG_MIN; omega) (by unfold LONG_MAX; omega)]
  simp only [Option.bind_eq_bind, Option.some_bind]
  split_ifs with hu
  · rw [inLong_of (by unfold LONG_MIN; omega) (by unfold LONG_MAX; omega)]
    refine ⟨_, rfl, ?_, ?_⟩ <;> simp only [Timeval.Normal, Timeval.micros] <;> omega
  · refine ⟨_, rfl, ?_, ?_⟩ <;> simp only [Timeval.Normal, Timeval.micros] <;> omega

/-- `evutil_timercmp(<)` on normalised values compares the times. -/
theorem timercmpLt_iff (ha : a.Normal) (hb : b.Normal) :
    timercmpLt a b = true ↔ a.micros < b.micros := by
  unfold Timeval.Normal at ha hb
  unfold timercmpLt Timeval.micros
  split_ifs with h <;> simp only [decide_eq_true_eq] <;> omega

theorem Timeval.micros_bounds (ha : a.Normal) :
    a.sec * 1000000 ≤ a.micros ∧ a.micros < a.sec * 1000000 + 1000000 := by
  unfold Timeval.Normal at ha
  unfold Timeval.micros
  omega

/-- Times within `2^62 - 1` seconds of `0`, on which `timeradd` and `timersub` cannot
    overflow. -/
def microsBound : Int := (2 ^ 62 - 1) * 1000000

theorem timeradd_micros (ha : a.Normal) (hb : b.Normal)
    (ha1 : -microsBound < a.micros) (ha2 : a.micros < microsBound)
    (hb1 : -microsBound < b.micros) (hb2 : b.micros < microsBound) :
    ∃ c, timeradd a b = some c ∧ c.Normal ∧ c.micros = a.micros + b.micros := by
  have := Timeval.micros_bounds ha
  have := Timeval.micros_bounds hb
  unfold microsBound at *
  exact timeradd_spec ha hb (by unfold LONG_MIN; omega) (by unfold LONG_MAX; omega)

theorem timersub_micros (ha : a.Normal) (hb : b.Normal)
    (ha1 : -microsBound < a.micros) (ha2 : a.micros < microsBound)
    (hb1 : -microsBound < b.micros) (hb2 : b.micros < microsBound) :
    ∃ c, timersub a b = some c ∧ c.Normal ∧ c.micros = a.micros - b.micros := by
  have := Timeval.micros_bounds ha
  have := Timeval.micros_bounds hb
  unfold microsBound at *
  exact timersub_spec ha hb (by unfold LONG_MIN; omega) (by unfold LONG_MAX; omega)

end Arith

/-! ## One call, and a run -/

/-- The fallback timer after readings whose last was `r` and last result `t`, in microseconds:
    `last_time` is `t` and `adjust_monotonic_clock` is `t - r ≥ 0`, both normalised. -/
structure RatchetInv (base : MonotonicTimer) (t r : Int) : Prop where
  clock : base.monotonicClock < 0
  last_normal : base.lastTime.Normal
  adjust_normal : base.adjustMonotonicClock.Normal
  last_eq : base.lastTime.micros = t
  adjust_eq : base.adjustMonotonicClock.micros = t - r
  adjust_nonneg : r ≤ t

/-- A `gettimeofday` reading within the bounds the ratchet is proved for: normalised, with
    `|tv_sec| ≤ 2^60`, far from the ends of `time_t`. -/
def Timeval.Reading (r : Timeval) : Prop := r.Normal ∧ -2 ^ 60 ≤ r.sec ∧ r.sec ≤ 2 ^ 60

instance : DecidablePred Timeval.Reading := fun _ => inferInstanceAs (Decidable (_ ∧ _))

theorem ratchetInv_new {c : Int} (hc : c < 0) :
    RatchetInv { evutilMonotonicTimerNew with monotonicClock := c } 0 0 :=
  ⟨hc, ⟨le_rfl, show (0 : Int) < 1000000 by decide⟩, ⟨le_rfl, show (0 : Int) < 1000000 by decide⟩,
    rfl, rfl, le_rfl⟩

/-- **One call.** `adjust_monotonic_time` on a reading `tv` returns the new `last_time`, which
    has gone forward by what the reading went forward, and keeps the invariant, as long as the
    readings have gone back by at most 2^61 seconds. -/
theorem adjustMonotonicTime_step {base : MonotonicTimer} {t r : Int} {tv : Timeval}
    (hinv : RatchetInv base t r) (hr : -2 ^ 60 * 1000000 ≤ r ∧ r < (2 ^ 60 + 1) * 1000000)
    (htv : tv.Reading) (hb : t - r + max 0 (r - tv.micros) ≤ 2 ^ 61 * 1000000) :
    ∃ base', adjustMonotonicTime base tv = some (base', base'.lastTime) ∧
      RatchetInv base' (t + max 0 (tv.micros - r)) tv.micros := by
  obtain ⟨hc, hL, hA, hLe, hAe, hle⟩ := hinv
  have htvμ : -2 ^ 60 * 1000000 ≤ tv.micros ∧ tv.micros < (2 ^ 60 + 1) * 1000000 := by
    obtain ⟨hN, h1, h2⟩ := htv
    have := Timeval.micros_bounds hN
    omega
  have hb1 : t - r ≤ 2 ^ 61 * 1000000 := le_trans (le_add_of_nonneg_right (le_max_left _ _)) hb
  have hb2 : r - tv.micros ≤ max 0 (r - tv.micros) := le_max_right _ _
  have hb2 : t - tv.micros ≤ 2 ^ 61 * 1000000 := by omega
  clear hb
  have hK : microsBound = (2 ^ 62 - 1) * 1000000 := rfl
  obtain ⟨v, hv, hvN, hvμ⟩ := timeradd_micros htv.1 hA (by omega) (by omega) (by omega) (by omega)
  unfold adjustMonotonicTime
  simp only [hv, Option.bind_eq_bind, Option.some_bind]
  by_cases hlt : timercmpLt v base.lastTime = true
  · -- the reading went back: `last_time` stays, the adjustment grows by what it went back
    have hback : tv.micros < r := by have := (timercmpLt_iff hvN hL).1 hlt; omega
    obtain ⟨d, hd, hdN, hdμ⟩ := timersub_micros hL hvN (by omega) (by omega) (by omega) (by omega)
    obtain ⟨a', ha', ha'N, ha'μ⟩ := timeradd_micros hdN hA (by omega) (by omega) (by omega)
      (by omega)
    simp only [hlt, if_true, hd, ha', Option.some_bind]
    rw [max_eq_left (by omega : tv.micros - r ≤ 0), add_zero]
    refine ⟨_, rfl, hc, hL, ha'N, hLe, ?_, ?_⟩ <;> dsimp only <;> omega
  · -- it went forward: `last_time` is the adjusted reading
    have hfwd : r ≤ tv.micros := by
      have : ¬ v.micros < base.lastTime.micros := fun h => hlt ((timercmpLt_iff hvN hL).2 h)
      omega
    simp only [hlt, Bool.false_eq_true, if_false]
    rw [max_eq_right (by omega : 0 ≤ tv.micros - r)]
    refine ⟨_, rfl, hc, hvN, hA, ?_, ?_, ?_⟩ <;> dsimp only <;> omega

/-- **A run.** From a timer in the invariant, successive calls give the ratchet of their
    successful readings, as long as these went back by at most 2^61 seconds in all. -/
theorem gettimeRun_ratchet : ∀ (gs : List (Option Timeval)) (base : MonotonicTimer) (t r : Int),
    RatchetInv base t r → (-2 ^ 60 * 1000000 ≤ r ∧ r < (2 ^ 60 + 1) * 1000000) →
    (∀ tv ∈ gs.reduceOption, tv.Reading) →
    t - r + backward r (gs.reduceOption.map Timeval.micros) ≤ 2 ^ 61 * 1000000 →
    ∃ base' ts, gettimeRun base gs = some (base', ts) ∧ (∀ tv ∈ ts, tv.Normal) ∧
      ts.map Timeval.micros = ratchet t r (gs.reduceOption.map Timeval.micros)
  | [], base, _, _, _, _, _, _ => ⟨base, [], rfl, by simp, rfl⟩
  | none :: gs, base, t, r, hinv, hr, hrs, hb => by
    simp only [List.reduceOption_cons_of_none] at hrs hb ⊢
    obtain ⟨base', ts, h, hN, hμ⟩ := gettimeRun_ratchet gs base t r hinv hr hrs hb
    refine ⟨base', ts, ?_, hN, hμ⟩
    simp [gettimeRun, evutilGettimeMonotonic, hinv.clock, h]
  | some tv :: gs, base, t, r, hinv, hr, hrs, hb => by
    simp only [List.reduceOption_cons_of_some, List.map_cons] at hrs hb ⊢
    simp only [backward] at hb
    obtain ⟨htv, hrs⟩ := List.forall_mem_cons.1 hrs
    have hb0 := backward_nonneg tv.micros (gs.reduceOption.map Timeval.micros)
    obtain ⟨base1, h1, hinv1⟩ := adjustMonotonicTime_step hinv hr htv (by omega)
    have btv := Timeval.micros_bounds htv.1
    obtain ⟨base', ts, h, hN, hμ⟩ := gettimeRun_ratchet gs base1 _ _ hinv1
      (by obtain ⟨-, h1, h2⟩ := htv; omega) hrs (by omega)
    refine ⟨base', base1.lastTime :: ts, ?_, ?_, ?_⟩
    · simp [gettimeRun, evutilGettimeMonotonic, hinv.clock, h1, h]
    · exact List.forall_mem_cons.2 ⟨hinv1.last_normal, hN⟩
    · rw [List.map_cons, hμ, hinv1.last_eq, ratchet]

/-! ## The fallback clock from a new timer -/

end Evutil
