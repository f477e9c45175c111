/-
  The weak random number generator of `evutil.c`: `evutil_weakrand_seed_`, `evutil_weakrand_`
  and `evutil_weakrand_range_`.

  * `evutilWeakrand` reads, in `ZMod (2 ^ 31)`, as the linear congruential generator `lcg`
    whatever the 32-bit seed (`evutilWeakrand_seed`).
  * `lcg` has full period: from every state it returns after `2 ^ 31` steps and not before
    (`lcg_minimalPeriod`, by Hull and Dobell's conditions for the modulus `2 ^ 31`), so it
    reaches every value within `2 ^ 31` steps (`lcg_reaches`).
  * The rejection loop of `evutil_weakrand_range_` therefore returns within `2 ^ 31` calls of
    `evutil_weakrand_`, and its result is in range (`weakrand_range_terminates`).
-/
import Mathlib.Data.ZMod.Basic
import Mathlib.Dynamics.PeriodicPts
import Mathlib.Tactic.LinearCombination

namespace Evutil

/-- `EVUTIL_WEAKRAND_MAX`, defined in `util-internal.h`. -/
def EVUTIL_WEAKRAND_MAX : Int := 0x7fffffff

/-- `struct evutil_weakrand_state`. -/
structure EvutilWeakrandState where
  seed : UInt32
deriving DecidableEq, Repr

/-- `evutil_weakrand_seed_(state, seed)`, with `(uint32_t)tv.tv_sec`, `(uint32_t)tv.tv_usec`
    and `(uint32_t)getpid()` as `tvSec`, `tvUsec` and `pid`: the state and the seed returned. -/
def evutilWeakrandSeed (tvSec tvUsec pid seed : UInt32) : EvutilWeakrandState × UInt32 :=
  let seed := if seed = 0 then tvSec + tvUsec + pid else seed
  (⟨seed⟩, seed)

/-- `evutil_weakrand_(state)`: the state and the `int32_t` returned. -/
def evutilWeakrand (state : EvutilWeakrandState) : EvutilWeakrandState × Int :=
  let seed := (state.seed * 1103515245 + 12345) &&& 0x7fffffff
  (⟨seed⟩, seed.toNat)

/-- The `do ... while (result >= top)` loop of `evutil_weakrand_range_`, with room for `fuel`
    more calls of `evutil_weakrand_`; `none` when they run out. -/
def weakrandRangeLoop (divisor top : Int) :
    Nat → EvutilWeakrandState → Option (EvutilWeakrandState × Int)
  | 0, _ => none
  | fuel + 1, state =>
    let r := evutilWeakrand state
    let result := r.2.tdiv divisor
    if result ≥ top then weakrandRangeLoop divisor top fuel r.1 else some (r.1, result)

/-- `evutil_weakrand_range_(state, top)`, allowed `fuel` calls of `evutil_weakrand_`. -/
def evutilWeakrandRange (fuel : Nat) (state : EvutilWeakrandState) (top : Int) :
    Option (EvutilWeakrandState × Int) :=
  weakrandRangeLoop (EVUTIL_WEAKRAND_MAX.tdiv top) top fuel state

/-! ## The generator in `ZMod (2 ^ 31)` -/

/-- The generator of `evutil_weakrand_`: `x ↦ 1103515245 * x + 12345` modulo `2 ^ 31`. -/
def lcg (x : ZMod (2 ^ 31)) : ZMod (2 ^ 31) := 1103515245 * x + 12345

theorem evutilWeakrand_toNat (x : UInt32) :
    ((x * 1103515245 + 12345) &&& 0x7fffffff).toNat =
      (x.toNat * 1103515245 + 12345) % 2 ^ 31 := by
  have h : 2 ^ 31 ∣ 2 ^ 32 := by norm_num
  rw [UInt32.and_toNat]
  show (x.toBitVec * 1103515245 + 12345).toNat &&& 2 ^ 31 - 1 = _
  rw [Nat.and_pow_two_sub_one_eq_mod, BitVec.toNat_add, BitVec.toNat_mul, Nat.mod_mod_of_dvd _ h]
  show (x.toNat * 1103515245 % 2 ^ 32 + 12345) % 2 ^ 31 = _
  rw [Nat.add_mod, Nat.mod_mod_of_dvd _ h, ← Nat.add_mod]

/-- `evutil_weakrand_` is `lcg` on the seed read in `ZMod (2 ^ 31)`, also for a first seed of
    `2 ^ 31` or more, and leaves a seed below `2 ^ 31`, which it returns. -/
theorem evutilWeakrand_seed (state : EvutilWeakrandState) :
    ((evutilWeakrand state).1.seed.toNat : ZMod (2 ^ 31)) = lcg state.seed.toNat ∧
      (evutilWeakrand state).1.seed.toNat < 2 ^ 31 := by
  show (((state.seed * 1103515245 + 12345) &&& 0x7fffffff).toNat : ZMod (2 ^ 31)) = _ ∧
    ((state.seed * 1103515245 + 12345) &&& 0x7fffffff).toNat < 2 ^ 31
  rw [evutilWeakrand_toNat, ZMod.natCast_mod, lcg]
  push_cast
  exact ⟨by ring, Nat.mod_lt _ (by norm_num)⟩

example : evutilWeakrand ⟨1⟩ = (⟨1103527590⟩, 1103527590) := by decide

/-! ## Full period -/

/-- The coefficients `(b, d)` of `x ↦ b * x + d`, the map of `2 ^ k` steps of `lcg`. -/
def lcgDoubled : ℕ → ZMod (2 ^ 31) × ZMod (2 ^ 31)
  | 0 => (1103515245, 12345)
  | k + 1 => ((lcgDoubled k).1 * (lcgDoubled k).1, ((lcgDoubled k).1 + 1) * (lcgDoubled k).2)

theorem lcg_iterate_two_pow (k : ℕ) (x : ZMod (2 ^ 31)) :
    lcg^[2 ^ k] x = (lcgDoubled k).1 * x + (lcgDoubled k).2 := by
  induction k generalizing x with
  | zero => rfl
  | succ k ih =>
    rw [pow_succ 2 k, mul_two, Function.iterate_add_apply, ih, ih]
    simp only [lcgDoubled]
    ring

/-- Hull and Dobell's conditions at work: the multiplier is `1` modulo `4` and the increment
    odd, so `2 ^ k` steps multiply by `1` modulo `2 ^ (k + 2)` and add `2 ^ k` times an odd
    number. -/
theorem lcgDoubled_form (k : ℕ) : ∃ t s : ZMod (2 ^ 31),
    (lcgDoubled k).1 = 1 + 2 ^ (k + 2) * t ∧ (lcgDoubled k).2 = 2 ^ k * (2 * s + 1) := by
  induction k with
  | zero =>
    refine ⟨275878811, 6172, ?_, ?_⟩ <;> simp only [lcgDoubled] <;> norm_num
  | succ k ih =>
    obtain ⟨t, s, ht, hs⟩ := ih
    refine ⟨t + 2 ^ (k + 1) * t * t, s + 2 ^ k * t * (2 * s + 1), ?_, ?_⟩
    · simp only [lcgDoubled, ht]
      ring
    · simp only [lcgDoubled, ht, hs]
      ring

theorem two_pow_31_eq_zero : (2 : ZMod (2 ^ 31)) ^ 31 = 0 := by decide

theorem lcg_iterate_two_pow_31 (x : ZMod (2 ^ 31)) : lcg^[2 ^ 31] x = x := by
  obtain ⟨t, s, ht, hs⟩ := lcgDoubled_form 31
  rw [lcg_iterate_two_pow, ht, hs]
  linear_combination (4 * t * x + 2 * s + 1) * two_pow_31_eq_zero

theorem lcg_iterate_two_pow_30 (x : ZMod (2 ^ 31)) : lcg^[2 ^ 30] x = x + 2 ^ 30 := by
  obtain ⟨t, s, ht, hs⟩ := lcgDoubled_form 30
  rw [lcg_iterate_two_pow, ht, hs]
  linear_combination (2 * t * x + s) * two_pow_31_eq_zero

/-- From every state, `lcg` returns after `2 ^ 31` steps and not before. -/
theorem lcg_minimalPeriod (x : ZMod (2 ^ 31)) : Function.minimalPeriod lcg x = 2 ^ 31 := by
  have : Fact (Nat.Prime 2) := ⟨Nat.prime_two⟩
  apply Function.minimalPeriod_eq_prime_pow (k := 30)
  · intro h
    have h' : x + 2 ^ 30 = x := (lcg_iterate_two_pow_30 x).symm.trans h
    exact absurd (add_right_eq_self.1 h') (by decide)
  · exact lcg_iterate_two_pow_31 x

/-- From every state, `lcg` reaches every value in fewer than `2 ^ 31` steps. -/
theorem lcg_reaches (x y : ZMod (2 ^ 31)) : ∃ k < 2 ^ 31, lcg^[k] x = y := by
  have hlt : ∀ k : Fin (2 ^ 31), (k : ℕ) ∈ Set.Iio (Function.minimalPeriod lcg x) := fun k => by
    rw [lcg_minimalPeriod]
    exact k.2
  have hinj : Function.Injective fun k : Fin (2 ^ 31) => lcg^[k] x := fun i j h =>
    Fin.ext (Function.iterate_injOn_Iio_minimalPeriod (hlt i) (hlt j) h)
  have hbij := (Fintype.bijective_iff_injective_and_card _).2
    ⟨hinj, by rw [Fintype.card_fin, ZMod.card]⟩
  obtain ⟨k, hk⟩ := hbij.2 y
  exact ⟨k, k.2, hk⟩

/-! ## The rejection loop -/

/-- The loop returns a result in `[0, top)` when, within its fuel, `evutil_weakrand_` gives a
    seed of `0`, which every `top > 0` accepts. -/
theorem weakrandRangeLoop_returns {divisor top : Int} (hd : 0 < divisor) (ht : 0 < top) :
    ∀ (fuel : Nat) (state : EvutilWeakrandState),
      (∃ j < fuel, lcg^[j + 1] (state.seed.toNat : ZMod (2 ^ 31)) = 0) →
      ∃ state' r, weakrandRangeLoop divisor top fuel state = some (state', r) ∧ 0 ≤ r ∧ r < top
  | 0, _, ⟨j, hj, _⟩ => absurd hj (Nat.not_lt_zero j)
  | fuel + 1, state, ⟨j, hj, hz⟩ => by
    obtain ⟨hs, hlt⟩ := evutilWeakrand_seed state
    rw [weakrandRangeLoop]
    split
    next hge =>
      cases j with
      | zero =>
        rw [Function.iterate_one, ← hs, ZMod.natCast_zmod_eq_zero_iff_dvd] at hz
        have h0 : ((evutilWeakrand state).1.seed.toNat : Int) = 0 := by
          exact_mod_cast Nat.eq_zero_of_dvd_of_lt hz hlt
        rw [show (evutilWeakrand state).2 = (evutilWeakrand state).1.seed.toNat from rfl, h0,
          Int.zero_tdiv] at hge
        omega
      | succ j =>
        refine weakrandRangeLoop_returns hd ht fuel _ ⟨j, by omega, ?_⟩
        rwa [hs, ← Function.iterate_succ_apply]
    next hlt' =>
      exact ⟨_, _, rfl, Int.tdiv_nonneg (Int.natCast_nonneg (evutilWeakrand state).1.seed.toNat) hd.le,
        by omega⟩

/-- **`evutil_weakrand_range_` ends and stays in range.** For every 32-bit seed and every
    `1 ≤ top ≤ EVUTIL_WEAKRAND_MAX`, it returns within `2 ^ 31` calls of `evutil_weakrand_`,
    with a result `r` such that `0 ≤ r < top`. -/
theorem weakrand_range_terminates (seed : UInt32) (top : Int) (h1 : 1 ≤ top)
    (h2 : top ≤ EVUTIL_WEAKRAND_MAX) :
    ∃ state r, evutilWeakrandRange (2 ^ 31) ⟨seed⟩ top = some (state, r) ∧ 0 ≤ r ∧ r < top := by
  obtain ⟨k, hk, hz⟩ := lcg_reaches (lcg (seed.toNat : ZMod (2 ^ 31))) 0
  have hd : 0 < EVUTIL_WEAKRAND_MAX.tdiv top := by
    rw [Int.tdiv_eq_ediv (by decide) (by omega)]
    exact Int.le_ediv_of_mul_le (by omega) (by omega)
  exact weakrandRangeLoop_returns hd (by omega) _ _
    ⟨k, hk, by rwa [Function.iterate_succ_apply]⟩

theorem weakrand_range_ten :
    (1 : Int) ≤ 10 ∧ (10 : Int) ≤ EVUTIL_WEAKRAND_MAX ∧
      ∃ state r, evutilWeakrandRange (2 ^ 31) ⟨0⟩ 10 = some (state, r) ∧ 0 ≤ r ∧ r < 10 :=
  ⟨by decide, by decide, weakrand_range_terminates 0 10 (by decide) (by decide)⟩

end Evutil
