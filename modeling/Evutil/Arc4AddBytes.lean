/-
  The loop of `arc4random_addrandom` over its input, with `j` an `int` as in the source.

  * `addrandomCalls`: the `(j, datlen - j)` of each `arc4_addrandom(dat + j, datlen - j)` call
    of `for (j = 0; j < datlen; j += 256)`, and whether a `j += 256` leaves `int`.
  * `addrandomCalls_eq`: the calls are `(256 k, datlen - 256 k)` for `k < ⌈datlen / 256⌉`, and
    only the last increment can overflow; `addrandomLoop_eq`: the loop of
    `arc4random_addrandom` makes exactly these calls, and is undefined when they overflow.
  * `arc4Addrandom_congr`: a call reads its `dat` only below its `datlen`.
  * `addrandom_loop_int_overflow`: for `datlen` in `[0, INT_MAX]`, every call has a positive
    length and reads only `[j, datlen)`, but the last `j += 256` overflows exactly when
    `datlen > INT_MAX - 255`, so that `evutil_secure_rng_add_bytes` is undefined exactly for
    `n > INT_MAX - 255` (`secure_rng_add_bytes_overflow`).
-/
import Evutil.Arc4Random

namespace Evutil

/-- The loop `for (j = 0; j < datlen; j += 256) arc4_addrandom(dat + j, datlen - j);` from `j`
    on: the `(j, datlen - j)` of each call, and whether a `j += 256` left the range of `int`,
    which is undefined behaviour (the loop is not followed past it). -/
def addrandomCalls (datlen j : Int) : List (Int × Int) × Bool :=
  if j < datlen then
    if (INT_MAX : Int) < j + 256 then ([(j, datlen - j)], true)
    else
      let r := addrandomCalls datlen (j + 256)
      ((j, datlen - j) :: r.1, r.2)
  else ([], false)
termination_by (datlen - j).toNat

/-- **The calls of the loop.** With `datlen ≤ INT_MAX`, from `j` the loop calls
    `arc4_addrandom` at `j + 256 k` for `k < ⌈(datlen - j) / 256⌉`, and overflows exactly when
    there is a call and the last one is followed by a `j` above `INT_MAX`. -/
theorem addrandomCalls_eq {datlen : Int} (hd : datlen ≤ INT_MAX) (j : Int) :
    addrandomCalls datlen j =
      ((List.range ((datlen - j + 255) / 256).toNat).map
          (fun k : Nat => (j + 256 * k, datlen - j - 256 * k)),
        decide (j < datlen ∧ (INT_MAX : Int) < j + 256 * ((datlen - j + 255) / 256))) := by
  induction j using addrandomCalls.induct datlen with
  | case1 j hj hover =>
    have hm : (datlen - j + 255) / 256 = 1 := by unfold INT_MAX at hd hover; omega
    rw [addrandomCalls, if_pos hj, if_pos hover, hm]
    simp [hj, hover, List.range_succ]
  | case2 j hj hover ih =>
    rw [addrandomCalls, if_pos hj, if_neg hover, ih]
    have hm : ((datlen - j + 255) / 256).toNat = ((datlen - (j + 256) + 255) / 256).toNat + 1 := by
      omega
    rw [hm, List.range_succ_eq_map, List.map_cons, List.map_map]
    simp only [Nat.cast_zero, mul_zero, add_zero, sub_zero, Prod.mk.injEq, List.cons.injEq,
      true_and, decide_eq_decide]
    constructor
    · refine List.map_congr_left fun k _ => ?_
      simp only [Function.comp, Nat.cast_succ, Prod.mk.injEq]
      constructor <;> ring
    · omega
  | case3 j hj =>
    rw [addrandomCalls, if_neg hj]
    have hm : ((datlen - j + 255) / 256).toNat = 0 := by omega
    simp [hm, hj]

/-- The loop of `arc4random_addrandom` makes the calls of `addrandomCalls`, and is undefined
    exactly when they overflow. -/
theorem addrandomLoop_eq (dat : List UInt8) (datlen j : Int) (g : Arc4Globals) :
    addrandomLoop dat datlen j g =
      if (addrandomCalls datlen j).2 then none
      else some ((addrandomCalls datlen j).1.foldl
        (fun g c => addrandomG (dat.drop c.1.toNat) c.2.toNat g) g) := by
  induction j, g using addrandomLoop.induct dat datlen with
  | case1 j g hj hover =>
    rw [addrandomLoop, addrandomCalls, if_pos hj, if_pos hover, if_pos hj, if_pos hover, if_pos rfl]
  | case2 j g hj _ hover ih =>
    rw [addrandomLoop, addrandomCalls, if_pos hj, if_neg hover, if_pos hj, if_neg hover]
    exact ih
  | case3 j g hj =>
    rw [addrandomLoop, addrandomCalls, if_neg hj, if_neg hj]
    rfl

/-- `arc4_addrandom(dat, datlen)` reads `dat` only below `datlen`: `dat[n % datlen]`. -/
theorem arc4Addrandom_congr {dat dat' : List UInt8} {datlen : Nat} (hpos : 0 < datlen)
    (h : ∀ i < datlen, dat.getD i 0 = dat'.getD i 0) (rs : Arc4Stream) :
    arc4Addrandom dat datlen rs = arc4Addrandom dat' datlen rs := by
  have hround : addrandomRound dat datlen = addrandomRound dat' datlen := by
    funext rs n
    rw [addrandomRound, addrandomRound, h _ (Nat.mod_lt n hpos)]
  rw [arc4Addrandom, arc4Addrandom, hround]

/-- **The loop over `datlen` in `[0, INT_MAX]`.** It makes `⌈datlen / 256⌉` calls, each with a
    positive length and reading only `[j, datlen)` of the input, but its last `j += 256`
    overflows `int` exactly when `datlen > INT_MAX - 255`. -/
theorem addrandom_loop_int_overflow (datlen : Int) (h0 : 0 ≤ datlen) (h1 : datlen ≤ INT_MAX) :
    ((addrandomCalls datlen 0).1.length : Int) = (datlen + 255) / 256 ∧
    (∀ c ∈ (addrandomCalls datlen 0).1, 0 ≤ c.1 ∧ 0 < c.2 ∧ c.1 + c.2 = datlen ∧
      ∀ dat dat' : List UInt8, (∀ i : Nat, c.1 ≤ i → i < datlen → dat.getD i 0 = dat'.getD i 0) →
        ∀ rs, arc4Addrandom (dat.drop c.1.toNat) c.2.toNat rs =
          arc4Addrandom (dat'.drop c.1.toNat) c.2.toNat rs) ∧
    ((addrandomCalls datlen 0).2 = true ↔ (INT_MAX : Int) - 255 < datlen) := by
  rw [addrandomCalls_eq h1]
  refine ⟨by simp; omega, ?_, ?_⟩
  · intro c hc
    simp only [List.mem_map, List.mem_range] at hc
    obtain ⟨k, hk, rfl⟩ := hc
    refine ⟨by omega, by omega, by ring, fun dat dat' h rs => arc4Addrandom_congr (by omega)
      (fun i hi => ?_) rs⟩
    rw [List.getD_eq_getElem?_getD, List.getD_eq_getElem?_getD, List.getElem?_drop,
      List.getElem?_drop, ← List.getD_eq_getElem?_getD, ← List.getD_eq_getElem?_getD]
    exact h _ (by omega) (by omega)
  · simp only [decide_eq_true_eq]
    unfold INT_MAX at h1 ⊢
    omega

/-- At `INT_MAX`, the length `evutil_secure_rng_add_bytes` passes for every `n ≥ INT_MAX`. -/
theorem addrandom_loop_int_max :
    (0 ≤ (INT_MAX : Int) ∧ (INT_MAX : Int) ≤ INT_MAX) ∧
    (((addrandomCalls INT_MAX 0).1.length : Int) = (INT_MAX + 255) / 256 ∧
    (∀ c ∈ (addrandomCalls INT_MAX 0).1, 0 ≤ c.1 ∧ 0 < c.2 ∧ c.1 + c.2 = INT_MAX ∧
      ∀ dat dat' : List UInt8,
        (∀ i : Nat, c.1 ≤ i → (i : Int) < (INT_MAX : Int) → dat.getD i 0 = dat'.getD i 0) →
        ∀ rs, arc4Addrandom (dat.drop c.1.toNat) c.2.toNat rs =
          arc4Addrandom (dat'.drop c.1.toNat) c.2.toNat rs) ∧
    ((addrandomCalls INT_MAX 0).2 = true ↔ (INT_MAX : Int) - 255 < INT_MAX)) :=
  ⟨⟨by decide, le_rfl⟩, addrandom_loop_int_overflow INT_MAX (by decide) le_rfl⟩

/-- **Undefined behaviour in `evutil_secure_rng_add_bytes`.** Whatever the globals, the call
    is undefined exactly when the buffer has more than `INT_MAX - 255` bytes: it passes their
    number clamped to `INT_MAX`, and the last `j += 256` of the loop then overflows. -/
theorem secure_rng_add_bytes_overflow (env : Nat → SeedEnv) (dat : List UInt8) (g : Arc4Globals) :
    evutilSecureRngAddBytes env dat g = none ↔ INT_MAX - 255 < dat.length := by
  unfold evutilSecureRngAddBytes arc4randomAddrandom
  rw [addrandomLoop_eq, addrandomCalls_eq (by split <;> omega)]
  simp only [decide_eq_true_eq]
  unfold INT_MAX
  split_ifs <;> simp only [reduceCtorEq, iff_false, iff_true, true_iff, false_iff] <;> omega

end Evutil
