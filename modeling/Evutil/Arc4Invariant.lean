/-
  The RC4 state of the secure random number generator stays a permutation.

  * `swapEntries_eq`: each swap is `s ∘ Equiv.swap a b`, so `arc4_addrandom` and
    `arc4_getbyte` keep `s` a permutation.
  * `Ready g`: initialised, `s` a permutation, no misuse so far; `Mixes g g'`: `g'` differs from
    `g` only in `rs` and `misuse`, and is ready if `g` is. The seeders mix.
  * `Arc4Ok g`: the invariant of every reachable state, kept by each API call
    (`arc4Step_ok`) and so by every run that has no undefined behaviour
    (`secure_rng_permutation`).
-/
import Evutil.Arc4Random

namespace Evutil

/-! ## Swaps keep a permutation -/

theorem swapEntries_eq (s : UInt8 → UInt8) (a b : UInt8) :
    swapEntries s a b = s ∘ Equiv.swap a b := by
  rw [Equiv.comp_swap_eq_update, swapEntries]
  by_cases h : a = b
  · subst h
    rfl
  · exact Function.update_comm h _ _ _

theorem swapEntries_bijective {s : UInt8 → UInt8} (hs : Function.Bijective s) (a b : UInt8) :
    Function.Bijective (swapEntries s a b) := by
  rw [swapEntries_eq]
  exact hs.comp (Equiv.swap a b).bijective

/-- A property kept by each step of a `foldl` holds at its end. -/
theorem foldl_invariant {α β : Type} (P : α → Prop) {f : α → β → α}
    (h : ∀ a b, P a → P (f a b)) : ∀ (l : List β) (a : α), P a → P (l.foldl f a)
  | [], _, ha => ha
  | b :: l, a, ha => foldl_invariant P h l (f a b) (h a b ha)

theorem arc4Addrandom_bijective {rs : Arc4Stream} (hs : Function.Bijective rs.s)
    (dat : List UInt8) (datlen : Nat) : Function.Bijective (arc4Addrandom dat datlen rs).s := by
  unfold arc4Addrandom
  dsimp only
  exact foldl_invariant (fun rs : Arc4Stream => Function.Bijective rs.s)
    (f := addrandomRound dat datlen) (fun _ _ h => swapEntries_bijective h _ _) _ _ hs

theorem arc4Getbyte_bijective {rs : Arc4Stream} (hs : Function.Bijective rs.s) :
    Function.Bijective (arc4Getbyte rs).1.s :=
  swapEntries_bijective hs _ _

/-! ## Ready globals, and the functions that only mix -/

/-- Globals on which `arc4_getbyte` and `arc4_addrandom` may run: initialised, `s` a
    permutation, and no misuse so far. -/
structure Ready (g : Arc4Globals) : Prop where
  initialized : g.rsInitialized = true
  perm : Function.Bijective g.rs.s
  clean : g.misuse = false

/-- `g'` differs from `g` only in `rs` and `misuse`, and is ready if `g` is. -/
def Mixes (g g' : Arc4Globals) : Prop :=
  (∃ rs m, g' = { g with rs := rs, misuse := m }) ∧ (Ready g → Ready g')

theorem Ready.withCount {g : Arc4Globals} (h : Ready g) (c : Int) :
    Ready { g with arc4Count := c } :=
  ⟨h.initialized, h.perm, h.clean⟩

theorem Ready.withTrace {g : Arc4Globals} (h : Ready g) (t : List Arc4Event) :
    Ready { g with trace := t } :=
  ⟨h.initialized, h.perm, h.clean⟩

theorem Mixes.refl (g : Arc4Globals) : Mixes g g := ⟨⟨g.rs, g.misuse, rfl⟩, id⟩

theorem Mixes.trans {g g' g'' : Arc4Globals} (h : Mixes g g') (h' : Mixes g' g'') :
    Mixes g g'' := by
  obtain ⟨⟨rs, m, rfl⟩, hr⟩ := h
  obtain ⟨⟨rs', m', rfl⟩, hr'⟩ := h'
  exact ⟨⟨rs', m', rfl⟩, hr' ∘ hr⟩

theorem mixes_getbyteG (g : Arc4Globals) : Mixes g (getbyteG g).1 :=
  ⟨⟨_, _, rfl⟩, fun h => ⟨h.initialized, arc4Getbyte_bijective h.perm,
    show (g.misuse || !g.rsInitialized) = false by rw [h.clean, h.initialized]; rfl⟩⟩

theorem addrandomG_rs (dat : List UInt8) (datlen : Nat) (g : Arc4Globals) :
    (addrandomG dat datlen g).rs = arc4Addrandom dat datlen g.rs := rfl

theorem mixes_addrandomG (dat : List UInt8) (datlen : Nat) (g : Arc4Globals) :
    Mixes g (addrandomG dat datlen g) :=
  ⟨⟨arc4Addrandom dat datlen g.rs, g.misuse || !g.rsInitialized, rfl⟩, fun h => ⟨h.initialized,
    by rw [addrandomG_rs]; exact arc4Addrandom_bijective h.perm _ _,
    show (g.misuse || !g.rsInitialized) = false by rw [h.clean, h.initialized]; rfl⟩⟩

theorem mixes_arc4SeedGetrandom (buf : Option (List UInt8)) (g : Arc4Globals) :
    Mixes g (arc4SeedGetrandom buf g).1 := by
  unfold arc4SeedGetrandom
  split
  · exact Mixes.refl g
  · split
    · exact Mixes.refl g
    · exact mixes_addrandomG _ _ g

theorem mixes_arc4SeedUrandom (buf : Option (List UInt8)) (g : Arc4Globals) :
    Mixes g (arc4SeedUrandom buf g).1 := by
  unfold arc4SeedUrandom
  split
  · exact Mixes.refl g
  · exact mixes_addrandomG _ _ g

theorem mixes_arc4SeedProcUuid :
    ∀ (reads : List (Option (List UInt8))) (g : Arc4Globals) (bytes : Nat),
      Mixes g (arc4SeedProcUuid g bytes reads).1
  | [], g, bytes => by
    unfold arc4SeedProcUuid
    split <;> exact Mixes.refl g
  | r :: reads, g, bytes => by
    unfold arc4SeedProcUuid
    split
    · exact Mixes.refl g
    · split
      · exact Mixes.refl g
      · split
        · exact Mixes.refl g
        · dsimp only
          split
          · exact Mixes.refl g
          · exact (mixes_addrandomG _ _ g).trans (mixes_arc4SeedProcUuid reads _ _)

theorem mixes_arc4Seed (env : SeedEnv) (g : Arc4Globals) : Mixes g (arc4Seed env g).1 := by
  have h1 := mixes_arc4SeedGetrandom env.getrandom g
  have h2 := h1.trans (mixes_arc4SeedUrandom env.urandom _)
  unfold arc4Seed
  dsimp only
  split
  · exact h2.trans (mixes_arc4SeedProcUuid _ _ _)
  · exact h2

theorem mixes_arc4Discard : ∀ (n : Nat) (g : Arc4Globals), Mixes g (arc4Discard n g)
  | 0, g => by rw [arc4Discard]; exact Mixes.refl g
  | n + 1, g => by rw [arc4Discard]; exact (mixes_getbyteG g).trans (mixes_arc4Discard n _)

/-! ## The invariant -/

/-- The invariant of every reachable state: once initialised, `s` is a permutation, and
    `arc4_getbyte` and `arc4_addrandom` have never run uninitialised. -/
structure Arc4Ok (g : Arc4Globals) : Prop where
  perm : g.rsInitialized = true → Function.Bijective g.rs.s
  clean : g.misuse = false

theorem Ready.ok {g : Arc4Globals} (h : Ready g) : Arc4Ok g := ⟨fun _ => h.perm, h.clean⟩

theorem Arc4Ok.ready {g : Arc4Globals} (h : Arc4Ok g) (hi : g.rsInitialized = true) : Ready g :=
  ⟨hi, h.perm hi, h.clean⟩

theorem stirReseed_ready (env : SeedEnv) {g : Arc4Globals} (h : Ready g) :
    Ready (stirReseed env g).1 := by
  have h1 := (mixes_arc4Seed env g).2 h
  unfold stirReseed
  dsimp only
  split
  · exact h1
  · exact ((mixes_arc4Discard (12 * 256) _).2 h1).withCount _

/-- `arc4_stir` leaves the globals ready, whatever the seeders give. -/
theorem arc4Stir_ready (env : Nat → SeedEnv) {g : Arc4Globals} (h : Arc4Ok g) :
    Ready (arc4Stir env g).1 := by
  unfold arc4Stir
  dsimp only
  apply stirReseed_ready
  split
  next => exact ⟨rfl, Function.bijective_id, h.clean⟩
  next hi =>
    have hi : g.rsInitialized = true := by simpa using hi
    exact ⟨hi, h.perm hi, h.clean⟩

theorem arc4StirIfNeeded_ready (env : Nat → SeedEnv) (pid : Int) {g : Arc4Globals}
    (h : Arc4Ok g) : Ready (arc4StirIfNeeded env pid g) := by
  unfold arc4StirIfNeeded
  split
  · exact arc4Stir_ready env ⟨h.perm, h.clean⟩
  · exact h.ready (by simp_all)

theorem arc4randomBufLoop_ready (env : Nat → SeedEnv) :
    ∀ (n : Nat) {g : Arc4Globals}, Ready g → Ready (arc4randomBufLoop env n g).1
  | 0, _, h => h
  | n + 1, g, h => by
    have h1 := h.withCount (g.arc4Count - 1)
    have h2 : Ready (if g.arc4Count - 1 ≤ 0 then
        (arc4Stir env { g with arc4Count := g.arc4Count - 1 }).1
        else { g with arc4Count := g.arc4Count - 1 }) := by
      split
      · exact arc4Stir_ready env h1.ok
      · exact h1
    exact arc4randomBufLoop_ready env n (((mixes_getbyteG _).2 h2).withTrace _)

theorem arc4randomAddrandom_ready (env : Nat → SeedEnv) (dat : List UInt8) (datlen : Int)
    {g g' : Arc4Globals} (h : Arc4Ok g) (h' : arc4randomAddrandom env dat datlen g = some g') :
    Ready g' := by
  have h1 : Ready (if g.rsInitialized = false then (arc4Stir env g).1 else g) := by
    split
    next => exact arc4Stir_ready env h
    next hi => exact h.ready (by simpa using hi)
  exact addrandomLoop_invariant Ready (fun _ _ g' hg => (mixes_addrandomG _ _ g').2 hg) _ _ _ _ _
    h1 h'

/-- Each API call keeps the invariant. -/
theorem arc4Step_ok (env : Nat → SeedEnv) {g : Arc4Globals} (h : Arc4Ok g) :
    ∀ op g', arc4Step env g op = some g' → Arc4Ok g'
  | .init, _, h' => Option.some.inj h' ▸ (arc4Stir_ready env h).ok
  | .getBytes pid n, _, h' => Option.some.inj h' ▸
    (arc4randomBufLoop_ready env n
      (arc4StirIfNeeded_ready env pid (g := { g with trace := g.trace ++ [.call pid] })
        ⟨h.perm, h.clean⟩)).ok
  | .addBytes _, _, h' => (arc4randomAddrandom_ready env _ _ h h').ok
  | .setUrandomDeviceFile _, _, h' => Option.some.inj h' ▸ ⟨h.perm, h.clean⟩

/-- **The RC4 state stays a permutation.** From the zeroed globals, in the state after any run
    of `evutil_secure_rng_init`, `evutil_secure_rng_get_bytes`, `evutil_secure_rng_add_bytes`
    and `evutil_secure_rng_set_urandom_device_file` that has no undefined behaviour, whatever the
    seeders give, `rs.s` is a permutation once `rs_initialized` is set, and `arc4_getbyte` and
    `arc4_addrandom` have only run with `rs_initialized` set. -/
theorem secure_rng_permutation (env : Nat → SeedEnv) (ops : List Arc4Op) (g : Arc4Globals)
    (h : arc4Run env arc4Globals0 ops = some g) :
    (g.rsInitialized = true → Function.Bijective g.rs.s) ∧ g.misuse = false := by
  have hg := arc4Run_invariant Arc4Ok (fun _ => True) (fun _ op g' hg _ h => arc4Step_ok env hg op g' h)
    ops arc4Globals0 g (fun _ _ => trivial) ⟨fun h => absurd h (by decide), rfl⟩ h
  exact ⟨hg.perm, hg.clean⟩

/-- A run that stirs and hands out four bytes. -/
theorem secure_rng_permutation_init :
    ∃ g, arc4Run (fun _ => ⟨some [1], none, []⟩) arc4Globals0 [.init, .getBytes 1 4] = some g ∧
      (g.rsInitialized = true → Function.Bijective g.rs.s) ∧ g.misuse = false :=
  ⟨_, rfl, secure_rng_permutation (fun _ => ⟨some [1], none, []⟩) [.init, .getBytes 1 4] _ rfl⟩

end Evutil
