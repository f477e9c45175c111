/-
  The secure random number generator: `arc4random.c` as `evutil_rand.c` includes it, with its
  globals `rs_initialized`, `rs`, `arc4_stir_pid`, `arc4_count`, `arc4random_urandom_filename`.

  * `Arc4Stream`, `arc4Init`, `arc4Addrandom`, `arc4Getbyte`: the RC4 state and the three
    functions that change it; `s` is the function from index to entry, and each swap is
    `swapEntries`.
  * `arc4SeedGetrandom`, `arc4SeedUrandom`, `arc4SeedProcUuid`, `arc4Seed`: the seeders, with
    what the system gives them (`SeedEnv`) as a parameter.
  * `Arc4Globals`, `arc4Stir`, `arc4StirIfNeeded`, `arc4randomBuf`, `arc4randomAddrandom`: the
    functions on the globals; `evutilSecureRngInit`, `evutilSecureRngGetBytes`,
    `evutilSecureRngAddBytes`, `evutilSecureRngSetUrandomDeviceFile`: the API, and `arc4Run`,
    a run of API calls from the zeroed globals, `none` when one of them has undefined
    behaviour, which only the `int` loop of `arc4random_addrandom` (`addrandomLoop`) can have.
  * `arc4Run_invariant`: what every call keeps, every run keeps; `arc4Run_ne_none`: a run
    whose `add_bytes` calls pass at most `INT_MAX - 255` bytes is defined.

  `Arc4Globals` has three ghost fields that no code reads: `stirs` counts the `arc4_stir` calls
  and picks the seeder input of each, `misuse` records an `arc4_getbyte` or `arc4_addrandom`
  run while `rs_initialized` is `0`, and `trace` the calls, stirs and bytes handed out.
-/
import Mathlib.Logic.Equiv.Basic
import Evutil.CLib

namespace Evutil

def ADD_ENTROPY : Nat := 32

def BYTES_BEFORE_RESEED : Int := 1600000

/-- `INT_MAX` on Linux. -/
def INT_MAX : Nat := 2 ^ 31 - 1

/-! ## The RC4 state -/

/-- `struct arc4_stream`, `s[n]` as `s n`. -/
structure Arc4Stream where
  i : UInt8
  j : UInt8
  s : UInt8 → UInt8

/-- `s` after `s[a] = s[b]; s[b] = s_a;` with `s_a` the old `s[a]`. -/
def swapEntries (s : UInt8 → UInt8) (a b : UInt8) : UInt8 → UInt8 :=
  Function.update (Function.update s a (s b)) b (s a)

/-- `arc4_init()`: `s[n] = n`, `i = j = 0`. -/
def arc4Init : Arc4Stream := ⟨0, 0, id⟩

/-- Round `n` of the loop of `arc4_addrandom(dat, datlen)`. -/
def addrandomRound (dat : List UInt8) (datlen : Nat) (rs : Arc4Stream) (n : Nat) : Arc4Stream :=
  let i := rs.i + 1
  let si := rs.s i
  let j := rs.j + si + dat.getD (n % datlen) 0
  ⟨i, j, swapEntries rs.s i j⟩

/-- `arc4_addrandom(dat, datlen)`. Irreducible, so that comparing globals never runs its 256
    rounds. -/
@[irreducible] def arc4Addrandom (dat : List UInt8) (datlen : Nat) (rs : Arc4Stream) : Arc4Stream :=
  let rs := (List.range 256).foldl (addrandomRound dat datlen) { rs with i := rs.i - 1 }
  { rs with j := rs.i }

/-- `arc4_getbyte()`: the stream after it and the byte; `(si + sj) & 0xff` is the sum of
    the two bytes modulo 256. -/
def arc4Getbyte (rs : Arc4Stream) : Arc4Stream × UInt8 :=
  let i := rs.i + 1
  let si := rs.s i
  let j := rs.j + si
  let sj := rs.s j
  let s := swapEntries rs.s i j
  (⟨i, j, s⟩, s (si + sj))

/-! ## The globals -/

/-- What `arc4random.c` records in the ghost trace. -/
inductive Arc4Event where
  /-- A call of `evutil_secure_rng_get_bytes`, with what `getpid()` returns in it. -/
  | call (pid : Int)
  /-- A call of `arc4_stir`. -/
  | stir
  /-- A byte written to the caller's buffer. -/
  | byte
deriving DecidableEq, Repr

/-- The globals of `arc4random.c`, `arc4random_urandom_filename` by whether it is set, and the
    ghost fields `stirs`, `misuse` and `trace`. -/
structure Arc4Globals where
  rsInitialized : Bool
  rs : Arc4Stream
  arc4StirPid : Int
  arc4Count : Int
  urandomFilename : Bool
  stirs : Nat
  misuse : Bool
  trace : List Arc4Event

/-- The globals before any call: all zero. -/
def arc4Globals0 : Arc4Globals := ⟨false, ⟨0, 0, fun _ => 0⟩, 0, 0, false, 0, false, []⟩

/-- `arc4_getbyte()` on the globals. -/
def getbyteG (g : Arc4Globals) : Arc4Globals × UInt8 :=
  let r := arc4Getbyte g.rs
  ({ g with rs := r.1, misuse := g.misuse || !g.rsInitialized }, r.2)

/-- `arc4_addrandom(dat, datlen)` on the globals. -/
def addrandomG (dat : List UInt8) (datlen : Nat) (g : Arc4Globals) : Arc4Globals :=
  { g with rs := arc4Addrandom dat datlen g.rs, misuse := g.misuse || !g.rsInitialized }

/-! ## Seeding -/

/-- What the system gives one `arc4_seed` call. -/
structure SeedEnv where
  /-- `buf` after `getrandom`, or `none` when it returned `0`. -/
  getrandom : Option (List UInt8)
  /-- The `ADD_ENTROPY` bytes that `read_all` got from the device file `arc4_seed_urandom`
      used, or `none` when no file gave them all. -/
  urandom : Option (List UInt8)
  /-- What the successive reads of `/proc/sys/kernel/random/uuid` gave, `none` when the
      open failed; the list ends where the opens fail. -/
  uuid : List (Option (List UInt8))

/-- `arc4_seed_getrandom()`. -/
def arc4SeedGetrandom (buf : Option (List UInt8)) (g : Arc4Globals) : Arc4Globals × Int :=
  match buf with
  | none => (g, -1)
  | some b => if b.all (· == 0) then (g, -1) else (addrandomG b ADD_ENTROPY g, 0)

/-- `arc4_seed_urandom()`. -/
def arc4SeedUrandom (buf : Option (List UInt8)) (g : Arc4Globals) : Arc4Globals × Int :=
  match buf with
  | none => (g, -1)
  | some b => (addrandomG b ADD_ENTROPY g, 0)

/-- `evutil_hex_char_to_int_(c)`: the value of a hex digit, `-1` for another byte. -/
def evutilHexCharToInt (c : UInt8) : Int :=
  match digitVal 16 c with
  | some d => d
  | none => -1

/-- The decoding loop of `arc4_seed_proc_sys_kernel_random_uuid`: `entropy` after it, the hex
    digits of `buf` packed two to a byte, the first in the high half, and `nybbles`. -/
def uuidEntropy (buf : List UInt8) : List UInt8 × Nat :=
  let nybs := (buf.filter evutilIsxdigit).map fun c => (evutilHexCharToInt c).toNat
  ((List.range 64).map fun k => (nybs.getD (2 * k) 0 <<< 4 ||| nybs.getD (2 * k + 1) 0).toUInt8,
    nybs.length)

/-- `arc4_seed_proc_sys_kernel_random_uuid()` from `bytes` decoded so far, with the reads
    still to come. -/
def arc4SeedProcUuid (g : Arc4Globals) (bytes : Nat) :
    List (Option (List UInt8)) → Arc4Globals × Int
  | [] => if ADD_ENTROPY ≤ bytes then (g, 0) else (g, -1)
  | r :: rs =>
    if ADD_ENTROPY ≤ bytes then (g, 0)
    else match r with
      | none => (g, -1)
      | some buf =>
        if buf.length = 0 then (g, -1)
        else
          let e := uuidEntropy buf
          if e.2 < 2 then (g, -1)
          else arc4SeedProcUuid (addrandomG e.1 (e.2 / 2) g) (bytes + e.2 / 2) rs

/-- `arc4_seed()`: every seeder runs, and it succeeds if one of them did. -/
def arc4Seed (env : SeedEnv) (g : Arc4Globals) : Arc4Globals × Int :=
  let r1 := arc4SeedGetrandom env.getrandom g
  let r2 := arc4SeedUrandom env.urandom r1.1
  let r3 := if !r2.1.urandomFilename then arc4SeedProcUuid r2.1 0 env.uuid else (r2.1, -1)
  (r3.1, if r1.2 = 0 ∨ r2.2 = 0 ∨ r3.2 = 0 then 0 else -1)

/-! ## Stirring, and the API -/

/-- `n` calls of `arc4_getbyte()` whose bytes are dropped. Irreducible, like `arc4Addrandom`. -/
@[irreducible] def arc4Discard : Nat → Arc4Globals → Arc4Globals
  | 0, g => g
  | n + 1, g => arc4Discard n (getbyteG g).1

/-- The rest of `arc4_stir()` once `rs` is initialised: seed, drop `12*256` bytes, and set
    `arc4_count`, unless the seeding failed. -/
def stirReseed (env : SeedEnv) (g : Arc4Globals) : Arc4Globals × Int :=
  let r := arc4Seed env g
  if r.2 ≠ 0 then (r.1, -1)
  else ({ arc4Discard (12 * 256) r.1 with arc4Count := BYTES_BEFORE_RESEED }, 0)

/-- `arc4_stir()`, the `k`-th, seeded from `env k`. -/
def arc4Stir (env : Nat → SeedEnv) (g : Arc4Globals) : Arc4Globals × Int :=
  let k := g.stirs
  let g := { g with stirs := k + 1, trace := g.trace ++ [.stir] }
  stirReseed (env k)
    (if !g.rsInitialized then { g with rs := arc4Init, rsInitialized := true } else g)

/-- `arc4_stir_if_needed()`, with `getpid()` returning `pid`. -/
def arc4StirIfNeeded (env : Nat → SeedEnv) (pid : Int) (g : Arc4Globals) : Arc4Globals :=
  if g.arc4Count ≤ 0 ∨ g.rsInitialized = false ∨ g.arc4StirPid ≠ pid then
    (arc4Stir env { g with arc4StirPid := pid }).1
  else g

/-- The `while (n--)` loop of `arc4random_buf`: the globals after it and the buffer, whose
    byte at index `n` is written first. -/
def arc4randomBufLoop (env : Nat → SeedEnv) : Nat → Arc4Globals → Arc4Globals × List UInt8
  | 0, g => (g, [])
  | n + 1, g =>
    let g := { g with arc4Count := g.arc4Count - 1 }
    let g := if g.arc4Count ≤ 0 then (arc4Stir env g).1 else g
    let r := getbyteG g
    let rest := arc4randomBufLoop env n { r.1 with trace := r.1.trace ++ [.byte] }
    (rest.1, rest.2 ++ [r.2])

/-- `arc4random_buf(buf, n)`. -/
def arc4randomBuf (env : Nat → SeedEnv) (pid : Int) (n : Nat) (g : Arc4Globals) :
    Arc4Globals × List UInt8 :=
  arc4randomBufLoop env n (arc4StirIfNeeded env pid g)

/-- The loop `for (j = 0; j < datlen; j += 256) arc4_addrandom(dat + j, datlen - j);` of
    `arc4random_addrandom` from `j` on, with `j` an `int`: `none` when a `j += 256` leaves
    `int`, which is undefined behaviour. -/
def addrandomLoop (dat : List UInt8) (datlen j : Int) (g : Arc4Globals) : Option Arc4Globals :=
  if j < datlen then
    let g := addrandomG (dat.drop j.toNat) (datlen - j).toNat g
    if (INT_MAX : Int) < j + 256 then none else addrandomLoop dat datlen (j + 256) g
  else some g
termination_by (datlen - j).toNat

/-- `arc4random_addrandom(dat, datlen)`. -/
def arc4randomAddrandom (env : Nat → SeedEnv) (dat : List UInt8) (datlen : Int)
    (g : Arc4Globals) : Option Arc4Globals :=
  addrandomLoop dat datlen 0 (if g.rsInitialized = false then (arc4Stir env g).1 else g)

/-- `evutil_secure_rng_init()`. -/
def evutilSecureRngInit (env : Nat → SeedEnv) (g : Arc4Globals) : Arc4Globals × Int :=
  let r := arc4Stir env g
  (r.1, if r.2 = 0 then 0 else -1)

/-- `evutil_secure_rng_get_bytes(buf, n)`, with `getpid()` returning `pid`: the globals and the
    buffer. -/
def evutilSecureRngGetBytes (env : Nat → SeedEnv) (pid : Int) (n : Nat) (g : Arc4Globals) :
    Arc4Globals × List UInt8 :=
  arc4randomBuf env pid n { g with trace := g.trace ++ [.call pid] }

/-- `evutil_secure_rng_add_bytes(dat, dat.length)`: the length clamped to `INT_MAX`. -/
def evutilSecureRngAddBytes (env : Nat → SeedEnv) (dat : List UInt8) (g : Arc4Globals) :
    Option Arc4Globals :=
  arc4randomAddrandom env dat (if INT_MAX < dat.length then INT_MAX else dat.length : Nat) g

/-- `evutil_secure_rng_set_urandom_device_file(fname)`, `set` whether `fname` is not `NULL`. -/
def evutilSecureRngSetUrandomDeviceFile (set : Bool) (g : Arc4Globals) : Arc4Globals :=
  { g with urandomFilename := set }

/-- A call of the secure RNG's API, with what `getpid()` returns in it. -/
inductive Arc4Op where
  | init
  | getBytes (pid : Int) (n : Nat)
  | addBytes (dat : List UInt8)
  | setUrandomDeviceFile (set : Bool)

/-- One API call on the globals, `none` when it has undefined behaviour. -/
def arc4Step (env : Nat → SeedEnv) (g : Arc4Globals) : Arc4Op → Option Arc4Globals
  | .init => some (evutilSecureRngInit env g).1
  | .getBytes pid n => some (evutilSecureRngGetBytes env pid n g).1
  | .addBytes dat => evutilSecureRngAddBytes env dat g
  | .setUrandomDeviceFile set => some (evutilSecureRngSetUrandomDeviceFile set g)

/-- The globals after a run of API calls, the `k`-th `arc4_stir` of which is seeded from
    `env k`; `none` when a call of the run has undefined behaviour. -/
def arc4Run (env : Nat → SeedEnv) : Arc4Globals → List Arc4Op → Option Arc4Globals
  | g, [] => some g
  | g, op :: ops => (arc4Step env g op).bind fun g => arc4Run env g ops

/-! ## Runs -/

/-- What every round of `arc4_addrandom` keeps, the loop of `arc4random_addrandom` keeps. -/
theorem addrandomLoop_invariant (P : Arc4Globals → Prop)
    (hP : ∀ dat n g, P g → P (addrandomG dat n g)) (dat : List UInt8) (datlen : Int) :
    ∀ (j : Int) (g g' : Arc4Globals), P g → addrandomLoop dat datlen j g = some g' → P g' := by
  intro j g
  induction j, g using addrandomLoop.induct dat datlen with
  | case1 j g hj hover =>
    intro g' _ h
    rw [addrandomLoop, if_pos hj, if_pos hover] at h
    cases h
  | case2 j g hj _ hover ih =>
    intro g' hg h
    rw [addrandomLoop, if_pos hj, if_neg hover] at h
    exact ih g' (hP _ _ _ hg) h
  | case3 j g hj =>
    intro g' hg h
    rw [addrandomLoop, if_neg hj] at h
    exact Option.some.inj h ▸ hg

/-- A loop over at most `INT_MAX - 255` bytes never leaves `int`. -/
theorem addrandomLoop_ne_none (dat : List UInt8) {datlen : Int}
    (hd : datlen ≤ (INT_MAX : Int) - 255) (j : Int) (g : Arc4Globals) :
    addrandomLoop dat datlen j g ≠ none := by
  induction j, g using addrandomLoop.induct dat datlen with
  | case1 j g hj hover => exact absurd hover (by omega)
  | case2 j g hj _ hover ih =>
    rw [addrandomLoop, if_pos hj, if_neg hover]
    exact ih
  | case3 j g hj =>
    rw [addrandomLoop, if_neg hj]
    exact Option.some_ne_none _

/-- What each API call of a run keeps, under `Q`, the run keeps. -/
theorem arc4Run_invariant {env : Nat → SeedEnv} (P : Arc4Globals → Prop) (Q : Arc4Op → Prop)
    (hstep : ∀ g op g', P g → Q op → arc4Step env g op = some g' → P g') :
    ∀ (ops : List Arc4Op) (g g' : Arc4Globals), (∀ op ∈ ops, Q op) → P g →
      arc4Run env g ops = some g' → P g'
  | [], _, _, _, hg, h => Option.some.inj h ▸ hg
  | op :: ops, g, g', hq, hg, h => by
    obtain ⟨g1, h1, h2⟩ := Option.bind_eq_some.1 h
    exact arc4Run_invariant P Q hstep ops g1 g' (fun o ho => hq o (List.mem_cons_of_mem _ ho))
      (hstep g op g1 hg (hq op (List.mem_cons_self _ _)) h1) h2

/-- A run whose `evutil_secure_rng_add_bytes` calls pass at most `INT_MAX - 255` bytes each has
    no undefined behaviour. -/
theorem arc4Run_ne_none (env : Nat → SeedEnv) :
    ∀ (ops : List Arc4Op) (g : Arc4Globals),
      (∀ dat, Arc4Op.addBytes dat ∈ ops → dat.length ≤ INT_MAX - 255) → arc4Run env g ops ≠ none
  | [], _, _ => Option.some_ne_none _
  | op :: ops, g, h => by
    have hs : arc4Step env g op ≠ none := by
      cases op with
      | addBytes dat =>
        have := h dat (List.mem_cons_self _ _)
        exact addrandomLoop_ne_none dat (by unfold INT_MAX at this ⊢; split <;> omega) _ _
      | _ => exact Option.some_ne_none _
    obtain ⟨g1, h1⟩ := Option.ne_none_iff_exists'.1 hs
    rw [arc4Run, h1, Option.some_bind]
    exact arc4Run_ne_none env ops g1 fun dat hd => h dat (List.mem_cons_of_mem _ hd)

end Evutil
