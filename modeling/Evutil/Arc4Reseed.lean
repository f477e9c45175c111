/-
  The secure random number generator reseeds on schedule: the ghost trace of calls, stirs and
  bytes handed out.

  * `ReseedSchedule B t`: no byte before the first stir, at most `B` bytes after a stir before
    the next, and a stir right after every `get_bytes` call that is the first or has a new pid.
  * `budgetRun`, `pidRun`: executable monitors of the trace; when they do not fail, the trace
    keeps the schedule (`reseedSchedule_of_monitors`).
  * `bufEvents`, `bufCount`: what the loop of `arc4random_buf` adds to the trace, and
    `arc4_count` after it (`arc4randomBufLoop_trace`).
  * `Reseeds g`: the invariant that ties `arc4_count` and `arc4_stir_pid` to the monitors,
    kept by every API call when every seeding succeeds and `getpid()` is not `0`.
-/
import Evutil.Arc4Invariant

namespace Evutil

/-! ## The schedule -/

/-- The pid of the last call in `t`, or `last` when `t` has none. -/
def lastCall (last : Option Int) (t : List Arc4Event) : Option Int :=
  t.foldl (fun last e => match e with | .call p => some p | _ => last) last

/-- A trace that keeps the reseeding schedule with budget `B`: no byte before the first stir,
    at most `B` bytes after any stir before the next one, and a stir right after each call
    that is the first or has another pid than the call before it. -/
structure ReseedSchedule (B : Int) (t : List Arc4Event) : Prop where
  noByteBeforeStir : ∀ pre rest, t = pre ++ rest → .stir ∉ pre → .byte ∉ pre
  budget : ∀ pre seg post, t = pre ++ .stir :: seg ++ post → .stir ∉ seg →
    (seg.count .byte : Int) ≤ B
  stirOnNewPid : ∀ pre p post, t = pre ++ .call p :: post → lastCall none pre ≠ some p →
    post.head? = some .stir

/-! ## The monitors -/

/-- The budget monitor from `k` bytes since the last stir (`none` before the first): the bytes
    since the last stir after `es`, or `none` when a byte comes before the first stir or more
    than `B` come after one. -/
def budgetRun (B : Int) : Option Nat → List Arc4Event → Option (Option Nat)
  | k, [] => some k
  | k, .call _ :: es => budgetRun B k es
  | _, .stir :: es => budgetRun B (some 0) es
  | none, .byte :: _ => none
  | some k, .byte :: es => if (k : Int) + 1 ≤ B then budgetRun B (some (k + 1)) es else none

/-- The pid monitor from the pid of the last `get_bytes` call and whether a stir is owed: the
    state after `es`, or `none` when an owed stir does not come next. -/
def pidRun : Option Int × Bool → List Arc4Event → Option (Option Int × Bool)
  | st, [] => some st
  | (last, owed), .call p :: es => if owed then none else pidRun (some p, last ≠ some p) es
  | (last, _), .stir :: es => pidRun (last, false) es
  | (last, owed), .byte :: es => if owed then none else pidRun (last, false) es

theorem budgetRun_append (B : Int) (t2 : List Arc4Event) :
    ∀ (t1 : List Arc4Event) (k : Option Nat),
      budgetRun B k (t1 ++ t2) = (budgetRun B k t1).bind fun k' => budgetRun B k' t2
  | [], k => by cases k <;> rfl
  | .call _ :: t1, k => by cases k <;> exact budgetRun_append B t2 t1 _
  | .stir :: t1, k => by cases k <;> exact budgetRun_append B t2 t1 _
  | .byte :: _, none => rfl
  | .byte :: t1, some k => by
    simp only [List.cons_append, budgetRun]
    split
    · exact budgetRun_append B t2 t1 _
    · rfl

theorem pidRun_append (t2 : List Arc4Event) :
    ∀ (t1 : List Arc4Event) (last : Option Int) (owed : Bool),
      pidRun (last, owed) (t1 ++ t2) = (pidRun (last, owed) t1).bind fun st => pidRun st t2
  | [], _, _ => rfl
  | .call _ :: t1, _, owed => by
    cases owed
    · exact pidRun_append t2 t1 _ _
    · rfl
  | .stir :: t1, _, _ => pidRun_append t2 t1 _ _
  | .byte :: t1, _, owed => by
    cases owed
    · exact pidRun_append t2 t1 _ _
    · rfl

/-! ## What the monitors guarantee -/

theorem budgetRun_none_before_stir (B : Int) : ∀ seg rest : List Arc4Event,
    budgetRun B none (seg ++ rest) ≠ none → .stir ∉ seg → .byte ∉ seg
  | [], _, _, _ => List.not_mem_nil _
  | .call _ :: seg, rest, h, hs => fun hm =>
    (List.mem_cons.1 hm).elim (fun h' => Arc4Event.noConfusion h')
      (budgetRun_none_before_stir B seg rest h (fun h' => hs (List.mem_cons_of_mem _ h')))
  | .stir :: _, _, _, hs => absurd (List.mem_cons_self _ _) hs
  | .byte :: _, _, h, _ => absurd rfl h

theorem budgetRun_some_before_stir (B : Int) : ∀ (seg rest : List Arc4Event) (m : Nat),
    budgetRun B (some m) (seg ++ rest) ≠ none → .stir ∉ seg → (m : Int) ≤ B →
      (m : Int) + seg.count .byte ≤ B
  | [], _, _, _, _, hm => by simpa using hm
  | .call _ :: seg, rest, m, h, hs, hm => by
    rw [List.count_cons_of_ne (fun h' => Arc4Event.noConfusion h')]
    exact budgetRun_some_before_stir B seg rest m h (fun h' => hs (List.mem_cons_of_mem _ h')) hm
  | .stir :: _, _, _, _, hs, _ => absurd (List.mem_cons_self _ _) hs
  | .byte :: seg, rest, m, h, hs, _ => by
    simp only [List.cons_append, budgetRun] at h
    split at h
    next hle =>
      have := budgetRun_some_before_stir B seg rest (m + 1) h
        (fun h' => hs (List.mem_cons_of_mem _ h')) (by push_cast; exact hle)
      rw [List.count_cons_self]
      push_cast at this ⊢
      omega
    next => exact absurd rfl h

/-- `pidRun` keeps the pid of the last call. -/
theorem pidRun_fst : ∀ (t : List Arc4Event) (last : Option Int) (owed : Bool) st,
    pidRun (last, owed) t = some st → st.1 = lastCall last t
  | [], _, _, _, h => by cases h; rfl
  | .call _ :: t, _, owed, st, h => by
    cases owed
    · exact pidRun_fst t _ _ st h
    · cases h
  | .stir :: t, last, _, st, h => pidRun_fst t last false st h
  | .byte :: t, last, owed, st, h => by
    cases owed
    · exact pidRun_fst t last false st h
    · cases h

/-- With a stir owed, the monitor ends with none owed only if the stir comes next. -/
theorem pidRun_owed {t : List Arc4Event} {last l : Option Int}
    (h : pidRun (last, true) t = some (l, false)) : t.head? = some .stir := by
  match t, h with
  | .stir :: _, _ => rfl

theorem reseedSchedule_of_monitors {B : Int} (hB : 0 ≤ B) {t : List Arc4Event}
    (hb : budgetRun B none t ≠ none) {l : Option Int}
    (hp : pidRun (none, false) t = some (l, false)) : ReseedSchedule B t where
  noByteBeforeStir pre rest ht hs := budgetRun_none_before_stir B pre rest (ht ▸ hb) hs
  budget pre seg post ht hs := by
    rw [ht, List.append_assoc, budgetRun_append] at hb
    cases hk : budgetRun B none pre with
    | none => exact absurd (by rw [hk]; rfl) hb
    | some k =>
      rw [hk, Option.some_bind, List.cons_append, budgetRun] at hb
      simpa using budgetRun_some_before_stir B seg post 0 hb hs (by simpa using hB)
  stirOnNewPid pre p post ht hnew := by
    rw [ht, pidRun_append] at hp
    obtain ⟨⟨last, owed⟩, h1, h2⟩ := Option.bind_eq_some.1 hp
    have hlast : last = lastCall none pre := pidRun_fst pre none false _ h1
    cases owed
    · have h2 : pidRun (some p, true) post = some (l, false) := by
        simpa [pidRun, hlast, hnew] using h2
      exact pidRun_owed h2
    · cases h2

/-! ## What the byte loop adds to the trace -/

/-- The events of `n` rounds of the loop of `arc4random_buf` from `arc4_count = c`, when every
    stir succeeds. -/
def bufEvents : Int → Nat → List Arc4Event
  | _, 0 => []
  | c, n + 1 =>
    if c - 1 ≤ 0 then .stir :: .byte :: bufEvents BYTES_BEFORE_RESEED n
    else .byte :: bufEvents (c - 1) n

/-- `arc4_count` after `n` rounds of the loop from `c`, when every stir succeeds. -/
def bufCount : Int → Nat → Int
  | c, 0 => c
  | c, n + 1 => if c - 1 ≤ 0 then bufCount BYTES_BEFORE_RESEED n else bufCount (c - 1) n

/-- From a positive `arc4_count` that leaves room for the bytes since the last stir, the loop
    keeps the budget and leaves the count positive with room again. -/
theorem budgetRun_bufEvents : ∀ (n : Nat) (c : Int) (m : Nat), 1 ≤ c →
    (m : Int) + c ≤ BYTES_BEFORE_RESEED + 1 →
    ∃ m' : Nat, budgetRun BYTES_BEFORE_RESEED (some m) (bufEvents c n) = some (some m') ∧
      1 ≤ bufCount c n ∧ (m' : Int) + bufCount c n ≤ BYTES_BEFORE_RESEED + 1
  | 0, _, m, h1, h2 => ⟨m, rfl, h1, h2⟩
  | n + 1, c, m, h1, h2 => by
    have hB : (1 : Int) ≤ BYTES_BEFORE_RESEED := by decide
    rw [bufEvents, bufCount]
    split
    · rw [budgetRun, budgetRun, if_pos (by simpa using hB)]
      exact budgetRun_bufEvents n _ 1 hB (by omega)
    · rw [budgetRun, if_pos (by omega)]
      exact budgetRun_bufEvents n _ (m + 1) (by omega) (by push_cast; omega)

theorem pidRun_bufEvents (last : Option Int) : ∀ (n : Nat) (c : Int),
    pidRun (last, false) (bufEvents c n) = some (last, false)
  | 0, _ => rfl
  | n + 1, c => by
    rw [bufEvents]
    split
    · exact pidRun_bufEvents last n _
    · exact pidRun_bufEvents last n _

/-- While `arc4_count` stays above `1`, the loop only hands out bytes. -/
theorem bufEvents_countdown (m : Nat) : ∀ (k : Nat) (c : Int), c = k + 1 →
    bufEvents c (k + m) = List.replicate k .byte ++ bufEvents 1 m
  | 0, c, hc => by rw [hc, Nat.zero_add]; rfl
  | k + 1, c, hc => by
    rw [Nat.add_right_comm, bufEvents, if_neg (by omega),
      bufEvents_countdown m k (c - 1) (by omega)]
    rfl

/-- After a stir the loop hands out `BYTES_BEFORE_RESEED - 1` bytes, then stirs and hands out
    one more. -/
theorem bufEvents_after_stir (m : Nat) :
    bufEvents BYTES_BEFORE_RESEED (BYTES_BEFORE_RESEED.toNat + m) =
      List.replicate (BYTES_BEFORE_RESEED.toNat - 1) .byte ++
        .stir :: .byte :: bufEvents BYTES_BEFORE_RESEED m := by
  have hn : BYTES_BEFORE_RESEED.toNat + m = (BYTES_BEFORE_RESEED.toNat - 1) + (m + 1) := by
    have : 1 ≤ BYTES_BEFORE_RESEED.toNat := by decide
    omega
  rw [hn, bufEvents_countdown _ _ _ (by decide), bufEvents, if_pos (by decide)]

theorem Mixes.fields {g g' : Arc4Globals} (h : Mixes g g') :
    g'.rsInitialized = g.rsInitialized ∧ g'.arc4StirPid = g.arc4StirPid ∧
      g'.arc4Count = g.arc4Count ∧ g'.trace = g.trace := by
  obtain ⟨⟨rs, m, rfl⟩, -⟩ := h
  exact ⟨rfl, rfl, rfl, rfl⟩

/-- The fields of `{ d with arc4Count := c }` for globals `d` that mix `g`, with `d` a
    variable. -/
theorem Mixes.stir_fields {g d : Arc4Globals} (hm : Mixes g d) (c : Int) :
    { d with arc4Count := c }.trace = g.trace ∧ { d with arc4Count := c }.arc4Count = c ∧
      { d with arc4Count := c }.rsInitialized = g.rsInitialized ∧
      { d with arc4Count := c }.arc4StirPid = g.arc4StirPid := by
  obtain ⟨a1, a2, -, a4⟩ := hm.fields
  exact ⟨a4, rfl, a1, a2⟩

/-- The fields of `stir` after a successful seeding. Proved through `Mixes.stir_fields`:
    checking a field of `{ arc4Discard .. with .. }` against the same field of
    `arc4Discard ..` by unfolding would run all `12 * 256` rounds. -/
theorem stirReseed_fields {e : SeedEnv} {g : Arc4Globals} (h : (arc4Seed e g).2 = 0) :
    (stirReseed e g).1.trace = g.trace ∧ (stirReseed e g).1.arc4Count = BYTES_BEFORE_RESEED ∧
      (stirReseed e g).1.rsInitialized = g.rsInitialized ∧
      (stirReseed e g).1.arc4StirPid = g.arc4StirPid := by
  have hs : (stirReseed e g).1 =
      { arc4Discard (12 * 256) (arc4Seed e g).1 with arc4Count := BYTES_BEFORE_RESEED } :=
    congrArg Prod.fst (if_neg (by simp [h]))
  rw [hs]
  exact ((mixes_arc4Seed e g).trans (mixes_arc4Discard _ _)).stir_fields _

/-! ## The invariant -/

/-- What the state of the budget monitor says of the globals: before the first stir `rs` is
    not initialised; `m` bytes after the last one, `arc4_count` is positive and leaves room
    for at most `BYTES_BEFORE_RESEED - m` more. -/
def BudgetState (g : Arc4Globals) : Option Nat → Prop
  | none => g.rsInitialized = false
  | some m => 1 ≤ g.arc4Count ∧ (m : Int) + g.arc4Count ≤ BYTES_BEFORE_RESEED + 1

/-- The invariant of the reseeding schedule: both monitors accept the trace, the budget
    monitor's state agrees with `arc4_count`, and `arc4_stir_pid` is the pid of the last call. -/
structure Reseeds (g : Arc4Globals) : Prop where
  budget : ∃ k, budgetRun BYTES_BEFORE_RESEED none g.trace = some k ∧ BudgetState g k
  pid : ∃ l, pidRun (none, false) g.trace = some (l, false) ∧ g.arc4StirPid = l.getD 0

theorem reseeds_init : Reseeds arc4Globals0 := ⟨⟨none, rfl, rfl⟩, ⟨none, rfl, rfl⟩⟩

/-- Globals with the same trace, count, flag and pid keep the invariant. -/
theorem Reseeds.frame {g g' : Arc4Globals} (h : Reseeds g) (ht : g'.trace = g.trace)
    (hc : g'.arc4Count = g.arc4Count) (hi : g'.rsInitialized = g.rsInitialized)
    (hp : g'.arc4StirPid = g.arc4StirPid) : Reseeds g' := by
  obtain ⟨⟨k, hk, hs⟩, ⟨l, hl, hpid⟩⟩ := h
  refine ⟨⟨k, ht ▸ hk, ?_⟩, ⟨l, ht ▸ hl, hp ▸ hpid⟩⟩
  cases k with
  | none => exact show g'.rsInitialized = false from hi.trans hs
  | some m => rw [BudgetState, hc]; exact hs

theorem Reseeds.mixes {g g' : Arc4Globals} (h : Reseeds g) (hm : Mixes g g') : Reseeds g' :=
  have hf := hm.fields
  h.frame hf.2.2.2 hf.2.2.1 hf.1 hf.2.1

/-- A successful stir keeps the invariant. -/
theorem Reseeds.stir {g g' : Arc4Globals} (h : Reseeds g) (ht : g'.trace = g.trace ++ [.stir])
    (hc : g'.arc4Count = BYTES_BEFORE_RESEED) (hp : g'.arc4StirPid = g.arc4StirPid) :
    Reseeds g' := by
  obtain ⟨⟨k, hk, -⟩, ⟨l, hl, hpid⟩⟩ := h
  refine ⟨⟨some 0, ?_, ?_⟩, ⟨l, ?_, hp.trans hpid⟩⟩
  · rw [ht, budgetRun_append, hk, Option.some_bind, budgetRun]
    rfl
  · rw [BudgetState, hc]
    decide
  · rw [ht, pidRun_append, hl]
    rfl

section Seeded

variable {env : Nat → SeedEnv} (hseed : ∀ k g, (arc4Seed (env k) g).2 = 0)

include hseed in
/-- A successful `arc4_stir` adds a stir to the trace, sets `arc4_count` and `rs_initialized`,
    and leaves `arc4_stir_pid`. -/
theorem arc4Stir_fields (g : Arc4Globals) :
    (arc4Stir env g).1.trace = g.trace ++ [.stir] ∧
      (arc4Stir env g).1.arc4Count = BYTES_BEFORE_RESEED ∧
      (arc4Stir env g).1.rsInitialized = true ∧
      (arc4Stir env g).1.arc4StirPid = g.arc4StirPid := by
  unfold arc4Stir
  dsimp only
  generalize hg1 : (if (!g.rsInitialized) = true then _ else _ : Arc4Globals) = g1
  have h1 : g1.trace = g.trace ++ [.stir] ∧ g1.rsInitialized = true ∧
      g1.arc4StirPid = g.arc4StirPid := by
    subst hg1
    split
    next => exact ⟨rfl, rfl, rfl⟩
    next hi => exact ⟨rfl, by simpa using hi, rfl⟩
  obtain ⟨a1, a2, a3, a4⟩ := stirReseed_fields (hseed g.stirs g1)
  exact ⟨a1.trans h1.1, a2, a3.trans h1.2.1, a4.trans h1.2.2⟩

include hseed in
/-- The loop of `arc4random_buf` adds `bufEvents` to the trace and leaves `arc4_count` at
    `bufCount`, when every seeding succeeds. -/
theorem arc4randomBufLoop_trace : ∀ (n : Nat) (g : Arc4Globals),
    (arc4randomBufLoop env n g).1.trace = g.trace ++ bufEvents g.arc4Count n ∧
      (arc4randomBufLoop env n g).1.arc4Count = bufCount g.arc4Count n ∧
      (g.rsInitialized = true → (arc4randomBufLoop env n g).1.rsInitialized = true) ∧
      (arc4randomBufLoop env n g).1.arc4StirPid = g.arc4StirPid
  | 0, g => ⟨(List.append_nil _).symm, rfl, id, rfl⟩
  | n + 1, g => by
    rw [arc4randomBufLoop]
    dsimp only
    generalize hg2 : (if g.arc4Count - 1 ≤ 0 then _ else _ : Arc4Globals) = g2
    have h2 : g2.trace = g.trace ++ (if g.arc4Count - 1 ≤ 0 then [.stir] else []) ∧
        g2.arc4Count = (if g.arc4Count - 1 ≤ 0 then BYTES_BEFORE_RESEED else g.arc4Count - 1) ∧
        (g.rsInitialized = true → g2.rsInitialized = true) ∧
        g2.arc4StirPid = g.arc4StirPid := by
      subst hg2
      split
      · obtain ⟨a1, a2, a3, a4⟩ := arc4Stir_fields hseed { g with arc4Count := g.arc4Count - 1 }
        exact ⟨a1, a2, fun _ => a3, a4⟩
      · exact ⟨(List.append_nil _).symm, rfl, id, rfl⟩
    obtain ⟨b1, b2, b3, b4⟩ := (mixes_getbyteG g2).fields
    obtain ⟨c1, c2, c3, c4⟩ := arc4randomBufLoop_trace n
      { (getbyteG g2).1 with trace := (getbyteG g2).1.trace ++ [.byte] }
    rw [c1, c2]
    dsimp only
    rw [b4, b3]
    refine ⟨?_, ?_, fun hi => c3 (b1.trans (h2.2.2.1 hi)), c4.trans (b2.trans h2.2.2.2)⟩
    · rw [h2.1, h2.2.1, bufEvents]
      split <;> simp
    · rw [h2.2.1, bufCount]
      split <;> rfl

include hseed in
theorem Reseeds.after_arc4Stir {g : Arc4Globals} (h : Reseeds g) : Reseeds (arc4Stir env g).1 :=
  have hf := arc4Stir_fields hseed g
  h.stir hf.1 hf.2.1 hf.2.2.2

include hseed in
/-- After a `get_bytes` call is recorded and `arc4_stir_if_needed` ran, bytes may follow: the
    budget monitor has room and the pid monitor has no stir owed. -/
theorem Reseeds.stirIfNeeded {g : Arc4Globals} (h : Reseeds g) {pid : Int} (hp : pid ≠ 0)
    (g0 : Arc4Globals) (ht : g0.trace = g.trace ++ [.call pid]) (hc : g0.arc4Count = g.arc4Count)
    (hi : g0.rsInitialized = g.rsInitialized) (hs : g0.arc4StirPid = g.arc4StirPid) :
    ∃ m, budgetRun BYTES_BEFORE_RESEED none (arc4StirIfNeeded env pid g0).trace =
        some (some m) ∧ BudgetState (arc4StirIfNeeded env pid g0) (some m) ∧
      pidRun (none, false) (arc4StirIfNeeded env pid g0).trace = some (some pid, false) ∧
      (arc4StirIfNeeded env pid g0).arc4StirPid = pid := by
  obtain ⟨⟨k, hk, hks⟩, ⟨l, hl, hpid⟩⟩ := h
  unfold arc4StirIfNeeded
  split
  next =>
    obtain ⟨a1, a2, -, a4⟩ := arc4Stir_fields hseed { g0 with arc4StirPid := pid }
    refine ⟨0, ?_, ?_, ?_, a4⟩
    · rw [a1]
      dsimp only
      rw [ht, List.append_assoc, budgetRun_append, hk, Option.some_bind]
      simp only [List.singleton_append, budgetRun]
    · rw [BudgetState, a2]
      decide
    · rw [a1]
      dsimp only
      rw [ht, List.append_assoc, pidRun_append, hl]
      simp [pidRun]
  next hcond =>
    simp only [not_or, not_le, Bool.not_eq_false, not_not] at hcond
    obtain ⟨h1, h2, h3⟩ := hcond
    cases k with
    | none => exact absurd (hi ▸ h2) (by simpa using hks)
    | some m =>
      have hl' : l = some pid := by
        cases l with
        | none => exact absurd (h3.symm.trans (hs.trans hpid)) hp
        | some q => rw [hs, hpid] at h3; rw [← h3]; rfl
      refine ⟨m, ?_, ?_, ?_, h3⟩
      · rw [ht, budgetRun_append, hk]
        rfl
      · rw [BudgetState, hc]
        exact hks
      · rw [ht, pidRun_append, hl, hl']
        simp [pidRun]

include hseed in
/-- `evutil_secure_rng_get_bytes` keeps the invariant when `getpid()` is not `0`. -/
theorem Reseeds.getBytes {g : Arc4Globals} (h : Reseeds g) {pid : Int} (hp : pid ≠ 0)
    (n : Nat) : Reseeds (evutilSecureRngGetBytes env pid n g).1 := by
  show Reseeds (arc4randomBufLoop env n
    (arc4StirIfNeeded env pid { g with trace := g.trace ++ [.call pid] })).1
  obtain ⟨m, hb, hbs, hpr, hps⟩ :=
    h.stirIfNeeded hseed hp { g with trace := g.trace ++ [.call pid] } rfl rfl rfl rfl
  obtain ⟨c1, c2, -, c4⟩ := arc4randomBufLoop_trace hseed n
    (arc4StirIfNeeded env pid { g with trace := g.trace ++ [.call pid] })
  obtain ⟨m', hm', hc1, hc2⟩ := budgetRun_bufEvents n _ m hbs.1 hbs.2
  refine ⟨⟨some m', ?_, ?_⟩, ⟨some pid, ?_, c4.trans hps⟩⟩
  · rw [c1, budgetRun_append, hb, Option.some_bind, hm']
  · rw [BudgetState, c2]
    exact ⟨hc1, hc2⟩
  · rw [c1, pidRun_append, hpr, Option.some_bind, pidRun_bufEvents]

include hseed in
/-- Every API call keeps the invariant, when `getpid()` is not `0` in a `get_bytes` call. -/
theorem Reseeds.step {g : Arc4Globals} (h : Reseeds g) :
    ∀ op : Arc4Op, (∀ pid n, op = .getBytes pid n → pid ≠ 0) →
      ∀ g', arc4Step env g op = some g' → Reseeds g'
  | .init, _, _, h' => Option.some.inj h' ▸ h.after_arc4Stir hseed
  | .getBytes pid n, hp, _, h' => Option.some.inj h' ▸ h.getBytes hseed (hp pid n rfl) n
  | .addBytes dat, _, _, h' => by
    have h1 : Reseeds (if g.rsInitialized = false then (arc4Stir env g).1 else g) := by
      split
      · exact h.after_arc4Stir hseed
      · exact h
    exact h1.mixes (addrandomLoop_invariant (Mixes _)
      (fun _ _ _ hm => hm.trans (mixes_addrandomG _ _ _)) _ _ _ _ _ (Mixes.refl _) h')
  | .setUrandomDeviceFile _, _, _, h' => Option.some.inj h' ▸ h.frame rfl rfl rfl rfl

include hseed in
/-- With `arc4_count` not positive, `arc4_stir_if_needed` stirs. -/
theorem arc4StirIfNeeded_of_count {g : Arc4Globals} (hc : g.arc4Count ≤ 0) (pid : Int) :
    (arc4StirIfNeeded env pid g).trace = g.trace ++ [.stir] ∧
      (arc4StirIfNeeded env pid g).arc4Count = BYTES_BEFORE_RESEED := by
  unfold arc4StirIfNeeded
  rw [if_pos (Or.inl hc)]
  have hf := arc4Stir_fields hseed { g with arc4StirPid := pid }
  exact ⟨hf.1, hf.2.1⟩

include hseed in
/-- The trace of one `get_bytes` call from the zeroed globals: the call, the stir of
    `arc4_stir_if_needed`, and the events of the loop from a full budget. -/
theorem evutilSecureRngGetBytes_trace (pid : Int) (n : Nat) :
    (evutilSecureRngGetBytes env pid n arc4Globals0).1.trace =
      [.call pid, .stir] ++ bufEvents BYTES_BEFORE_RESEED n := by
  show (arc4randomBufLoop env n
    (arc4StirIfNeeded env pid { arc4Globals0 with trace := [.call pid] })).1.trace = _
  have hs := arc4StirIfNeeded_of_count hseed (g := { arc4Globals0 with trace := [.call pid] })
    le_rfl pid
  rw [(arc4randomBufLoop_trace hseed n _).1, hs.1, hs.2]
  rfl

end Seeded

/-- `arc4_seed` succeeds when `getrandom` gives a buffer that is not all zero. -/
theorem arc4Seed_of_getrandom {b : List UInt8} (hb : b.all (· == 0) = false)
    (urandom : Option (List UInt8)) (uuid : List (Option (List UInt8))) (g : Arc4Globals) :
    (arc4Seed ⟨some b, urandom, uuid⟩ g).2 = 0 := by
  simp [arc4Seed, arc4SeedGetrandom, hb]

/-- **The secure RNG reseeds on schedule.** When every `arc4_seed` succeeds, after any run of
    API calls from the zeroed globals that has no undefined behaviour and in which `getpid()`
    is never `0` in a `get_bytes` call, no byte is handed out before the first `arc4_stir`, at
    most `BYTES_BEFORE_RESEED` after a stir before the next one, and a `get_bytes` call that is
    the first or has another pid than the one before it stirs before anything else. -/
theorem secure_rng_reseeds (env : Nat → SeedEnv) (hseed : ∀ k g, (arc4Seed (env k) g).2 = 0)
    (ops : List Arc4Op) (hpid : ∀ pid n, Arc4Op.getBytes pid n ∈ ops → pid ≠ 0) (g : Arc4Globals)
    (h : arc4Run env arc4Globals0 ops = some g) :
    ReseedSchedule BYTES_BEFORE_RESEED g.trace := by
  obtain ⟨⟨k, hk, -⟩, ⟨l, hl, -⟩⟩ := arc4Run_invariant Reseeds
    (fun op => ∀ pid n, op = .getBytes pid n → pid ≠ 0) (fun _ op g' hg hq h => hg.step hseed op hq g' h)
    ops _ _ (fun _ hop pid n he => hpid pid n (he ▸ hop)) reseeds_init h
  exact reseedSchedule_of_monitors (by decide) (by rw [hk]; exact Option.some_ne_none _) hl

theorem secure_rng_reseeds_fork :
    (∀ k g, (arc4Seed ((fun _ => ⟨some [1], none, []⟩ : Nat → SeedEnv) k) g).2 = 0) ∧
    (∀ pid n, Arc4Op.getBytes pid n ∈ [.getBytes 7 2, .init, .addBytes [3], .getBytes 8 1] →
      pid ≠ 0) ∧
    ∃ g, arc4Run (fun _ => ⟨some [1], none, []⟩) arc4Globals0
      [.getBytes 7 2, .init, .addBytes [3], .getBytes 8 1] = some g ∧
      ReseedSchedule BYTES_BEFORE_RESEED g.trace := by
  have hseed : ∀ k g, (arc4Seed ((fun _ => ⟨some [1], none, []⟩ : Nat → SeedEnv) k) g).2 = 0 :=
    fun _ => arc4Seed_of_getrandom (b := [1]) rfl _ _
  have hpid : ∀ pid n, Arc4Op.getBytes pid n ∈
      [.getBytes 7 2, .init, .addBytes [3], .getBytes 8 1] → pid ≠ 0 := by
    intro pid n h
    simp only [List.mem_cons, Arc4Op.getBytes.injEq, reduceCtorEq, List.mem_singleton,
      false_or, List.not_mem_nil, or_false] at h
    omega
  obtain ⟨g, hg⟩ := Option.ne_none_iff_exists'.1 (arc4Run_ne_none (fun _ => ⟨some [1], none, []⟩)
    [.getBytes 7 2, .init, .addBytes [3], .getBytes 8 1] arc4Globals0 (by
      intro dat h
      simp only [List.mem_cons, reduceCtorEq, Arc4Op.addBytes.injEq, List.mem_singleton,
        false_or, List.not_mem_nil, or_false] at h
      subst h
      decide))
  exact ⟨hseed, hpid, g, hg, secure_rng_reseeds _ hseed _ hpid g hg⟩

/-- One call for `2 * BYTES_BEFORE_RESEED` bytes hands out exactly `BYTES_BEFORE_RESEED` bytes
    between its second and third stir, with every seeding successful. -/
theorem secure_rng_budget_reached :
    (∀ k g, (arc4Seed ((fun _ => ⟨some [1], none, []⟩ : Nat → SeedEnv) k) g).2 = 0) ∧
    ∃ g pre seg post,
      arc4Run (fun _ => ⟨some [1], none, []⟩) arc4Globals0
        [.getBytes 1 (2 * BYTES_BEFORE_RESEED.toNat)] = some g ∧
      g.trace = pre ++ .stir :: seg ++ .stir :: post ∧
      .stir ∉ seg ∧ (seg.count .byte : Int) = BYTES_BEFORE_RESEED := by
  have hseed : ∀ k g, (arc4Seed ((fun _ => ⟨some [1], none, []⟩ : Nat → SeedEnv) k) g).2 = 0 :=
    fun _ => arc4Seed_of_getrandom (b := [1]) rfl _ _
  refine ⟨hseed, _, [.call 1, .stir] ++ List.replicate (BYTES_BEFORE_RESEED.toNat - 1) .byte,
    .byte :: List.replicate (BYTES_BEFORE_RESEED.toNat - 1) .byte, [.byte], rfl, ?_, ?_, ?_⟩
  · rw [evutilSecureRngGetBytes_trace hseed, Nat.two_mul, bufEvents_after_stir,
      ← Nat.add_zero BYTES_BEFORE_RESEED.toNat, bufEvents_after_stir]
    simp [bufEvents]
  · simp [List.mem_replicate]
  · rw [List.count_cons_self, List.count_replicate_self]
    decide

end Evutil
