/-
  `words[]` in the IPv6 branch of `evutil_inet_pton` (`evutil.c`): which entries are written,
  and that the gap code never meets `nToMove < 0`.

  * `pton6Begin` and `pton6CopiedWords` cut `evutilInetPton6` and `pton6Finish` at the loop
    and at the final copy into `dst` (`evutilInetPton6_eq_begin`, `pton6Finish_eq`).
  * `Pton6Safe`: what each state of the loop keeps: `setWords` counts the groups and the dotted
    quad, `gapPos ≤ i ≤ 8`, the words below `i` and those of the quad are written, and none at
    `8` or above. It holds at the start (`pton6Begin_safe`), each round keeps it
    (`pton6Step_safe`), so every state the loop reaches has it (`Pton6Safe.reach`).
  * `pton6CopiedWords_safe`: from such a state the checks and the gap code either return `0`
    or copy out eight written words, with `memmove` and `memset` inside `words[0..7]`.
  * `inet_pton6_words_in_bounds` assembles these for every input, through `evutilInetPton6`:
    its run is these parts, and when it returns `1` what it copies was written.
-/
import Mathlib.Logic.Relation
import Evutil.InetParse

namespace Evutil

/-! ## Cutting the parser at the loop and at the copy -/

/-- The part of `evutil_inet_pton(AF_INET6, src, dst)` before the loop: whether a dotted quad
    was found, `eow`, and the state the loop starts in; `.error 0` for `return 0`. -/
def pton6Begin (src : List UInt8) : Except Int (Bool × Nat × Pton6State) :=
  match strchr src (ch '.') with
  | some 0 => .error 0
  | none => .ok (false, src.length, ⟨0, 0, -1, 0, fun _ => none⟩)
  | some (dot + 1) =>
    let eow := digitRunStart src (dot + 1)
    match sscanfDottedQuad (src.drop eow) with
    | none => .error 0
    | some (b1, b2, b3, b4) =>
      if 255 < b1 ∨ 255 < b2 ∨ 255 < b3 ∨ 255 < b4 then .error 0
      else .ok (true, eow,
        ⟨0, 0, -1, 2, setWord (setWord (fun _ => none) 6 (b1 <<< 8 ||| b2)) 7 (b3 <<< 8 ||| b4)⟩)

theorem evutilInetPton6_eq_begin (src : List UInt8) :
    evutilInetPton6 src = (pton6Begin src).bind fun b =>
      (pton6Loop src b.2.1 b.2.1 b.2.2).bind (pton6Finish b.1) := by
  unfold evutilInetPton6 pton6Begin
  cases strchr src (ch '.') with
  | none => rfl
  | some p =>
    cases p with
    | zero => rfl
    | succ dot =>
      dsimp only
      cases sscanfDottedQuad (src.drop (digitRunStart src (dot + 1))) with
      | none => rfl
      | some q =>
        obtain ⟨b1, b2, b3, b4⟩ := q
        dsimp only
        split_ifs <;> rfl

/-- `words[]` as the last loop copies it into `dst`: after the checks on `setWords` and
    `gapPos`, and the `memmove` and `memset` that open the gap; `.error r` for `return r`. -/
def pton6CopiedWords (dotted : Bool) (st : Pton6State) : Except Int (Nat → Option Nat) :=
  if 8 < st.setWords ∨ (st.setWords = 8 ∧ st.gapPos ≠ -1) ∨ (st.setWords < 8 ∧ st.gapPos = -1)
  then .error 0
  else if 0 ≤ st.gapPos then
    let nToMove : Int := st.setWords - (if dotted then 2 else 0) - st.gapPos
    let gapLen := 8 - st.setWords
    if nToMove < 0 then .error (-1)
    else
      .ok (memsetWords (memmoveWords st.words (st.gapPos.toNat + gapLen) st.gapPos.toNat
        nToMove.toNat) st.gapPos.toNat gapLen)
  else .ok st.words

theorem pton6Finish_eq (dotted : Bool) (st : Pton6State) :
    pton6Finish dotted st = (pton6CopiedWords dotted st).map wordsToIn6Addr := by
  dsimp only [pton6Finish, pton6CopiedWords]
  split_ifs <;> rfl

/-! ## The invariant -/

/-- A round of the loop on `s` up to `eow`. -/
def pton6Next (s : List UInt8) (eow : Nat) (st st' : Pton6State) : Prop :=
  pton6Step s eow st = .ok (some st')

/-- What every state of the loop keeps about `words[]`, with `dotted` whether the words of a
    dotted quad were set first. -/
structure Pton6Safe (dotted : Bool) (st : Pton6State) : Prop where
  setWords_eq : st.setWords = st.i + if dotted then 2 else 0
  i_le : st.i ≤ 8
  gap : st.gapPos = -1 ∨ (0 ≤ st.gapPos ∧ st.gapPos ≤ st.i)
  written : ∀ k < st.i, st.words k ≠ none
  /-- The last `setWords - i` of the eight words, those of the dotted quad, are written. -/
  quad : ∀ k < 8, 8 + st.i ≤ k + st.setWords → st.words k ≠ none
  outside : ∀ k, 8 ≤ k → st.words k = none

section Safe
variable {s : List UInt8} {eow : Nat} {dotted : Bool} {st st' : Pton6State}

theorem setWord_ne_none {w : Nat → Option Nat} {i v k : Nat} (h : w k ≠ none) :
    setWord w i v k ≠ none := by
  unfold setWord; split_ifs <;> simp [h]

theorem pton6Begin_safe {st₀ : Pton6State} (h : pton6Begin s = .ok (dotted, eow, st₀)) :
    Pton6Safe dotted st₀ := by
  unfold pton6Begin at h
  split at h
  · cases h
  · cases h
    exact ⟨rfl, Nat.zero_le _, Or.inl rfl, fun _ h => absurd h (Nat.not_lt_zero _),
      fun _ hk hq => absurd hq (by dsimp only; omega), fun _ _ => rfl⟩
  · dsimp only at h
    split at h
    · cases h
    · split_ifs at h
      cases h
      exact ⟨rfl, Nat.zero_le _, Or.inl rfl, fun _ h => absurd h (Nat.not_lt_zero _),
        fun k hk hq => by
          dsimp only at hq
          rcases (show k = 6 ∨ k = 7 by omega) with rfl | rfl <;> simp [setWord],
        fun k hk => by simp [setWord, show k ≠ 7 by omega, show k ≠ 6 by omega]⟩

/-- The part before the loop fails only with `return 0`. -/
theorem pton6Begin_error {e : Int} (h : pton6Begin s = .error e) : e = 0 := by
  unfold pton6Begin at h
  split at h
  · cases h; rfl
  · cases h
  · dsimp only at h
    split at h
    · cases h; rfl
    · split_ifs at h
      cases h; rfl

/-- One round keeps the invariant: a group writes `words[i]` for `i ≤ 7`, and opening the gap
    writes nothing. -/
theorem pton6Step_safe (h : pton6Next s eow st st') (hs : Pton6Safe dotted st) :
    Pton6Safe dotted st' := by
  obtain ⟨-, hi7, hcases⟩ := pton6Step_cases h
  obtain ⟨hsw, hi, hgap, hwr, hquad, hout⟩ := hs
  rcases hcases with ⟨-, -, -, -, -, -, rfl⟩ | ⟨-, -, hg, rfl⟩ | ⟨-, -, -, hg, rfl⟩
  · refine ⟨by simp only; omega, by simp only; omega, by simp only; omega, fun k hk => ?_,
      fun k hk hq => setWord_ne_none (hquad k hk (by simp only at hq; omega)),
      fun k hk => by simp [setWord, show k ≠ st.i by omega, hout k hk]⟩
    by_cases hki : k = st.i
    · simp [setWord, hki]
    · exact setWord_ne_none (hwr k (by simp only at hk; omega))
  · exact ⟨hsw, hi, Or.inr ⟨by simp only; omega, le_rfl⟩, hwr, hquad, hout⟩
  · exact ⟨hsw, hi, Or.inr ⟨by simp only; omega, le_rfl⟩, hwr, hquad, hout⟩

/-- Every state the loop reaches keeps the invariant. -/
theorem Pton6Safe.reach (hs : Pton6Safe dotted st)
    (h : Relation.ReflTransGen (pton6Next s eow) st st') : Pton6Safe dotted st' := by
  induction h with
  | refl => exact hs
  | tail _ hstep ih => exact pton6Step_safe hstep ih

/-- The loop ends in a state it reaches. -/
theorem pton6Loop_reach : ∀ {k : Nat} {st : Pton6State}, pton6Loop s eow k st = .ok st' →
    Relation.ReflTransGen (pton6Next s eow) st st'
  | 0, st, h => by simp only [pton6Loop, Except.ok.injEq] at h; exact h ▸ .refl
  | k + 1, st, h => by
    match hs : pton6Step s eow st with
    | .error r => simp [pton6Loop, hs] at h
    | .ok none =>
      simp only [pton6Loop, hs, Except.ok.injEq] at h
      exact h ▸ .refl
    | .ok (some st1) =>
      rw [pton6Loop_succ hs] at h
      exact .head hs (pton6Loop_reach h)

/-- A round fails only with `return 0`. -/
theorem pton6Step_error {r : Int} (h : pton6Step s eow st = .error r) : r = 0 := by
  unfold pton6Step at h
  by_cases hlt : st.src < eow
  swap
  · rw [if_neg hlt] at h; cases h
  rw [if_pos hlt] at h
  by_cases h7 : 7 < st.i
  · rw [if_pos h7] at h; cases h; rfl
  rw [if_neg h7] at h
  by_cases hx : evutilIsxdigit (deref s st.src) = true
  · rw [if_pos hx] at h
    generalize strtol (s.drop st.src) 16 = q at h
    dsimp only at h
    split_ifs at h <;> cases h <;> rfl
  · rw [if_neg hx] at h
    split_ifs at h
    cases h; rfl

/-- The loop fails only with `return 0`. -/
theorem pton6Loop_error {r : Int} : ∀ {k : Nat} {st : Pton6State},
    pton6Loop s eow k st = .error r → r = 0
  | 0, st, h => by cases h
  | k + 1, st, h => by
    match hs : pton6Step s eow st with
    | .error r' =>
      simp only [pton6Loop, hs, Except.error.injEq] at h
      exact h ▸ pton6Step_error hs
    | .ok none => simp [pton6Loop, hs] at h
    | .ok (some st1) =>
      rw [pton6Loop_succ hs] at h
      exact pton6Loop_error h

/-- **The gap code.** From a state with the invariant, the checks and the gap code return `0`,
    or keep `memmove` and `memset` inside `words[0..7]` and leave all eight words written and
    none above. -/
theorem pton6CopiedWords_safe (hs : Pton6Safe dotted st) :
    pton6CopiedWords dotted st = .error 0 ∨ ∃ w, pton6CopiedWords dotted st = .ok w ∧
      (0 ≤ st.gapPos → 0 ≤ (st.setWords : Int) - (if dotted then 2 else 0) - st.gapPos ∧
        st.gapPos + (8 - st.setWords : Nat) +
          ((st.setWords : Int) - (if dotted then 2 else 0) - st.gapPos) ≤ 8) ∧
      (∀ k < 8, w k ≠ none) ∧ ∀ k, 8 ≤ k → w k = none := by
  obtain ⟨hsw, hi, hgap, hwr, hquad, hout⟩ := hs
  have hd : (if dotted then 2 else 0 : Int) = st.setWords - st.i := by
    cases dotted <;> simp only [if_true, if_false, Bool.false_eq_true] at hsw ⊢ <;> omega
  unfold pton6CopiedWords
  simp only [hd]
  split_ifs with hchk hg hneg
  · exact Or.inl rfl
  · omega
  · refine Or.inr ⟨_, rfl, fun _ => by omega, fun k hk => ?_, fun k hk => ?_⟩
    · unfold memsetWords memmoveWords
      split_ifs with h₁ h₂
      · simp
      · exact hwr _ (by omega)
      · by_cases hki : k < st.i
        · exact hwr k hki
        · exact hquad k hk (by omega)
    · unfold memsetWords memmoveWords
      rw [if_neg (by omega), if_neg (by omega)]
      exact hout k hk
  · refine Or.inr ⟨_, rfl, fun h => absurd h hg, fun k hk => ?_, hout⟩
    by_cases hki : k < st.i
    · exact hwr k hki
    · exact hquad k hk (by omega)

end Safe

/-- The run of `evutilInetPton6`: `return 0`, or the copy of eight written words, with
    `memmove` and `memset` inside `words[0..7]`. -/
theorem evutilInetPton6_cases (s : List UInt8) :
    evutilInetPton6 s = .error 0 ∨ ∃ dotted eow st₀ st w,
      pton6Begin s = .ok (dotted, eow, st₀) ∧ pton6Loop s eow eow st₀ = .ok st ∧
      pton6CopiedWords dotted st = .ok w ∧ evutilInetPton6 s = .ok (wordsToIn6Addr w) ∧
      (0 ≤ st.gapPos → 0 ≤ (st.setWords : Int) - (if dotted then 2 else 0) - st.gapPos ∧
        st.gapPos + (8 - st.setWords : Nat) +
          ((st.setWords : Int) - (if dotted then 2 else 0) - st.gapPos) ≤ 8) ∧
      (∀ k < 8, w k ≠ none) ∧ ∀ k, 8 ≤ k → w k = none := by
  rw [evutilInetPton6_eq_begin]
  cases hb : pton6Begin s with
  | error e => left; rw [pton6Begin_error hb]; rfl
  | ok b =>
    obtain ⟨dotted, eow, st₀⟩ := b
    show (pton6Loop s eow eow st₀).bind _ = _ ∨ ∃ _ _ _ _ _, _ ∧ _ ∧ _ ∧
      (pton6Loop s eow eow st₀).bind _ = _ ∧ _
    cases hl : pton6Loop s eow eow st₀ with
    | error e => left; rw [pton6Loop_error hl]; rfl
    | ok st =>
      show pton6Finish dotted st = _ ∨ ∃ _ _ _ _ _, _ ∧ _ ∧ _ ∧ pton6Finish dotted st = _ ∧ _
      rw [pton6Finish_eq]
      rcases pton6CopiedWords_safe ((pton6Begin_safe hb).reach (pton6Loop_reach hl)) with
        h | ⟨w, h, hrest⟩
      · left; rw [h]; rfl
      · right; exact ⟨dotted, eow, st₀, st, w, rfl, hl, h, by rw [h]; rfl, hrest⟩

/-- **`words[]` in `evutil_inet_pton(AF_INET6, s, dst)`.** For every string `s`: the call
    returns `0` or `1`, never the `-1` of `nToMove < 0`; it runs as `pton6Begin`, the loop
    `pton6Loop` and the copy of `pton6CopiedWords`; every state of its loop has written no word
    at `8` or above, with `i ≤ 8`; and when it returns `1`, `memmove` and `memset` stayed
    inside `words[0..7]` and the eight words it copied into `dst` had all been written. -/
theorem inet_pton6_words_in_bounds (s : List UInt8) :
    (evutilInetPton6 s = .error 0 ∨ ∃ a, evutilInetPton6 s = .ok a) ∧
    evutilInetPton6 s = (pton6Begin s).bind (fun b =>
      (pton6Loop s b.2.1 b.2.1 b.2.2).bind fun st => (pton6CopiedWords b.1 st).map wordsToIn6Addr) ∧
    (∀ dotted eow st₀, pton6Begin s = .ok (dotted, eow, st₀) →
      ∀ st, Relation.ReflTransGen (pton6Next s eow) st₀ st →
        st.i ≤ 8 ∧ ∀ k, 8 ≤ k → st.words k = none) ∧
    ∀ a, evutilInetPton6 s = .ok a → ∃ dotted eow st₀ st w,
      pton6Begin s = .ok (dotted, eow, st₀) ∧ pton6Loop s eow eow st₀ = .ok st ∧
      pton6CopiedWords dotted st = .ok w ∧ a = wordsToIn6Addr w ∧
      (0 ≤ st.gapPos → 0 ≤ (st.setWords : Int) - (if dotted then 2 else 0) - st.gapPos ∧
        st.gapPos + (8 - st.setWords : Nat) +
          ((st.setWords : Int) - (if dotted then 2 else 0) - st.gapPos) ≤ 8) ∧
      (∀ k < 8, w k ≠ none) ∧ ∀ k, 8 ≤ k → w k = none := by
  have hf : ∀ d, pton6Finish d = fun st => (pton6CopiedWords d st).map wordsToIn6Addr :=
    fun d => funext (pton6Finish_eq d)
  refine ⟨(evutilInetPton6_cases s).imp_right fun ⟨_, _, _, _, _, _, _, _, h, _⟩ => ⟨_, h⟩,
    by simp only [evutilInetPton6_eq_begin, hf], fun dotted eow st₀ hb st hr => ?_, fun a ha => ?_⟩
  · have := (pton6Begin_safe hb).reach hr
    exact ⟨this.i_le, this.outside⟩
  · rcases evutilInetPton6_cases s with h | ⟨dotted, eow, st₀, st, w, hb, hl, hc, h, hrest⟩
    · rw [h] at ha; cases ha
    · rw [h] at ha
      cases ha
      exact ⟨dotted, eow, st₀, st, w, hb, hl, hc, rfl, hrest⟩

end Evutil
