/-
  How `evutil_inet_pton` reads its input.

  * `pton6Step_progress`: each round of the IPv6 loop moves `src` forward, so the loop's
    result does not depend on its fuel beyond `eow - src` (`pton6Loop_fuel`);
  * `inet_pton_accepts_outside_grammar`: strings outside the address grammar that the parser
    accepts: a `:` after the eighth group, a `0x` that `strtol` skips inside a group, and the
    blanks `sscanf`'s `%u` skips.
-/
import Evutil.Inet

namespace Evutil

/-! ## Rounds of the IPv6 loop -/

section Loop
variable {s : List UInt8} {eow : Nat} {st st' : Pton6State}

theorem pton6Step_of_le (h : eow ≤ st.src) : pton6Step s eow st = .ok none := by
  simp [pton6Step, Nat.not_lt.2 h]

/-- What a round that goes on did: read a group of at most four hex digits, followed by `:` or
    ending at `eow`; open the gap at a `:` after a group; or open it at the `::` that starts
    the text. -/
theorem pton6Step_cases (h : pton6Step s eow st = .ok (some st')) :
    st.src < eow ∧ st.i ≤ 7 ∧
    ((evutilIsxdigit (deref s st.src) = true ∧ 0 < (strtol (s.drop st.src) 16).2 ∧
        (strtol (s.drop st.src) 16).2 ≤ 4 ∧ 0 ≤ (strtol (s.drop st.src) 16).1 ∧
        (strtol (s.drop st.src) 16).1 ≤ 65536 ∧
        (deref s (st.src + (strtol (s.drop st.src) 16).2) = ch ':' ∨
          st.src + (strtol (s.drop st.src) 16).2 = eow) ∧
        st' = ⟨st.src + (strtol (s.drop st.src) 16).2 + 1, st.i + 1, st.gapPos, st.setWords + 1,
          setWord st.words st.i ((strtol (s.drop st.src) 16).1.toNat % 65536)⟩) ∨
      (deref s st.src = ch ':' ∧ 0 < st.i ∧ st.gapPos = -1 ∧
        st' = { st with src := st.src + 1, gapPos := st.i }) ∨
      (deref s st.src = ch ':' ∧ st.i = 0 ∧ deref s (st.src + 1) = ch ':' ∧ st.gapPos = -1 ∧
        st' = { st with src := st.src + 2, gapPos := st.i })) := by
  unfold pton6Step at h
  by_cases hlt : st.src < eow
  swap
  · rw [if_neg hlt] at h; cases h
  rw [if_pos hlt] at h
  by_cases h7 : 7 < st.i
  · rw [if_pos h7] at h; cases h
  rw [if_neg h7] at h
  refine ⟨hlt, by omega, ?_⟩
  by_cases hx : evutilIsxdigit (deref s st.src) = true
  · rw [if_pos hx] at h
    dsimp only at h
    by_cases h4 : 4 + st.src < st.src + (strtol (s.drop st.src) 16).2
    · rw [if_pos h4] at h; cases h
    rw [if_neg h4] at h
    by_cases hn : st.src + (strtol (s.drop st.src) 16).2 = st.src
    · rw [if_pos hn] at h; cases h
    rw [if_neg hn] at h
    by_cases hr : (strtol (s.drop st.src) 16).1 < 0 ∨ 65536 < (strtol (s.drop st.src) 16).1
    · rw [if_pos hr] at h; cases h
    rw [if_neg hr] at h
    by_cases hsep : deref s (st.src + (strtol (s.drop st.src) 16).2) ≠ ch ':' ∧
        st.src + (strtol (s.drop st.src) 16).2 ≠ eow
    · rw [if_pos hsep] at h; cases h
    rw [if_neg hsep, Except.ok.injEq, Option.some.injEq] at h
    rw [not_and_or, not_not, not_not] at hsep
    exact .inl ⟨hx, by omega, by omega, by omega, by omega, hsep, h.symm⟩
  rw [if_neg hx] at h
  by_cases hmid : deref s st.src = ch ':' ∧ 0 < st.i ∧ st.gapPos = -1
  · rw [if_pos hmid, Except.ok.injEq, Option.some.injEq] at h
    exact .inr (.inl ⟨hmid.1, hmid.2.1, hmid.2.2, h.symm⟩)
  rw [if_neg hmid] at h
  by_cases hstart : deref s st.src = ch ':' ∧ st.i = 0 ∧ deref s (st.src + 1) = ch ':' ∧
      st.gapPos = -1
  · rw [if_pos hstart, Except.ok.injEq, Option.some.injEq] at h
    exact .inr (.inr ⟨hstart.1, hstart.2.1, hstart.2.2.1, hstart.2.2.2, h.symm⟩)
  rw [if_neg hstart] at h
  cases h

/-- Every round moves `src` forward. -/
theorem pton6Step_progress (h : pton6Step s eow st = .ok (some st')) : st.src < st'.src := by
  obtain ⟨-, -, ⟨-, -, -, -, -, -, rfl⟩ | ⟨-, -, -, rfl⟩ | ⟨-, -, -, -, rfl⟩⟩ := pton6Step_cases h <;>
    dsimp only <;> omega

theorem pton6Loop_of_le (h : eow ≤ st.src) (k : Nat) : pton6Loop s eow k st = .ok st := by
  cases k <;> simp [pton6Loop, pton6Step_of_le h]

theorem pton6Loop_succ (h : pton6Step s eow st = .ok (some st')) (k : Nat) :
    pton6Loop s eow (k + 1) st = pton6Loop s eow k st' := by
  simp [pton6Loop, h]

theorem pton6Loop_pos (h : pton6Step s eow st = .ok (some st')) {k : Nat} (hk : 0 < k) :
    pton6Loop s eow k st = pton6Loop s eow (k - 1) st' := by
  obtain ⟨k, rfl⟩ := Nat.exists_eq_succ_of_ne_zero (Nat.pos_iff_ne_zero.1 hk)
  exact pton6Loop_succ h k

/-- Fuel beyond `eow - src` changes nothing. -/
theorem pton6Loop_fuel : ∀ k st, eow - st.src ≤ k → ∀ m,
    pton6Loop s eow (k + m) st = pton6Loop s eow k st
  | 0, st, h, m => by rw [pton6Loop_of_le (by omega), pton6Loop_of_le (by omega)]
  | k + 1, st, h, m => by
    rw [show k + 1 + m = (k + m) + 1 by omega]
    match hs : pton6Step s eow st with
    | .error r => simp [pton6Loop, hs]
    | .ok none => simp [pton6Loop, hs]
    | .ok (some st') =>
      rw [pton6Loop_succ hs, pton6Loop_succ hs]
      exact pton6Loop_fuel k st' (by have := pton6Step_progress hs; omega) m

/-- A round reading a group `g` in hex, followed by `:` or ending at `eow`. -/
theorem pton6Step_group {g : Nat} {rest : List UInt8} (hsrc : s.drop st.src = fmtNat 16 g ++ rest)
    (hg : g < 65536) (hi : st.i ≤ 7) (hlt : st.src < eow) (hr : Stop rest)
    (hnext : rest.head? = some (ch ':') ∨ st.src + (fmtNat 16 g).length = eow) :
    pton6Step s eow st = .ok (some ⟨st.src + (fmtNat 16 g).length + 1, st.i + 1, st.gapPos,
      st.setWords + 1, setWord st.words st.i g⟩) := by
  have h16 : 2 ≤ 16 := by decide
  have hlen1 : 1 ≤ (fmtNat 16 g).length := List.length_pos.2 (fmtNat_ne_nil h16 g)
  have hlen4 : (fmtNat 16 g).length ≤ 4 := fmtNat_length_le h16 (by decide) (by simpa using hg)
  obtain ⟨c, cs, hcs⟩ := List.exists_cons_of_ne_nil (fmtNat_ne_nil h16 g)
  have hc : evutilIsxdigit (deref s st.src) = true := by
    rw [deref_of_drop_zero hsrc, hcs, evutilIsxdigit_eq]
    exact fmtNat_digits h16 (by decide) g c (by simp [hcs])
  have hst : strtol (s.drop st.src) 16 = ((g : Int), (fmtNat 16 g).length) := by
    rw [hsrc]; exact strtol_fmtNat (Or.inr rfl) (by unfold LONG_MAX; omega) hr
  have hcolon : ¬ (deref s (st.src + (fmtNat 16 g).length) ≠ ch ':' ∧
      st.src + (fmtNat 16 g).length ≠ eow) := by
    rw [deref_of_drop hsrc, getD_append_length]
    rcases hnext with h | h
    · cases rest with
      | nil => simp at h
      | cons x xs => simp at h; simp [h]
    · simp [h]
  unfold pton6Step
  simp only [if_pos hlt, if_neg (show ¬ 7 < st.i by omega), hc, if_true, hst]
  rw [if_neg (by omega), if_neg (by omega), if_neg (by omega), if_neg hcolon]
  simp [Nat.mod_eq_of_lt hg]

/-- The `:` that opens the gap after a group. -/
theorem pton6Step_gap_mid {rest : List UInt8} (hsrc : s.drop st.src = ch ':' :: rest)
    (hlt : st.src < eow) (hi0 : 0 < st.i) (hi : st.i ≤ 7) (hgap : st.gapPos = -1) :
    pton6Step s eow st = .ok (some { st with src := st.src + 1, gapPos := st.i }) := by
  have hd : deref s st.src = ch ':' := by simpa using deref_of_drop_zero hsrc
  have hx : evutilIsxdigit (ch ':') = false := by decide
  simp [pton6Step, hlt, show ¬ 7 < st.i by omega, hd, hx, hi0, hgap]

/-- The `::` that opens the gap at the start. -/
theorem pton6Step_gap_start {rest : List UInt8} (hsrc : s.drop st.src = ch ':' :: ch ':' :: rest)
    (hlt : st.src < eow) (hi : st.i = 0) (hgap : st.gapPos = -1) :
    pton6Step s eow st = .ok (some { st with src := st.src + 2, gapPos := 0 }) := by
  have hd : deref s st.src = ch ':' := by simpa using deref_of_drop_zero hsrc
  have hd1 : deref s (st.src + 1) = ch ':' := by simpa using deref_of_drop hsrc 1
  have hx : evutilIsxdigit (ch ':') = false := by decide
  simp [pton6Step, hlt, hi, hd, hd1, hx, hgap]

end Loop

/-- Three inputs outside the textual grammar that `evutil_inet_pton` accepts. -/
theorem inet_pton_accepts_outside_grammar :
    evutilInetPton AF_INET6 (cstr "1:2:3:4:5:6:7:8:") =
        .ok (.inet6 ⟨![0, 1, 0, 2, 0, 3, 0, 4, 0, 5, 0, 6, 0, 7, 0, 8]⟩) ∧
      evutilInetPton AF_INET6 (cstr "0x1::") =
        .ok (.inet6 ⟨![0, 1, 0, 0, 0, 0, 0, 0, 0, 0, 0, 0, 0, 0, 0, 0]⟩) ∧
      evutilInetPton AF_INET (cstr " 1. 2.3.+4") = .ok (.inet ⟨![1, 2, 3, 4]⟩) := by
  decide

end Evutil
