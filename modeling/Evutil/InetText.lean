/-
  What `evutil_inet_ntop` writes.

  * `inetNtop4_eq`: the IPv4 path returns the whole text when it fits, counting the NUL, and
    `NULL` otherwise, as `snprintf`'s return value tells it.
  * `inetNtop6_eq`: the IPv6 paths test `strlen(buf) > len` and then `strlcpy`, so at
    `len = strlen(buf)` they return the text without its last byte
    (`inet_ntop_truncates_loopback`).
-/
import Evutil.Inet

namespace Evutil

/-! ## Words -/

theorem In6Addr.byte_lt (a : In6Addr) (k : Nat) : a.byte k < 256 := by
  unfold In6Addr.byte; split_ifs
  · exact UInt8.toNat_lt_size _
  · decide

theorem In6Addr.word_eq (a : In6Addr) (i : Nat) :
    a.word i = a.byte (2 * i) * 256 + a.byte (2 * i + 1) := by
  simp [In6Addr.word, Nat.shiftLeft_eq]

theorem In6Addr.word_lt (a : In6Addr) (i : Nat) : a.word i < 65536 := by
  have := a.byte_lt (2 * i); have := a.byte_lt (2 * i + 1); rw [a.word_eq]; omega

/-! ## Runs of zero words -/

section Runs
variable {w : Nat → Nat}

theorem le_zeroRunEnd : ∀ k i, i ≤ zeroRunEnd w k i
  | 0, i => le_refl i
  | k + 1, i => by
    simp only [zeroRunEnd]
    split_ifs
    · exact (Nat.le_succ i).trans (le_zeroRunEnd k _)
    · exact le_refl i

theorem zeroRunEnd_le : ∀ k i, i ≤ 8 → zeroRunEnd w k i ≤ 8
  | 0, _, h => h
  | k + 1, i, h => by
    simp only [zeroRunEnd]
    split_ifs
    · exact zeroRunEnd_le k _ (by omega)
    · exact h

/-- The words from `i` up to the end of the run are zero. -/
theorem zeroRunEnd_zero : ∀ k i j, i ≤ j → j < zeroRunEnd w k i → w j = 0
  | 0, i, j, h1, h2 => by simp [zeroRunEnd] at h2; omega
  | k + 1, i, j, h1, h2 => by
    simp only [zeroRunEnd] at h2
    split_ifs at h2 with h
    · rcases Nat.eq_or_lt_of_le h1 with rfl | h1
      · exact h.2
      · exact zeroRunEnd_zero k (i + 1) j h1 h2
    · omega

theorem lt_zeroRunEnd {i : Nat} (hi : i < 8) (hw : w i = 0) (k : Nat) :
    i < zeroRunEnd w (k + 1) i := by
  simp only [zeroRunEnd, if_pos (And.intro hi hw)]
  exact le_zeroRunEnd k (i + 1)

/-- A gap position: `-1`, or the index of a zero word. -/
def GapOk (w : Nat → Nat) (p : Int) : Prop := p = -1 ∨ (0 ≤ p ∧ p < 8 ∧ w p.toNat = 0)

theorem longestGap_ok : ∀ k i (g : Int × Nat), GapOk w g.1 → GapOk w (longestGap w k i g).1
  | 0, _, _, h => h
  | k + 1, i, g, h => by
    simp only [longestGap]
    split_ifs with h1 h2 h3
    · exact longestGap_ok k _ _ (Or.inr ⟨by omega, by omega, by simpa using h2⟩)
    · exact longestGap_ok k _ _ h
    · exact longestGap_ok k _ _ h
    · exact h

end Runs

/-- The gap position `evutil_inet_ntop` settles on. -/
def ntop6GapPos (a : In6Addr) : Int :=
  let g := longestGap a.word 8 0 (-1, 0)
  if g.2 ≤ 1 then -1 else g.1

theorem ntop6GapPos_ok (a : In6Addr) : GapOk a.word (ntop6GapPos a) := by
  dsimp only [ntop6GapPos]
  split_ifs
  · exact Or.inl rfl
  · exact longestGap_ok 8 0 (-1, 0) (Or.inl rfl)

theorem inetNtop6Text_general {a : In6Addr} (h : isIPv4Form a = false) :
    inetNtop6Text a = ntop6Groups a.word (ntop6GapPos a) 8 0 := by
  simp [inetNtop6Text, h, ntop6GapPos]

/-! ## The groups -/

/-- Groups in hex, each followed by `:`. -/
def hexEach : List Nat → List UInt8
  | [] => []
  | g :: gs => fmtNat 16 g ++ ch ':' :: hexEach gs

/-- Groups in hex joined by `:`. -/
def hexColons : List Nat → List UInt8
  | [] => []
  | [g] => fmtNat 16 g
  | g :: g' :: gs => fmtNat 16 g ++ ch ':' :: hexColons (g' :: gs)

section Groups
variable {w : Nat → Nat} {gp : Int}

theorem ntop6Groups_of_ge {i : Nat} (h : 8 ≤ i) : ∀ k, ntop6Groups w gp k i = []
  | 0 => rfl
  | k + 1 => by simp [ntop6Groups, Nat.not_lt.2 h]

/-- With no gap from `i` on, the groups from `i` joined by `:`. -/
theorem ntop6Groups_nogap : ∀ k i, 8 ≤ k + i → (∀ j, i ≤ j → j < 8 → ¬ (w j = 0 ∧ gp = j)) →
    ntop6Groups w gp k i = hexColons ((List.range' i (8 - i)).map w)
  | 0, i, hk, _ => by simp [ntop6Groups, show 8 - i = 0 by omega, hexColons]
  | k + 1, i, hk, hgp => by
    by_cases hi : 8 ≤ i
    · rw [ntop6Groups_of_ge hi, show 8 - i = 0 by omega]; rfl
    · have ih := ntop6Groups_nogap k (i + 1) (by omega) (fun j h1 h2 => hgp j (by omega) h2)
      rw [show 8 - (i + 1) = 7 - i by omega] at ih
      simp only [ntop6Groups, if_pos (show i < 8 by omega), if_neg (hgp i le_rfl (by omega)), ih]
      rw [show 8 - i = (7 - i) + 1 by omega, List.range'_succ]
      by_cases h7 : i = 7
      · subst h7; simp [hexColons]
      · rw [show 7 - i = (6 - i) + 1 by omega, List.range'_succ]
        simp [hexColons, h7]

/-- With the gap at `gp ≥ i`: the groups before it each followed by `:`, the `:` of the gap
    (two at the start), then the groups after the run of zeros. -/
theorem ntop6Groups_gap (hp : 0 ≤ gp) (hp8 : gp < 8) (hw : w gp.toNat = 0) :
    ∀ n i k, i + n = gp.toNat → 8 ≤ k + i →
      ntop6Groups w gp k i = hexEach ((List.range' i n).map w) ++
        ((if gp = 0 then [ch ':'] else []) ++
          ch ':' :: ntop6Groups w gp (k - n - 1) (zeroRunEnd w 8 gp.toNat))
  | 0, i, k, hi, hk => by
    obtain ⟨k, rfl⟩ : ∃ k', k = k' + 1 := ⟨k - 1, by omega⟩
    have hgi : gp = i := by omega
    simp only [ntop6Groups, if_pos (show i < 8 by omega), hexEach, List.range'_zero,
      List.map_nil, List.nil_append, Nat.add_sub_cancel, Nat.sub_zero]
    rw [if_pos ⟨by rw [← hi, Nat.add_zero] at hw; exact hw, hgi⟩, hgi]
    simp
  | n + 1, i, k, hi, hk => by
    obtain ⟨k, rfl⟩ : ∃ k', k = k' + 1 := ⟨k - 1, by omega⟩
    have ih := ntop6Groups_gap hp hp8 hw n (i + 1) k (by omega) (by omega)
    simp only [ntop6Groups, if_pos (show i < 8 by omega),
      if_neg (show ¬ (w i = 0 ∧ gp = i) by omega), if_pos (show i ≠ 7 by omega), ih,
      List.range'_succ, List.map_cons, hexEach]
    rw [show k + 1 - (n + 1) - 1 = k - n - 1 by omega]
    simp

end Groups

/-- `in6addr_loopback`, `::1`. -/
def in6addrLoopback : In6Addr := ⟨fun k => if k.val = 15 then 1 else 0⟩

theorem inetNtop4_eq (a : InAddr) (len : Nat) :
    evutilInetNtop4 a len =
      if len ≤ (inetNtop4Text a).length then none else some (inetNtop4Text a) := by
  unfold evutilInetNtop4 evutilSnprintf
  by_cases h0 : len = 0
  · simp [h0]
  · by_cases h : len ≤ (inetNtop4Text a).length
    · simp [h0, h]
    · have h1 : ¬ ((inetNtop4Text a).length : Int) < 0 := by omega
      simp only [h0, if_false, h, h1, or_self]
      exact congrArg some (List.take_of_length_le (by omega))

theorem inetNtop6_eq (a : In6Addr) (len : Nat) :
    evutilInetNtop6 a len =
      if len < (inetNtop6Text a).length then none
      else some ((inetNtop6Text a).take (len - 1)) := rfl

/-- At `len = strlen(buf)` the IPv6 path returns `dst` holding the text without its last
    byte: `::1` with `len = 3` comes back as `::`. -/
theorem inet_ntop_truncates_loopback :
    inetNtop6Text in6addrLoopback = cstr "::1" ∧
      evutilInetNtop (.inet6 in6addrLoopback) 3 = some (cstr "::") := by
  decide

end Evutil
