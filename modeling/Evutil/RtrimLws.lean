/-
  `evutil_rtrim_lws_` (`evutil.c`): the spaces and tabs at the end of a string, cut off in
  place.

  * `rtrimLoop`, `evutilRtrimLws`: the loop that writes `NUL` over them from the end, on the
    buffer that holds the string and its `NUL`.
  * `rtrimLoop_spec`: from `cp`, the loop overwrites the longest run of `' '` and `'\t'` that
    ends at `cp` (the bytes `List.rdropWhile isLws` drops) and nothing else.
  * `rtrim_lws_spec`: the string is cut into the part before that run, which does not end in a
    space or a tab, and the run; the run becomes `NUL`s, and a second call on what is left
    changes nothing. `'\r'` and `'\n'` are kept.
-/
import Mathlib.Data.List.DropRight
import Evutil.CLib

namespace Evutil

/-- `*cp == ' ' || *cp == '\t'`. -/
def isLws (c : UInt8) : Bool := c == ch ' ' || c == ch '\t'

/-- `while (*cp == ' ' || *cp == '\t') { *cp = '\0'; if (cp == str) break; --cp; }` on the
    buffer `buf`, with `cp` an index into it. -/
def rtrimLoop : List UInt8 → Nat → List UInt8
  | buf, 0 => if isLws (deref buf 0) then buf.set 0 0 else buf
  | buf, cp + 1 => if isLws (deref buf (cp + 1)) then rtrimLoop (buf.set (cp + 1) 0) cp else buf

/-- `evutil_rtrim_lws_(str)` on the buffer that holds the string `s` and its `NUL` (`none` for
    `NULL`): the buffer after. `strchr(str, '\0')` is the `NUL`, at `s.length`. -/
def evutilRtrimLws : Option (List UInt8) → Option (List UInt8)
  | none => none
  | some s => some (if s.length = 0 then s ++ [0] else rtrimLoop (s ++ [0]) (s.length - 1))

/-- The bytes `rdropWhile` keeps and those `rtakeWhile` takes make up the list. -/
theorem rdropWhile_append_rtakeWhile (p : UInt8 → Bool) (l : List UInt8) :
    l.rdropWhile p ++ l.rtakeWhile p = l := by
  rw [List.rdropWhile, List.rtakeWhile, ← List.reverse_append, List.takeWhile_append_dropWhile,
    List.reverse_reverse]

/-- A byte `c` at the end of `v`, before the rest `R` of the buffer, and what writing `NUL`
    over it does. -/
theorem deref_concat (v R : List UInt8) (c : UInt8) : deref (v ++ [c] ++ R) v.length = c := by
  rw [deref, List.append_assoc, getD_append_length]
  rfl

theorem set_concat (v R : List UInt8) (c : UInt8) :
    (v ++ [c] ++ R).set v.length 0 = v ++ [0] ++ R := by
  rw [List.append_assoc, List.set_append_right _ _ le_rfl, Nat.sub_self, List.append_assoc]
  rfl

/-- **The loop.** From `cp`, the last byte of `u`, with `k` `NUL`s already written after `u`,
    the loop writes `NUL` over the longest run of `' '` and `'\t'` at the end of `u`. -/
theorem rtrimLoop_spec : ∀ (cp : Nat) (u : List UInt8) (k : Nat), u.length = cp + 1 →
    rtrimLoop (u ++ List.replicate k 0 ++ [0]) cp =
      u.rdropWhile isLws ++ List.replicate (u.length - (u.rdropWhile isLws).length + k) 0 ++ [0] := by
  intro cp
  induction cp with
  | zero =>
    intro u k hu
    obtain ⟨c, rfl⟩ : ∃ c, u = [c] := List.length_eq_one.1 hu
    have hb := deref_concat [] (List.replicate k 0 ++ [0]) c
    have hs := set_concat [] (List.replicate k 0 ++ [0]) c
    simp only [List.nil_append, List.length_nil] at hb hs
    rw [rtrimLoop, List.append_assoc, hb, List.rdropWhile_singleton]
    by_cases hc : isLws c
    · rw [if_pos hc, if_pos hc, hs, Nat.add_comm]
      rfl
    · rw [if_neg hc, if_neg hc]
      simp
  | succ cp ih =>
    intro u k hu
    have hne : u ≠ [] := by rintro rfl; simp at hu
    obtain ⟨v, c, rfl⟩ : ∃ v c, u = v ++ [c] :=
      ⟨_, _, (List.dropLast_append_getLast hne).symm⟩
    simp only [List.length_append, List.length_singleton, Nat.add_right_cancel_iff] at hu
    have hb := deref_concat v (List.replicate k 0 ++ [0]) c
    rw [hu, ← List.append_assoc] at hb
    rw [rtrimLoop, hb]
    by_cases hc : isLws c
    · have hle := (List.rdropWhile_prefix isLws v).length_le
      rw [if_pos hc, List.rdropWhile_concat_pos _ _ _ hc, ← hu, List.append_assoc (v ++ [c]),
        set_concat, List.append_assoc, ← List.append_assoc [0], List.singleton_append,
        ← List.replicate_succ, ← List.append_assoc, ih v (k + 1) hu, List.length_append,
        List.length_singleton]
      congr 3
      omega
    · rw [if_neg hc, List.rdropWhile_concat_neg _ _ _ hc]
      simp

/-- **`evutil_rtrim_lws_`.** The string `s` is the part `t` before the longest run `r` of
    `' '` and `'\t'` at its end, and that run: `t` does not end in a space or a tab. The
    function writes `NUL` over `r` and leaves every other byte of the buffer, so that the string
    left is `t`; a second call on `t` changes nothing. -/
theorem rtrim_lws_spec (s : List UInt8) :
    ∃ t r, s = t ++ r ∧ (∀ c ∈ r, isLws c) ∧ (∀ h : t ≠ [], ¬isLws (t.getLast h)) ∧
      evutilRtrimLws (some s) = some (t ++ List.replicate r.length 0 ++ [0]) ∧
      evutilRtrimLws (some t) = some (t ++ [0]) := by
  have hrun : ∀ u : List UInt8, evutilRtrimLws (some u) =
      some (u.rdropWhile isLws ++ List.replicate (u.length - (u.rdropWhile isLws).length) 0 ++
        [0]) := by
    intro u
    rcases Nat.eq_zero_or_pos u.length with h0 | h0
    · rw [List.length_eq_zero.1 h0]
      rfl
    · have := rtrimLoop_spec (u.length - 1) u 0 (by omega)
      rw [List.replicate_zero, List.append_nil, Nat.add_zero] at this
      rw [evutilRtrimLws, if_neg (by omega), this]
  have hsplit := rdropWhile_append_rtakeWhile isLws s
  refine ⟨_, _, hsplit.symm, fun c hc => List.mem_rtakeWhile_imp hc,
    fun h => List.rdropWhile_last_not _ _ h, ?_, ?_⟩
  · have hlen : s.length = (s.rdropWhile isLws).length + (s.rtakeWhile isLws).length := by
      rw [← List.length_append, hsplit]
    rw [hrun, hlen, Nat.add_sub_cancel_left]
  · rw [hrun, List.rdropWhile_idempotent, Nat.sub_self, List.replicate_zero, List.append_nil]

example : evutilRtrimLws (some (cstr "Host: a \t ")) = some (cstr "Host: a" ++ [0, 0, 0, 0]) := by
  decide

end Evutil
