/-
  What `evutil_inet_pton_scope(AF_INET6, ...)` accepts (`evutil.c`).

  * `Numeral.uvalue`, `strtoul_numeral`: `strtoul` reads a numeral to its end, with its
    `unsigned long` value.
  * `zone_read_iff`: after `if_nametoindex` fails, `strtoul` reads the whole zone exactly when it
    is empty or a numeral (blanks, an optional sign, decimal digits); `zone_index_iff`: the
    index is then the value read modulo 2^32.
  * `inet_pton_scope_iff`: the text is an address `evutil_inet_pton` accepts, alone or followed
    by `%` and a zone that `if_nametoindex` knows, that is empty (index `0`), or that is a
    numeral (its value modulo 2^32); `inet_pton_scope_lax_zones` shows the last three kinds.
-/
import Evutil.Inet
import Evutil.Servname

namespace Evutil

/-! ## `strtoul` on a numeral -/

/-- The `unsigned long` `strtoul` reads from a numeral: the value of the digits, saturated at
    `ULONG_MAX`, and negated modulo 2^64 after `-`. -/
def Numeral.uvalue (x : Numeral) : Nat :=
  let v := digitsValue 10 x.digits 0
  if ULONG_MAX < v then ULONG_MAX else if x.sign = [ch '-'] then (2 ^ 64 - v) % 2 ^ 64 else v

/-- `strtoul` reads a whole numeral to its end. -/
theorem strtoul_numeral (x : Numeral) : strtoul x.text 10 = (x.uvalue, x.text.length) := by
  obtain ⟨hdrop, hdrop', hrd⟩ := numeral_read x
  have hlen : x.digits.length ≠ 0 := fun h => x.digits_ne (List.length_eq_zero.1 h)
  simp only [strtoul, takeWhile_numeral, hdrop, readSign_numeral, hexPrefix_ten, Nat.add_zero,
    hdrop', hrd, hlen, if_false, decide_eq_true_eq]
  simp only [Numeral.uvalue, Numeral.text, List.length_append]

/-- `strtoul` stops where `strtol` does. -/
theorem strtoul_snd (s : List UInt8) (base : Nat) : (strtoul s base).2 = (strtol s base).2 := by
  unfold strtoul strtol
  dsimp only
  split <;> rfl

/-- **The zone read as a number.** `strtoul` reads all of a zone with no NUL exactly when it is
    empty or a numeral. -/
theorem zone_read_iff {Z : List UInt8} (hZ : 0 ∉ Z) :
    deref Z (strtoul Z 10).2 = 0 ↔ Z = [] ∨ ∃ x : Numeral, x.text = Z := by
  rw [deref_eq_zero_iff hZ]
  constructor
  · intro h
    by_cases h0 : (strtol Z 10).2 = 0
    · rw [strtoul_snd, h0] at h
      exact Or.inl (List.eq_nil_of_length_eq_zero (by omega))
    · obtain ⟨x, hx, -⟩ := numeral_of_strtol h0
      rw [strtoul_snd] at h
      rw [List.drop_eq_nil_of_le h, List.append_nil] at hx
      exact Or.inr ⟨x, hx.symm⟩
  · rintro (rfl | ⟨x, rfl⟩)
    · exact Nat.zero_le _
    · rw [strtoul_numeral]

/-- The index of a zone `if_nametoindex` does not know: `strtoul` reads it to its end, and the
    index is the value read modulo 2^32, exactly when it is empty (index `0`) or a numeral. -/
theorem zone_index_iff {Z : List UInt8} (hZ : 0 ∉ Z) (idx : Nat) :
    (deref Z (strtoul Z 10).2 = 0 ∧ idx = (strtoul Z 10).1 % 2 ^ 32) ↔
      (Z = [] ∧ idx = 0) ∨ ∃ x : Numeral, x.text = Z ∧ idx = x.uvalue % 2 ^ 32 := by
  constructor
  · rintro ⟨hr, rfl⟩
    rcases (zone_read_iff hZ).1 hr with rfl | ⟨x, rfl⟩
    · exact .inl ⟨rfl, rfl⟩
    · exact .inr ⟨x, rfl, by rw [strtoul_numeral]⟩
  · rintro (⟨rfl, rfl⟩ | ⟨x, rfl, rfl⟩)
    · exact ⟨(zone_read_iff hZ).2 (.inl rfl), rfl⟩
    · exact ⟨(zone_read_iff hZ).2 (.inr ⟨x, rfl⟩), by rw [strtoul_numeral]⟩

/-! ## The zone -/

theorem evutilInetPtonScope_no_zone (ifNametoindex : List UInt8 → Nat) {s : List UInt8}
    (h : ch '%' ∉ s) :
    evutilInetPtonScope ifNametoindex AF_INET6 s = (0, evutilInetPton AF_INET6 s) := by
  rw [evutilInetPtonScope, if_neg (not_not.2 rfl), strchr_eq_none h]

/-- With a zone after the first `%`: `if_nametoindex`, then `strtoul` read to the end, then
    the address before the `%`. -/
theorem evutilInetPtonScope_zone (ifNametoindex : List UInt8 → Nat) {A Z : List UInt8}
    (hA : ch '%' ∉ A) :
    evutilInetPtonScope ifNametoindex AF_INET6 (A ++ ch '%' :: Z) =
      if ifNametoindex Z = 0 ∧ deref Z (strtoul Z 10).2 ≠ 0 then (0, .error 0)
      else ((if ifNametoindex Z = 0 then (strtoul Z 10).1 % 2 ^ 32 else ifNametoindex Z),
        evutilInetPton AF_INET6 A) := by
  have hdrop : (A ++ ch '%' :: Z).drop (A.length + 1) = Z := by
    simp [List.drop_append_eq_append_drop]
  rw [evutilInetPtonScope, if_neg (not_not.2 rfl), strchr_append_cons hA]
  simp only [hdrop, List.take_left]

/-- The text before the first `%` and after it are determined by the text. -/
theorem split_first_eq {c : UInt8} {A Z A' Z' : List UInt8} (hA : c ∉ A) (hA' : c ∉ A')
    (h : A ++ c :: Z = A' ++ c :: Z') : A = A' ∧ Z = Z' := by
  have hlen : A.length = A'.length := by
    have := @strchr_append_cons A Z c hA
    rw [h, strchr_append_cons hA'] at this
    exact (Option.some.inj this).symm
  exact List.append_inj h hlen |>.imp id List.cons.inj |>.imp id And.right

/-- **`evutil_inet_pton_scope(AF_INET6, s, dst, &idx)` returns `1`** exactly when `s` is an
    address that `evutil_inet_pton` accepts, with `idx = 0`, or such an address `A`, a `%` and
    a zone `Z` whose index is `if_nametoindex(Z)` when that is not `0`, and otherwise `0` for an
    empty zone or the value `strtoul` reads, modulo 2^32, for a numeral. `dst` then holds the
    address. -/
theorem inet_pton_scope_iff (ifNametoindex : List UInt8 → Nat) (s : List UInt8) (hs : 0 ∉ s)
    (idx : Nat) (a : Addr) :
    evutilInetPtonScope ifNametoindex AF_INET6 s = (idx, .ok a) ↔
      (ch '%' ∉ s ∧ evutilInetPton AF_INET6 s = .ok a ∧ idx = 0) ∨
      ∃ A Z, s = A ++ ch '%' :: Z ∧ ch '%' ∉ A ∧ evutilInetPton AF_INET6 A = .ok a ∧
        ((ifNametoindex Z ≠ 0 ∧ idx = ifNametoindex Z) ∨
          (ifNametoindex Z = 0 ∧
            ((Z = [] ∧ idx = 0) ∨ ∃ x : Numeral, x.text = Z ∧ idx = x.uvalue % 2 ^ 32))) := by
  have swap : ∀ {P : Prop} {u v : Nat}, u = v ∧ P ↔ P ∧ v = u :=
    and_comm.trans (and_congr_right fun _ => eq_comm)
  by_cases hp : ch '%' ∈ s
  · obtain ⟨p, hsp⟩ := Option.ne_none_iff_exists'.1 fun h => not_mem_of_strchr_eq_none h hp
    obtain ⟨hA, hsplit⟩ := strchr_eq_some hsp
    set A := s.take p
    set Z := s.drop (p + 1)
    have hZ : 0 ∉ Z := fun h => hs (List.mem_of_mem_drop h)
    have hex : (∃ A' Z', s = A' ++ ch '%' :: Z' ∧ ch '%' ∉ A' ∧
          evutilInetPton AF_INET6 A' = .ok a ∧
          ((ifNametoindex Z' ≠ 0 ∧ idx = ifNametoindex Z') ∨ (ifNametoindex Z' = 0 ∧
            ((Z' = [] ∧ idx = 0) ∨ ∃ x : Numeral, x.text = Z' ∧ idx = x.uvalue % 2 ^ 32)))) ↔
        evutilInetPton AF_INET6 A = .ok a ∧
          ((ifNametoindex Z ≠ 0 ∧ idx = ifNametoindex Z) ∨ (ifNametoindex Z = 0 ∧
            ((Z = [] ∧ idx = 0) ∨ ∃ x : Numeral, x.text = Z ∧ idx = x.uvalue % 2 ^ 32))) := by
      constructor
      · rintro ⟨A', Z', h, hA', hrest⟩
        obtain ⟨rfl, rfl⟩ := split_first_eq hA hA' (hsplit.symm.trans h)
        exact hrest
      · exact fun h => ⟨A, Z, hsplit, hA, h⟩
    rw [or_iff_right (fun h => h.1 hp), hex, hsplit, evutilInetPtonScope_zone _ hA]
    by_cases hn : ifNametoindex Z = 0
    · simp only [hn, true_and, ne_eq, not_true_eq_false, false_and, false_or, if_true,
        ← zone_index_iff hZ idx]
      by_cases hr : deref Z (strtoul Z 10).2 = 0
      · simp only [hr, not_true_eq_false, if_false, true_and, Prod.mk.injEq]
        exact swap
      · simp [hr]
    · simp only [hn, false_and, if_false, ne_eq, not_false_eq_true, true_and, or_false,
        Prod.mk.injEq]
      exact swap
  · rw [evutilInetPtonScope_no_zone _ hp, Prod.mk.injEq, swap]
    constructor
    · exact fun h => .inl ⟨hp, h⟩
    · rintro (⟨-, h⟩ | ⟨A, Z, h, -⟩)
      · exact h
      · exact absurd (h ▸ List.mem_append_right A (List.mem_cons_self _ _)) hp

/-- The theorem at `"::1%5"`, with no interface names. -/
theorem inet_pton_scope_iff_numeric :
    0 ∉ cstr "::1%5" ∧
    (evutilInetPtonScope (fun _ => 0) AF_INET6 (cstr "::1%5") =
        (5, .ok (.inet6 ⟨![0, 0, 0, 0, 0, 0, 0, 0, 0, 0, 0, 0, 0, 0, 0, 1]⟩)) ↔
      (ch '%' ∉ cstr "::1%5" ∧ evutilInetPton AF_INET6 (cstr "::1%5") =
          .ok (.inet6 ⟨![0, 0, 0, 0, 0, 0, 0, 0, 0, 0, 0, 0, 0, 0, 0, 1]⟩) ∧ 5 = 0) ∨
      ∃ A Z, cstr "::1%5" = A ++ ch '%' :: Z ∧ ch '%' ∉ A ∧
        evutilInetPton AF_INET6 A = .ok (.inet6 ⟨![0, 0, 0, 0, 0, 0, 0, 0, 0, 0, 0, 0, 0, 0, 0, 1]⟩) ∧
        (((fun _ => 0) Z ≠ 0 ∧ 5 = (fun _ => 0) Z) ∨
          ((fun _ => 0) Z = 0 ∧
            ((Z = [] ∧ 5 = 0) ∨ ∃ x : Numeral, x.text = Z ∧ 5 = x.uvalue % 2 ^ 32)))) :=
  ⟨by decide, inet_pton_scope_iff (fun _ => 0) (cstr "::1%5") (by decide) 5 _⟩

/-- Zones outside "a known name or decimal digits up to 2^32 - 1" that are accepted, with no
    interface names: an empty zone, a sign, a blank, and a value above 2^32 - 1 taken modulo
    2^32. -/
theorem inet_pton_scope_lax_zones :
    evutilInetPtonScope (fun _ => 0) AF_INET6 (cstr "::1%") =
        (0, .ok (.inet6 ⟨![0, 0, 0, 0, 0, 0, 0, 0, 0, 0, 0, 0, 0, 0, 0, 1]⟩)) ∧
      evutilInetPtonScope (fun _ => 0) AF_INET6 (cstr "::1%-1") =
        (4294967295, .ok (.inet6 ⟨![0, 0, 0, 0, 0, 0, 0, 0, 0, 0, 0, 0, 0, 0, 0, 1]⟩)) ∧
      evutilInetPtonScope (fun _ => 0) AF_INET6 (cstr "::1% 5") =
        (5, .ok (.inet6 ⟨![0, 0, 0, 0, 0, 0, 0, 0, 0, 0, 0, 0, 0, 0, 0, 1]⟩)) ∧
      evutilInetPtonScope (fun _ => 0) AF_INET6 (cstr "::1%4294967301") =
        (5, .ok (.inet6 ⟨![0, 0, 0, 0, 0, 0, 0, 0, 0, 0, 0, 0, 0, 0, 0, 1]⟩)) := by
  decide

end Evutil
