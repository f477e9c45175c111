/-
  What a text `evutil_inet_pton` accepts looks like.

  * `evutilInetPton4_scanByte`: an accepted IPv4 text holds only white space, signs, decimal
    digits and dots, the bytes `sscanf("%u.%u.%u.%u")` reads; so no `:` and no `[`;
  * `Pton6Inv`, `pton6Step_inv`, `pton6Loop_inv`: over every run of the IPv6 loop the `:`
    read so far pay for the groups read and the gap opened; so an accepted IPv6 text has at
    least two `:` (`two_le_count_colon`) and starts with a hex digit or `:`
    (`evutilInetPton6_head`).
-/
import Evutil.InetParse

namespace Evutil

/-! ## IPv4 -/

/-- A byte `sscanf("%u.%u.%u.%u")` can read: white space, a sign, a digit or a dot. -/
def scanByte (c : UInt8) : Bool :=
  cIsspace c || c == 45 || c == 43 || (digitVal 10 c).isSome || c == 46

theorem readDigits_take (base : Nat) {c : UInt8} :
    ∀ (l : List UInt8) (acc : Nat), c ∈ l.take (readDigits base l acc).2 → (digitVal base c).isSome
  | [], _, h => by simp at h
  | x :: xs, acc, h => by
    cases hx : digitVal base x with
    | none => simp [readDigits, hx] at h
    | some d =>
      simp only [readDigits, hx, List.take_succ_cons, List.mem_cons] at h
      rcases h with rfl | h
      · simp [hx]
      · exact readDigits_take base xs _ h

theorem readSign_take {t : List UInt8} {c : UInt8} (h : c ∈ t.take (readSign t).2) :
    c = 45 ∨ c = 43 := by
  unfold readSign at h
  split at h <;> simp_all

/-- `%u` reads only `scanByte`s: what it leaves is a suffix after them. -/
theorem scanU_scanByte {s rest : List UInt8} {v : Nat} (h : scanU s = some (v, rest))
    (hr : ∀ c ∈ rest, scanByte c = true) : ∀ c ∈ s, scanByte c = true := by
  unfold scanU at h
  dsimp only at h
  by_cases h0 : (readDigits 10 ((s.dropWhile cIsspace).drop
      (readSign (s.dropWhile cIsspace)).2) 0).2 = 0
  · rw [if_pos h0] at h; cases h
  rw [if_neg h0, Option.some.injEq, Prod.mk.injEq] at h
  obtain ⟨-, rfl⟩ := h
  intro c hc
  rw [← List.takeWhile_append_dropWhile cIsspace s] at hc
  rcases List.mem_append.1 hc with hc | hc
  · simp [scanByte, List.mem_takeWhile_imp hc]
  · set t := s.dropWhile cIsspace
    rw [← List.take_append_drop ((readSign t).2 + (readDigits 10 (t.drop (readSign t).2) 0).2) t,
      List.take_add] at hc
    simp only [List.mem_append] at hc
    rcases hc with (hc | hc) | hc
    · rcases readSign_take hc with rfl | rfl <;> rfl
    · simp [scanByte, readDigits_take 10 _ 0 hc]
    · exact hr c hc

theorem scanDot_scanByte {s rest : List UInt8} (h : scanDot s = some rest)
    (hr : ∀ c ∈ rest, scanByte c = true) : ∀ c ∈ s, scanByte c = true := by
  unfold scanDot at h
  split at h
  · simp only [Option.some.injEq] at h
    subst h
    intro c hc
    rcases List.mem_cons.1 hc with rfl | hc
    · rfl
    · exact hr c hc
  · cases h

theorem sscanfDottedQuad_scanByte {s : List UInt8} {q : Nat × Nat × Nat × Nat}
    (h : sscanfDottedQuad s = some q) : ∀ c ∈ s, scanByte c = true := by
  simp only [sscanfDottedQuad, Option.bind_eq_bind, Option.bind_eq_some] at h
  obtain ⟨⟨_, s1⟩, h1, s2, h2, ⟨_, s3⟩, h3, s4, h4, ⟨_, s5⟩, h5, s6, h6, ⟨_, s7⟩, h7, h8⟩ := h
  split_ifs at h8 with h9
  subst h9
  exact scanU_scanByte h1 <| scanDot_scanByte h2 <| scanU_scanByte h3 <| scanDot_scanByte h4 <|
    scanU_scanByte h5 <| scanDot_scanByte h6 <| scanU_scanByte h7 (by simp)

theorem evutilInetPton4_scanByte {s : List UInt8} {a : InAddr} (h : evutilInetPton4 s = .ok a) :
    ∀ c ∈ s, scanByte c = true := by
  unfold evutilInetPton4 at h
  split at h
  · cases h
  · exact sscanfDottedQuad_scanByte (by assumption)

theorem evutilInetPton4_no_colon {s : List UInt8} {a : InAddr} (h : evutilInetPton4 s = .ok a) :
    ch ':' ∉ s := fun hc => absurd (evutilInetPton4_scanByte h _ hc) (by decide)

theorem evutilInetPton4_not_bracket {s : List UInt8} {a : InAddr} (h : evutilInetPton4 s = .ok a) :
    deref s 0 ≠ ch '[' := by
  cases s with
  | nil => exact fun h' => absurd h' (by decide)
  | cons x xs =>
    intro hx
    have := evutilInetPton4_scanByte h x (List.mem_cons_self _ _)
    rw [show x = ch '[' from hx] at this
    exact absurd this (by decide)

/-! ## Counting `:` -/

theorem count_take_succ {s : List UInt8} {c : UInt8} (hc : c ≠ 0) (p : Nat) :
    (s.take (p + 1)).count c = (s.take p).count c + if deref s p = c then 1 else 0 := by
  rw [List.take_succ, List.count_append]
  congr 1
  unfold deref
  cases h : s[p]? with
  | none => simp [List.getD_eq_getElem?_getD, h, Ne.symm hc]
  | some x => simp [List.getD_eq_getElem?_getD, h, List.count_singleton']

theorem count_take_mono (s : List UInt8) (c : UInt8) {p q : Nat} (h : p ≤ q) :
    (s.take p).count c ≤ (s.take q).count c := by
  rw [show q = p + (q - p) by omega, List.take_add, List.count_append]
  exact Nat.le_add_right _ _

/-! ## The IPv6 loop -/

/-- The `:` the loop has read. -/
def colonsRead (s : List UInt8) (st : Pton6State) : Nat := (s.take st.src).count (ch ':')

/-- What the loop keeps true: every group read but one ending at `eow` was followed by a `:`
    read with it, opening the gap read at least one more, and once it is open two `:` have
    been read; `setWords` is the number of groups plus `d`, the words of a dotted quad. -/
def Pton6Inv (s : List UInt8) (eow d : Nat) (st : Pton6State) : Prop :=
  st.i + (if st.gapPos = -1 then 0 else 1) ≤ colonsRead s st + (if eow < st.src then 1 else 0) ∧
    (st.gapPos ≠ -1 → 2 ≤ colonsRead s st) ∧ st.setWords = st.i + d

section Loop
variable {s : List UInt8} {eow d : Nat} {st st' : Pton6State}

theorem pton6Inv_init (w : Nat → Option Nat) : Pton6Inv s eow d ⟨0, 0, -1, d, w⟩ := by
  simp [Pton6Inv]

/-- One round keeps the invariant. -/
theorem pton6Step_inv (h : pton6Step s eow st = .ok (some st')) (hi : Pton6Inv s eow d st) :
    Pton6Inv s eow d st' := by
  obtain ⟨h1, h2, h3⟩ := hi
  have hcolon : ch ':' ≠ 0 := by decide
  obtain ⟨hlt, -, hcases⟩ := pton6Step_cases h
  have hslack : ¬ eow < st.src := by omega
  simp only [colonsRead, hslack, if_false, Nat.add_zero] at h1 h2
  obtain ⟨-, -, -, -, -, hsep, rfl⟩ | ⟨hc, hi0, hg0, rfl⟩ | ⟨hc, -, hc1, hg0, rfl⟩ := hcases
  · -- a group, followed by `:` or ending at `eow`
    have hmono := count_take_mono s (ch ':')
      (show st.src ≤ st.src + (strtol (s.drop st.src) 16).2 by omega)
    have hsucc := count_take_succ (s := s) hcolon (st.src + (strtol (s.drop st.src) 16).2)
    refine ⟨?_, fun hg => ?_, by simp only; omega⟩ <;> simp only [colonsRead]
    · rcases hsep with hsep | hsep
      · rw [if_pos hsep] at hsucc
        split_ifs at h1 ⊢ <;> omega
      · rw [if_pos (show eow < st.src + (strtol (s.drop st.src) 16).2 + 1 by omega)]
        split_ifs at h1 hsucc ⊢ <;> omega
    · have := h2 hg
      split_ifs at hsucc <;> omega
  · -- the `:` after a group, which opens the gap
    have hsucc := count_take_succ (s := s) hcolon st.src
    rw [if_pos hc] at hsucc
    simp only [hg0, if_true, Nat.add_zero] at h1
    refine ⟨?_, fun _ => ?_, h3⟩ <;> simp only [colonsRead]
    · split_ifs <;> omega
    · omega
  · -- the `::` at the start
    have hsucc := count_take_succ (s := s) hcolon st.src
    have hsucc' := count_take_succ (s := s) hcolon (st.src + 1)
    rw [if_pos hc] at hsucc
    rw [if_pos hc1] at hsucc'
    refine ⟨?_, fun _ => ?_, h3⟩ <;> simp only [colonsRead] <;>
      rw [show st.src + 2 = st.src + 1 + 1 by omega]
    · split_ifs <;> omega
    · omega

/-- A whole run keeps the invariant. -/
theorem pton6Loop_inv : ∀ k st, pton6Loop s eow k st = .ok st' → Pton6Inv s eow d st →
    Pton6Inv s eow d st'
  | 0, st, h, hi => by simp only [pton6Loop, Except.ok.injEq] at h; exact h ▸ hi
  | k + 1, st, h, hi => by
    match hs : pton6Step s eow st with
    | .error r => simp [pton6Loop, hs] at h
    | .ok none =>
      simp only [pton6Loop, hs, Except.ok.injEq] at h
      exact h ▸ hi
    | .ok (some st1) =>
      rw [pton6Loop_succ hs] at h
      exact pton6Loop_inv k st1 h (pton6Step_inv hs hi)

/-- After an accepted run, two `:` have been read. -/
theorem two_le_colonsRead {dotted : Bool} {a : In6Addr} (hf : pton6Finish dotted st = .ok a)
    (hi : Pton6Inv s eow d st) (hd : d ≤ 2) : 2 ≤ colonsRead s st := by
  obtain ⟨h1, h2, h3⟩ := hi
  have hbad : ¬ (8 < st.setWords ∨ (st.setWords = 8 ∧ st.gapPos ≠ -1) ∨
      (st.setWords < 8 ∧ st.gapPos = -1)) := fun hb => by
    rw [pton6Finish, if_pos hb] at hf; cases hf
  by_cases hg : st.gapPos = -1
  · rw [if_pos hg] at h1
    split_ifs at h1 <;> omega
  · exact h2 hg

end Loop

theorem except_bind_ok {ε α β : Type} {x : Except ε α} {f : α → Except ε β} {b : β}
    (h : x.bind f = .ok b) : ∃ y, x = .ok y ∧ f y = .ok b := by
  cases x with
  | error e => cases h
  | ok y => exact ⟨y, rfl, h⟩

/-- An accepted IPv6 text is an accepted run of the loop from its first state. -/
theorem evutilInetPton6_run {s : List UInt8} {a : In6Addr} (h : evutilInetPton6 s = .ok a) :
    ∃ eow d w st dotted, d ≤ 2 ∧ pton6Loop s eow eow ⟨0, 0, -1, d, w⟩ = .ok st ∧
      pton6Finish dotted st = .ok a := by
  unfold evutilInetPton6 at h
  split at h
  · cases h
  · obtain ⟨st, hl, hf⟩ := except_bind_ok h
    exact ⟨_, 0, _, st, false, by decide, hl, hf⟩
  · dsimp only at h
    split at h
    · cases h
    · split_ifs at h
      obtain ⟨st, hl, hf⟩ := except_bind_ok h
      exact ⟨_, 2, _, st, true, le_rfl, hl, hf⟩

/-- **An accepted IPv6 text has at least two `:`.** -/
theorem two_le_count_colon {s : List UInt8} {a : In6Addr} (h : evutilInetPton6 s = .ok a) :
    2 ≤ s.count (ch ':') := by
  obtain ⟨eow, d, w, st, dotted, hd, hl, hf⟩ := evutilInetPton6_run h
  exact (two_le_colonsRead hf (pton6Loop_inv _ _ hl (pton6Inv_init w)) hd).trans
    ((List.take_sublist _ _).count_le _)

theorem pton6Loop_first {s : List UInt8} {eow : Nat} {st st' : Pton6State} :
    ∀ {k}, pton6Loop s eow k st = .ok st' → st' = st ∨ ∃ st1, pton6Step s eow st = .ok (some st1)
  | 0, h => by simp only [pton6Loop, Except.ok.injEq] at h; exact Or.inl h.symm
  | k + 1, h => by
    match hs : pton6Step s eow st with
    | .error r => simp [pton6Loop, hs] at h
    | .ok none =>
      simp only [pton6Loop, hs, Except.ok.injEq] at h
      exact Or.inl h.symm
    | .ok (some st1) => exact Or.inr ⟨st1, rfl⟩

/-- A round that goes on starts at a hex digit or a `:`. -/
theorem pton6Step_head {s : List UInt8} {eow : Nat} {st st1 : Pton6State}
    (h : pton6Step s eow st = .ok (some st1)) :
    evutilIsxdigit (deref s st.src) = true ∨ deref s st.src = ch ':' := by
  by_contra hc
  rw [not_or] at hc
  simp [pton6Step, hc.1, hc.2] at h
  split_ifs at h
  simp at h

/-- **An accepted IPv6 text starts with a hex digit or a `:`**, so never with `[`. -/
theorem evutilInetPton6_head {s : List UInt8} {a : In6Addr} (h : evutilInetPton6 s = .ok a) :
    evutilIsxdigit (deref s 0) = true ∨ deref s 0 = ch ':' := by
  obtain ⟨eow, d, w, st, dotted, hd, hl, hf⟩ := evutilInetPton6_run h
  rcases pton6Loop_first hl with h0 | ⟨st1, hs⟩
  · rw [h0, pton6Finish, if_pos (Or.inr (Or.inr ⟨show d < 8 by omega, rfl⟩))] at hf
    cases hf
  · have := pton6Step_head hs
    simp only at this
    exact this

theorem evutilInetPton6_not_bracket {s : List UInt8} {a : In6Addr} (h : evutilInetPton6 s = .ok a) :
    deref s 0 ≠ ch '[' := by
  rcases evutilInetPton6_head h with h | h <;> intro hb <;> rw [hb] at h <;> revert h <;> decide

/-! ## With a zone -/

theorem evutilInetPton_inet6 {t : List UInt8} {x : Addr} (h : evutilInetPton AF_INET6 t = .ok x) :
    ∃ a, evutilInetPton6 t = .ok a ∧ x = .inet6 a := by
  unfold evutilInetPton at h
  rw [if_neg (by decide), if_pos rfl] at h
  cases h6 : evutilInetPton6 t with
  | error e => simp [h6, Except.map] at h
  | ok a => simp only [h6, Except.map, Except.ok.injEq] at h; exact ⟨a, rfl, h.symm⟩

/-- What `evutil_inet_pton_scope(AF_INET6, ...)` accepts: an accepted IPv6 text, possibly
    followed by `%` and a zone. -/
theorem evutilInetPtonScope_accept {ifNametoindex : List UInt8 → Nat} {s : List UInt8} {idx : Nat}
    {x : Addr} (h : evutilInetPtonScope ifNametoindex AF_INET6 s = (idx, .ok x)) :
    ∃ t a, t <+: s ∧ evutilInetPton6 t = .ok a ∧ x = .inet6 a := by
  unfold evutilInetPtonScope at h
  rw [if_neg (fun h => h rfl)] at h
  split at h
  · obtain ⟨a, ha, rfl⟩ := evutilInetPton_inet6 (Prod.mk.inj h).2
    exact ⟨s, a, List.prefix_refl s, ha, rfl⟩
  · dsimp only at h
    split_ifs at h
    · simp at h
    all_goals
      obtain ⟨a, ha, rfl⟩ := evutilInetPton_inet6 (Prod.mk.inj h).2
      exact ⟨_, a, List.take_prefix _ _, ha, rfl⟩

theorem evutilInetPtonScope_colons {ifNametoindex : List UInt8 → Nat} {s : List UInt8} {idx : Nat}
    {x : Addr} (h : evutilInetPtonScope ifNametoindex AF_INET6 s = (idx, .ok x)) :
    2 ≤ s.count (ch ':') := by
  obtain ⟨t, a, ht, ha, -⟩ := evutilInetPtonScope_accept h
  exact (two_le_count_colon ha).trans (ht.sublist.count_le _)

theorem evutilInetPtonScope_not_bracket {ifNametoindex : List UInt8 → Nat} {s : List UInt8}
    {idx : Nat} {x : Addr} (h : evutilInetPtonScope ifNametoindex AF_INET6 s = (idx, .ok x)) :
    deref s 0 ≠ ch '[' := by
  obtain ⟨t, a, ⟨u, rfl⟩, ha, -⟩ := evutilInetPtonScope_accept h
  have hne : t ≠ [] := by
    rintro rfl
    have := two_le_count_colon ha
    simp at this
  obtain ⟨y, ys, rfl⟩ := List.exists_cons_of_ne_nil hne
  simpa [deref] using evutilInetPton6_not_bracket ha

end Evutil
