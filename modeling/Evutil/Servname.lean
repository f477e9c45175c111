/-
  Numeric service names: `parse_numeric_servname` and `evutil_parse_servname` (`evutil.c`).

  * `Numeral`: a text that `strtol(s, &end, 10)` reads to its end, that is blanks, an
    optional sign and at least one decimal digit, with the `long` it reads (`Numeral.value`).
  * `strtol_numeral`, `numeral_of_strtol`: `strtol` in base 10 reads exactly a numeral at the
    front of the string.
  * `parse_numeric_servname_iff`: `parse_numeric_servname` returns `n ≥ 0` exactly for a whole
    numeral whose value, cast to `int`, is `n ≤ 65535`, and `-1` for every other string. The
    cast wraps before the range check, so `4294967376` is the port `80`.
-/
import Evutil.CLib

namespace Evutil

/-- `parse_numeric_servname(servname)`: the `int` cast of `strtol(servname, &endptr, 10)` when
    it is in `0..65535`, the string is not empty and `strtol` read it to its end; `-1`
    otherwise. -/
def parseNumericServname (servname : List UInt8) : Int :=
  let r := strtol servname 10
  let n := toCInt r.1
  if 0 ≤ n ∧ n ≤ 65535 ∧ deref servname 0 ≠ 0 ∧ deref servname r.2 = 0 then n else -1

/-- `evutil_parse_servname(servname, protocol, hints)`. `getservbyname(servname, protocol)` is a
    parameter giving `ntohs(ent->s_port)` for the entry it finds; `numericserv` is the
    `AI_NUMERICSERV` bit of `hints->ai_flags`. -/
def evutilParseServname (getservbyname : List UInt8 → Option UInt16) (numericserv : Bool)
    (servname : List UInt8) : Int :=
  let n := parseNumericServname servname
  if 0 ≤ n then n
  else if !numericserv then
    match getservbyname servname with
    | some port => port.toNat
    | none => -1
  else -1

theorem parseNumericServname_cases (s : List UInt8) :
    parseNumericServname s = -1 ∨ 0 ≤ parseNumericServname s := by
  unfold parseNumericServname
  dsimp only
  split_ifs with h
  · exact Or.inr h.1
  · exact Or.inl rfl

/-! ## What `strtol` reads in base 10 -/

/-- A text `strtol(s, &end, 10)` reads to its end: blanks, an optional sign, and decimal
    digits. -/
structure Numeral where
  blanks : List UInt8
  sign : List UInt8
  digits : List UInt8
  blanks_space : ∀ c ∈ blanks, cIsspace c = true
  sign_ok : sign = [] ∨ sign = [ch '+'] ∨ sign = [ch '-']
  digits_ne : digits ≠ []
  digits_dec : ∀ c ∈ digits, (digitVal 10 c).isSome = true

/-- The bytes of a numeral. -/
def Numeral.text (x : Numeral) : List UInt8 := x.blanks ++ x.sign ++ x.digits

/-- The `long` `strtol` reads from a numeral: the value of the digits, negated after `-`,
    saturated at `LONG_MIN` and `LONG_MAX`. -/
def Numeral.value (x : Numeral) : Int :=
  let v := digitsValue 10 x.digits 0
  if x.sign = [ch '-'] then max (-(v : Int)) LONG_MIN else min (v : Int) LONG_MAX

theorem hexPrefix_ten (s : List UInt8) : hexPrefix 10 s = 0 := by
  unfold hexPrefix
  split
  · simp
  · rfl

/-- `readDigits` reads the longest run of digits at the front. -/
theorem readDigits_eq_takeWhile (base : Nat) :
    ∀ (s : List UInt8) (acc : Nat), readDigits base s acc =
      (digitsValue base (s.takeWhile fun c => (digitVal base c).isSome) acc,
        (s.takeWhile fun c => (digitVal base c).isSome).length)
  | [], _ => rfl
  | c :: cs, acc => by
    cases hc : digitVal base c with
    | none => simp [readDigits, hc, digitsValue]
    | some d =>
      simp only [readDigits, hc, List.takeWhile_cons, Option.isSome_some, if_true,
        readDigits_eq_takeWhile base cs, digitsValue, List.foldl_cons, Option.getD_some,
        List.length_cons]

/-- The sign `readSign` skips, as bytes. -/
theorem readSign_spec (t : List UInt8) :
    ∃ S, t = S ++ t.drop (readSign t).2 ∧ S.length = (readSign t).2 ∧
      (S = [] ∨ S = [ch '+'] ∨ S = [ch '-']) ∧ (readSign t).1 = decide (S = [ch '-']) := by
  unfold readSign
  split
  · exact ⟨[ch '-'], rfl, rfl, Or.inr (Or.inr rfl), rfl⟩
  · exact ⟨[ch '+'], rfl, rfl, Or.inr (Or.inl rfl), rfl⟩
  · exact ⟨[], rfl, rfl, Or.inl rfl, rfl⟩

/-- A decimal digit is not white space or a sign. -/
theorem digit_not_special {c : UInt8} (hc : (digitVal 10 c).isSome = true) :
    cIsspace c = false ∧ c ≠ 45 ∧ c ≠ 43 := by
  obtain ⟨d, hd⟩ := Option.isSome_iff_exists.1 hc
  have h := hexDigit_not_special c (by simp [digitVal_mono (show 10 ≤ 16 by decide) hd])
  exact ⟨h.1, h.2.1, h.2.2.1⟩

theorem readSign_of_digit {c : UInt8} (hc : (digitVal 10 c).isSome = true) (s : List UInt8) :
    readSign (c :: s) = (false, 0) :=
  readSign_cons (digit_not_special hc).2.1 (digit_not_special hc).2.2 s

theorem readSign_numeral (x : Numeral) :
    readSign (x.sign ++ x.digits) = (decide (x.sign = [ch '-']), x.sign.length) := by
  obtain ⟨c, cs, hd⟩ := List.exists_cons_of_ne_nil x.digits_ne
  rcases x.sign_ok with h | h | h <;> rw [h]
  · rw [List.nil_append, hd, readSign_of_digit (x.digits_dec c (by simp [hd]))]
    rfl
  · rfl
  · rfl

theorem takeWhile_numeral (x : Numeral) : x.text.takeWhile cIsspace = x.blanks := by
  have hfirst : ∃ c cs, x.sign ++ x.digits = c :: cs ∧ cIsspace c = false := by
    obtain ⟨c, cs, hd⟩ := List.exists_cons_of_ne_nil x.digits_ne
    have hc := x.digits_dec c (by simp [hd])
    rcases x.sign_ok with h | h | h <;> rw [h]
    · exact ⟨c, cs, by simp [hd], (digit_not_special hc).1⟩
    · exact ⟨_, _, rfl, rfl⟩
    · exact ⟨_, _, rfl, rfl⟩
  obtain ⟨c, cs, hcs, hc⟩ := hfirst
  rw [Numeral.text, List.append_assoc, List.takeWhile_append_of_pos x.blanks_space, hcs,
    List.takeWhile_cons_of_neg (by simp [hc]), List.append_nil]

/-- Where the readers of `strtol` and `strtoul` get to in a numeral: past its blanks, past its
    sign, and to the end of its digits, with their value. -/
theorem numeral_read (x : Numeral) :
    x.text.drop x.blanks.length = x.sign ++ x.digits ∧
    x.text.drop (x.blanks.length + x.sign.length) = x.digits ∧
    readDigits 10 x.digits 0 = (digitsValue 10 x.digits 0, x.digits.length) := by
  have hdrop : x.text.drop x.blanks.length = x.sign ++ x.digits := by
    rw [Numeral.text, List.append_assoc, List.drop_left]
  refine ⟨hdrop, by rw [← List.drop_drop, hdrop, List.drop_left], ?_⟩
  simpa [readDigits] using readDigits_append x.digits_dec [] 0

/-- `strtol` reads a whole numeral to its end. -/
theorem strtol_numeral (x : Numeral) : strtol x.text 10 = (x.value, x.text.length) := by
  obtain ⟨hdrop, hdrop', hrd⟩ := numeral_read x
  have hlen : x.digits.length ≠ 0 := fun h => x.digits_ne (List.length_eq_zero.1 h)
  simp only [strtol, takeWhile_numeral, hdrop, readSign_numeral, hexPrefix_ten, Nat.add_zero,
    hdrop', hrd, hlen, if_false, decide_eq_true_eq]
  simp only [Numeral.value, Numeral.text, List.length_append]

/-- Whatever `strtol` reads in base 10 is a numeral at the front of the string. -/
theorem numeral_of_strtol {s : List UInt8} (h : (strtol s 10).2 ≠ 0) :
    ∃ x : Numeral, s = x.text ++ s.drop (strtol s 10).2 ∧ x.value = (strtol s 10).1 := by
  set B := s.takeWhile cIsspace with hB
  set t := s.drop B.length with ht
  obtain ⟨S, hS, hSlen, hSok, hneg⟩ := readSign_spec t
  set D := (t.drop (readSign t).2).takeWhile fun c => (digitVal 10 c).isSome with hD
  have hrd := readDigits_eq_takeWhile 10 (t.drop (readSign t).2) 0
  have hstr : strtol s 10 = if D.length = 0 then (0, 0)
      else (if (readSign t).1 then max (-(digitsValue 10 D 0 : Int)) LONG_MIN
        else min (digitsValue 10 D 0 : Int) LONG_MAX, B.length + (readSign t).2 + D.length) := by
    have hdt : s.drop (B.length + (readSign t).2) = t.drop (readSign t).2 := by
      rw [← List.drop_drop]
    simp only [strtol, ← hB, ← ht, hexPrefix_ten, Nat.add_zero, hdt, hrd, ← hD]
  have hDlen : D.length ≠ 0 := by
    intro h0
    rw [hstr, if_pos h0] at h
    exact h rfl
  rw [hstr, if_neg hDlen]
  refine ⟨⟨B, S, D, fun c hc => List.mem_takeWhile_imp hc, hSok,
    fun h => hDlen (List.length_eq_zero.2 h),
    fun c hc => List.mem_takeWhile_imp (p := fun c => (digitVal 10 c).isSome) hc⟩, ?_, ?_⟩
  · have hs : s = B ++ t := by
      conv_lhs => rw [← List.take_append_drop B.length s]
      rw [← List.prefix_iff_eq_take.1 (List.takeWhile_prefix _)]
    have hu : t.drop (readSign t).2 = D ++ (t.drop (readSign t).2).dropWhile
        (fun c => (digitVal 10 c).isSome) := (List.takeWhile_append_dropWhile _ _).symm
    have hrest : s.drop (B.length + (readSign t).2 + D.length) =
        (t.drop (readSign t).2).dropWhile fun c => (digitVal 10 c).isSome := by
      rw [← List.drop_drop, ← List.drop_drop, ← ht]
      conv_lhs => rw [hu]
      exact List.drop_left _ _
    show s = B ++ S ++ D ++ _
    rw [hrest, List.append_assoc, List.append_assoc, ← hu, ← hS, ← hs]
  · simp only [Numeral.value, hneg, decide_eq_true_eq]

/-! ## `parse_numeric_servname` -/

/-- In a string with no NUL byte, `deref` gives `0` exactly past the end. -/
theorem deref_eq_zero_iff {s : List UInt8} (hs : 0 ∉ s) (p : Nat) :
    deref s p = 0 ↔ s.length ≤ p := by
  unfold deref
  rw [List.getD_eq_getElem?_getD]
  by_cases hp : p < s.length
  · rw [List.getElem?_eq_getElem hp, Option.getD_some]
    exact ⟨fun h => absurd (h ▸ List.getElem_mem hp) hs, fun h => absurd hp (by omega)⟩
  · rw [List.getElem?_eq_none (by omega)]
    exact ⟨fun _ => by omega, fun _ => rfl⟩

theorem length_text_pos (x : Numeral) : 0 < x.text.length := by
  have := List.length_pos.2 x.digits_ne
  simp only [Numeral.text, List.length_append]
  omega

/-- `parse_numeric_servname` on a whole numeral: its value cast to `int`, if that is in
    `0..65535`. -/
theorem parseNumericServname_numeral (x : Numeral) (hs : 0 ∉ x.text) :
    parseNumericServname x.text =
      if 0 ≤ toCInt x.value ∧ toCInt x.value ≤ 65535 then toCInt x.value else -1 := by
  have hne : deref x.text 0 ≠ 0 := fun h =>
    absurd ((deref_eq_zero_iff hs 0).1 h) (by have := length_text_pos x; omega)
  have hend : deref x.text x.text.length = 0 := (deref_eq_zero_iff hs _).2 le_rfl
  simp only [parseNumericServname, strtol_numeral, hne, hend, ne_eq, not_false_eq_true,
    and_true]

theorem parseNumericServname_eq_of_nonneg (s : List UInt8) (hs : 0 ∉ s) {n : Int} (hn : 0 ≤ n) :
    parseNumericServname s = n ↔ ∃ x : Numeral, x.text = s ∧ toCInt x.value = n ∧ n ≤ 65535 := by
  constructor
  · intro h
    unfold parseNumericServname at h
    dsimp only at h
    split_ifs at h with hc
    · have hend := (deref_eq_zero_iff hs _).1 hc.2.2.2
      have hread : (strtol s 10).2 ≠ 0 := fun h0 => hc.2.2.1 (h0 ▸ hc.2.2.2)
      obtain ⟨x, hx, hv⟩ := numeral_of_strtol hread
      rw [List.drop_eq_nil_of_le hend, List.append_nil] at hx
      exact ⟨x, hx.symm, hv ▸ h, h ▸ hc.2.1⟩
    · omega
  · rintro ⟨x, rfl, hv, hle⟩
    rw [parseNumericServname_numeral x hs, if_pos ⟨hv ▸ hn, hv ▸ hle⟩, hv]

/-- **Numeric service names.** For a NUL-terminated `servname`, `parse_numeric_servname`
    returns `n` exactly when the whole string is a numeral (blanks, an optional sign, decimal
    digits) whose `long` value, cast to `int`, is `n` in `0..65535`, or when `n = -1` and the
    string is no such numeral. The cast comes before the range check, so a numeral whose value
    is out of range but congruent to a port modulo `2 ^ 32` is that port. -/
theorem parse_numeric_servname_iff (s : List UInt8) (hs : 0 ∉ s) (n : Int) :
    parseNumericServname s = n ↔
      (∃ x : Numeral, x.text = s ∧ toCInt x.value = n ∧ 0 ≤ n ∧ n ≤ 65535) ∨
        (n = -1 ∧ ¬∃ x : Numeral, x.text = s ∧ 0 ≤ toCInt x.value ∧ toCInt x.value ≤ 65535) := by
  have hport : (∃ x : Numeral, x.text = s ∧ 0 ≤ toCInt x.value ∧ toCInt x.value ≤ 65535) →
      0 ≤ parseNumericServname s := fun ⟨x, hx, h0, h1⟩ =>
    ((parseNumericServname_eq_of_nonneg s hs h0).2 ⟨x, hx, rfl, h1⟩).symm ▸ h0
  constructor
  · rintro rfl
    rcases parseNumericServname_cases s with h1 | h1
    · exact .inr ⟨h1, fun hx => absurd (hport hx) (by omega)⟩
    · obtain ⟨x, hx, hv, hle⟩ := (parseNumericServname_eq_of_nonneg s hs h1).1 rfl
      exact .inl ⟨x, hx, hv, h1, hle⟩
  · rintro (⟨x, hx, hv, h0, h1⟩ | ⟨rfl, hne⟩)
    · exact (parseNumericServname_eq_of_nonneg s hs h0).2 ⟨x, hx, hv, h1⟩
    · rcases parseNumericServname_cases s with h1 | h1
      · exact h1
      · obtain ⟨x, hx, hv, hle⟩ := (parseNumericServname_eq_of_nonneg s hs h1).1 rfl
        exact absurd ⟨x, hx, hv ▸ h1, hv ▸ hle⟩ hne

/-- `4294967376`, a numeral of a value out of range, is the port `80`. -/
theorem parse_numeric_servname_wraps :
    (0 : UInt8) ∉ cstr "4294967376" ∧ parseNumericServname (cstr "4294967376") = 80 :=
  ⟨by decide, (parse_numeric_servname_iff (cstr "4294967376") (by decide) 80).2
    (.inl ⟨⟨[], [], cstr "4294967376", fun _ h => absurd h (List.not_mem_nil _), .inl rfl,
      by decide, by decide⟩, rfl, by decide, by decide, by decide⟩)⟩

end Evutil
