/-
  Evutil formalization — the C library as the utility code of `evutil.c` uses it.

  A C string is the list of its bytes before the terminating NUL, a `char` is a `UInt8`, and
  a pointer into a string is an index into that list, so that `*p` at the end reads the NUL
  (`deref`).

  * `ctypeFn`: the character tables of `evutil.c` (`IMPL_CTYPE_FN`), with `evutilIsdigit`
    and `evutilIsxdigit` as its instances;
  * glibc's `strtol`, `strtoul`, `atoi` (which is `(int) strtol`), the `%u` conversion of `sscanf` and
    the dotted quad `"%u.%u.%u.%u%c"` built from it;
  * `fmtNat`: `%d` and `%x` of a nonnegative value; `fmtIntWidth`: `%Nd` and `%0Nd` of an
    `int`; `evutilSnprintf`, `strlcpy`, `strchr`;
  * `readDigits_fmtNat`, `strtol_fmtNat`, `scanU_fmtNat`: reading back what `%d`/`%x`
    printed gives the value. The address round trips rest on them.
-/
import Mathlib.Data.List.Basic
import Mathlib.Tactic.Ring

namespace Evutil

/-- The byte of an ASCII character. -/
def ch (c : Char) : UInt8 := c.toUInt8

/-- The bytes of an ASCII string literal. -/
def cstr (s : String) : List UInt8 := s.toList.map ch

/-- `*p` for a pointer `p` into the string `s`: the byte there, or the NUL at the end. -/
def deref (s : List UInt8) (p : Nat) : UInt8 := s.getD p 0

/-- `strchr(s, c)` for a byte `c ≠ 0`: the index of its first occurrence. -/
def strchr : List UInt8 → UInt8 → Option Nat
  | [], _ => none
  | x :: xs, c => if x = c then some 0 else (strchr xs c).map (· + 1)

/-! ## Character tables -/

/-- `IMPL_CTYPE_FN`: bit `u & 31` of word `(u >> 5) & 7` of an eight-word table. -/
def ctypeFn (table : List UInt32) (c : UInt8) : Bool :=
  table.getD (c.toNat >>> 5 &&& 7) 0 &&& 1 <<< (c.toNat &&& 31).toUInt32 != 0

/-- `EVUTIL_ISDIGIT_TABLE`. -/
def evutilIsdigitTable : List UInt32 := [0, 0x3ff0000, 0, 0, 0, 0, 0, 0]

/-- `EVUTIL_ISXDIGIT_TABLE`. -/
def evutilIsxdigitTable : List UInt32 := [0, 0x3ff0000, 0x7e, 0x7e, 0, 0, 0, 0]

/-- `EVUTIL_ISDIGIT_`. -/
def evutilIsdigit (c : UInt8) : Bool := ctypeFn evutilIsdigitTable c

/-- `EVUTIL_ISXDIGIT_`. -/
def evutilIsxdigit (c : UInt8) : Bool := ctypeFn evutilIsxdigitTable c

/-- `isspace` in the C locale: space, `\t`, `\n`, `\v`, `\f`, `\r`. -/
def cIsspace (c : UInt8) : Bool := c == 32 || (9 ≤ c.toNat && c.toNat ≤ 13)

/-! ## Reading numbers -/

/-- The value of `c` as a digit of `base`, as glibc's `strtol` reads digits: `0`-`9`, then
    the letters of either case from 10. -/
def digitVal (base : Nat) (c : UInt8) : Option Nat :=
  let n := c.toNat
  let v := if 48 ≤ n ∧ n ≤ 57 then n - 48 else if 65 ≤ n ∧ n ≤ 90 then n - 55
    else if 97 ≤ n ∧ n ≤ 122 then n - 87 else 36
  if v < base then some v else none

/-- The longest run of `base` digits at the front of a string: the value of `acc` followed
    by them, and how many there are. -/
def readDigits (base : Nat) : List UInt8 → Nat → Nat × Nat
  | [], acc => (acc, 0)
  | c :: cs, acc =>
    match digitVal base c with
    | some d => let r := readDigits base cs (acc * base + d); (r.1, r.2 + 1)
    | none => (acc, 0)

/-- The sign read after the white space: whether it is `-`, and its length. -/
def readSign : List UInt8 → Bool × Nat
  | 45 :: _ => (true, 1)
  | 43 :: _ => (false, 1)
  | _ => (false, 0)

/-- The `0x` or `0X` that `strtol` skips in base 16 when a hex digit follows it. -/
def hexPrefix (base : Nat) : List UInt8 → Nat
  | 48 :: x :: c :: _ => if base = 16 ∧ (x = 120 ∨ x = 88) ∧ (digitVal 16 c).isSome then 2 else 0
  | _ => 0

/-- `LONG_MAX` on LP64 Linux. -/
def LONG_MAX : Int := 2 ^ 63 - 1

/-- `LONG_MIN` on LP64 Linux. -/
def LONG_MIN : Int := -2 ^ 63

/-- `ULONG_MAX` on LP64 Linux. -/
def ULONG_MAX : Nat := 2 ^ 64 - 1

/-- glibc's `strtol(s, &end, base)`: the value, saturated at `LONG_MIN` and `LONG_MAX`, and
    `end - s`, which is `0` when no digit was read. -/
def strtol (s : List UInt8) (base : Nat) : Int × Nat :=
  let ws := (s.takeWhile cIsspace).length
  let sg := readSign (s.drop ws)
  let px := hexPrefix base (s.drop (ws + sg.2))
  let r := readDigits base (s.drop (ws + sg.2 + px)) 0
  if r.2 = 0 then (0, 0)
  else (if sg.1 then max (-(r.1 : Int)) LONG_MIN else min (r.1 : Int) LONG_MAX,
    ws + sg.2 + px + r.2)

/-- glibc's `strtoul(s, &end, base)`: the value modulo 2^64 (negated after `-`, saturated at
    `ULONG_MAX`) and `end - s`, which is `0` when no digit was read. -/
def strtoul (s : List UInt8) (base : Nat) : Nat × Nat :=
  let ws := (s.takeWhile cIsspace).length
  let sg := readSign (s.drop ws)
  let px := hexPrefix base (s.drop (ws + sg.2))
  let r := readDigits base (s.drop (ws + sg.2 + px)) 0
  if r.2 = 0 then (0, 0)
  else (if ULONG_MAX < r.1 then ULONG_MAX else if sg.1 then (2 ^ 64 - r.1) % 2 ^ 64 else r.1,
    ws + sg.2 + px + r.2)

/-- The conversion of a `long` to `int`, modulo 2^32 as gcc does it. -/
def toCInt (v : Int) : Int := (v + 2 ^ 31) % 2 ^ 32 - 2 ^ 31

/-- glibc's `atoi(s)`, which is `(int) strtol(s, NULL, 10)`. -/
def atoi (s : List UInt8) : Int := toCInt (strtol s 10).1

/-- `sscanf`'s `%u`: white space, a sign and at least one decimal digit, converted by
    `strtoul` (saturating at `ULONG_MAX`, negated modulo 2^64 after `-`) and stored in an
    `unsigned int`; with the input left after it. -/
def scanU (s : List UInt8) : Option (Nat × List UInt8) :=
  let t := s.dropWhile cIsspace
  let sg := readSign t
  let r := readDigits 10 (t.drop sg.2) 0
  if r.2 = 0 then none
  else some ((if ULONG_MAX < r.1 then ULONG_MAX
      else if sg.1 then (2 ^ 64 - r.1) % 2 ^ 64 else r.1) % 2 ^ 32, t.drop (sg.2 + r.2))

/-- The literal `.` of a `scanf` format. -/
def scanDot : List UInt8 → Option (List UInt8)
  | 46 :: s => some s
  | _ => none

/-- `sscanf(s, "%u.%u.%u.%u%c", &a, &b, &c, &d, &more) == 4`: four `%u` joined by dots with
    nothing after them (a byte after them is assigned by `%c`, making five). -/
def sscanfDottedQuad (s : List UInt8) : Option (Nat × Nat × Nat × Nat) := do
  let (a, s) ← scanU s
  let (b, s) ← scanU (← scanDot s)
  let (c, s) ← scanU (← scanDot s)
  let (d, s) ← scanU (← scanDot s)
  if s = [] then some (a, b, c, d) else none

/-! ## Printing numbers -/

/-- The lowercase digit for `d < 16`. -/
def digitByte (d : Nat) : UInt8 := if d < 10 then (48 + d).toUInt8 else (87 + d).toUInt8

/-- The digits of `n` in `base`, most significant first; `k` bounds how many. -/
def fmtDigits (base : Nat) : Nat → Nat → List UInt8
  | 0, _ => []
  | k + 1, n =>
    if n < base then [digitByte n] else fmtDigits base k (n / base) ++ [digitByte (n % base)]

/-- `printf`'s `%d` (base 10) and `%x` (base 16) of a nonnegative value. -/
def fmtNat (base n : Nat) : List UInt8 := fmtDigits base (n + 1) n

/-- `printf`'s `%Nd` (or `%0Nd` when `zero`) of an `int`: the sign and digits, padded on the
    left to `width` bytes with blanks, or with `0`s after the sign. -/
def fmtIntWidth (zero : Bool) (width : Nat) (v : Int) : List UInt8 :=
  let sign := if v < 0 then [ch '-'] else []
  let digits := fmtNat 10 v.natAbs
  let pad := width - (sign.length + digits.length)
  if zero then sign ++ List.replicate pad (ch '0') ++ digits
  else List.replicate pad (ch ' ') ++ sign ++ digits

/-- `"%d.%d.%d.%d"` of four values. -/
def fmtDottedQuad (a b c d : Nat) : List UInt8 :=
  fmtNat 10 a ++ ch '.' :: fmtNat 10 b ++ ch '.' :: fmtNat 10 c ++ ch '.' :: fmtNat 10 d

/-- `evutil_snprintf(buf, buflen, ...)` of a formatted text: the value returned (the whole
    length, but `0` when `buflen` is `0`) and the string written to `buf` (`none` when
    `buflen` is `0`: `buf` is left as it was). -/
def evutilSnprintf (buflen : Nat) (text : List UInt8) : Nat × Option (List UInt8) :=
  if buflen = 0 then (0, none) else (text.length, some (text.take (buflen - 1)))

theorem evutilSnprintf_of_lt {buflen : Nat} {text : List UInt8} (h : text.length < buflen) :
    (evutilSnprintf buflen text).2 = some text := by
  rw [evutilSnprintf, if_neg (by omega), List.take_of_length_le (by omega)]

/-- `event_strlcpy_`, declared in `strlcpy-internal.h` as `strlcpy`, whose body is not among
    these sources: it copies at most `siz - 1` bytes of `src` and ends them with a NUL. The
    string left in `dst`. -/
def strlcpy (src : List UInt8) (siz : Nat) : List UInt8 := src.take (siz - 1)

/-! ## Bytes -/

theorem toNat_toUInt8 {n : Nat} (h : n < 256) : n.toUInt8.toNat = n := UInt8.toNat_ofNat_of_lt h

theorem toUInt8_toNat (c : UInt8) : c.toNat.toUInt8 = c :=
  UInt8.toNat.inj (toNat_toUInt8 c.toNat_lt_size)

/-- A fact about every byte follows from the 256 cases, which `decide` checks. -/
theorem forall_byte {p : UInt8 → Prop} (h : ∀ n : Fin 256, p n.val.toUInt8) (c : UInt8) : p c := by
  simpa [toUInt8_toNat] using h ⟨c.toNat, c.toNat_lt_size⟩

set_option maxRecDepth 4000 in
theorem evutilIsdigit_eq : ∀ c, evutilIsdigit c = (digitVal 10 c).isSome :=
  forall_byte (by decide)

set_option maxRecDepth 4000 in
theorem evutilIsxdigit_eq : ∀ c, evutilIsxdigit c = (digitVal 16 c).isSome :=
  forall_byte (by decide)

set_option maxRecDepth 4000 in
/-- A hex digit is not white space, a sign or the `x` of `0x`. -/
theorem hexDigit_not_special : ∀ c, (digitVal 16 c).isSome →
    cIsspace c = false ∧ c ≠ 45 ∧ c ≠ 43 ∧ c ≠ 120 ∧ c ≠ 88 :=
  forall_byte (by decide)

theorem digitVal_mono {b b' d : Nat} {c : UInt8} (hb : b ≤ b') (h : digitVal b c = some d) :
    digitVal b' c = some d := by
  unfold digitVal at h ⊢
  dsimp only at h ⊢
  generalize (if 48 ≤ c.toNat ∧ c.toNat ≤ 57 then c.toNat - 48 else _ : Nat) = v at h ⊢
  by_cases hv : v < b
  · rw [if_pos hv] at h
    rw [if_pos (by omega), h]
  · rw [if_neg hv] at h
    cases h

theorem digitVal_digitByte {base d : Nat} (hd : d < base) (hb : base ≤ 16) :
    digitVal base (digitByte d) = some d := by
  unfold digitByte digitVal
  by_cases h10 : d < 10
  · rw [if_pos h10, toNat_toUInt8 (by omega)]
    dsimp only
    rw [if_pos (show 48 ≤ 48 + d ∧ 48 + d ≤ 57 by omega), Nat.add_sub_cancel_left, if_pos hd]
  · rw [if_neg h10, toNat_toUInt8 (by omega)]
    dsimp only
    rw [if_neg (show ¬(48 ≤ 87 + d ∧ 87 + d ≤ 57) by omega),
      if_neg (show ¬(65 ≤ 87 + d ∧ 87 + d ≤ 90) by omega),
      if_pos (show 97 ≤ 87 + d ∧ 87 + d ≤ 122 by omega), Nat.add_sub_cancel_left, if_pos hd]

/-! ## Reading back what was printed -/

/-- The value of a run of `base` digits written after `acc`. -/
def digitsValue (base : Nat) (ds : List UInt8) (acc : Nat) : Nat :=
  ds.foldl (fun a c => a * base + (digitVal base c).getD 0) acc

/-- The condition under which a number printed before `rest` is read back alone: `rest`
    does not go on with a hex digit or an `x`. -/
def Stop (rest : List UInt8) : Prop := ∀ c ∈ rest.head?, digitVal 16 c = none ∧ c ≠ 120 ∧ c ≠ 88

theorem readDigits_append {base : Nat} {ds : List UInt8} (h : ∀ c ∈ ds, (digitVal base c).isSome)
    (rest : List UInt8) (acc : Nat) :
    readDigits base (ds ++ rest) acc =
      ((readDigits base rest (digitsValue base ds acc)).1,
        (readDigits base rest (digitsValue base ds acc)).2 + ds.length) := by
  induction ds generalizing acc with
  | nil => simp [digitsValue]
  | cons c cs ih =>
    obtain ⟨d, hd⟩ := Option.isSome_iff_exists.1 (h c (List.mem_cons_self _ _))
    have ih' := ih (fun x hx => h x (List.mem_cons_of_mem _ hx)) (acc * base + d)
    rw [List.cons_append, readDigits.eq_2, hd]
    simp only [ih', digitsValue, List.foldl_cons, hd, Option.getD_some, List.length_cons,
      Nat.add_assoc]

theorem readDigits_stop {base : Nat} {rest : List UInt8} (hb : base ≤ 16) (h : Stop rest)
    (acc : Nat) : readDigits base rest acc = (acc, 0) := by
  cases rest with
  | nil => rfl
  | cons c cs =>
    have : digitVal base c = none := by
      cases hc : digitVal base c with
      | none => rfl
      | some d => simp [Stop, digitVal_mono hb hc] at h
    simp [readDigits, this]

theorem fmtDigits_of_lt {base : Nat} (hb : 2 ≤ base) :
    ∀ n k, n < k → fmtDigits base k n = fmtDigits base (n + 1) n := by
  intro n
  induction n using Nat.strong_induction_on with
  | _ n ih =>
    intro k hk
    obtain ⟨k, rfl⟩ : ∃ k', k = k' + 1 := ⟨k - 1, by omega⟩
    simp only [fmtDigits]
    split_ifs with h
    · rfl
    · have hlt : n / base < n := Nat.div_lt_self (by omega) (by omega)
      rw [ih _ hlt k (by omega), ih _ hlt n hlt]

theorem fmtNat_eq {base : Nat} (hb : 2 ≤ base) (n : Nat) :
    fmtNat base n =
      if n < base then [digitByte n] else fmtNat base (n / base) ++ [digitByte (n % base)] := by
  unfold fmtNat
  rw [fmtDigits]
  split_ifs with h
  · rfl
  · rw [fmtDigits_of_lt hb _ _ (Nat.div_lt_self (by omega) (by omega))]

theorem fmtNat_ne_nil {base : Nat} (hb : 2 ≤ base) (n : Nat) : fmtNat base n ≠ [] := by
  rw [fmtNat_eq hb]; split_ifs <;> simp

theorem fmtNat_digits {base : Nat} (hb : 2 ≤ base) (hb' : base ≤ 16) (n : Nat) :
    ∀ c ∈ fmtNat base n, (digitVal base c).isSome := by
  induction n using Nat.strong_induction_on with
  | _ n ih =>
    rw [fmtNat_eq hb]
    split_ifs with h
    · simp [digitVal_digitByte h hb']
    · intro c hc
      rcases List.mem_append.1 hc with hc | hc
      · exact ih _ (Nat.div_lt_self (by omega) (by omega)) c hc
      · simp only [List.mem_singleton] at hc
        simp [hc, digitVal_digitByte (Nat.mod_lt n (by omega)) hb']

theorem digitsValue_fmtNat {base : Nat} (hb : 2 ≤ base) (hb' : base ≤ 16) (n acc : Nat) :
    digitsValue base (fmtNat base n) acc = acc * base ^ (fmtNat base n).length + n := by
  induction n using Nat.strong_induction_on generalizing acc with
  | _ n ih =>
    rw [fmtNat_eq hb]
    split_ifs with h
    · simp [digitsValue, digitVal_digitByte h hb']
    · have hlt : n / base < n := Nat.div_lt_self (by omega) (by omega)
      have hih := ih _ hlt acc
      simp only [digitsValue, List.foldl_append, List.foldl_cons, List.foldl_nil] at hih ⊢
      rw [hih, digitVal_digitByte (Nat.mod_lt n (by omega)) hb', Option.getD_some,
        List.length_append, List.length_singleton, pow_succ, add_mul, Nat.add_assoc,
        Nat.div_add_mod', Nat.mul_assoc]

/-- **Reading back `%d`/`%x`.** The digits printed for `n`, before a byte that is not a
    digit, read back as `n`. -/
theorem readDigits_fmtNat {base : Nat} (hb : 2 ≤ base) (hb' : base ≤ 16) (n : Nat)
    {rest : List UInt8} (hr : Stop rest) :
    readDigits base (fmtNat base n ++ rest) 0 = (n, (fmtNat base n).length) := by
  rw [readDigits_append (fmtNat_digits hb hb' n), readDigits_stop hb' hr,
    digitsValue_fmtNat hb hb']
  simp

theorem fmtNat_length_le {base : Nat} (hb : 2 ≤ base) :
    ∀ {n k : Nat}, 1 ≤ k → n < base ^ k → (fmtNat base n).length ≤ k := by
  intro n
  induction n using Nat.strong_induction_on with
  | _ n ih =>
    intro k hk h
    rw [fmtNat_eq hb]
    split_ifs with hn
    · simpa using hk
    · obtain ⟨k, rfl⟩ : ∃ k', k = k' + 1 := ⟨k - 1, by omega⟩
      have hk' : 1 ≤ k := by
        by_contra h0
        simp [show k = 0 by omega] at h
        exact hn h
      have := ih _ (Nat.div_lt_self (by omega) (by omega)) hk'
        ((Nat.div_lt_iff_lt_mul (show 0 < base by omega)).2 (by rwa [← pow_succ]))
      simp only [List.length_append, List.length_singleton]; omega

theorem readSign_cons {c : UInt8} (h45 : c ≠ 45) (h43 : c ≠ 43) (s : List UInt8) :
    readSign (c :: s) = (false, 0) := by
  unfold readSign; split <;> simp_all

theorem hexPrefix_eq_zero {base : Nat} {s : List UInt8}
    (h : ∀ x ∈ (s.drop 1).head?, x ≠ 120 ∧ x ≠ 88) : hexPrefix base s = 0 := by
  unfold hexPrefix
  split
  · simp only [List.drop_succ_cons, List.drop_zero, List.head?_cons, Option.mem_def,
      Option.some.injEq, forall_eq'] at h
    simp [h]
  · rfl

/-- `strtol` reads back the digits `%d` or `%x` printed. -/
theorem strtol_fmtNat {base n : Nat} (hb : base = 10 ∨ base = 16) (hn : (n : Int) ≤ LONG_MAX)
    {rest : List UInt8} (hr : Stop rest) :
    strtol (fmtNat base n ++ rest) base = ((n : Int), (fmtNat base n).length) := by
  have hb2 : 2 ≤ base := by omega
  have hb16 : base ≤ 16 := by omega
  obtain ⟨c, cs, hcs⟩ := List.exists_cons_of_ne_nil (fmtNat_ne_nil hb2 n)
  have hdig := fmtNat_digits hb2 hb16 n
  have hc := hexDigit_not_special c (by
    obtain ⟨d, hd⟩ := Option.isSome_iff_exists.1 (hdig c (by simp [hcs]))
    simp [digitVal_mono hb16 hd])
  have hpx : hexPrefix base (fmtNat base n ++ rest) = 0 := by
    apply hexPrefix_eq_zero
    rw [hcs]
    cases cs with
    | nil => simpa [Stop] using fun x hx => (hr x hx).2
    | cons c' cs' =>
      obtain ⟨d, hd⟩ := Option.isSome_iff_exists.1 (hdig c' (by simp [hcs]))
      simpa using (hexDigit_not_special c' (by simp [digitVal_mono hb16 hd])).2.2.2
  have hrd := readDigits_fmtNat hb2 hb16 n hr
  simp only [strtol, hcs, List.cons_append, List.takeWhile_cons, hc.1] at hpx hrd ⊢
  simp only [Bool.false_eq_true, ↓reduceIte, List.length_nil, List.drop_zero,
    readSign_cons hc.2.1 hc.2.2.1, hpx, Nat.add_zero, hrd]
  simp [min_eq_left hn]

/-- `sscanf`'s `%u` reads back the digits `%d` printed. -/
theorem scanU_fmtNat {n : Nat} (hn : n < 2 ^ 32) {rest : List UInt8} (hr : Stop rest) :
    scanU (fmtNat 10 n ++ rest) = some (n, rest) := by
  have h2 : 2 ≤ 10 := by decide
  have h16 : 10 ≤ 16 := by decide
  obtain ⟨c, cs, hcs⟩ := List.exists_cons_of_ne_nil (fmtNat_ne_nil h2 n)
  have hc := hexDigit_not_special c (by
    obtain ⟨d, hd⟩ := Option.isSome_iff_exists.1 (fmtNat_digits h2 h16 n c (by simp [hcs]))
    simp [digitVal_mono h16 hd])
  have hdw : (fmtNat 10 n ++ rest).dropWhile cIsspace = fmtNat 10 n ++ rest := by
    rw [hcs]; simp [List.dropWhile_cons, hc.1]
  have hsg : readSign (fmtNat 10 n ++ rest) = (false, 0) := by
    rw [hcs]; exact readSign_cons hc.2.1 hc.2.2.1 _
  have hlen : (fmtNat 10 n).length ≠ 0 := by simp [fmtNat_ne_nil h2 n]
  have hmax : ¬ ULONG_MAX < n := by unfold ULONG_MAX; omega
  simp only [scanU, hdw, hsg, List.drop_zero, readDigits_fmtNat h2 h16 n hr, if_neg hlen,
    if_neg hmax, Bool.false_eq_true, ↓reduceIte, Nat.mod_eq_of_lt hn, Nat.zero_add,
    List.drop_left]

theorem stop_nil : Stop [] := by simp [Stop]

theorem stop_colon (xs : List UInt8) : Stop (ch ':' :: xs) := by
  intro c hc; simp at hc; subst hc; decide

theorem stop_dot (xs : List UInt8) : Stop (ch '.' :: xs) := by
  intro c hc; simp at hc; subst hc; decide

theorem scanDot_dot (xs : List UInt8) : scanDot (ch '.' :: xs) = some xs := rfl

/-- `sscanf` reads back the dotted quad `%d.%d.%d.%d` printed. -/
theorem sscanfDottedQuad_fmtDottedQuad {a b c d : Nat} (ha : a < 2 ^ 32) (hb : b < 2 ^ 32)
    (hc : c < 2 ^ 32) (hd : d < 2 ^ 32) :
    sscanfDottedQuad (fmtDottedQuad a b c d) = some (a, b, c, d) := by
  have hd' := scanU_fmtNat hd stop_nil
  rw [List.append_nil] at hd'
  simp [fmtDottedQuad, sscanfDottedQuad, scanU_fmtNat ha (stop_dot _),
    scanU_fmtNat hb (stop_dot _), scanU_fmtNat hc (stop_dot _), hd', scanDot_dot]

theorem fmtNat_not_dot {base : Nat} (hb : 2 ≤ base) (hb' : base ≤ 16) (n : Nat) :
    ch '.' ∉ fmtNat base n := fun h => by
  have := fmtNat_digits hb hb' n _ h
  obtain ⟨d, hd⟩ := Option.isSome_iff_exists.1 this
  have : digitVal 16 (ch '.') = some d := digitVal_mono hb' hd
  rw [show digitVal 16 (ch '.') = none from rfl] at this
  cases this

theorem strchr_append_cons {xs ys : List UInt8} {c : UInt8} (h : c ∉ xs) :
    strchr (xs ++ c :: ys) c = some xs.length := by
  induction xs with
  | nil => simp [strchr]
  | cons x xs ih =>
    simp only [List.mem_cons, not_or] at h
    simp [strchr, Ne.symm h.1, ih h.2]

theorem strchr_eq_none {xs : List UInt8} {c : UInt8} (h : c ∉ xs) : strchr xs c = none := by
  induction xs with
  | nil => rfl
  | cons x xs ih =>
    simp only [List.mem_cons, not_or] at h
    simp [strchr, Ne.symm h.1, ih h.2]

theorem deref_of_drop {s xs : List UInt8} {p : Nat} (h : s.drop p = xs) (k : Nat) :
    deref s (p + k) = xs.getD k 0 := by
  simp [deref, ← h, List.getElem?_drop]

theorem getD_append_length (xs ys : List UInt8) : (xs ++ ys).getD xs.length 0 = ys.getD 0 0 := by
  simp [List.getElem?_append_right]

theorem deref_of_drop_zero {s xs : List UInt8} {p : Nat} (h : s.drop p = xs) :
    deref s p = xs.getD 0 0 := deref_of_drop h 0

/-- `strchr` finds the first `c`: none before it, and it is there. -/
theorem strchr_eq_some {s : List UInt8} {c : UInt8} :
    ∀ {i}, strchr s c = some i → c ∉ s.take i ∧ s = s.take i ++ c :: s.drop (i + 1) := by
  induction s with
  | nil => intro i h; cases h
  | cons x xs ih =>
    intro i h
    by_cases hx : x = c
    · simp only [strchr, hx, if_true, Option.some.injEq] at h
      subst h hx
      simp
    · simp only [strchr, hx, if_false, Option.map_eq_some'] at h
      obtain ⟨j, hj, rfl⟩ := h
      obtain ⟨h1, h2⟩ := ih hj
      refine ⟨?_, ?_⟩
      · simp only [List.take_succ_cons, List.mem_cons, not_or]
        exact ⟨Ne.symm hx, h1⟩
      · simp only [List.take_succ_cons, List.drop_succ_cons, List.cons_append]
        exact congrArg _ h2

theorem not_mem_of_strchr_eq_none {s : List UInt8} {c : UInt8} (h : strchr s c = none) :
    c ∉ s := by
  induction s with
  | nil => exact List.not_mem_nil _
  | cons x xs ih =>
    by_cases hx : x = c
    · simp [strchr, hx] at h
    · simp only [strchr, hx, if_false, Option.map_eq_none'] at h
      simp only [List.mem_cons, not_or]
      exact ⟨Ne.symm hx, ih h⟩

/-- Two fields packed with a shift and an or, as `(x<<k) | y` for `y < 2^k`. -/
theorem shiftLeft_or_eq {x y k : Nat} (hy : y < 2 ^ k) : x <<< k ||| y = x * 2 ^ k + y := by
  rw [Nat.shiftLeft_eq, Nat.mul_comm, Nat.mul_add_lt_is_or hy]

theorem and_shiftLeft_eq (n m k : Nat) : n &&& m <<< k = (n >>> k &&& m) <<< k := by
  apply Nat.eq_of_testBit_eq; intro j
  simp only [Nat.testBit_and, Nat.testBit_shiftLeft, Nat.testBit_shiftRight]
  by_cases hj : k ≤ j
  · simp [hj, Nat.add_sub_cancel' hj]
  · simp [hj]

/-- A mask of `w` ones shifted by `k` keeps bits `k` to `k + w - 1`. -/
theorem and_mask_eq (n w k : Nat) : n &&& (2 ^ w - 1) <<< k = n / 2 ^ k % 2 ^ w * 2 ^ k := by
  rw [and_shiftLeft_eq, Nat.and_pow_two_sub_one_eq_mod, Nat.shiftLeft_eq, Nat.shiftRight_eq_div_pow]

/-- A flag word masked with one bit is that bit or `0`. -/
theorem and_two_pow_cases (x k : Nat) : x &&& 2 ^ k = 0 ∨ x &&& 2 ^ k = 2 ^ k := by
  have h : x &&& 2 ^ k = x / 2 ^ k % 2 * 2 ^ k := by simpa [Nat.shiftLeft_eq] using and_mask_eq x 1 k
  rcases Nat.mod_two_eq_zero_or_one (x / 2 ^ k) with h' | h' <;> simp [h, h']

theorem or_eq_self_of_and_eq {x m : Nat} (h : x &&& m = m) : x ||| m = x := by
  apply Nat.eq_of_testBit_eq; intro i
  have hi := congrArg (Nat.testBit · i) h
  simp only [Nat.testBit_and] at hi
  simp only [Nat.testBit_or]
  revert hi
  cases x.testBit i <;> cases m.testBit i <;> simp

theorem byte_eq_iff (x v : UInt8) : x = v ↔ x.toNat = v.toNat := ⟨congrArg _, UInt8.toNat.inj⟩

end Evutil
