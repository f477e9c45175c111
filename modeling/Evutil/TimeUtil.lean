/-
  The conversions of `evutil_time.c` besides the monotonic clock.

  * `evutilTvToMsec` (`evutil_tv_to_msec_`): a `timeval` in milliseconds, `-1` for one it
    refuses. `tv_to_msec_ceil`: with `0 ≤ tv_usec ≤ 1000000` the result is the time rounded up
    to a whole millisecond, and it fits a `long` whenever `tv_sec * 1000` does.
  * `Tm`, `evutilDateRfc1123` (`evutil_date_rfc1123`): the HTTP date
    `"%s, %02d %s %4d %02d:%02d:%02d GMT"`. `date_rfc1123_text`: for a `struct tm` whose fields
    fit that layout the text has 29 bytes, and no other such `struct tm` gives the same text.
-/
import Mathlib.Data.List.Nodup
import Evutil.MonotonicTime

namespace Evutil

/-! ## Milliseconds -/

def MAX_SECONDS_IN_MSEC_LONG : Int := (LONG_MAX - 999) / 1000

/-- `evutil_tv_to_msec_(tv)`, `none` where the `long` arithmetic overflows. The `/` of `long`s
    truncates toward zero (`Int.tdiv`). -/
def evutilTvToMsec (tv : Timeval) : Option Int :=
  if tv.usec > 1000000 ∨ tv.sec > MAX_SECONDS_IN_MSEC_LONG then some (-1)
  else do
    let ms ← inLong (tv.sec * 1000)
    let us ← inLong (tv.usec + 999)
    inLong (ms + us.tdiv 1000)

/-- **Rounding up.** A `timeval` with `0 ≤ tv_usec ≤ 1000000` that the check lets through, and
    whose `tv_sec * 1000` is a `long`, gives its time in milliseconds rounded up, without an
    overflow. -/
theorem tv_to_msec_ceil (tv : Timeval) (hu : 0 ≤ tv.usec ∧ tv.usec ≤ 1000000)
    (hs : LONG_MIN ≤ tv.sec * 1000 ∧ tv.sec ≤ MAX_SECONDS_IN_MSEC_LONG) :
    ∃ r, evutilTvToMsec tv = some r ∧ tv.micros ≤ r * 1000 ∧ r * 1000 < tv.micros + 1000 := by
  obtain ⟨hu0, hu1⟩ := hu
  obtain ⟨hs0, hs1⟩ := hs
  have hmin : -2 ^ 63 ≤ tv.sec * 1000 := hs0
  have hmax : tv.sec ≤ (2 ^ 63 - 1 - 999) / 1000 := hs1
  have hfit : ∀ {v : Int}, -2 ^ 63 ≤ v → v ≤ 2 ^ 63 - 1 → inLong v = some v := inLong_of
  have hq : (tv.usec + 999).tdiv 1000 = (tv.usec + 999) / 1000 :=
    Int.tdiv_eq_ediv (by omega) (by decide)
  refine ⟨tv.sec * 1000 + (tv.usec + 999) / 1000, ?_, by unfold Timeval.micros; omega⟩
  rw [evutilTvToMsec, if_neg (by omega), hfit (by omega) (by omega),
    hfit (v := tv.usec + 999) (by omega) (by omega)]
  simp only [Option.bind_eq_bind, Option.some_bind, hq]
  exact hfit (by omega) (by omega)

theorem tv_to_msec_ceil_half_second :
    ((0 : Int) ≤ 500 ∧ (500 : Int) ≤ 1000000) ∧ (LONG_MIN ≤ 1 * 1000 ∧ 1 ≤ MAX_SECONDS_IN_MSEC_LONG) ∧
      ∃ r, evutilTvToMsec ⟨1, 500⟩ = some r ∧ (⟨1, 500⟩ : Timeval).micros ≤ r * 1000 ∧
        r * 1000 < (⟨1, 500⟩ : Timeval).micros + 1000 :=
  have hu : (0 : Int) ≤ 500 ∧ (500 : Int) ≤ 1000000 := by decide
  have hs : LONG_MIN ≤ 1 * 1000 ∧ 1 ≤ MAX_SECONDS_IN_MSEC_LONG := by
    unfold LONG_MIN MAX_SECONDS_IN_MSEC_LONG LONG_MAX; decide
  ⟨hu, hs, tv_to_msec_ceil ⟨1, 500⟩ hu hs⟩

/-! ## The HTTP date -/

/-- `struct tm` by the fields `evutil_date_rfc1123` reads. -/
structure Tm where
  sec : Int
  min : Int
  hour : Int
  mday : Int
  mon : Int
  year : Int
  wday : Int
  deriving DecidableEq, Repr

/-- `DAYS` of `evutil_date_rfc1123`. -/
def DAYS : List (List UInt8) :=
  [cstr "Sun", cstr "Mon", cstr "Tue", cstr "Wed", cstr "Thu", cstr "Fri", cstr "Sat"]

/-- `MONTHS` of `evutil_date_rfc1123`. -/
def MONTHS : List (List UInt8) :=
  [cstr "Jan", cstr "Feb", cstr "Mar", cstr "Apr", cstr "May", cstr "Jun", cstr "Jul",
    cstr "Aug", cstr "Sep", cstr "Oct", cstr "Nov", cstr "Dec"]

/-- `table[i]` of a `static const char *` table: `none` outside it, where C is undefined. -/
def tableAt (table : List (List UInt8)) (i : Int) : Option (List UInt8) :=
  if 0 ≤ i then table[i.toNat]? else none

/-- An `int` result: `none` outside `INT_MIN..INT_MAX`, a signed overflow. -/
def inInt (v : Int) : Option Int := if -2 ^ 31 ≤ v ∧ v < 2 ^ 31 then some v else none

/-- The conversions of `"%s, %02d %s %4d %02d:%02d:%02d GMT"` and the text between them, in
    order. -/
def rfc1123Pieces (day mon : List UInt8) (year : Int) (tm : Tm) : List (List UInt8) :=
  [day, cstr ", ", fmtIntWidth true 2 tm.mday, cstr " ", mon, cstr " ", fmtIntWidth false 4 year,
    cstr " ", fmtIntWidth true 2 tm.hour, cstr ":", fmtIntWidth true 2 tm.min, cstr ":",
    fmtIntWidth true 2 tm.sec, cstr " GMT"]

/-- `evutil_date_rfc1123(date, datelen, tm)`, with `now` the `struct tm` that
    `gmtime_r(time(NULL))` gives and `tm = none` for `NULL`: what `evutil_snprintf` returns and
    leaves in `date`, or `none` where C is undefined (a day or month outside the tables, or
    `1900 + tm_year` outside `int`). -/
def evutilDateRfc1123 (now : Tm) (datelen : Nat) (tm : Option Tm) :
    Option (Nat × Option (List UInt8)) := do
  let tm := tm.getD now
  let day ← tableAt DAYS tm.wday
  let mon ← tableAt MONTHS tm.mon
  let year ← inInt (1900 + tm.year)
  pure (evutilSnprintf datelen (rfc1123Pieces day mon year tm).flatten)

/-- The fields fit the layout of the text: a day and a month that the tables name, two digits
    for the day of the month and the time of day, four for the year. -/
def Tm.Fits (tm : Tm) : Prop :=
  0 ≤ tm.wday ∧ tm.wday < 7 ∧ 0 ≤ tm.mon ∧ tm.mon < 12 ∧ 0 ≤ tm.mday ∧ tm.mday < 100 ∧
    0 ≤ tm.hour ∧ tm.hour < 100 ∧ 0 ≤ tm.min ∧ tm.min < 100 ∧ 0 ≤ tm.sec ∧ tm.sec < 100 ∧
    1000 ≤ 1900 + tm.year ∧ 1900 + tm.year < 10000

instance (tm : Tm) : Decidable tm.Fits := by unfold Tm.Fits; infer_instance

/-! ### The fields of the text -/

/-- Texts cut into pieces of the same lengths are equal only piece by piece. -/
theorem flatten_inj_of_lengths {α : Type} :
    ∀ {l l' : List (List α)}, l.map List.length = l'.map List.length → l.flatten = l'.flatten →
      l = l'
  | [], [], _, _ => rfl
  | a :: l, a' :: l', hlen, h => by
    simp only [List.map_cons, List.cons.injEq] at hlen
    rw [List.flatten_cons, List.flatten_cons] at h
    obtain ⟨rfl, ht⟩ := List.append_inj h hlen.1
    rw [flatten_inj_of_lengths hlen.2 ht]

/-- An entry of a table with distinct entries names its index. -/
theorem tableAt_inj {table : List (List UInt8)} (hnd : table.Nodup) {i j : Int}
    {d : List UInt8} (hi : tableAt table i = some d) (hj : tableAt table j = some d) : i = j := by
  unfold tableAt at hi hj
  split_ifs at hi hj with h0 h1
  obtain ⟨hi', rfl⟩ := List.getElem?_eq_some_iff.1 hi
  obtain ⟨hj', hd⟩ := List.getElem?_eq_some_iff.1 hj
  have := hnd.getElem_inj_iff.1 hd.symm
  omega

theorem tableAt_mem {table : List (List UInt8)} {i : Int} {d : List UInt8}
    (h : tableAt table i = some d) : d ∈ table := by
  unfold tableAt at h
  split_ifs at h
  exact List.getElem?_mem h

theorem tableAt_of_lt {table : List (List UInt8)} {i : Int} (h0 : 0 ≤ i)
    (h1 : i < table.length) : ∃ d, tableAt table i = some d := by
  rw [tableAt, if_pos h0, List.getElem?_eq_getElem (by omega)]
  exact ⟨_, rfl⟩

theorem fmtNat_ten_lt {n : Nat} (h : n < 10) : fmtNat 10 n = [digitByte n] := by
  rw [fmtNat_eq (by decide), if_pos h]

theorem fmtNat_ten_ge {n : Nat} (h : 10 ≤ n) :
    fmtNat 10 n = fmtNat 10 (n / 10) ++ [digitByte (n % 10)] := by
  rw [fmtNat_eq (by decide), if_neg (by omega)]

theorem digitByte_inj {a b : Nat} (ha : a < 10) (hb : b < 10) (h : digitByte a = digitByte b) :
    a = b := by
  unfold digitByte at h
  rw [if_pos ha, if_pos hb] at h
  have := congrArg UInt8.toNat h
  rw [toNat_toUInt8 (by omega), toNat_toUInt8 (by omega)] at this
  omega

/-- `%02d` of `0 ≤ v < 100`: its two decimal digits. -/
theorem fmtIntWidth_two {v : Int} (h0 : 0 ≤ v) (h1 : v < 100) :
    fmtIntWidth true 2 v = [digitByte (v.toNat / 10), digitByte (v.toNat % 10)] := by
  have hn : v.natAbs = v.toNat := by omega
  simp only [fmtIntWidth, if_neg (not_lt.2 h0), hn, List.length_nil, if_true, List.nil_append]
  by_cases h10 : v.toNat < 10
  · rw [fmtNat_ten_lt h10, Nat.div_eq_of_lt h10, Nat.mod_eq_of_lt h10]
    rfl
  · rw [fmtNat_ten_ge (by omega), fmtNat_ten_lt (by omega)]
    rfl

/-- `%4d` of `1000 ≤ v < 10000`: its four decimal digits. -/
theorem fmtIntWidth_four {v : Int} (h0 : 1000 ≤ v) (h1 : v < 10000) :
    fmtIntWidth false 4 v = fmtNat 10 v.toNat ∧ (fmtNat 10 v.toNat).length = 4 := by
  have hlen : (fmtNat 10 v.toNat).length = 4 := by
    rw [fmtNat_ten_ge (by omega), fmtNat_ten_ge (by omega), fmtNat_ten_ge (by omega),
      fmtNat_ten_lt (by omega)]
    rfl
  have hn : v.natAbs = v.toNat := by omega
  refine ⟨?_, hlen⟩
  simp only [fmtIntWidth, if_neg (show ¬v < 0 by omega), hn, hlen, List.length_nil]
  rfl

theorem fmtIntWidth_two_inj {a b : Int} (ha : 0 ≤ a ∧ a < 100) (hb : 0 ≤ b ∧ b < 100)
    (h : fmtIntWidth true 2 a = fmtIntWidth true 2 b) : a = b := by
  rw [fmtIntWidth_two ha.1 ha.2, fmtIntWidth_two hb.1 hb.2] at h
  simp only [List.cons.injEq, and_true] at h
  have h1 := digitByte_inj (by omega) (by omega) h.1
  have h2 := digitByte_inj (by omega) (by omega) h.2
  omega

theorem fmtIntWidth_four_inj {a b : Int} (ha : 1000 ≤ a ∧ a < 10000)
    (hb : 1000 ≤ b ∧ b < 10000) (h : fmtIntWidth false 4 a = fmtIntWidth false 4 b) : a = b := by
  rw [(fmtIntWidth_four ha.1 ha.2).1, (fmtIntWidth_four hb.1 hb.2).1] at h
  have h' := congrArg (digitsValue 10 · 0) h
  simp only [@digitsValue_fmtNat 10 (by decide) (by decide), zero_mul, zero_add] at h'
  omega

theorem length_of_mem_DAYS : ∀ d ∈ DAYS, d.length = 3 := by decide

theorem length_of_mem_MONTHS : ∀ d ∈ MONTHS, d.length = 3 := by decide

/-- The text for a `struct tm` that fits the layout. -/
theorem evutilDateRfc1123_of_fits (now : Tm) (datelen : Nat) {tm : Tm} (h : tm.Fits) :
    ∃ day mon, tableAt DAYS tm.wday = some day ∧ tableAt MONTHS tm.mon = some mon ∧
      evutilDateRfc1123 now datelen (some tm) =
        some (evutilSnprintf datelen (rfc1123Pieces day mon (1900 + tm.year) tm).flatten) := by
  obtain ⟨hw0, hw1, hm0, hm1, -, -, -, -, -, -, -, -, hy0, hy1⟩ := h
  obtain ⟨day, hd⟩ := @tableAt_of_lt DAYS _ hw0 (by simpa [DAYS] using hw1)
  obtain ⟨mon, hm⟩ := @tableAt_of_lt MONTHS _ hm0 (by simpa [MONTHS] using hm1)
  refine ⟨day, mon, hd, hm, ?_⟩
  simp only [evutilDateRfc1123, Option.getD_some, hd, hm, Option.bind_eq_bind, Option.some_bind,
    inInt, if_pos (show -2 ^ 31 ≤ 1900 + tm.year ∧ 1900 + tm.year < 2 ^ 31 by omega)]
  rfl

/-- The pieces have fixed lengths: 29 bytes in all. -/
theorem rfc1123Pieces_lengths {tm : Tm} (h : tm.Fits) {day mon : List UInt8}
    (hd : tableAt DAYS tm.wday = some day) (hm : tableAt MONTHS tm.mon = some mon) :
    (rfc1123Pieces day mon (1900 + tm.year) tm).map List.length =
      [3, 2, 2, 1, 3, 1, 4, 1, 2, 1, 2, 1, 2, 4] := by
  obtain ⟨-, -, -, -, h0, h1, h2, h3, h4, h5, h6, h7, hy0, hy1⟩ := h
  simp only [rfc1123Pieces, List.map_cons, List.map_nil, length_of_mem_DAYS _ (tableAt_mem hd),
    length_of_mem_MONTHS _ (tableAt_mem hm), fmtIntWidth_two h0 h1, fmtIntWidth_two h2 h3,
    fmtIntWidth_two h4 h5, fmtIntWidth_two h6 h7, (fmtIntWidth_four hy0 hy1).1,
    (fmtIntWidth_four hy0 hy1).2]
  rfl

/-- **The HTTP date.** For a `struct tm` whose fields fit the layout, `evutil_date_rfc1123`
    writes 29 bytes, which a buffer of 30 holds whole, and no other such `struct tm` gives the
    same text. -/
theorem date_rfc1123_text (now : Tm) {datelen : Nat} (hlen : 30 ≤ datelen) {a : Tm}
    (ha : a.Fits) :
    ∃ s, evutilDateRfc1123 now datelen (some a) = some (29, some s) ∧ s.length = 29 ∧
      ∀ b : Tm, b.Fits → evutilDateRfc1123 now datelen (some b) = some (29, some s) → b = a := by
  have hsn : ∀ {t : List UInt8}, t.length = 29 → evutilSnprintf datelen t = (29, some t) :=
    fun ht => by rw [evutilSnprintf, if_neg (by omega), ht, List.take_of_length_le (by omega)]
  obtain ⟨day, mon, hd, hm, he⟩ := evutilDateRfc1123_of_fits now datelen ha
  have hl := rfc1123Pieces_lengths ha hd hm
  have h29 : ∀ {l : List (List UInt8)}, l.map List.length = [3, 2, 2, 1, 3, 1, 4, 1, 2, 1, 2, 1, 2, 4] →
      l.flatten.length = 29 := fun h => by rw [List.length_flatten, h]; rfl
  refine ⟨_, he.trans (congrArg some (hsn (h29 hl))), h29 hl, fun b hb hbe => ?_⟩
  obtain ⟨day', mon', hd', hm', he'⟩ := evutilDateRfc1123_of_fits now datelen hb
  have hl' := rfc1123Pieces_lengths hb hd' hm'
  rw [he', hsn (h29 hl'), Option.some.injEq, Prod.mk.injEq, Option.some.injEq] at hbe
  have hp := flatten_inj_of_lengths (hl'.trans hl.symm) hbe.2
  simp only [rfc1123Pieces, List.cons.injEq] at hp
  obtain ⟨rfl, -, h3, -, rfl, -, h7, -, h9, -, h11, -, h13, -⟩ := hp
  obtain ⟨-, -, -, -, a0, a1, a2, a3, a4, a5, a6, a7, ay0, ay1⟩ := ha
  obtain ⟨-, -, -, -, b0, b1, b2, b3, b4, b5, b6, b7, by0, by1⟩ := hb
  have hw := tableAt_inj (by decide) hd' hd
  have hmo := tableAt_inj (by decide) hm' hm
  have hy := fmtIntWidth_four_inj ⟨by0, by1⟩ ⟨ay0, ay1⟩ h7
  cases a
  cases b
  simp only [Tm.mk.injEq] at *
  exact ⟨fmtIntWidth_two_inj ⟨b6, b7⟩ ⟨a6, a7⟩ h13, fmtIntWidth_two_inj ⟨b4, b5⟩ ⟨a4, a5⟩ h11,
    fmtIntWidth_two_inj ⟨b2, b3⟩ ⟨a2, a3⟩ h9, fmtIntWidth_two_inj ⟨b0, b1⟩ ⟨a0, a1⟩ h3,
    hmo, by omega, hw⟩

/-- The epoch, `Thu, 01 Jan 1970 00:00:00 GMT`. -/
def tmEpoch : Tm := ⟨0, 0, 0, 1, 0, 70, 4⟩

example : evutilDateRfc1123 tmEpoch 30 none =
    some (29, some (cstr "Thu, 01 Jan 1970 00:00:00 GMT")) := by decide

theorem date_rfc1123_text_epoch :
    30 ≤ 30 ∧ tmEpoch.Fits ∧
      ∃ s, evutilDateRfc1123 tmEpoch 30 (some tmEpoch) = some (29, some s) ∧ s.length = 29 ∧
        ∀ b : Tm, b.Fits → evutilDateRfc1123 tmEpoch 30 (some b) = some (29, some s) →
          b = tmEpoch :=
  have ha : tmEpoch.Fits := by decide
  ⟨le_rfl, ha, date_rfc1123_text tmEpoch le_rfl ha⟩

end Evutil
