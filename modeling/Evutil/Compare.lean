/-
  Comparisons: the lexicographic sign `lexSign`, glibc's `memcmp`, and
  `evutil_ascii_strcasecmp`, `evutil_ascii_strncasecmp` (`evutil.c`).

  * `lexSign`: `-1`, `0` or `1` as one list of integers comes before, equals or follows another,
    a list before its extensions. `lexSign_swap`, `lexSign_le_trans`, `lexSign_lt_trans` and
    `lexSign_eq_zero` are the laws of a linear order; `memcmp_sign` reads `memcmp` through it.
  * `evutilTolowerTable`, `evutilTolower`: `EVUTIL_TOLOWER_TABLE` and `EVUTIL_TOLOWER_`, which
    returns a `char`, signed on x86-64 Linux (`schar`).
  * `evutilAsciiStrcasecmp`, `evutilAsciiStrncasecmp`: the loops. `strcasecmp_eq_lexSign` and
    `strncasecmp_eq_lexSign` give their results as `lexSign` of the lowered bytes as `char`s,
    then the NUL (`charKey`). C-locale `strcasecmp` (`strcasecmpRef`) compares them as
    `unsigned char`s: the two agree on ASCII text (`strcasecmp_ascii`) and differ once a byte
    is above `0x7f` (`ascii_strcasecmp_high_byte`).
-/
import Evutil.CLib

namespace Evutil

/-! ## Lexicographic order -/

/-- The sign of the lexicographic comparison of two lists of integers, a list before its
    proper extensions. -/
def lexSign : List Int → List Int → Int
  | [], [] => 0
  | [], _ :: _ => -1
  | _ :: _, [] => 1
  | a :: as, b :: bs => if a < b then -1 else if b < a then 1 else lexSign as bs

theorem lexSign_swap : ∀ l₁ l₂ : List Int, lexSign l₂ l₁ = -lexSign l₁ l₂
  | [], [] => rfl
  | [], _ :: _ => rfl
  | _ :: _, [] => rfl
  | a :: as, b :: bs => by
    simp only [lexSign, lexSign_swap as bs]
    split_ifs <;> omega

theorem lexSign_eq_zero : ∀ {l₁ l₂ : List Int}, lexSign l₁ l₂ = 0 ↔ l₁ = l₂
  | [], [] => by simp [lexSign]
  | [], _ :: _ => by simp [lexSign]
  | _ :: _, [] => by simp [lexSign]
  | a :: as, b :: bs => by
    simp only [lexSign, List.cons.injEq]
    split_ifs with h₁ h₂
    · exact iff_of_false (by decide) (fun h => by omega)
    · exact iff_of_false (by decide) (fun h => by omega)
    · rw [lexSign_eq_zero]
      exact ⟨fun h => ⟨by omega, h⟩, And.right⟩

theorem lexSign_cons_nonpos {a b : Int} {as bs : List Int} :
    lexSign (a :: as) (b :: bs) ≤ 0 ↔ a < b ∨ a = b ∧ lexSign as bs ≤ 0 := by
  simp only [lexSign]
  split_ifs with h₁ h₂
  · simp [h₁]
  · exact iff_of_false (by decide) (by omega)
  · simp [show a = b by omega]

theorem lexSign_le_trans : ∀ {l₁ l₂ l₃ : List Int}, lexSign l₁ l₂ ≤ 0 → lexSign l₂ l₃ ≤ 0 →
    lexSign l₁ l₃ ≤ 0
  | [], _, [], _, _ => le_rfl
  | [], _, _ :: _, _, _ => by simp [lexSign]
  | _ :: _, [], _, h, _ => by simp [lexSign] at h
  | _ :: _, _ :: _, [], _, h => by simp [lexSign] at h
  | a :: as, b :: bs, c :: cs, h₁, h₂ => by
    rw [lexSign_cons_nonpos] at h₁ h₂ ⊢
    rcases h₁ with h₁ | ⟨rfl, h₁⟩ <;> rcases h₂ with h₂ | ⟨rfl, h₂⟩
    · exact .inl (h₁.trans h₂)
    · exact .inl h₁
    · exact .inl h₂
    · exact .inr ⟨rfl, lexSign_le_trans h₁ h₂⟩

theorem lexSign_lt_trans {l₁ l₂ l₃ : List Int} (h₁ : lexSign l₁ l₂ < 0) (h₂ : lexSign l₂ l₃ < 0) :
    lexSign l₁ l₃ < 0 := by
  refine lt_of_le_of_ne (lexSign_le_trans h₁.le h₂.le) fun h => ?_
  obtain rfl := lexSign_eq_zero.1 h
  rw [lexSign_swap] at h₂
  omega

theorem lexSign_cons_self (a : Int) (l₁ l₂ : List Int) :
    lexSign (a :: l₁) (a :: l₂) = lexSign l₁ l₂ := by
  simp [lexSign]

theorem lexSign_append_left (l : List Int) (l₁ l₂ : List Int) :
    lexSign (l ++ l₁) (l ++ l₂) = lexSign l₁ l₂ := by
  induction l with
  | nil => rfl
  | cons a l ih => simpa [lexSign] using ih

theorem lexSign_extension (l : List Int) (x : Int) (xs : List Int) :
    lexSign (l ++ x :: xs) l = 1 := by
  induction l with
  | nil => rfl
  | cons a l ih => simpa [lexSign] using ih

/-- Past a difference between lists of one length, what follows them does not count. -/
theorem lexSign_append_of_ne : ∀ {l₁ l₂ : List Int}, l₁.length = l₂.length → l₁ ≠ l₂ →
    ∀ m₁ m₂, lexSign (l₁ ++ m₁) (l₂ ++ m₂) = lexSign l₁ l₂
  | [], [], _, h, _, _ => absurd rfl h
  | a :: as, b :: bs, hl, hne, m₁, m₂ => by
    simp only [List.cons_append, lexSign]
    split_ifs with h₁ h₂ <;> try rfl
    exact lexSign_append_of_ne (by simpa using hl)
      (fun h => hne (by rw [h, show a = b by omega])) m₁ m₂

theorem sign_nonpos_iff {x : Int} : x.sign ≤ 0 ↔ x ≤ 0 := by
  rcases lt_trichotomy x 0 with h | rfl | h
  · simp [Int.sign_eq_neg_one_of_neg h, h.le]
  · simp
  · simp [Int.sign_eq_one_of_pos h, not_le.2 h]

theorem sign_neg_iff {x : Int} : x.sign < 0 ↔ x < 0 := by
  rcases lt_trichotomy x 0 with h | rfl | h
  · simp [Int.sign_eq_neg_one_of_neg h, h]
  · simp
  · simp [Int.sign_eq_one_of_pos h, not_lt.2 h.le]

/-- Ending both lists with a value below all their entries changes nothing. -/
theorem lexSign_append_least {m : Int} :
    ∀ {l₁ l₂ : List Int}, (∀ x ∈ l₁, m < x) → (∀ x ∈ l₂, m < x) →
      ∀ n, lexSign ((l₁ ++ [m]).take n) ((l₂ ++ [m]).take n) = lexSign (l₁.take n) (l₂.take n)
  | _, _, _, _, 0 => rfl
  | [], [], _, _, _ + 1 => by simp [lexSign]
  | [], b :: bs, _, h₂, _ + 1 => by
    have := h₂ b (List.mem_cons_self _ _)
    simp [lexSign, this, show ¬ b < m by omega]
  | a :: as, [], h₁, _, _ + 1 => by
    have := h₁ a (List.mem_cons_self _ _)
    simp [lexSign, this, show ¬ a < m by omega]
  | a :: as, b :: bs, h₁, h₂, n + 1 => by
    have ih := lexSign_append_least (fun x hx => h₁ x (List.mem_cons_of_mem _ hx))
      (fun x hx => h₂ x (List.mem_cons_of_mem _ hx)) n
    simp only [List.cons_append, List.take_succ_cons, lexSign, List.append_eq, ih]

/-! ## `memcmp` -/

/-- glibc's `memcmp(s1, s2, n)`: the difference of the first differing bytes as
    `unsigned char`s, `0` when the `n` bytes agree. -/
def memcmp : List UInt8 → List UInt8 → Nat → Int
  | a :: as, b :: bs, n + 1 => if a = b then memcmp as bs n else (a.toNat : Int) - b.toNat
  | _, _, _ => 0

/-- A byte as the `int` an `unsigned char` is promoted to. -/
def ucharInt (c : UInt8) : Int := c.toNat

theorem ucharInt_inj {a b : UInt8} (h : ucharInt a = ucharInt b) : a = b :=
  UInt8.toNat.inj (by unfold ucharInt at h; omega)

/-- `memcmp` has the sign of the lexicographic comparison of the bytes. -/
theorem memcmp_sign : ∀ (as bs : List UInt8), as.length = bs.length →
    (memcmp as bs as.length).sign = lexSign (as.map ucharInt) (bs.map ucharInt)
  | [], [], _ => rfl
  | a :: as, b :: bs, h => by
    simp only [List.length_cons, Nat.add_right_cancel_iff] at h
    simp only [memcmp, List.map_cons, lexSign, List.length_cons]
    by_cases hab : a = b
    · subst hab
      simp [memcmp_sign as bs h]
    · have hne : ucharInt a ≠ ucharInt b := fun h => hab (ucharInt_inj h)
      rw [if_neg hab]
      unfold ucharInt at hne ⊢
      rcases lt_or_gt_of_ne hne with hlt | hlt
      · rw [if_pos hlt, Int.sign_eq_neg_one_of_neg (by omega)]
      · rw [if_neg (by omega), if_pos hlt, Int.sign_eq_one_of_pos (by omega)]

/-! ## `EVUTIL_TOLOWER_` -/

/-- `EVUTIL_TOLOWER_TABLE`. -/
def evutilTolowerTable : List UInt8 :=
  [0, 1, 2, 3, 4, 5, 6, 7, 8, 9, 10, 11, 12, 13, 14, 15,
   16, 17, 18, 19, 20, 21, 22, 23, 24, 25, 26, 27, 28, 29, 30, 31,
   32, 33, 34, 35, 36, 37, 38, 39, 40, 41, 42, 43, 44, 45, 46, 47,
   48, 49, 50, 51, 52, 53, 54, 55, 56, 57, 58, 59, 60, 61, 62, 63,
   64, 97, 98, 99, 100, 101, 102, 103, 104, 105, 106, 107, 108, 109, 110, 111,
   112, 113, 114, 115, 116, 117, 118, 119, 120, 121, 122, 91, 92, 93, 94, 95,
   96, 97, 98, 99, 100, 101, 102, 103, 104, 105, 106, 107, 108, 109, 110, 111,
   112, 113, 114, 115, 116, 117, 118, 119, 120, 121, 122, 123, 124, 125, 126, 127,
   128, 129, 130, 131, 132, 133, 134, 135, 136, 137, 138, 139, 140, 141, 142, 143,
   144, 145, 146, 147, 148, 149, 150, 151, 152, 153, 154, 155, 156, 157, 158, 159,
   160, 161, 162, 163, 164, 165, 166, 167, 168, 169, 170, 171, 172, 173, 174, 175,
   176, 177, 178, 179, 180, 181, 182, 183, 184, 185, 186, 187, 188, 189, 190, 191,
   192, 193, 194, 195, 196, 197, 198, 199, 200, 201, 202, 203, 204, 205, 206, 207,
   208, 209, 210, 211, 212, 213, 214, 215, 216, 217, 218, 219, 220, 221, 222, 223,
   224, 225, 226, 227, 228, 229, 230, 231, 232, 233, 234, 235, 236, 237, 238, 239,
   240, 241, 242, 243, 244, 245, 246, 247, 248, 249, 250, 251, 252, 253, 254, 255]

/-- `EVUTIL_TOLOWER_(c)`: the table's entry for `(uint8_t)c`. -/
def evutilTolower (c : UInt8) : UInt8 := evutilTolowerTable.getD c.toNat 0

/-- A `char` as the `int` it is promoted to: `char` is signed on x86-64 Linux. -/
def schar (c : UInt8) : Int := if c.toNat < 128 then c.toNat else (c.toNat : Int) - 256

/-- ASCII lower case: `A`-`Z` to `a`-`z`, every other byte unchanged. -/
def asciiLower (c : UInt8) : UInt8 := if 65 ≤ c.toNat ∧ c.toNat ≤ 90 then c + 32 else c

set_option maxRecDepth 4000 in
/-- The table is ASCII lower case. -/
theorem evutilTolowerTable_eq :
    evutilTolowerTable = (List.range 256).map (fun n => asciiLower n.toUInt8) := by
  decide

theorem evutilTolower_eq (c : UInt8) : evutilTolower c = asciiLower c := by
  rw [evutilTolower, evutilTolowerTable_eq, List.getD_eq_getElem?_getD, List.getElem?_map,
    List.getElem?_range c.toNat_lt_size]
  simp [toUInt8_toNat]

theorem asciiLower_toNat (c : UInt8) :
    (asciiLower c).toNat = if 65 ≤ c.toNat ∧ c.toNat ≤ 90 then c.toNat + 32 else c.toNat := by
  unfold asciiLower
  split_ifs
  · show (c.toNat + 32) % 256 = _; omega
  · rfl

theorem asciiLower_eq_zero (c : UInt8) : asciiLower c = 0 ↔ c = 0 := by
  refine ⟨fun h => UInt8.toNat.inj ?_, by rintro rfl; rfl⟩
  have h' := congrArg UInt8.toNat h
  rw [asciiLower_toNat] at h'
  split_ifs at h' <;> simp_all

theorem asciiLower_of_high (c : UInt8) (h : 128 ≤ c.toNat) : asciiLower c = c := by
  unfold asciiLower; rw [if_neg (by omega)]

theorem asciiLower_lt (c : UInt8) (h : c.toNat < 128) : (asciiLower c).toNat < 128 := by
  rw [asciiLower_toNat]; split_ifs <;> omega

theorem evutilTolower_eq_zero {c : UInt8} : evutilTolower c = 0 ↔ c = 0 := by
  rw [evutilTolower_eq, asciiLower_eq_zero]

theorem schar_injective : Function.Injective schar := fun a b h => by
  apply UInt8.toNat.inj
  have ha : a.toNat < 256 := a.toNat_lt_size
  have hb : b.toNat < 256 := b.toNat_lt_size
  unfold schar at h
  split_ifs at h <;> omega

theorem schar_of_lt {c : UInt8} (h : c.toNat < 128) : schar c = ucharInt c := by
  simp [schar, ucharInt, h]

/-! ## The loops -/

/-- One round of the loops of `evutil_ascii_strcasecmp` and `evutil_ascii_strncasecmp` on the
    bytes `*s1` and `*s2`: `some r` for `return r`, `none` to go on. -/
def caseRound (b1 b2 : UInt8) : Option Int :=
  let c1 := evutilTolower b1
  let c2 := evutilTolower b2
  if schar c1 < schar c2 then some (-1)
  else if schar c1 > schar c2 then some 1
  else if c1 = 0 then some 0
  else none

/-- `evutil_ascii_strcasecmp(s1, s2)`. At the end of `s1` the round reads its NUL, and a round
    on a NUL always returns. -/
def evutilAsciiStrcasecmp : List UInt8 → List UInt8 → Int
  | [], s2 => (caseRound 0 (deref s2 0)).getD 0
  | b1 :: s1, s2 =>
    match caseRound b1 (deref s2 0) with
    | some r => r
    | none => evutilAsciiStrcasecmp s1 s2.tail

/-- `evutil_ascii_strncasecmp(s1, s2, n)`. -/
def evutilAsciiStrncasecmp : List UInt8 → List UInt8 → Nat → Int
  | _, _, 0 => 0
  | s1, s2, n + 1 =>
    match caseRound (deref s1 0) (deref s2 0) with
    | some r => r
    | none => evutilAsciiStrncasecmp s1.tail s2.tail n

theorem evutilAsciiStrcasecmp_cons (a : UInt8) (s1 s2 : List UInt8) :
    evutilAsciiStrcasecmp (a :: s1) s2 =
      (caseRound a (deref s2 0)).getD (evutilAsciiStrcasecmp s1 s2.tail) := by
  conv_lhs => rw [evutilAsciiStrcasecmp]
  cases caseRound a (deref s2 0) <;> rfl

theorem evutilAsciiStrncasecmp_succ (s1 s2 : List UInt8) (n : Nat) :
    evutilAsciiStrncasecmp s1 s2 (n + 1) =
      (caseRound (deref s1 0) (deref s2 0)).getD (evutilAsciiStrncasecmp s1.tail s2.tail n) := by
  conv_lhs => rw [evutilAsciiStrncasecmp]
  cases caseRound (deref s1 0) (deref s2 0) <;> rfl

theorem caseRound_of_none {a b : UInt8} (h : caseRound a b = none) :
    evutilTolower a = evutilTolower b ∧ evutilTolower a ≠ 0 := by
  unfold caseRound at h
  dsimp only at h
  split_ifs at h with h₁ h₂ h₀
  exact ⟨schar_injective (by omega), h₀⟩

/-- A round on two bytes whose lowered forms differ returns. -/
theorem caseRound_of_ne {a b : UInt8} (h : evutilTolower a ≠ evutilTolower b) :
    ∃ r, caseRound a b = some r :=
  Option.ne_none_iff_exists'.1 fun hn => h (caseRound_of_none hn).1

/-- The values the loops compare: each byte lowered, as a `char`, then the NUL. -/
def charKey (s : List UInt8) : List Int := s.map (schar ∘ evutilTolower) ++ [0]

theorem charKey_cons (b : UInt8) (s : List UInt8) :
    charKey (b :: s) = schar (evutilTolower b) :: charKey s := rfl

theorem charKey_nil : charKey [] = [schar (evutilTolower 0)] := rfl

/-- A round is the first step of `lexSign` on the keys, when a NUL ends both strings once the
    lowered bytes agree. -/
theorem caseRound_lexSign (a b : UInt8) {xs ys : List Int}
    (hend : evutilTolower a = 0 → evutilTolower b = 0 → xs = [] ∧ ys = []) :
    lexSign (schar (evutilTolower a) :: xs) (schar (evutilTolower b) :: ys) =
      (caseRound a b).getD (lexSign xs ys) := by
  unfold caseRound
  simp only [lexSign, gt_iff_lt]
  split_ifs with h₁ h₂ h₀ <;> try rfl
  have hab := schar_injective (show schar (evutilTolower a) = schar (evutilTolower b) by omega)
  obtain ⟨rfl, rfl⟩ := hend h₀ (hab ▸ h₀)
  rfl

theorem lower_ne_zero {b : UInt8} {s : List UInt8} (hs : 0 ∉ b :: s) : evutilTolower b ≠ 0 :=
  fun h => hs (evutilTolower_eq_zero.1 h ▸ List.mem_cons_self _ _)

theorem not_mem_tail {b : UInt8} {s : List UInt8} (hs : 0 ∉ b :: s) : 0 ∉ s :=
  fun h => hs (List.mem_cons_of_mem _ h)

/-- **`evutil_ascii_strcasecmp` is `lexSign` of the `char` keys.** -/
theorem strcasecmp_eq_lexSign : ∀ {s1 s2 : List UInt8}, 0 ∉ s1 → 0 ∉ s2 →
    evutilAsciiStrcasecmp s1 s2 = lexSign (charKey s1) (charKey s2)
  | [], [], _, _ => rfl
  | [], b :: s2, _, h₂ => by
    have hb := lower_ne_zero h₂
    obtain ⟨r, hr⟩ := caseRound_of_ne (a := 0) (b := b) fun h => hb (h ▸ rfl)
    rw [charKey_nil, charKey_cons, caseRound_lexSign 0 b fun _ h => absurd h hb]
    show (caseRound 0 b).getD 0 = _
    rw [hr]; rfl
  | a :: s1, [], h₁, _ => by
    have ha := lower_ne_zero h₁
    obtain ⟨r, hr⟩ := caseRound_of_ne (a := a) (b := 0) fun h => ha (h ▸ rfl)
    rw [evutilAsciiStrcasecmp_cons, charKey_cons, charKey_nil,
      caseRound_lexSign a 0 fun h => absurd h ha]
    show (caseRound a 0).getD _ = _
    rw [hr]; rfl
  | a :: s1, b :: s2, h₁, h₂ => by
    rw [evutilAsciiStrcasecmp_cons, charKey_cons, charKey_cons,
      caseRound_lexSign a b fun h => absurd h (lower_ne_zero h₁),
      ← strcasecmp_eq_lexSign (not_mem_tail h₁) (not_mem_tail h₂)]
    rfl

/-- **`evutil_ascii_strncasecmp` is `lexSign` of the first `n` values of the `char` keys.** -/
theorem strncasecmp_eq_lexSign : ∀ (n : Nat) {s1 s2 : List UInt8}, 0 ∉ s1 → 0 ∉ s2 →
    evutilAsciiStrncasecmp s1 s2 n = lexSign ((charKey s1).take n) ((charKey s2).take n)
  | 0, _, _, _, _ => rfl
  | n + 1, [], [], _, _ => by
    rw [evutilAsciiStrncasecmp_succ, charKey_nil, List.take_succ_cons, List.take_nil]
    rfl
  | n + 1, [], b :: s2, _, h₂ => by
    have hb := lower_ne_zero h₂
    obtain ⟨r, hr⟩ := caseRound_of_ne (a := 0) (b := b) fun h => hb (h ▸ rfl)
    rw [evutilAsciiStrncasecmp_succ, charKey_nil, charKey_cons, List.take_succ_cons,
      List.take_succ_cons, caseRound_lexSign 0 b fun _ h => absurd h hb]
    show (caseRound 0 b).getD _ = _
    rw [hr]; rfl
  | n + 1, a :: s1, [], h₁, _ => by
    have ha := lower_ne_zero h₁
    obtain ⟨r, hr⟩ := caseRound_of_ne (a := a) (b := 0) fun h => ha (h ▸ rfl)
    rw [evutilAsciiStrncasecmp_succ, charKey_nil, charKey_cons, List.take_succ_cons,
      List.take_succ_cons, caseRound_lexSign a 0 fun h => absurd h ha]
    show (caseRound a 0).getD _ = _
    rw [hr]; rfl
  | n + 1, a :: s1, b :: s2, h₁, h₂ => by
    rw [evutilAsciiStrncasecmp_succ, charKey_cons, charKey_cons, List.take_succ_cons,
      List.take_succ_cons, caseRound_lexSign a b fun h => absurd h (lower_ne_zero h₁),
      ← strncasecmp_eq_lexSign n (not_mem_tail h₁) (not_mem_tail h₂)]
    rfl

/-- `0` exactly for strings equal up to ASCII case. -/
theorem strcasecmp_eq_zero_iff {s1 s2 : List UInt8} (h₁ : 0 ∉ s1) (h₂ : 0 ∉ s2) :
    evutilAsciiStrcasecmp s1 s2 = 0 ↔ s1.map asciiLower = s2.map asciiLower := by
  rw [strcasecmp_eq_lexSign h₁ h₂, lexSign_eq_zero, charKey, charKey, List.append_cancel_right_eq,
    ← List.map_map, ← List.map_map, (List.map_injective_iff.2 schar_injective).eq_iff,
    funext evutilTolower_eq]

theorem strcasecmp_eq_zero_host : evutilAsciiStrcasecmp (cstr "Host") (cstr "hOST") = 0 :=
  (strcasecmp_eq_zero_iff (by decide) (by decide)).2 (by decide)

/-! ## The C-locale reference -/

/-- The lowered bytes as `unsigned char`s. -/
def lowerCodes (s : List UInt8) : List Int := s.map (ucharInt ∘ asciiLower)

/-- C-locale `strcasecmp(s1, s2)`, by its sign: the lowered strings compared as
    `unsigned char`s, a string before its extensions. -/
def strcasecmpRef (s1 s2 : List UInt8) : Int := lexSign (lowerCodes s1) (lowerCodes s2)

/-- C-locale `strncasecmp(s1, s2, n)`, by its sign: the same on the first `n` bytes. -/
def strncasecmpRef (s1 s2 : List UInt8) (n : Nat) : Int :=
  lexSign ((lowerCodes s1).take n) ((lowerCodes s2).take n)

/-- On ASCII text the `char` keys are the reference's codes, then the NUL. -/
theorem charKey_ascii {s : List UInt8} (h : ∀ c ∈ s, c.toNat < 128) :
    charKey s = lowerCodes s ++ [0] := by
  unfold charKey lowerCodes
  congr 1
  refine List.map_congr_left fun b hb => ?_
  show schar (evutilTolower b) = ucharInt (asciiLower b)
  rw [evutilTolower_eq, schar_of_lt (asciiLower_lt b (h b hb))]

theorem lowerCodes_pos {s : List UInt8} (h : 0 ∉ s) : ∀ x ∈ lowerCodes s, (0 : Int) < x := by
  intro x hx
  obtain ⟨b, hb, rfl⟩ := List.mem_map.1 hx
  have hne : asciiLower b ≠ 0 := fun h0 => h ((asciiLower_eq_zero b).1 h0 ▸ hb)
  have : (asciiLower b).toNat ≠ 0 := fun h0 => hne (UInt8.toNat.inj h0)
  show (0 : Int) < ((asciiLower b).toNat : Int)
  omega

/-- On ASCII text both loops agree with the C-locale reference. -/
theorem strcasecmp_ascii {s1 s2 : List UInt8} (h₁ : 0 ∉ s1) (h₂ : 0 ∉ s2)
    (a₁ : ∀ c ∈ s1, c.toNat < 128) (a₂ : ∀ c ∈ s2, c.toNat < 128) :
    evutilAsciiStrcasecmp s1 s2 = strcasecmpRef s1 s2 ∧
      ∀ n, evutilAsciiStrncasecmp s1 s2 n = strncasecmpRef s1 s2 n := by
  have hn : ∀ n, evutilAsciiStrncasecmp s1 s2 n = strncasecmpRef s1 s2 n := fun n => by
    rw [strncasecmp_eq_lexSign n h₁ h₂, charKey_ascii a₁, charKey_ascii a₂, strncasecmpRef,
      lexSign_append_least (lowerCodes_pos h₁) (lowerCodes_pos h₂)]
  refine ⟨?_, hn⟩
  have hk : ∀ s : List UInt8, (charKey s).length = s.length + 1 := fun s => by simp [charKey]
  have hl : ∀ s : List UInt8, (lowerCodes s).length = s.length := fun s => List.length_map _ _
  have hlen := hn (s1.length + s2.length + 1)
  rw [strncasecmp_eq_lexSign _ h₁ h₂, strncasecmpRef,
    List.take_of_length_le (l := charKey s1) (by rw [hk]; omega),
    List.take_of_length_le (l := charKey s2) (by rw [hk]; omega),
    List.take_of_length_le (l := lowerCodes s1) (by rw [hl]; omega),
    List.take_of_length_le (l := lowerCodes s2) (by rw [hl]; omega)] at hlen
  rw [strcasecmp_eq_lexSign h₁ h₂, hlen, strcasecmpRef]

theorem strcasecmp_ascii_ab :
    evutilAsciiStrcasecmp (cstr "ab") (cstr "AC") = strcasecmpRef (cstr "ab") (cstr "AC") :=
  (strcasecmp_ascii (by decide) (by decide) (by decide) (by decide)).1

/-- **A byte above `0x7f` sorts before the end of the string**: a string followed by such a
    byte compares below the string itself, where C-locale `strcasecmp` puts it above. -/
theorem ascii_strcasecmp_high_byte (s : List UInt8) (hs : 0 ∉ s) (b : UInt8)
    (hb : 128 ≤ b.toNat) :
    evutilAsciiStrcasecmp (s ++ [b]) s = -1 ∧ strcasecmpRef (s ++ [b]) s = 1 ∧
      evutilAsciiStrncasecmp (s ++ [b]) s (s.length + 1) = -1 ∧
      strncasecmpRef (s ++ [b]) s (s.length + 1) = 1 := by
  have hb0 : (0 : UInt8) ∉ s ++ [b] := by
    simp only [List.mem_append, List.mem_singleton, not_or]
    exact ⟨hs, fun h => by rw [← h] at hb; exact absurd hb (by decide)⟩
  have hneg : schar b < 0 := by
    have : b.toNat < 256 := b.toNat_lt_size
    unfold schar; rw [if_neg (by omega)]; omega
  have hkey : charKey (s ++ [b]) = s.map (schar ∘ evutilTolower) ++ [schar b, 0] := by
    simp [charKey, evutilTolower_eq, asciiLower_of_high b hb]
  have hlen : (s.map (schar ∘ evutilTolower)).length = s.length := List.length_map _ _
  have hlen' : (lowerCodes s).length = s.length := List.length_map _ _
  have hcodes : lowerCodes (s ++ [b]) = lowerCodes s ++ [ucharInt (asciiLower b)] := by
    simp [lowerCodes]
  have href := lexSign_extension (lowerCodes s) (ucharInt (asciiLower b)) []
  refine ⟨?_, by rw [strcasecmpRef, hcodes, href], ?_, ?_⟩
  · rw [strcasecmp_eq_lexSign hb0 hs, hkey, charKey, lexSign_append_left]
    simp [lexSign, hneg]
  · rw [strncasecmp_eq_lexSign _ hb0 hs, hkey, charKey, ← hlen, List.take_append,
      List.take_append, lexSign_append_left]
    simp [lexSign, hneg]
  · rw [strncasecmpRef, hcodes, ← hlen', List.take_append,
      List.take_of_length_le (l := lowerCodes s) (by omega)]
    exact href

/-- At `"a\x80"` and `"a"`. -/
theorem ascii_strcasecmp_a_0x80 :
    ((0 : UInt8) ∉ cstr "a" ∧ 128 ≤ (0x80 : UInt8).toNat) ∧
    evutilAsciiStrcasecmp (cstr "a" ++ [0x80]) (cstr "a") = -1 ∧
      strcasecmpRef (cstr "a" ++ [0x80]) (cstr "a") = 1 ∧
      evutilAsciiStrncasecmp (cstr "a" ++ [0x80]) (cstr "a") ((cstr "a").length + 1) = -1 ∧
      strncasecmpRef (cstr "a" ++ [0x80]) (cstr "a") ((cstr "a").length + 1) = 1 :=
  ⟨⟨by decide, by decide⟩, ascii_strcasecmp_high_byte (cstr "a") (by decide) 0x80 (by decide)⟩

end Evutil
