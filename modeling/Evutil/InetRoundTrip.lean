/-
  `evutil_inet_pton` reads back what `evutil_inet_ntop` writes.

  * `pton6Loop_hexEach`, `pton6Loop_hexColons`: the parse loop over groups, one step per group,
    writing the words `writeWords` lists;
  * `wordsToIn6Addr_eq`: words that agree with an address give back its bytes;
  * `inetPton6_ntop6Text`: the IPv6 round trip, for the general text (with or without the
    `::` gap) and for the two IPv4 forms;
  * `inet_ntop_pton_round_trip`: both families, for a buffer that holds the text.
-/
import Evutil.InetText
import Evutil.InetParse

namespace Evutil

/-! ## Reading groups -/

/-- The words a run of groups writes from `words[i]` on. -/
def writeWords (w : Nat → Option Nat) (i : Nat) : List Nat → Nat → Option Nat
  | [] => w
  | g :: gs => writeWords (setWord w i g) (i + 1) gs

theorem writeWords_apply (k : Nat) : ∀ (gs : List Nat) (w : Nat → Option Nat) (i : Nat),
    writeWords w i gs k = if i ≤ k ∧ k < i + gs.length then some (gs.getD (k - i) 0) else w k
  | [], w, i => by rw [writeWords, if_neg (by simp)]
  | g :: gs, w, i => by
    rw [writeWords, writeWords_apply k gs]
    by_cases hk : k = i
    · subst hk; simp [setWord]
    · simp only [setWord, hk, if_false, List.length_cons]
      by_cases h : i + 1 ≤ k ∧ k < i + 1 + gs.length
      · rw [if_pos h, if_pos (by omega), show k - i = k - (i + 1) + 1 by omega]; rfl
      · rw [if_neg h, if_neg (by omega)]

theorem drop_append_of_drop {s xs ys : List UInt8} {p : Nat} (h : s.drop p = xs ++ ys) :
    s.drop (p + xs.length) = ys := by
  rw [← List.drop_drop, h, List.drop_left]

theorem lt_length_of_drop {s xs : List UInt8} {p : Nat} (h : s.drop p = xs) (hx : xs ≠ []) :
    p < s.length := by
  have := congrArg List.length h
  rw [List.length_drop] at this
  have := List.length_pos.2 hx
  omega

theorem length_hexEach (gs : List Nat) : 2 * gs.length ≤ (hexEach gs).length := by
  induction gs with
  | nil => simp [hexEach]
  | cons g gs ih =>
    have := List.length_pos.2 (fmtNat_ne_nil (by decide : 2 ≤ 16) g)
    simp only [hexEach, List.length_append, List.length_cons]; omega

theorem length_hexColons : ∀ gs : List Nat, gs.length ≤ (hexColons gs).length
  | [] => le_rfl
  | [g] => List.length_pos.2 (fmtNat_ne_nil (by decide) g)
  | g :: g' :: gs => by
    have := length_hexColons (g' :: gs)
    simp only [hexColons, List.length_append, List.length_cons] at this ⊢; omega

section Groups
variable {s : List UInt8} {eow : Nat}

/-- Groups each followed by `:` are read one per step. -/
theorem pton6Loop_hexEach (rest : List UInt8) : ∀ (gs : List Nat) (st : Pton6State) (k : Nat),
    (∀ g ∈ gs, g < 65536) → s.drop st.src = hexEach gs ++ rest →
    st.src + (hexEach gs).length ≤ eow → st.i + gs.length ≤ 8 → gs.length ≤ k →
    pton6Loop s eow k st =
      pton6Loop s eow (k - gs.length) ⟨st.src + (hexEach gs).length, st.i + gs.length,
        st.gapPos, st.setWords + gs.length, writeWords st.words st.i gs⟩
  | [], ⟨_, _, _, _, _⟩, _, _, _, _, _, _ => by simp [hexEach, writeWords]
  | g :: gs, st, k, hg, hs, he, hi, hk => by
    have hlen : (hexEach (g :: gs)).length = (fmtNat 16 g).length + 1 + (hexEach gs).length := by
      simp [hexEach]; omega
    have hs' : s.drop st.src = fmtNat 16 g ++ ch ':' :: (hexEach gs ++ rest) := by
      simpa [hexEach] using hs
    have hstep : pton6Step s eow st = _ := pton6Step_group hs' (hg g (List.mem_cons_self _ _))
      (by simp at hi; omega) (by omega) (stop_colon _) (Or.inl rfl)
    have hd : s.drop (st.src + (fmtNat 16 g ++ [ch ':']).length) = hexEach gs ++ rest :=
      drop_append_of_drop (by simpa using hs')
    rw [List.length_append, List.length_singleton, ← Nat.add_assoc] at hd
    have he' : st.src + (fmtNat 16 g).length + 1 + (hexEach gs).length ≤ eow := by omega
    rw [pton6Loop_pos hstep (by simp at hk; omega),
      pton6Loop_hexEach rest gs ⟨st.src + (fmtNat 16 g).length + 1, st.i + 1, st.gapPos,
        st.setWords + 1, setWord st.words st.i g⟩ (k - 1)
        (fun g' h' => hg g' (List.mem_cons_of_mem _ h')) hd he'
        (by simp at hi ⊢; omega) (by simp at hk; omega),
      show k - 1 - gs.length = k - (g :: gs).length by simp; omega]
    congr 2 <;> simp only [hlen, List.length_cons] <;> omega

/-- Groups joined by `:` up to the end of the string are read one per step. -/
theorem pton6Loop_hexColons : ∀ (gs : List Nat) (st : Pton6State) (k : Nat),
    (∀ g ∈ gs, g < 65536) → s.drop st.src = hexColons gs → st.i + gs.length ≤ 8 →
    gs.length ≤ k →
    ∃ src, pton6Loop s s.length k st =
      .ok ⟨src, st.i + gs.length, st.gapPos, st.setWords + gs.length, writeWords st.words st.i gs⟩
  | [], ⟨src, _, _, _, _⟩, k, _, hs, _, _ => by
    have : s.length ≤ src := by simpa [hexColons] using hs
    exact ⟨src, by simpa [writeWords] using pton6Loop_of_le this k⟩
  | [g], st, k, hg, hs, hi, hk => by
    have hs' : s.drop st.src = fmtNat 16 g := hs
    have hlt := lt_length_of_drop hs' (fmtNat_ne_nil (by decide) g)
    have hend : st.src + (fmtNat 16 g).length = s.length := by
      have := congrArg List.length hs'
      rw [List.length_drop] at this; omega
    have hstep : pton6Step s s.length st = _ := pton6Step_group (by simpa using hs')
      (hg g (List.mem_singleton_self _)) (by simp at hi; omega) hlt stop_nil (Or.inr hend)
    refine ⟨st.src + (fmtNat 16 g).length + 1, ?_⟩
    rw [pton6Loop_pos hstep (by simp at hk; omega), pton6Loop_of_le (by simp; omega)]
    rfl
  | g :: g' :: gs, st, k, hg, hs, hi, hk => by
    have hs' : s.drop st.src = fmtNat 16 g ++ ch ':' :: hexColons (g' :: gs) := by
      simpa [hexColons] using hs
    have hlt := lt_length_of_drop hs' (by simp)
    have hstep : pton6Step s s.length st = _ := pton6Step_group hs' (hg g (List.mem_cons_self _ _))
      (by simp at hi; omega) hlt (stop_colon _) (Or.inl rfl)
    have hd : s.drop (st.src + (fmtNat 16 g ++ [ch ':']).length) = hexColons (g' :: gs) :=
      drop_append_of_drop (by simpa using hs')
    rw [List.length_append, List.length_singleton, ← Nat.add_assoc] at hd
    obtain ⟨src, h⟩ := pton6Loop_hexColons (g' :: gs)
      ⟨st.src + (fmtNat 16 g).length + 1, st.i + 1, st.gapPos, st.setWords + 1,
        setWord st.words st.i g⟩ (k - 1)
      (fun g' h' => hg g' (List.mem_cons_of_mem _ h')) hd (by simp at hi ⊢; omega)
      (by simp at hk ⊢; omega)
    refine ⟨src, ?_⟩
    rw [pton6Loop_pos hstep (by simp at hk; omega), h]
    congr 2 <;> simp [writeWords] <;> omega

end Groups

/-! ## Copying the words out -/

/-- Words that agree with `a` give back `a`'s bytes. -/
theorem wordsToIn6Addr_eq {w : Nat → Option Nat} {a : In6Addr}
    (h : ∀ k < 8, w k = some (a.word k)) : wordsToIn6Addr w = a := by
  ext k : 2
  have hbyte : ∀ j : Fin 16, (a.byte j.val).toUInt8 = a.s6Addr j := fun j => by
    simp [In6Addr.byte, j.isLt, toUInt8_toNat]
  simp only [wordsToIn6Addr, h (k.val / 2) (by omega), Option.getD_some, a.word_eq,
    Nat.shiftRight_eq_div_pow, show (0xff : Nat) = 2 ^ 8 - 1 from rfl,
    Nat.and_pow_two_sub_one_eq_mod]
  split_ifs with h2
  · rw [show 2 * (k.val / 2) = k.val by omega]
    have := a.byte_lt (k.val + 1)
    rw [show (a.byte k.val * 256 + a.byte (k.val + 1)) / 2 ^ 8 = a.byte k.val by omega, hbyte]
  · rw [show 2 * (k.val / 2) + 1 = k.val by omega]
    have := a.byte_lt k.val
    rw [show (a.byte (2 * (k.val / 2)) * 256 + a.byte k.val) % 2 ^ 8 = a.byte k.val by omega,
      hbyte]

/-! ## The IPv6 text with groups -/

theorem not_dot_hexEach (gs : List Nat) : ch '.' ∉ hexEach gs := by
  induction gs with
  | nil => simp [hexEach]
  | cons g gs ih =>
    simp only [hexEach, List.mem_append, List.mem_cons, not_or]
    exact ⟨fmtNat_not_dot (by decide) le_rfl g, by decide, ih⟩

theorem not_dot_hexColons : ∀ gs : List Nat, ch '.' ∉ hexColons gs
  | [] => List.not_mem_nil _
  | [g] => fmtNat_not_dot (by decide) le_rfl g
  | g :: g' :: gs => by
    simp only [hexColons, List.mem_append, List.mem_cons, not_or]
    exact ⟨fmtNat_not_dot (by decide) le_rfl g, by decide, not_dot_hexColons (g' :: gs)⟩

theorem getD_map_range' (f : Nat → Nat) {i n j : Nat} (h : j < n) :
    ((List.range' i n).map f).getD j 0 = f (i + j) := by
  simp [List.getD_eq_getElem?_getD, h]

section Words
variable {a : In6Addr}

theorem word_lt_of_mem {i n g : Nat} (h : g ∈ (List.range' i n).map a.word) : g < 65536 := by
  obtain ⟨j, _, rfl⟩ := List.mem_map.1 h
  exact a.word_lt j

/-- All eight words set and no gap: the words are copied out as they are. -/
theorem pton6Finish_full (src : Nat) {w : Nat → Option Nat} (hw : ∀ k < 8, w k = some (a.word k)) :
    pton6Finish false ⟨src, 8, -1, 8, w⟩ = .ok a := by
  simp [pton6Finish, wordsToIn6Addr_eq hw]

/-- Words `[0, n)` set, the gap at `n`, then `8 - e` more words of which the last two are
    `words[6]`, `words[7]` when `dotted`: `memmove` puts the run read after the gap at `e` and
    `memset` zeroes `[n, e)`, which is where `a` has its zero run. -/
theorem pton6Finish_gap (dotted : Bool) (src i : Nat) {n e : Nat} {w : Nat → Option Nat}
    (hne : n < e) (he : e + (if dotted then 2 else 0) ≤ 8) (hz : ∀ j, n ≤ j → j < e → a.word j = 0)
    (hlo : ∀ k < n, w k = some (a.word k))
    (hhi : ∀ j < 8 - (if dotted then 2 else 0) - e, w (n + j) = some (a.word (e + j)))
    (hend : ∀ k < 8, 8 - (if dotted then 2 else 0) ≤ k → w k = some (a.word k)) :
    pton6Finish dotted ⟨src, i, n, n + (8 - e), w⟩ = .ok a := by
  have hd : ((if dotted then 2 else 0 : Int)) = ((if dotted then 2 else 0 : Nat) : Int) := by
    split <;> rfl
  have hd2 : (if dotted then 2 else 0 : Nat) ≤ 2 := by split <;> omega
  unfold pton6Finish
  simp only [Int.toNat_natCast, hd]
  generalize (if dotted then 2 else 0 : Nat) = d at *
  rw [if_neg (by omega), if_pos (by omega), if_neg (by omega)]
  congr 1
  apply wordsToIn6Addr_eq
  intro k hk
  simp only [memsetWords, memmoveWords]
  split_ifs with h1 h2
  · rw [hz k (by omega) (by omega)]
  · rw [show k - (n + (8 - (n + (8 - e)))) + n = n + (k - e) by omega, hhi (k - e) (by omega)]
    congr 2; omega
  · by_cases hkn : k < n
    · exact hlo k hkn
    · exact hend k hk (by omega)

/-- Eight groups and no gap. -/
theorem inetPton6_hexColons : evutilInetPton6 (hexColons ((List.range' 0 8).map a.word)) = .ok a := by
  have hgs : ((List.range' 0 8).map a.word).length = 8 := by simp
  obtain ⟨src, hloop⟩ := pton6Loop_hexColons (s := hexColons ((List.range' 0 8).map a.word))
    ((List.range' 0 8).map a.word) ⟨0, 0, -1, 0, fun _ => none⟩ _ (fun _ => word_lt_of_mem) rfl
    (by rw [hgs]) (length_hexColons _)
  rw [hgs] at hloop
  rw [evutilInetPton6, strchr_eq_none (not_dot_hexColons _)]
  simp only [hloop, Except.bind]
  refine pton6Finish_full src fun k hk => ?_
  rw [writeWords_apply, if_pos (by omega), Nat.sub_zero, getD_map_range' _ hk, Nat.zero_add]

/-- The loop over groups `[0, n)`, the gap, and groups `[e, 8)`: `n` words, the gap at `n`,
    then `8 - e` words. -/
theorem pton6Loop_gap {n e : Nat} (hne : n < e) (he : e ≤ 8) {T : List UInt8}
    (hT : T = hexEach ((List.range' 0 n).map a.word) ++ ((if n = 0 then [ch ':'] else []) ++
      ch ':' :: hexColons ((List.range' e (8 - e)).map a.word))) :
    ∃ src, pton6Loop T T.length T.length ⟨0, 0, -1, 0, fun _ => none⟩ =
      .ok ⟨src, n + (8 - e), n, n + (8 - e), writeWords (writeWords (fun _ => none) 0
        ((List.range' 0 n).map a.word)) n ((List.range' e (8 - e)).map a.word)⟩ := by
  set pre := (List.range' 0 n).map a.word
  set post := (List.range' e (8 - e)).map a.word
  have hpre : pre.length = n := by simp [pre]
  have hpost : post.length = 8 - e := by simp [post]
  have hcol := length_hexColons post
  rcases Nat.eq_zero_or_pos n with rfl | hn
  · have hT' : T = ch ':' :: ch ':' :: hexColons post := by simpa [pre, hexEach] using hT
    have hstep : pton6Step T T.length ⟨0, 0, -1, 0, fun _ => none⟩ = .ok (some ⟨2, 0, 0, 0, _⟩) :=
      pton6Step_gap_start (by simpa using hT') (by simp [hT']) rfl rfl
    obtain ⟨src, h⟩ := pton6Loop_hexColons (s := T) post ⟨2, 0, 0, 0, fun _ => none⟩
      (T.length - 1) (fun _ => word_lt_of_mem) (by simp [hT']) (by simp [hpost])
      (by simp only [hT', List.length_cons]; omega)
    refine ⟨src, ?_⟩
    rw [pton6Loop_pos hstep (by simp [hT']), h]
    simp [hpost, pre, writeWords]
  · have hT' : T = hexEach pre ++ ch ':' :: hexColons post := by
      simpa [Nat.pos_iff_ne_zero.1 hn] using hT
    have hlen := length_hexEach pre
    have hTlen : T.length = (hexEach pre).length + 1 + (hexColons post).length := by
      simp [hT']; omega
    have h1 : pton6Loop T T.length T.length ⟨0, 0, -1, 0, fun _ => none⟩ =
        pton6Loop T T.length (T.length - n)
          ⟨(hexEach pre).length, n, -1, n, writeWords (fun _ => none) 0 pre⟩ := by
      rw [@pton6Loop_hexEach T T.length (ch ':' :: hexColons post) pre ⟨0, 0, -1, 0, fun _ => none⟩
        T.length (fun _ => word_lt_of_mem) (by simp [hT']) (by simp only [hTlen]; omega)
        (by simp [hpre]; omega) (by omega)]
      simp [hpre]
    have hstep : pton6Step T T.length ⟨(hexEach pre).length, n, -1, n,
        writeWords (fun _ => none) 0 pre⟩ =
        .ok (some ⟨(hexEach pre).length + 1, n, n, n, writeWords (fun _ => none) 0 pre⟩) :=
      pton6Step_gap_mid (by rw [hT']; exact List.drop_left _ _)
        (by show (hexEach pre).length < T.length; omega) hn
        (by show n ≤ 7; omega) rfl
    have hdrop : T.drop ((hexEach pre).length + 1) = hexColons post := by
      rw [hT', ← List.singleton_append, ← List.append_assoc]
      exact List.drop_left' (by simp)
    obtain ⟨src, h⟩ := pton6Loop_hexColons (s := T) post
      ⟨(hexEach pre).length + 1, n, n, n, writeWords (fun _ => none) 0 pre⟩
      (T.length - n - 1) (fun _ => word_lt_of_mem) hdrop (by simp only [hpost]; omega) (by omega)
    refine ⟨src, ?_⟩
    rw [h1, pton6Loop_pos hstep (by omega), h]
    simp [hpost]

/-- Groups `[0, n)`, the gap `::` over the zero words `[n, e)`, groups `[e, 8)`. -/
theorem inetPton6_gap {n e : Nat} (hne : n < e) (he : e ≤ 8)
    (hz : ∀ j, n ≤ j → j < e → a.word j = 0) :
    evutilInetPton6 (hexEach ((List.range' 0 n).map a.word) ++ ((if n = 0 then [ch ':'] else []) ++
      ch ':' :: hexColons ((List.range' e (8 - e)).map a.word))) = .ok a := by
  have hdot : ch '.' ∉ hexEach ((List.range' 0 n).map a.word) ++ ((if n = 0 then [ch ':'] else []) ++
      ch ':' :: hexColons ((List.range' e (8 - e)).map a.word)) := by
    simp only [List.mem_append, List.mem_cons, not_or]
    refine ⟨not_dot_hexEach _, ?_, by decide, not_dot_hexColons _⟩
    split_ifs <;> simp only [List.mem_singleton, List.not_mem_nil] <;> decide
  rw [evutilInetPton6, strchr_eq_none hdot]
  obtain ⟨src, hloop⟩ := pton6Loop_gap (a := a) hne he rfl
  simp only [hloop, Except.bind]
  refine pton6Finish_gap false src _ hne (by simpa using he) hz (fun k hk => ?_) (fun j hj => ?_)
    (fun k hk h8 => absurd hk (by simpa using h8))
  · rw [writeWords_apply, if_neg (by omega), writeWords_apply, if_pos (by simp; omega),
      Nat.sub_zero, getD_map_range' _ hk, Nat.zero_add]
  · simp only [Bool.false_eq_true, if_false, Nat.sub_zero] at hj
    rw [writeWords_apply, if_pos (by simp; omega), Nat.add_sub_cancel_left,
      getD_map_range' _ hj]

/-- Whatever the gap position, as long as it is `-1` or a zero word, the groups `ntop`
    prints are read back. -/
theorem inetPton6_ntop6Groups {gp : Int} (hgp : GapOk a.word gp) :
    evutilInetPton6 (ntop6Groups a.word gp 8 0) = .ok a := by
  rcases hgp with rfl | ⟨h0, h8, hz⟩
  · rw [ntop6Groups_nogap 8 0 le_rfl (fun j _ _ h => by omega)]
    exact inetPton6_hexColons
  · obtain ⟨n, rfl⟩ : ∃ n : Nat, gp = n := ⟨gp.toNat, by omega⟩
    rw [ntop6Groups_gap h0 h8 hz n 0 8 (by simp) (by omega)]
    simp only [Int.toNat_natCast, Nat.cast_eq_zero] at hz ⊢
    have hne : n < zeroRunEnd a.word 8 n := lt_zeroRunEnd (by omega) hz 7
    have he := zeroRunEnd_le (w := a.word) 8 n (by omega)
    rw [ntop6Groups_nogap _ _ (by omega) (fun j hj _ h => by omega)]
    exact inetPton6_gap hne he (fun j h1 h2 => zeroRunEnd_zero 8 n j h1 h2)

/-! ## The IPv4 forms -/

theorem digitRunStart_fmtNat (pre rest : List UInt8) (n : Nat) :
    digitRunStart (pre ++ ch ':' :: (fmtNat 10 n ++ rest)) (pre.length + (fmtNat 10 n).length + 1) =
      pre.length + 1 := by
  have hd : ∀ c ∈ (fmtNat 10 n).reverse, evutilIsdigit c = true := fun c hc => by
    rw [evutilIsdigit_eq]
    exact fmtNat_digits (by decide) (by decide) n c (List.mem_reverse.1 hc)
  have htake : (pre ++ ch ':' :: (fmtNat 10 n ++ rest)).take (pre.length + (fmtNat 10 n).length + 1) =
      (pre ++ [ch ':']) ++ fmtNat 10 n := by
    rw [show pre ++ ch ':' :: (fmtNat 10 n ++ rest) = ((pre ++ [ch ':']) ++ fmtNat 10 n) ++ rest by simp]
    exact List.take_left' (by simp; omega)
  unfold digitRunStart
  rw [htake, List.reverse_append, List.takeWhile_append_of_pos hd, List.reverse_append]
  simp only [List.reverse_singleton, List.singleton_append, List.takeWhile_cons,
    show evutilIsdigit (ch ':') = false by decide]
  simp; omega

/-- A text ending in `:` then a dotted quad: `dot` is the first `.`, `eow` backs up over the
    first number, `sscanf` reads the quad into `words[6]`, `words[7]`, and the loop reads the
    text before it. -/
theorem inetPton6_dotted {pre : List UInt8} {b12 b13 b14 b15 : Nat} (hdot : ch '.' ∉ pre)
    (h12 : b12 < 256) (h13 : b13 < 256) (h14 : b14 < 256) (h15 : b15 < 256) :
    evutilInetPton6 (pre ++ ch ':' :: fmtDottedQuad b12 b13 b14 b15) =
      (pton6Loop (pre ++ ch ':' :: fmtDottedQuad b12 b13 b14 b15) (pre.length + 1) (pre.length + 1)
        ⟨0, 0, -1, 2, setWord (setWord (fun _ => none) 6 (b12 * 256 + b13)) 7
          (b14 * 256 + b15)⟩).bind (pton6Finish true) := by
  have hchr : strchr (pre ++ ch ':' :: fmtDottedQuad b12 b13 b14 b15) (ch '.') =
      some (pre.length + (fmtNat 10 b12).length + 1) := by
    have : strchr ((pre ++ ch ':' :: fmtNat 10 b12) ++ ch '.' ::
        (fmtNat 10 b13 ++ ch '.' :: fmtNat 10 b14 ++ ch '.' :: fmtNat 10 b15)) (ch '.') =
        some (pre ++ ch ':' :: fmtNat 10 b12).length :=
      strchr_append_cons (by
        simp only [List.mem_append, List.mem_cons, not_or]
        exact ⟨hdot, by decide, fmtNat_not_dot (by decide) (by decide) b12⟩)
    simp only [List.length_append, List.length_cons] at this
    rw [show pre.length + (fmtNat 10 b12).length + 1 = pre.length + ((fmtNat 10 b12).length + 1)
      by omega, ← this]
    simp [fmtDottedQuad]
  have hdrop : (pre ++ ch ':' :: fmtDottedQuad b12 b13 b14 b15).drop (pre.length + 1) =
      fmtDottedQuad b12 b13 b14 b15 := by
    rw [show pre ++ ch ':' :: fmtDottedQuad b12 b13 b14 b15 =
      (pre ++ [ch ':']) ++ fmtDottedQuad b12 b13 b14 b15 by simp]
    exact List.drop_left' (by simp)
  have hrun : digitRunStart (pre ++ ch ':' :: fmtDottedQuad b12 b13 b14 b15)
      (pre.length + (fmtNat 10 b12).length + 1) = pre.length + 1 := by
    have := digitRunStart_fmtNat pre
      (ch '.' :: fmtNat 10 b13 ++ ch '.' :: fmtNat 10 b14 ++ ch '.' :: fmtNat 10 b15) b12
    rwa [show fmtNat 10 b12 ++ (ch '.' :: fmtNat 10 b13 ++ ch '.' :: fmtNat 10 b14 ++
      ch '.' :: fmtNat 10 b15) = fmtDottedQuad b12 b13 b14 b15 by simp [fmtDottedQuad]] at this
  rw [evutilInetPton6, hchr]
  simp only []
  rw [hrun, hdrop, sscanfDottedQuad_fmtDottedQuad (by omega) (by omega) (by omega) (by omega)]
  simp only []
  rw [if_neg (by omega), shiftLeft_or_eq (show b13 < 2 ^ 8 from h13),
    shiftLeft_or_eq (show b15 < 2 ^ 8 from h15)]
  rfl

/-- The quad's words `words[6]`, `words[7]`. -/
theorem quadWords_eq {k : Nat} (hk : k < 8) (h6 : 6 ≤ k) :
    setWord (setWord (fun _ => none) 6 (a.byte 12 * 256 + a.byte 13)) 7
      (a.byte 14 * 256 + a.byte 15) k = some (a.word k) := by
  obtain rfl | rfl : k = 6 ∨ k = 7 := by omega
  all_goals simp [setWord, a.word_eq]

/-- `::a.b.c.d`: the `::` opens the gap at word 0 and `memset` zeroes words 0 to 5. -/
theorem inetPton6_compat (hz : ∀ k < 6, a.word k = 0) :
    evutilInetPton6 (ch ':' :: ch ':' ::
      fmtDottedQuad (a.byte 12) (a.byte 13) (a.byte 14) (a.byte 15)) = .ok a := by
  have h : evutilInetPton6 ([ch ':'] ++ ch ':' ::
      fmtDottedQuad (a.byte 12) (a.byte 13) (a.byte 14) (a.byte 15)) = _ :=
    inetPton6_dotted (by decide) (a.byte_lt 12) (a.byte_lt 13) (a.byte_lt 14) (a.byte_lt 15)
  have hstep : pton6Step (ch ':' :: ch ':' ::
      fmtDottedQuad (a.byte 12) (a.byte 13) (a.byte 14) (a.byte 15)) 2
      ⟨0, 0, -1, 2, setWord (setWord (fun _ => none) 6 (a.byte 12 * 256 + a.byte 13)) 7
        (a.byte 14 * 256 + a.byte 15)⟩ = .ok (some ⟨2, 0, 0, 2, _⟩) :=
    pton6Step_gap_start rfl (by show 0 < 2; decide) rfl rfl
  rw [List.singleton_append] at h
  rw [h, List.length_singleton, pton6Loop_pos hstep (by decide), pton6Loop_of_le (by simp)]
  exact pton6Finish_gap true 2 0 (n := 0) (e := 6) (by decide) (by decide)
    (fun j _ hj => hz j hj) (fun k hk => absurd hk (by omega))
    (fun j hj => by simp at hj) (fun k hk h6 => quadWords_eq hk h6)

/-- `::ffff:a.b.c.d`: the group `ffff` is read after the gap opened at word 0, and `memmove`
    takes it to word 5. -/
theorem inetPton6_mapped (hz : ∀ k < 5, a.word k = 0) (h5 : a.word 5 = 0xffff) :
    evutilInetPton6 (ch ':' :: ch ':' :: fmtNat 16 (a.word 5) ++ ch ':' ::
      fmtDottedQuad (a.byte 12) (a.byte 13) (a.byte 14) (a.byte 15)) = .ok a := by
  have h : evutilInetPton6 (ch ':' :: ch ':' :: fmtNat 16 0xffff ++ ch ':' ::
      fmtDottedQuad (a.byte 12) (a.byte 13) (a.byte 14) (a.byte 15)) = _ :=
    inetPton6_dotted (by decide) (a.byte_lt 12) (a.byte_lt 13) (a.byte_lt 14) (a.byte_lt 15)
  have hstep1 : pton6Step (ch ':' :: ch ':' :: fmtNat 16 0xffff ++ ch ':' ::
      fmtDottedQuad (a.byte 12) (a.byte 13) (a.byte 14) (a.byte 15)) 7
      ⟨0, 0, -1, 2, setWord (setWord (fun _ => none) 6 (a.byte 12 * 256 + a.byte 13)) 7
        (a.byte 14 * 256 + a.byte 15)⟩ = .ok (some ⟨2, 0, 0, 2, _⟩) :=
    pton6Step_gap_start rfl (by show 0 < 7; decide) rfl rfl
  have hstep2 : pton6Step (ch ':' :: ch ':' :: fmtNat 16 0xffff ++ ch ':' ::
      fmtDottedQuad (a.byte 12) (a.byte 13) (a.byte 14) (a.byte 15)) 7
      ⟨2, 0, 0, 2, setWord (setWord (fun _ => none) 6 (a.byte 12 * 256 + a.byte 13)) 7
        (a.byte 14 * 256 + a.byte 15)⟩ = .ok (some ⟨7, 1, 0, 3, _⟩) :=
    pton6Step_group (g := 0xffff) rfl (by decide) (by show 0 ≤ 7; decide) (by show 2 < 7; decide)
      (stop_colon _) (Or.inl rfl)
  rw [h5, h, show (ch ':' :: ch ':' :: fmtNat 16 0xffff).length + 1 = 7 by decide,
    pton6Loop_pos hstep1 (by decide), pton6Loop_pos hstep2 (by decide), pton6Loop_of_le (by simp)]
  exact pton6Finish_gap true 7 1 (n := 0) (e := 5) (by decide) (by decide)
    (fun j _ hj => hz j hj) (fun k hk => absurd hk (by omega))
    (fun j hj => by
      obtain rfl : j = 0 := by simpa using hj
      simp [setWord, h5])
    (fun k hk (h6 : 6 ≤ k) => by
      simpa [setWord, show k ≠ 0 by omega] using quadWords_eq (a := a) hk h6)

theorem inetPton6_general (h : isIPv4Form a = false) : evutilInetPton6 (inetNtop6Text a) = .ok a := by
  rw [inetNtop6Text_general h]
  exact inetPton6_ntop6Groups (ntop6GapPos_ok a)

/-- Every IPv6 address is read back from the text `ntop` writes for it. -/
theorem inetPton6_ntop6Text (a : In6Addr) : evutilInetPton6 (inetNtop6Text a) = .ok a := by
  cases h : isIPv4Form a
  · exact inetPton6_general h
  · obtain ⟨h0, h1, h2, h3, h4, h5⟩ : a.word 0 = 0 ∧ a.word 1 = 0 ∧ a.word 2 = 0 ∧ a.word 3 = 0 ∧
        a.word 4 = 0 ∧ ((a.word 5 = 0 ∧ a.word 6 ≠ 0 ∧ a.word 7 ≠ 0) ∨ a.word 5 = 0xffff) := by
      simpa [isIPv4Form] using h
    have hz : ∀ k < 5, a.word k = 0 := fun k hk => by
      obtain rfl | rfl | rfl | rfl | rfl : k = 0 ∨ k = 1 ∨ k = 2 ∨ k = 3 ∨ k = 4 := by omega
      exacts [h0, h1, h2, h3, h4]
    rw [inetNtop6Text, if_pos h]
    split_ifs with h50
    · exact inetPton6_compat fun k hk =>
        if hk5 : k < 5 then hz k hk5 else by rw [show k = 5 by omega, h50]
    · exact inetPton6_mapped hz (h5.resolve_left fun h => h50 h.1)

end Words

/-! ## IPv4 -/

/-- Bits placed by `|` and `<<` at disjoint positions shift together. -/
theorem shiftLeft_or_shiftLeft (x y k m : Nat) :
    x <<< (k + m) ||| y <<< m = (x <<< k ||| y) <<< m := by
  apply Nat.eq_of_testBit_eq; intro j
  simp only [Nat.testBit_or, Nat.testBit_shiftLeft]
  by_cases hj : m ≤ j
  · by_cases hk : k + m ≤ j
    · simp [hj, hk, show k ≤ j - m by omega, Nat.sub_sub, Nat.add_comm m k]
    · simp [hj, hk, show ¬ k ≤ j - m by omega]
  · simp [hj, show ¬ k + m ≤ j by omega]

theorem ntohl_eq (a : InAddr) : ntohl a = (((a.sAddr 0).toNat * 256 + (a.sAddr 1).toNat) * 256 +
    (a.sAddr 2).toNat) * 256 + (a.sAddr 3).toNat := by
  have h := fun i => (a.sAddr i).toNat_lt_size
  unfold ntohl
  rw [show (24 : Nat) = 8 + 16 from rfl, shiftLeft_or_shiftLeft, shiftLeft_or_eq (h 1),
    show (16 : Nat) = 8 + 8 from rfl, shiftLeft_or_shiftLeft, shiftLeft_or_eq (h 2),
    shiftLeft_or_eq (h 3)]
  rfl

/-- The four bytes `inet_ntop` prints are the bytes of the address, in order. -/
theorem ntohl_bytes (a : InAddr) :
    ntohl a >>> 24 &&& 0xff = (a.sAddr 0).toNat ∧ ntohl a >>> 16 &&& 0xff = (a.sAddr 1).toNat ∧
      ntohl a >>> 8 &&& 0xff = (a.sAddr 2).toNat ∧ ntohl a &&& 0xff = (a.sAddr 3).toNat := by
  have h : ∀ i, (a.sAddr i).toNat < 256 := fun i => (a.sAddr i).toNat_lt_size
  have := h 0; have := h 1; have := h 2; have := h 3
  rw [ntohl_eq]
  simp only [Nat.shiftRight_eq_div_pow, show (0xff : Nat) = 2 ^ 8 - 1 from rfl,
    Nat.and_pow_two_sub_one_eq_mod]
  norm_num
  omega

theorem htonl_ntohl (a : InAddr) : htonl (ntohl a) = a := by
  obtain ⟨h0, h1, h2, h3⟩ := ntohl_bytes a
  ext i : 2
  rcases i with ⟨_ | _ | _ | _ | i, hi⟩
  · show (ntohl a >>> 24 &&& 0xff).toUInt8 = _
    rw [h0, toUInt8_toNat]; rfl
  · show (ntohl a >>> 16 &&& 0xff).toUInt8 = _
    rw [h1, toUInt8_toNat]; rfl
  · show (ntohl a >>> 8 &&& 0xff).toUInt8 = _
    rw [h2, toUInt8_toNat]; rfl
  · show (ntohl a &&& 0xff).toUInt8 = _
    rw [h3, toUInt8_toNat]; rfl
  · omega

theorem inetPton4_ntop4Text (a : InAddr) : evutilInetPton4 (inetNtop4Text a) = .ok a := by
  obtain ⟨h0, h1, h2, h3⟩ := ntohl_bytes a
  have h : ∀ i, (a.sAddr i).toNat < 256 := fun i => (a.sAddr i).toNat_lt_size
  have := h 0; have := h 1; have := h 2; have := h 3
  rw [inetNtop4Text]
  simp only [h0, h1, h2, h3]
  rw [evutilInetPton4, sscanfDottedQuad_fmtDottedQuad (by omega) (by omega) (by omega) (by omega)]
  simp only []
  rw [if_neg (by omega)]
  exact congrArg _ (htonl_ntohl a)

/-! ## Lengths -/

theorem length_fmtNat_byte {n : Nat} (h : n < 256) : (fmtNat 10 n).length ≤ 3 :=
  fmtNat_length_le (by decide) (by decide) (lt_of_lt_of_le h (by decide))

theorem length_fmtNat_word {n : Nat} (h : n < 65536) : (fmtNat 16 n).length ≤ 4 :=
  fmtNat_length_le (by decide) (by decide) (lt_of_lt_of_le h (by decide))

theorem length_fmtDottedQuad {b0 b1 b2 b3 : Nat} (h0 : b0 < 256) (h1 : b1 < 256) (h2 : b2 < 256)
    (h3 : b3 < 256) : (fmtDottedQuad b0 b1 b2 b3).length ≤ 15 := by
  have := length_fmtNat_byte h0; have := length_fmtNat_byte h1
  have := length_fmtNat_byte h2; have := length_fmtNat_byte h3
  simp only [fmtDottedQuad, List.length_append, List.length_cons]; omega

theorem length_inetNtop4Text (a : InAddr) : (inetNtop4Text a).length ≤ 15 := by
  obtain ⟨h0, h1, h2, h3⟩ := ntohl_bytes a
  rw [inetNtop4Text]
  simp only [h0, h1, h2, h3]
  exact length_fmtDottedQuad (UInt8.toNat_lt_size _) (UInt8.toNat_lt_size _)
    (UInt8.toNat_lt_size _) (UInt8.toNat_lt_size _)

/-- Each group takes at most five bytes (four digits and a `:`), and the `::` of the gap at
    most two for at least one word. -/
theorem length_ntop6Groups {w : Nat → Nat} {gp : Int} (hw : ∀ j, w j < 65536) :
    ∀ k i, (ntop6Groups w gp k i).length ≤ 5 * (8 - i)
  | 0, _ => by simp [ntop6Groups]
  | k + 1, i => by
    by_cases hi : i < 8
    · by_cases hgap : w i = 0 ∧ gp = i
      · have h1 : i < zeroRunEnd w 8 i := lt_zeroRunEnd hi hgap.1 7
        have h2 := @length_ntop6Groups w gp hw k (zeroRunEnd w 8 i)
        have h3 : (if i = 0 then [ch ':'] else []).length ≤ 1 := by split <;> simp
        simp only [ntop6Groups, if_pos hi, if_pos hgap, List.length_append, List.length_cons]
        omega
      · have h1 := length_fmtNat_word (hw i)
        have h2 := @length_ntop6Groups w gp hw k (i + 1)
        have h3 : (if i ≠ 7 then [ch ':'] else []).length ≤ 1 := by split <;> simp
        simp only [ntop6Groups, if_pos hi, if_neg hgap, List.length_append]
        omega
    · simp [ntop6Groups, hi]

theorem length_inetNtop6Text (a : In6Addr) : (inetNtop6Text a).length ≤ 40 := by
  have hq := length_fmtDottedQuad (a.byte_lt 12) (a.byte_lt 13) (a.byte_lt 14) (a.byte_lt 15)
  have h5 := length_fmtNat_word (a.word_lt 5)
  unfold inetNtop6Text
  split_ifs
  · simp only [List.length_cons]; omega
  · simp only [List.length_append, List.length_cons]; omega
  · exact length_ntop6Groups a.word_lt 8 0

/-- With room for the text and its NUL, `evutil_inet_ntop` returns the whole text. -/
theorem evutilInetNtop_inet {a : InAddr} {len : Nat} (h : 16 ≤ len) :
    evutilInetNtop (.inet a) len = some (inetNtop4Text a) := by
  have := length_inetNtop4Text a
  rw [evutilInetNtop, inetNtop4_eq, if_neg (by omega)]

theorem evutilInetNtop_inet6 {a : In6Addr} {len : Nat} (h : 41 ≤ len) :
    evutilInetNtop (.inet6 a) len = some (inetNtop6Text a) := by
  have := length_inetNtop6Text a
  rw [evutilInetNtop, inetNtop6_eq, if_neg (by omega), List.take_of_length_le (by omega)]

/-! ## The round trip -/

/-- **Formatting then parsing an address gives it back**, for IPv4 with `len ≥ 16` and for
    IPv6 with `len ≥ 46` (`INET6_ADDRSTRLEN`). -/
theorem inet_ntop_pton_round_trip :
    (∀ (a : InAddr) (len : Nat), 16 ≤ len → ∃ dst, evutilInetNtop (.inet a) len = some dst ∧
      evutilInetPton AF_INET dst = .ok (.inet a)) ∧
    (∀ (a : In6Addr) (len : Nat), 46 ≤ len → ∃ dst, evutilInetNtop (.inet6 a) len = some dst ∧
      evutilInetPton AF_INET6 dst = .ok (.inet6 a)) := by
  refine ⟨fun a len hlen => ⟨inetNtop4Text a, evutilInetNtop_inet hlen, ?_⟩,
    fun a len hlen => ⟨inetNtop6Text a, evutilInetNtop_inet6 (by omega), ?_⟩⟩
  · simp [evutilInetPton, inetPton4_ntop4Text, Except.map]
  · simp [evutilInetPton, AF_INET, AF_INET6, inetPton6_ntop6Text, Except.map]

theorem inet_ntop_pton_loopback :
    (16 ≤ 16 ∧ ∃ dst, evutilInetNtop (.inet (htonl 0x7f000001)) 16 = some dst ∧
      evutilInetPton AF_INET dst = .ok (.inet (htonl 0x7f000001))) ∧
    (46 ≤ 46 ∧ ∃ dst, evutilInetNtop (.inet6 in6addrLoopback) 46 = some dst ∧
      evutilInetPton AF_INET6 dst = .ok (.inet6 in6addrLoopback)) :=
  ⟨⟨le_rfl, inet_ntop_pton_round_trip.1 _ _ le_rfl⟩, ⟨le_rfl, inet_ntop_pton_round_trip.2 _ _ le_rfl⟩⟩

end Evutil
