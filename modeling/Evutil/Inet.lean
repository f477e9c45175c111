/-
  Evutil formalization — `evutil_inet_ntop`, `evutil_inet_pton` and
  `evutil_inet_pton_scope` (`evutil.c`).

  * `InAddr`, `In6Addr`: `struct in_addr` and `struct in6_addr` as their bytes in network
    order; `Addr` is the `src` of `evutil_inet_ntop` and the `dst` of `evutil_inet_pton`
    for the family `af` names.
  * `evutilInetNtop`: `"%d.%d.%d.%d"` for IPv4; for IPv6 the IPv4-compatible and
    IPv4-mapped forms, and otherwise eight `%x` groups with the first longest run (of at least
    two) of zero words written `::`.
  * `evutilInetPton`: `sscanf` for IPv4; for IPv6 the dotted quad found from the first `.`,
    the loop reading groups with `strtol` up to `eow`, and the `memmove`/`memset` that opens
    the gap. `words[]` starts uninitialised: an entry is `none` until written.
  * `evutilInetPtonScope`: the zone after `%`, by `if_nametoindex` (a parameter) or as a
    number.
-/
import Evutil.CLib
import Mathlib.Data.Fintype.Basic
import Mathlib.Data.Fin.VecNotation

namespace Evutil

/-- `AF_INET` on Linux. -/
def AF_INET : Int := 2

/-- `AF_INET6` on Linux. -/
def AF_INET6 : Int := 10

/-- `struct in_addr`: the four bytes of `s_addr`, in network order. -/
@[ext] structure InAddr where
  sAddr : Fin 4 → UInt8

/-- `struct in6_addr`: the sixteen bytes of `s6_addr`. -/
@[ext] structure In6Addr where
  s6Addr : Fin 16 → UInt8

instance : DecidableEq InAddr := fun a b =>
  decidable_of_iff (∀ k (h : k < 4), a.sAddr ⟨k, h⟩ = b.sAddr ⟨k, h⟩)
    ⟨fun h => InAddr.ext (funext fun k => h k.1 k.2), fun h _ _ => h ▸ rfl⟩

instance : DecidableEq In6Addr := fun a b =>
  decidable_of_iff (∀ k (h : k < 16), a.s6Addr ⟨k, h⟩ = b.s6Addr ⟨k, h⟩)
    ⟨fun h => In6Addr.ext (funext fun k => h k.1 k.2), fun h _ _ => h ▸ rfl⟩

/-- An address of either family. -/
inductive Addr where
  | inet (a : InAddr)
  | inet6 (a : In6Addr)

instance : DecidableEq Addr
  | .inet a, .inet b => decidable_of_iff (a = b) (by simp)
  | .inet6 a, .inet6 b => decidable_of_iff (a = b) (by simp)
  | .inet _, .inet6 _ => isFalse (by simp)
  | .inet6 _, .inet _ => isFalse (by simp)

/-- `ntohl(in->s_addr)`. -/
def ntohl (a : InAddr) : Nat :=
  (a.sAddr 0).toNat <<< 24 ||| (a.sAddr 1).toNat <<< 16 ||| (a.sAddr 2).toNat <<< 8 |||
    (a.sAddr 3).toNat

/-- `htonl(v)` stored in `s_addr`. -/
def htonl (v : Nat) : InAddr :=
  ⟨![(v >>> 24 &&& 0xff).toUInt8, (v >>> 16 &&& 0xff).toUInt8, (v >>> 8 &&& 0xff).toUInt8,
    (v &&& 0xff).toUInt8]⟩

/-- `addr->s6_addr[k]`, for `k < 16`. -/
def In6Addr.byte (a : In6Addr) (k : Nat) : Nat :=
  if h : k < 16 then (a.s6Addr ⟨k, h⟩).toNat else 0

/-- `words[i] = (((uint16_t)addr->s6_addr[2*i])<<8) + addr->s6_addr[2*i+1]`. -/
def In6Addr.word (a : In6Addr) (i : Nat) : Nat := a.byte (2 * i) <<< 8 + a.byte (2 * i + 1)

/-! ## `evutil_inet_ntop` -/

/-- The text `"%d.%d.%d.%d"` of the bytes of `ntohl(in->s_addr)`. -/
def inetNtop4Text (a : InAddr) : List UInt8 :=
  let x := ntohl a
  fmtDottedQuad (x >>> 24 &&& 0xff) (x >>> 16 &&& 0xff) (x >>> 8 &&& 0xff) (x &&& 0xff)

/-- `evutil_inet_ntop(AF_INET, src, dst, len)`: the string in `dst`, or `none` for `NULL`. -/
def evutilInetNtop4 (a : InAddr) (len : Nat) : Option (List UInt8) :=
  let r := evutilSnprintf len (inetNtop4Text a)
  if (r.1 : Int) < 0 ∨ len ≤ r.1 then none else r.2

/-- The inner `while (i<8 && words[i] == 0)`: where the run of zero words from `i` ends. -/
def zeroRunEnd (w : Nat → Nat) : Nat → Nat → Nat
  | 0, i => i
  | k + 1, i => if i < 8 ∧ w i = 0 then zeroRunEnd w k (i + 1) else i

/-- The first loop over `words`: `(longestGapPos, longestGapLen)`, the first longest run of
    zero words. -/
def longestGap (w : Nat → Nat) : Nat → Nat → Int × Nat → Int × Nat
  | 0, _, g => g
  | k + 1, i, g =>
    if i < 8 then
      if w i = 0 then
        let e := zeroRunEnd w 8 (i + 1)
        longestGap w k e (if g.2 < e - i then ((i : Int), e - i) else g)
      else longestGap w k (i + 1) g
    else g

/-- The second loop: the groups from word `i` on, the run at `gapPos` written `::`. The
    `snprintf` of each group into the 64-byte `buf` never truncates. -/
def ntop6Groups (w : Nat → Nat) (gapPos : Int) : Nat → Nat → List UInt8
  | 0, _ => []
  | k + 1, i =>
    if i < 8 then
      if w i = 0 ∧ gapPos = i then
        (if i = 0 then [ch ':'] else []) ++ ch ':' :: ntop6Groups w gapPos k (zeroRunEnd w 8 i)
      else fmtNat 16 (w i) ++ (if i ≠ 7 then [ch ':'] else []) ++ ntop6Groups w gapPos k (i + 1)
    else []

/-- Whether `evutil_inet_ntop` prints an IPv6 address as IPv4-compatible or IPv4-mapped. -/
def isIPv4Form (a : In6Addr) : Bool :=
  a.word 0 = 0 ∧ a.word 1 = 0 ∧ a.word 2 = 0 ∧ a.word 3 = 0 ∧ a.word 4 = 0 ∧
    ((a.word 5 = 0 ∧ a.word 6 ≠ 0 ∧ a.word 7 ≠ 0) ∨ a.word 5 = 0xffff)

/-- The text `evutil_inet_ntop` writes to `buf` for an IPv6 address. -/
def inetNtop6Text (a : In6Addr) : List UInt8 :=
  if isIPv4Form a then
    let quad := fmtDottedQuad (a.byte 12) (a.byte 13) (a.byte 14) (a.byte 15)
    if a.word 5 = 0 then ch ':' :: ch ':' :: quad
    else ch ':' :: ch ':' :: fmtNat 16 (a.word 5) ++ ch ':' :: quad
  else
    let g := longestGap a.word 8 0 (-1, 0)
    ntop6Groups a.word (if g.2 ≤ 1 then -1 else g.1) 8 0

/-- `evutil_inet_ntop(AF_INET6, src, dst, len)`: `if (strlen(buf) > len) return NULL;
    strlcpy(dst, buf, len); return dst;`. -/
def evutilInetNtop6 (a : In6Addr) (len : Nat) : Option (List UInt8) :=
  let buf := inetNtop6Text a
  if len < buf.length then none else some (strlcpy buf len)

/-- `evutil_inet_ntop(af, src, dst, len)`, the family given by the address. -/
def evutilInetNtop : Addr → Nat → Option (List UInt8)
  | .inet a, len => evutilInetNtop4 a len
  | .inet6 a, len => evutilInetNtop6 a len

/-! ## `evutil_inet_pton` -/

instance exceptDecidableEq {ε α : Type} [DecidableEq ε] [DecidableEq α] : DecidableEq (Except ε α)
  | .ok a, .ok b => decidable_of_iff (a = b) (by simp)
  | .error a, .error b => decidable_of_iff (a = b) (by simp)
  | .ok _, .error _ => isFalse (by simp)
  | .error _, .ok _ => isFalse (by simp)

/-- `evutil_inet_pton(AF_INET, src, dst)`: `.ok` the address written to `dst` when it
    returns 1, `.error r` when it returns `r`. -/
def evutilInetPton4 (src : List UInt8) : Except Int InAddr :=
  match sscanfDottedQuad src with
  | none => .error 0
  | some (a, b, c, d) =>
    if 255 < a ∨ 255 < b ∨ 255 < c ∨ 255 < d then .error 0
    else .ok (htonl (a <<< 24 ||| b <<< 16 ||| c <<< 8 ||| d))

/-- `for (eow = dot-1; eow >= src && EVUTIL_ISDIGIT_(*eow); --eow); ++eow;`: the start of the
    run of digits that ends just before `dot`. -/
def digitRunStart (src : List UInt8) (dot : Nat) : Nat :=
  dot - ((src.take dot).reverse.takeWhile evutilIsdigit).length

/-- The variables of the IPv6 parsing loop: `src` (an index), `i`, `gapPos`, `setWords` and
    `words[]`, whose entries are `none` until written. -/
structure Pton6State where
  src : Nat
  i : Nat
  gapPos : Int
  setWords : Nat
  words : Nat → Option Nat

/-- `words[i] = v`. -/
def setWord (w : Nat → Option Nat) (i v : Nat) : Nat → Option Nat :=
  fun k => if k = i then some v else w k

/-- One round of `while (src < eow) { ... }` over the string `s`: `.ok none` when `src < eow`
    fails, `.ok (some st')` for the next round, `.error 0` for `return 0`. -/
def pton6Step (s : List UInt8) (eow : Nat) (st : Pton6State) : Except Int (Option Pton6State) :=
  if st.src < eow then
    if 7 < st.i then .error 0
    else if evutilIsxdigit (deref s st.src) then
      let r := strtol (s.drop st.src) 16
      let next := st.src + r.2
      if 4 + st.src < next then .error 0
      else if next = st.src then .error 0
      else if r.1 < 0 ∨ 65536 < r.1 then .error 0
      else if deref s next ≠ ch ':' ∧ next ≠ eow then .error 0
      else .ok (some ⟨next + 1, st.i + 1, st.gapPos, st.setWords + 1,
        setWord st.words st.i (r.1.toNat % 65536)⟩)
    else if deref s st.src = ch ':' ∧ 0 < st.i ∧ st.gapPos = -1 then
      .ok (some { st with src := st.src + 1, gapPos := st.i })
    else if deref s st.src = ch ':' ∧ st.i = 0 ∧ deref s (st.src + 1) = ch ':' ∧
        st.gapPos = -1 then
      .ok (some { st with src := st.src + 2, gapPos := st.i })
    else .error 0
  else .ok none

/-- The loop. Each round moves `src` forward, so `eow - src` rounds are enough. -/
def pton6Loop (s : List UInt8) (eow : Nat) : Nat → Pton6State → Except Int Pton6State
  | 0, st => .ok st
  | k + 1, st =>
    match pton6Step s eow st with
    | .error r => .error r
    | .ok none => .ok st
    | .ok (some st') => pton6Loop s eow k st'

/-- `memmove(&words[dst], &words[src], sizeof(uint16_t)*n)`. -/
def memmoveWords (w : Nat → Option Nat) (dst src n : Nat) : Nat → Option Nat :=
  fun k => if dst ≤ k ∧ k < dst + n then w (k - dst + src) else w k

/-- `memset(&words[dst], 0, sizeof(uint16_t)*n)`. -/
def memsetWords (w : Nat → Option Nat) (dst n : Nat) : Nat → Option Nat :=
  fun k => if dst ≤ k ∧ k < dst + n then some 0 else w k

/-- `out->s6_addr[2*i] = words[i] >> 8; out->s6_addr[2*i+1] = words[i] & 0xff;`. -/
def wordsToIn6Addr (w : Nat → Option Nat) : In6Addr :=
  ⟨fun k => if k.val % 2 = 0 then ((w (k.val / 2)).getD 0 >>> 8).toUInt8
    else ((w (k.val / 2)).getD 0 &&& 0xff).toUInt8⟩

/-- After the loop: the checks on `setWords` and `gapPos`, then the gap opened by
    `memmove`/`memset` and the words copied out. `dotted` is whether `dot` was found. -/
def pton6Finish (dotted : Bool) (st : Pton6State) : Except Int In6Addr :=
  if 8 < st.setWords ∨ (st.setWords = 8 ∧ st.gapPos ≠ -1) ∨ (st.setWords < 8 ∧ st.gapPos = -1)
  then .error 0
  else if 0 ≤ st.gapPos then
    let nToMove : Int := st.setWords - (if dotted then 2 else 0) - st.gapPos
    let gapLen := 8 - st.setWords
    if nToMove < 0 then .error (-1)
    else
      let w := memmoveWords st.words (st.gapPos.toNat + gapLen) st.gapPos.toNat nToMove.toNat
      .ok (wordsToIn6Addr (memsetWords w st.gapPos.toNat gapLen))
  else .ok (wordsToIn6Addr st.words)

/-- `evutil_inet_pton(AF_INET6, src, dst)`. -/
def evutilInetPton6 (src : List UInt8) : Except Int In6Addr :=
  match strchr src (ch '.') with
  | some 0 => .error 0
  | none =>
    let eow := src.length
    (pton6Loop src eow eow ⟨0, 0, -1, 0, fun _ => none⟩).bind (pton6Finish false)
  | some (dot + 1) =>
    let eow := digitRunStart src (dot + 1)
    match sscanfDottedQuad (src.drop eow) with
    | none => .error 0
    | some (b1, b2, b3, b4) =>
      if 255 < b1 ∨ 255 < b2 ∨ 255 < b3 ∨ 255 < b4 then .error 0
      else
        let w := setWord (setWord (fun _ => none) 6 (b1 <<< 8 ||| b2)) 7 (b3 <<< 8 ||| b4)
        (pton6Loop src eow eow ⟨0, 0, -1, 2, w⟩).bind (pton6Finish true)

/-- `evutil_inet_pton(af, src, dst)`. -/
def evutilInetPton (af : Int) (src : List UInt8) : Except Int Addr :=
  if af = AF_INET then (evutilInetPton4 src).map .inet
  else if af = AF_INET6 then (evutilInetPton6 src).map .inet6
  else .error (-1)

/-- `evutil_inet_pton_scope(af, src, dst, &index)`, with `if_nametoindex` a parameter: the
    value left in `*indexp`, and the result. -/
def evutilInetPtonScope (ifNametoindex : List UInt8 → Nat) (af : Int) (src : List UInt8) :
    Nat × Except Int Addr :=
  if af ≠ AF_INET6 then (0, evutilInetPton af src)
  else match strchr src (ch '%') with
  | none => (0, evutilInetPton af src)
  | some p =>
    let zone := src.drop (p + 1)
    let named := ifNametoindex zone
    let r := strtoul zone 10
    if named = 0 ∧ deref zone r.2 ≠ 0 then (0, .error 0)
    else ((if named = 0 then r.1 % 2 ^ 32 else named), evutilInetPton af (src.take p))

end Evutil
