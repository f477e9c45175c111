/-
  `evutil_sockaddr_cmp` (`evutil.c`) as an order on IPv4 and IPv6 socket addresses.

  * `evutilSockaddrCmp`: the difference of the families; then `s_addr` as the `uint32_t`
    x86-64 reads from its bytes (`InAddr.sAddrValue`), or `memcmp` of the sixteen bytes of
    `sin6_addr`; then, with `include_port`, the difference of the ports as stored
    (`portRaw`, the bytes swapped).
  * `cmpKey`: those values in that order. `sign_sockaddrCmp`: the comparison has the sign of
    `lexSign` on the keys, and the keys of two addresses agree exactly when their families,
    address bytes and (with `include_port`) ports do (`cmpKey_eq_iff`).
  * `sockaddr_cmp_order`: so the order laws of `lexSign` hold for `evutil_sockaddr_cmp`.
-/
import Mathlib.Tactic.FinCases
import Evutil.Compare
import Evutil.Sockaddr

namespace Evutil

/-- `sa_family`. -/
def Sockaddr.family : Sockaddr → Int
  | .in4 _ => AF_INET
  | .in6 _ => AF_INET6
  | .other f _ => f.toNat

/-- The bytes of `sin_addr` or `sin6_addr`; none for another family. -/
def Sockaddr.addrBytes : Sockaddr → List UInt8
  | .in4 sin => List.ofFn sin.sinAddr.sAddr
  | .in6 sin6 => List.ofFn sin6.sin6Addr.s6Addr
  | .other _ _ => []

/-- `ntohs` of `sin_port` or `sin6_port`; `0` for another family. -/
def Sockaddr.port : Sockaddr → UInt16
  | .in4 sin => sin.sinPort
  | .in6 sin6 => sin6.sin6Port
  | .other _ _ => 0

/-- `s_addr` as the `uint32_t` x86-64 reads from its four bytes, the first least significant. -/
def InAddr.sAddrValue (a : InAddr) : Nat :=
  (a.sAddr 0).toNat + 256 * ((a.sAddr 1).toNat + 256 * ((a.sAddr 2).toNat +
    256 * (a.sAddr 3).toNat))

/-- `sin_port` or `sin6_port` as the `uint16_t` x86-64 reads from its two bytes: the port is
    stored high byte first, so this is the port with its bytes swapped. -/
def portRaw (p : UInt16) : Nat := p.toNat % 256 * 256 + p.toNat / 256

/-- `include_port && (r = ((int)p1 - (int)p2))`, then `return r`, else `return 0`. -/
def portCmp (includePort : Bool) (p1 p2 : UInt16) : Int :=
  if includePort then (portRaw p1 : Int) - portRaw p2 else 0

/-- `evutil_sockaddr_cmp(sa1, sa2, include_port)`. -/
def evutilSockaddrCmp (sa1 sa2 : Sockaddr) (includePort : Bool) : Int :=
  let r := sa1.family - sa2.family
  if r ≠ 0 then r
  else match sa1, sa2 with
    | .in4 sin1, .in4 sin2 =>
      if sin1.sinAddr.sAddrValue < sin2.sinAddr.sAddrValue then -1
      else if sin1.sinAddr.sAddrValue > sin2.sinAddr.sAddrValue then 1
      else portCmp includePort sin1.sinPort sin2.sinPort
    | .in6 sin1, .in6 sin2 =>
      let r := memcmp (List.ofFn sin1.sin6Addr.s6Addr) (List.ofFn sin2.sin6Addr.s6Addr) 16
      if r ≠ 0 then r else portCmp includePort sin1.sin6Port sin2.sin6Port
    | _, _ => 1

theorem evutilSockaddrCmp_in4 (sin1 sin2 : SockaddrIn) (includePort : Bool) :
    evutilSockaddrCmp (.in4 sin1) (.in4 sin2) includePort =
      if sin1.sinAddr.sAddrValue < sin2.sinAddr.sAddrValue then -1
      else if sin1.sinAddr.sAddrValue > sin2.sinAddr.sAddrValue then 1
      else portCmp includePort sin1.sinPort sin2.sinPort := rfl

theorem evutilSockaddrCmp_in6 (sin1 sin2 : SockaddrIn6) (includePort : Bool) :
    evutilSockaddrCmp (.in6 sin1) (.in6 sin2) includePort =
      let r := memcmp (List.ofFn sin1.sin6Addr.s6Addr) (List.ofFn sin2.sin6Addr.s6Addr) 16
      if r ≠ 0 then r else portCmp includePort sin1.sin6Port sin2.sin6Port := rfl

/-! ## The key -/

/-- The port's part of the key: the stored port with `include_port`, nothing without. -/
def portKey (includePort : Bool) (p : UInt16) : List Int :=
  if includePort then [(portRaw p : Int)] else []

/-- What `evutil_sockaddr_cmp` compares, in order. -/
def cmpKey (includePort : Bool) : Sockaddr → List Int
  | .in4 sin => AF_INET :: (sin.sinAddr.sAddrValue : Int) :: portKey includePort sin.sinPort
  | .in6 sin6 =>
    AF_INET6 :: ((List.ofFn sin6.sin6Addr.s6Addr).map ucharInt ++ portKey includePort sin6.sin6Port)
  | .other f _ => [(f.toNat : Int)]

/-- An `AF_INET` or `AF_INET6` address, the ones `evutil_sockaddr_cmp` orders. -/
def Sockaddr.IsInet (sa : Sockaddr) : Prop := sa.family = AF_INET ∨ sa.family = AF_INET6

theorem portCmp_sign (includePort : Bool) (p1 p2 : UInt16) :
    (portCmp includePort p1 p2).sign = lexSign (portKey includePort p1) (portKey includePort p2) := by
  cases includePort
  · rfl
  · simp only [portCmp, portKey, if_true, lexSign]
    rcases lt_trichotomy (portRaw p1 : Int) (portRaw p2) with h | h | h
    · rw [if_pos h, Int.sign_eq_neg_one_of_neg (by omega)]
    · rw [if_neg (by omega), if_neg (by omega), h, sub_self]; rfl
    · rw [if_neg (by omega), if_pos h, Int.sign_eq_one_of_pos (by omega)]

theorem portRaw_inj {p q : UInt16} (h : portRaw p = portRaw q) : p = q := by
  have hp : p.toNat < 65536 := p.toNat_lt_size
  have hq : q.toNat < 65536 := q.toNat_lt_size
  unfold portRaw at h
  exact UInt16.toNat.inj (by omega)

theorem portKey_eq_iff {includePort : Bool} {p q : UInt16} :
    portKey includePort p = portKey includePort q ↔ (includePort = true → p = q) := by
  cases includePort
  · simp [portKey]
  · simp only [portKey, if_true, List.cons.injEq, and_true, forall_const]
    exact ⟨fun h => portRaw_inj (by exact_mod_cast h), fun h => h ▸ rfl⟩

theorem sAddrValue_inj {a b : InAddr} (h : a.sAddrValue = b.sAddrValue) : a = b := by
  have ha : ∀ i, (a.sAddr i).toNat < 256 := fun i => (a.sAddr i).toNat_lt_size
  have hb : ∀ i, (b.sAddr i).toNat < 256 := fun i => (b.sAddr i).toNat_lt_size
  have := ha 0; have := ha 1; have := ha 2; have := ha 3
  have := hb 0; have := hb 1; have := hb 2; have := hb 3
  unfold InAddr.sAddrValue at h
  have e : (a.sAddr 0).toNat = (b.sAddr 0).toNat ∧ (a.sAddr 1).toNat = (b.sAddr 1).toNat ∧
      (a.sAddr 2).toNat = (b.sAddr 2).toNat ∧ (a.sAddr 3).toNat = (b.sAddr 3).toNat := by
    omega
  ext i : 2
  fin_cases i
  exacts [UInt8.toNat.inj e.1, UInt8.toNat.inj e.2.1, UInt8.toNat.inj e.2.2.1,
    UInt8.toNat.inj e.2.2.2]

/-- **`evutil_sockaddr_cmp` has the sign of `lexSign` on the keys.** -/
theorem sign_sockaddrCmp (includePort : Bool) {x y : Sockaddr} (hx : x.IsInet) (hy : y.IsInet) :
    (evutilSockaddrCmp x y includePort).sign = lexSign (cmpKey includePort x) (cmpKey includePort y) := by
  cases x with
  | other f hf => exact absurd hx (by simp [Sockaddr.IsInet, Sockaddr.family, hf.1, hf.2])
  | in4 sin1 =>
    cases y with
    | other f hf => exact absurd hy (by simp [Sockaddr.IsInet, Sockaddr.family, hf.1, hf.2])
    | in6 sin2 => rfl
    | in4 sin2 =>
      rw [evutilSockaddrCmp_in4]
      simp only [cmpKey, lexSign, lt_self_iff_false, if_false, gt_iff_lt]
      split_ifs <;> first | rfl | omega | exact portCmp_sign includePort _ _
  | in6 sin1 =>
    cases y with
    | other f hf => exact absurd hy (by simp [Sockaddr.IsInet, Sockaddr.family, hf.1, hf.2])
    | in4 sin2 => rfl
    | in6 sin2 =>
      have hm := memcmp_sign (List.ofFn sin1.sin6Addr.s6Addr) (List.ofFn sin2.sin6Addr.s6Addr)
        (by simp)
      rw [List.length_ofFn] at hm
      rw [evutilSockaddrCmp_in6, cmpKey, cmpKey, lexSign_cons_self]
      dsimp only
      split_ifs with hr
      · have hne : (List.ofFn sin1.sin6Addr.s6Addr).map ucharInt ≠
            (List.ofFn sin2.sin6Addr.s6Addr).map ucharInt := fun h => by
          rw [h, lexSign_eq_zero.2 rfl, Int.sign_eq_zero_iff_zero] at hm
          exact hr hm
        rw [lexSign_append_of_ne (by simp) hne, hm]
      · rw [not_not] at hr
        rw [hr, Int.sign_zero, eq_comm, lexSign_eq_zero] at hm
        rw [hm, lexSign_append_left, portCmp_sign]

/-- The keys of two addresses agree exactly when their families, address bytes and, with
    `include_port`, their ports do. -/
theorem cmpKey_eq_iff (includePort : Bool) {x y : Sockaddr} (hx : x.IsInet) (hy : y.IsInet) :
    cmpKey includePort x = cmpKey includePort y ↔
      x.family = y.family ∧ x.addrBytes = y.addrBytes ∧ (includePort = true → x.port = y.port) := by
  cases x with
  | other f hf => exact absurd hx (by simp [Sockaddr.IsInet, Sockaddr.family, hf.1, hf.2])
  | in4 sin1 =>
    cases y with
    | other f hf => exact absurd hy (by simp [Sockaddr.IsInet, Sockaddr.family, hf.1, hf.2])
    | in6 sin2 => simp [cmpKey, Sockaddr.family, AF_INET, AF_INET6]
    | in4 sin2 =>
      simp only [cmpKey, List.cons.injEq, true_and, Sockaddr.family, Sockaddr.addrBytes,
        Sockaddr.port, Nat.cast_inj, portKey_eq_iff, List.ofFn_inj]
      constructor
      · exact fun ⟨h, hp⟩ => ⟨sAddrValue_inj h ▸ rfl, hp⟩
      · exact fun ⟨h, hp⟩ => ⟨by rw [show sin1.sinAddr = sin2.sinAddr from InAddr.ext h], hp⟩
  | in6 sin1 =>
    cases y with
    | other f hf => exact absurd hy (by simp [Sockaddr.IsInet, Sockaddr.family, hf.1, hf.2])
    | in4 sin2 => simp [cmpKey, Sockaddr.family, AF_INET, AF_INET6]
    | in6 sin2 =>
      simp only [cmpKey, List.cons.injEq, true_and, Sockaddr.family, Sockaddr.addrBytes,
        Sockaddr.port]
      rw [← portKey_eq_iff, ← (List.map_injective_iff.2 fun _ _ h => ucharInt_inj h).eq_iff]
      exact ⟨fun h => List.append_inj h (by simp), fun h => by rw [h.1, h.2]⟩

/-- **`evutil_sockaddr_cmp` is a consistent order** on `AF_INET` and `AF_INET6` addresses,
    for either value of `include_port`: swapping the arguments flips the sign, `≤ 0` and `< 0`
    are transitive, and `0` means the same family, address bytes and, with `include_port`,
    port. -/
theorem sockaddr_cmp_order (includePort : Bool) (x y z : Sockaddr) (hx : x.IsInet)
    (hy : y.IsInet) (hz : z.IsInet) :
    (evutilSockaddrCmp x y includePort).sign = -(evutilSockaddrCmp y x includePort).sign ∧
    (evutilSockaddrCmp x y includePort ≤ 0 → evutilSockaddrCmp y z includePort ≤ 0 →
      evutilSockaddrCmp x z includePort ≤ 0) ∧
    (evutilSockaddrCmp x y includePort < 0 → evutilSockaddrCmp y z includePort < 0 →
      evutilSockaddrCmp x z includePort < 0) ∧
    (evutilSockaddrCmp x y includePort = 0 ↔
      x.family = y.family ∧ x.addrBytes = y.addrBytes ∧ (includePort = true → x.port = y.port)) := by
  have sxy := sign_sockaddrCmp includePort hx hy
  have syx := sign_sockaddrCmp includePort hy hx
  have syz := sign_sockaddrCmp includePort hy hz
  have sxz := sign_sockaddrCmp includePort hx hz
  refine ⟨by rw [sxy, syx, lexSign_swap], fun h₁ h₂ => ?_, fun h₁ h₂ => ?_, ?_⟩
  · rw [← sign_nonpos_iff, sxz]
    rw [← sign_nonpos_iff, sxy] at h₁
    rw [← sign_nonpos_iff, syz] at h₂
    exact lexSign_le_trans h₁ h₂
  · rw [← sign_neg_iff, sxz]
    rw [← sign_neg_iff, sxy] at h₁
    rw [← sign_neg_iff, syz] at h₂
    exact lexSign_lt_trans h₁ h₂
  · rw [← Int.sign_eq_zero_iff_zero, sxy, lexSign_eq_zero, cmpKey_eq_iff includePort hx hy]

/-- The laws at `0.0.0.0:80`, `0.0.0.0:443` and `[::]:80`. -/
theorem sockaddr_cmp_order_any :
    (Sockaddr.in4 ⟨80, ⟨fun _ => 0⟩, fun _ => 0⟩).IsInet ∧
    (Sockaddr.in4 ⟨443, ⟨fun _ => 0⟩, fun _ => 0⟩).IsInet ∧
    (Sockaddr.in6 ⟨80, 0, ⟨fun _ => 0⟩, 0⟩).IsInet ∧
    ((evutilSockaddrCmp (.in4 ⟨80, ⟨fun _ => 0⟩, fun _ => 0⟩)
        (.in4 ⟨443, ⟨fun _ => 0⟩, fun _ => 0⟩) true).sign =
      -(evutilSockaddrCmp (.in4 ⟨443, ⟨fun _ => 0⟩, fun _ => 0⟩)
        (.in4 ⟨80, ⟨fun _ => 0⟩, fun _ => 0⟩) true).sign ∧
    (evutilSockaddrCmp (.in4 ⟨80, ⟨fun _ => 0⟩, fun _ => 0⟩)
        (.in4 ⟨443, ⟨fun _ => 0⟩, fun _ => 0⟩) true ≤ 0 →
      evutilSockaddrCmp (.in4 ⟨443, ⟨fun _ => 0⟩, fun _ => 0⟩) (.in6 ⟨80, 0, ⟨fun _ => 0⟩, 0⟩)
        true ≤ 0 →
      evutilSockaddrCmp (.in4 ⟨80, ⟨fun _ => 0⟩, fun _ => 0⟩) (.in6 ⟨80, 0, ⟨fun _ => 0⟩, 0⟩)
        true ≤ 0) ∧
    (evutilSockaddrCmp (.in4 ⟨80, ⟨fun _ => 0⟩, fun _ => 0⟩)
        (.in4 ⟨443, ⟨fun _ => 0⟩, fun _ => 0⟩) true < 0 →
      evutilSockaddrCmp (.in4 ⟨443, ⟨fun _ => 0⟩, fun _ => 0⟩) (.in6 ⟨80, 0, ⟨fun _ => 0⟩, 0⟩)
        true < 0 →
      evutilSockaddrCmp (.in4 ⟨80, ⟨fun _ => 0⟩, fun _ => 0⟩) (.in6 ⟨80, 0, ⟨fun _ => 0⟩, 0⟩)
        true < 0) ∧
    (evutilSockaddrCmp (.in4 ⟨80, ⟨fun _ => 0⟩, fun _ => 0⟩)
        (.in4 ⟨443, ⟨fun _ => 0⟩, fun _ => 0⟩) true = 0 ↔
      (Sockaddr.in4 ⟨80, ⟨fun _ => 0⟩, fun _ => 0⟩).family =
          (Sockaddr.in4 ⟨443, ⟨fun _ => 0⟩, fun _ => 0⟩).family ∧
        (Sockaddr.in4 ⟨80, ⟨fun _ => 0⟩, fun _ => 0⟩).addrBytes =
          (Sockaddr.in4 ⟨443, ⟨fun _ => 0⟩, fun _ => 0⟩).addrBytes ∧
        (true = true → (Sockaddr.in4 ⟨80, ⟨fun _ => 0⟩, fun _ => 0⟩).port =
          (Sockaddr.in4 ⟨443, ⟨fun _ => 0⟩, fun _ => 0⟩).port))) :=
  ⟨Or.inl rfl, Or.inl rfl, Or.inr rfl,
    sockaddr_cmp_order true _ _ _ (Or.inl rfl) (Or.inl rfl) (Or.inr rfl)⟩

end Evutil
