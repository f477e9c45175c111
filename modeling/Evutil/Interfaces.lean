/-
  Which address families the host has (`evutil.c`): the address classes, the interface scan
  and the `AI_ADDRCONFIG` emulation that reads it.
  * `evutilV4addrIsLocal`, `evutilV6addrIsLocal` (`evutil_v4addr_is_local_`,
    `evutil_v6addr_is_local_`): masks on the bytes. `evutilV4addrIsLocal_iff` and
    `evutilV6addrIsLocal_iff` say which networks they are, as prefixes `InAddr.InNet` and
    `In6Addr.InNet`; `evutilSockaddrIsLoopback` (`evutil_sockaddr_is_loopback_`) is
    `127.0.0.0/8` or `::1`, and a loopback address is local.
  * `Interfaces`: the file-scope flags `have_checked_interfaces`, `had_ipv4_address`,
    `had_ipv6_address`. `evutilFoundIfaddr` sets a flag for a non-local address;
    `evutilCheckIfaddrs` runs it over what `getifaddrs` lists; `evutilCheckInterfaces` does so
    once, with two UDP probes when `getifaddrs` fails. `evutilCheckInterfaces_saw`: a flag is
    set when some address looked at is outside the local networks of its family.
  * `evutilAdjustHintsForAddrconfig`: `PF_UNSPEC` with `AI_ADDRCONFIG` becomes the one family
    the host has, and `evutilAdjustHintsForAddrconfig_init` says which, from the addresses.
-/
import Evutil.GetaddrinfoCommon
import Evutil.InetRoundTrip

namespace Evutil

/-! ## Masks as arithmetic -/

theorem toNat_and_byte (x m : UInt8) : (x &&& m).toNat = x.toNat &&& m.toNat := BitVec.toNat_and _ _

theorem ntohl_lt (a : InAddr) : ntohl a < 2 ^ 32 := by
  have h := fun i => (a.sAddr i).toNat_lt_size
  have := h 0; have := h 1; have := h 2; have := h 3
  rw [ntohl_eq]; simp only [UInt8.size] at *; omega

@[simp] theorem In6Addr.byte_fin (a : In6Addr) (k : Fin 16) : a.byte k = (a.s6Addr k).toNat := by
  simp [In6Addr.byte]

/-! ## `memcmp` against a constant -/

/-- `memcmp` over `n` bytes both lists have is `0` exactly when the bytes agree. -/
theorem memcmp_eq_zero_iff : ∀ (as bs : List UInt8) (n : Nat), n ≤ as.length → n ≤ bs.length →
    (memcmp as bs n = 0 ↔ ∀ k < n, as.getD k 0 = bs.getD k 0)
  | _, _, 0, _, _ => by cases ‹List UInt8› <;> cases ‹List UInt8› <;> simp [memcmp]
  | [], _, _ + 1, ha, _ => absurd ha (by simp)
  | _ :: _, [], _ + 1, _, hb => absurd hb (by simp)
  | a :: as, b :: bs, n + 1, ha, hb => by
    have ih := memcmp_eq_zero_iff as bs n (by simpa using ha) (by simpa using hb)
    simp only [memcmp, Nat.forall_lt_succ_left, List.getD_cons_zero, List.getD_cons_succ]
    by_cases hab : a = b
    · simp [hab, ih]
    · have : (a.toNat : Int) - b.toNat ≠ 0 := fun h => hab (UInt8.toNat.inj (by omega))
      simp [hab, this]

theorem getD_ofFn_s6Addr (a : In6Addr) (k : Nat) :
    ((List.ofFn a.s6Addr).getD k 0).toNat = a.byte k := by
  simp only [List.getD_eq_getElem?_getD, List.getElem?_ofFn, List.ofFnNthVal, In6Addr.byte]
  split <;> rfl

theorem memcmp_s6Addr_eq_zero_iff (a b : In6Addr) :
    memcmp (List.ofFn a.s6Addr) (List.ofFn b.s6Addr) 16 = 0 ↔ a = b := by
  rw [memcmp_eq_zero_iff _ _ _ (by simp) (by simp)]
  refine ⟨fun h => In6Addr.ext (funext fun k => UInt8.toNat.inj ?_), by rintro rfl _ _; rfl⟩
  have := congrArg UInt8.toNat (h k k.isLt)
  rwa [getD_ofFn_s6Addr, getD_ofFn_s6Addr, In6Addr.byte_fin, In6Addr.byte_fin] at this

/-! ## Address classes -/

/-- `INADDR_ANY`, in host order. -/
def INADDR_ANY : Nat := 0

/-- `evutil_v4addr_is_localhost(addr)`: `addr` in host order. -/
def evutilV4addrIsLocalhost (addr : Nat) : Bool := addr >>> 24 == 127

/-- `evutil_v4addr_is_linklocal(addr)`. -/
def evutilV4addrIsLinklocal (addr : Nat) : Bool := (addr &&& 0xffff0000) == 0xa9fe0000

/-- `evutil_v4addr_is_classd(addr)`. -/
def evutilV4addrIsClassd (addr : Nat) : Bool := (addr >>> 24 &&& 0xf0) == 0xe0

/-- `evutil_v4addr_is_local_(in)`. -/
def evutilV4addrIsLocal (a : InAddr) : Bool :=
  let addr := ntohl a
  addr == INADDR_ANY || evutilV4addrIsLocalhost addr || evutilV4addrIsLinklocal addr ||
    evutilV4addrIsClassd addr

/-- `ZEROES` of `evutil_v6addr_is_local_`: sixteen zero bytes and the string's `NUL`. -/
def ZEROES : List UInt8 := List.replicate 17 0

/-- `evutil_v6addr_is_local_(in)`. -/
def evutilV6addrIsLocal (a : In6Addr) : Bool :=
  let addr := a.s6Addr
  memcmp (List.ofFn addr) ZEROES 8 == 0 ||
    (addr 0 &&& 0xfe) == 0xfc ||
    (addr 0 == 0xfe && (addr 1 &&& 0xc0) == 0x80) ||
    (addr 0 == 0xfe && (addr 1 &&& 0xc0) == 0xc0) ||
    addr 0 == 0xff

/-- `LOOPBACK_S6` of `evutil_sockaddr_is_loopback_`. -/
def LOOPBACK_S6 : List UInt8 := [0, 0, 0, 0, 0, 0, 0, 0, 0, 0, 0, 0, 0, 0, 0, 1]

/-- `evutil_sockaddr_is_loopback_(addr)`. -/
def evutilSockaddrIsLoopback : Sockaddr → Bool
  | .in4 sin => (ntohl sin.sinAddr &&& 0xff000000) == 0x7f000000
  | .in6 sin6 => memcmp (List.ofFn sin6.sin6Addr.s6Addr) LOOPBACK_S6 16 == 0
  | .other _ _ => false

/-! ## The networks -/

/-- `a` is in the network `p/len`: the high `len` bits of the two addresses agree. -/
def InAddr.InNet (p : InAddr) (len : Nat) (a : InAddr) : Prop :=
  ntohl a >>> (32 - len) = ntohl p >>> (32 - len)

instance (p : InAddr) (len : Nat) (a : InAddr) : Decidable (p.InNet len a) :=
  inferInstanceAs (Decidable (_ = _))

/-- `a` is in the network `p/len`: the first `len / 8` bytes agree, and the high `len % 8`
    bits of the next. -/
def In6Addr.InNet (p : In6Addr) (len : Nat) (a : In6Addr) : Prop :=
  (∀ k < len / 8, a.byte k = p.byte k) ∧
    a.byte (len / 8) >>> (8 - len % 8) = p.byte (len / 8) >>> (8 - len % 8)

instance (p : In6Addr) (len : Nat) (a : In6Addr) : Decidable (p.InNet len a) :=
  inferInstanceAs (Decidable (_ ∧ _))

/-- The network of an IPv6 address whose first two bytes are `b0 b1`. -/
def in6Net (b0 b1 : UInt8) : In6Addr := ⟨fun k => if k.val = 0 then b0 else if k.val = 1 then b1 else 0⟩

/-- The IPv4 addresses the comments of `evutil_v4addr_is_local_` name: `INADDR_ANY`, localhost
    `127.0.0.0/8`, link-local `169.254.0.0/16` and class D `224.0.0.0/4`. -/
def V4Local (a : InAddr) : Prop :=
  inaddrAny.InNet 32 a ∨ inaddrLoopback.InNet 8 a ∨ InAddr.InNet ⟨![169, 254, 0, 0]⟩ 16 a ∨
    InAddr.InNet ⟨![224, 0, 0, 0]⟩ 4 a

/-- The IPv6 networks `evutil_v6addr_is_local_` tests: `::/64`, the unique local `fc00::/7`,
    link-local `fe80::/10`, site-local `fec0::/10` and multicast `ff00::/8`. -/
def V6Local (a : In6Addr) : Prop :=
  in6addrAny.InNet 64 a ∨ (in6Net 0xfc 0).InNet 7 a ∨ (in6Net 0xfe 0x80).InNet 10 a ∨
    (in6Net 0xfe 0xc0).InNet 10 a ∨ (in6Net 0xff 0).InNet 8 a

instance (a : InAddr) : Decidable (V4Local a) := inferInstanceAs (Decidable (_ ∨ _ ∨ _ ∨ _))

instance (a : In6Addr) : Decidable (V6Local a) := inferInstanceAs (Decidable (_ ∨ _ ∨ _ ∨ _ ∨ _))

/-- `evutil_v4addr_is_local_` is the four networks its comments name. -/
theorem evutilV4addrIsLocal_iff (a : InAddr) : evutilV4addrIsLocal a = true ↔ V4Local a := by
  have hlt := ntohl_lt a
  have hll : ∀ x : Nat, x &&& 0xffff0000 = x / 65536 % 65536 * 65536 := fun x => and_mask_eq x 16 16
  have hd : ∀ x : Nat, x &&& 0xf0 = x / 16 % 16 * 16 := fun x => and_mask_eq x 4 4
  simp only [evutilV4addrIsLocal, evutilV4addrIsLocalhost, evutilV4addrIsLinklocal,
    evutilV4addrIsClassd, INADDR_ANY, Bool.or_eq_true, beq_iff_eq, V4Local, InAddr.InNet,
    Nat.shiftRight_eq_div_pow, Nat.reducePow, Nat.reduceSub, hll, hd]
  have h0 : ntohl inaddrAny = 0 := by decide
  have h1 : ntohl inaddrLoopback = 0x7f000001 := ntohl_inaddrLoopback
  have h2 : ntohl ⟨![169, 254, 0, 0]⟩ = 0xa9fe0000 := by decide
  have h3 : ntohl ⟨![224, 0, 0, 0]⟩ = 0xe0000000 := by decide
  rw [h0, h1, h2, h3]
  generalize ntohl a = x at hlt ⊢
  simp only [Nat.reducePow, Nat.reduceDiv, Nat.div_one, or_assoc] at hlt ⊢
  -- the any and loopback tests read as the networks; the two masks are bounds on `x`
  exact or_congr .rfl (or_congr .rfl (or_congr (by omega) (by omega)))

@[simp] theorem in6addrAny_byte (k : Nat) : in6addrAny.byte k = 0 := by
  simp only [In6Addr.byte, in6addrAny]; split <;> rfl

theorem in6Net_byte (b0 b1 : UInt8) (k : Nat) :
    (in6Net b0 b1).byte k = if k = 0 then b0.toNat else if k = 1 then b1.toNat else 0 := by
  simp only [In6Addr.byte, in6Net]
  split
  · split <;> (try split) <;> rfl
  · simp only [show k ≠ 0 by omega, show k ≠ 1 by omega, if_false]

/-- `evutil_v6addr_is_local_` is the five networks its tests are written for. -/
theorem evutilV6addrIsLocal_iff (a : In6Addr) : evutilV6addrIsLocal a = true ↔ V6Local a := by
  have hz : memcmp (List.ofFn a.s6Addr) ZEROES 8 = 0 ↔ ∀ k < 8, a.byte k = 0 := by
    rw [memcmp_eq_zero_iff _ _ _ (by simp) (by decide)]
    refine forall₂_congr fun k hk => ?_
    rw [byte_eq_iff, getD_ofFn_s6Addr, ZEROES, List.getD_eq_getElem?_getD, List.getElem?_replicate,
      if_pos (by omega)]
    rfl
  have and_mask_254 : ∀ x : Nat, x &&& 254 = x / 2 % 128 * 2 := fun x => and_mask_eq x 7 1
  have and_mask_192 : ∀ x : Nat, x &&& 192 = x / 64 % 4 * 64 := fun x => and_mask_eq x 2 6
  have e0 : (a.s6Addr 0).toNat = a.byte 0 := rfl
  have e1 : (a.s6Addr 1).toNat = a.byte 1 := rfl
  simp only [evutilV6addrIsLocal, Bool.or_eq_true, Bool.and_eq_true, beq_iff_eq, hz,
    byte_eq_iff, toNat_and_byte, e0, e1, V6Local, In6Addr.InNet, in6addrAny_byte, in6Net_byte,
    UInt8.reduceToNat, Nat.reduceDiv, Nat.reduceMod, Nat.reduceSub, Nat.lt_one_iff, forall_eq,
    Nat.not_lt_zero, false_implies, implies_true, true_and, if_true, if_false, Nat.reduceEqDiff,
    or_assoc, Nat.shiftRight_eq_div_pow, Nat.reducePow, and_mask_254, and_mask_192]
  have h0 := a.byte_lt 0; have h1 := a.byte_lt 1
  rw [and_iff_left (Nat.div_eq_of_lt (a.byte_lt 8))]
  -- network by network: each mask is a bound on a byte
  exact or_congr_right (or_congr (by omega) (or_congr (and_congr_right fun _ => by omega)
    (or_congr (and_congr_right fun _ => by omega) (and_iff_left (Nat.div_eq_of_lt h1)).symm)))

/-- `fe00::/9` lies between the tests: `fe00::` is not local. -/
example : evutilV6addrIsLocal (in6Net 0xfe 0) = false ∧ ¬V6Local (in6Net 0xfe 0) := by decide

/-- An IPv4 address is loopback when it is in `127.0.0.0/8`. -/
theorem evutilSockaddrIsLoopback_in4 (sin : SockaddrIn) :
    evutilSockaddrIsLoopback (.in4 sin) = true ↔ inaddrLoopback.InNet 8 sin.sinAddr := by
  have hlt := ntohl_lt sin.sinAddr
  have hm : ∀ x : Nat, x &&& 0xff000000 = x / 16777216 % 256 * 16777216 := fun x => and_mask_eq x 8 24
  simp only [evutilSockaddrIsLoopback, beq_iff_eq, hm, InAddr.InNet, ntohl_inaddrLoopback,
    Nat.shiftRight_eq_div_pow, Nat.reduceSub, Nat.reducePow, Nat.reduceDiv]
  omega

/-- An IPv6 address is loopback when it is `::1`. -/
theorem evutilSockaddrIsLoopback_in6 (sin6 : SockaddrIn6) :
    evutilSockaddrIsLoopback (.in6 sin6) = true ↔ sin6.sin6Addr = in6addrLoopback := by
  have hl : LOOPBACK_S6 = List.ofFn in6addrLoopback.s6Addr := by decide
  rw [evutilSockaddrIsLoopback, hl, beq_iff_eq, memcmp_s6Addr_eq_zero_iff]

/-! ## The interface flags -/

/-- The file-scope flags `have_checked_interfaces`, `had_ipv4_address` and
    `had_ipv6_address`. -/
structure Interfaces where
  haveCheckedInterfaces : Bool
  hadIpv4Address : Bool
  hadIpv6Address : Bool
  deriving DecidableEq, Repr

/-- The flags at startup: static storage is zero. -/
def Interfaces.init : Interfaces := ⟨false, false, false⟩

/-- `evutil_found_ifaddr(sa)`. -/
def evutilFoundIfaddr (st : Interfaces) : Sockaddr → Interfaces
  | .in4 sin => if !evutilV4addrIsLocal sin.sinAddr then { st with hadIpv4Address := true } else st
  | .in6 sin6 =>
    if !evutilV6addrIsLocal sin6.sin6Addr then { st with hadIpv6Address := true } else st
  | .other _ _ => st

/-- `evutil_found_ifaddr` on an address if there is one: a turn of the loop of
    `evutil_check_ifaddrs` (`ifa_addr` may be `NULL`), or a probe of `evutil_check_interfaces`
    (`socket`, `connect` or `getsockname` may fail). -/
def foundIfaddrOption (st : Interfaces) : Option Sockaddr → Interfaces
  | some sa => evutilFoundIfaddr st sa
  | none => st

/-- `evutil_check_ifaddrs()`: `getifaddrs` is `none` when it fails, or the `ifa_addr` of each
    interface it lists. -/
def evutilCheckIfaddrs (getifaddrs : Option (List (Option Sockaddr))) (st : Interfaces) :
    Int × Interfaces :=
  match getifaddrs with
  | none => (-1, st)
  | some ifa => (0, ifa.foldl foundIfaddrOption st)

/-- `sin` of `evutil_check_interfaces`: `18.244.0.188`, port 53. -/
def checkInterfacesSin : SockaddrIn := ⟨53, ⟨![18, 244, 0, 188]⟩, fun _ => 0⟩

/-- `sin6` of `evutil_check_interfaces`: `2001:4860:b002::68`, port 53. -/
def checkInterfacesSin6 : SockaddrIn6 :=
  ⟨53, 0, ⟨![0x20, 0x01, 0x48, 0x60, 0xb0, 0x02, 0, 0, 0, 0, 0, 0, 0, 0, 0, 0x68]⟩, 0⟩

/-- The probes' addresses are what `evutil_inet_pton` reads from the texts in the source: both
    `EVUTIL_ASSERT(r)` of `evutil_check_interfaces` hold. -/
theorem checkInterfaces_pton :
    evutilInetPton AF_INET (cstr "18.244.0.188") = .ok (.inet checkInterfacesSin.sinAddr) ∧
      evutilInetPton AF_INET6 (cstr "2001:4860:b002::68") =
        .ok (.inet6 checkInterfacesSin6.sin6Addr) := by
  rw [show cstr "18.244.0.188" = inetNtop4Text checkInterfacesSin.sinAddr by decide,
    show cstr "2001:4860:b002::68" = inetNtop6Text checkInterfacesSin6.sin6Addr by decide]
  exact ⟨by simp [evutilInetPton, inetPton4_ntop4Text, Except.map],
    by simp [evutilInetPton, AF_INET, AF_INET6, inetPton6_ntop6Text, Except.map]⟩

/-- `evutil_check_interfaces()`, by the flags it leaves. `udpSockname sa` is what `getsockname`
    writes for a UDP socket of the family of `sa` connected to `sa`, or `none` when `socket`,
    `connect` or `getsockname` fails. -/
def evutilCheckInterfaces (getifaddrs : Option (List (Option Sockaddr)))
    (udpSockname : Sockaddr → Option Sockaddr) (st : Interfaces) : Interfaces :=
  if st.haveCheckedInterfaces then st
  else
    let r := evutilCheckIfaddrs getifaddrs { st with haveCheckedInterfaces := true }
    if r.1 = 0 then r.2
    else
      let st := foundIfaddrOption r.2 (udpSockname (.in4 checkInterfacesSin))
      foundIfaddrOption st (udpSockname (.in6 checkInterfacesSin6))

def AI_ADDRCONFIG : UInt32 := 0x0020

/-- `evutil_adjust_hints_for_addrconfig_(hints)`: the flags after the call, and `*hints`. -/
def evutilAdjustHintsForAddrconfig (getifaddrs : Option (List (Option Sockaddr)))
    (udpSockname : Sockaddr → Option Sockaddr) (st : Interfaces) (hints : Addrinfo) :
    Interfaces × Addrinfo :=
  if hints.aiFlags &&& AI_ADDRCONFIG = 0 then (st, hints)
  else if hints.aiFamily ≠ PF_UNSPEC then (st, hints)
  else
    let st := evutilCheckInterfaces getifaddrs udpSockname st
    if st.hadIpv4Address && !st.hadIpv6Address then (st, { hints with aiFamily := PF_INET })
    else if !st.hadIpv4Address && st.hadIpv6Address then (st, { hints with aiFamily := PF_INET6 })
    else (st, hints)

/-! ## What the flags record -/

/-- An IPv4 address outside the local networks: what sets `had_ipv4_address`. -/
def Sockaddr.Public4 : Sockaddr → Prop
  | .in4 sin => ¬V4Local sin.sinAddr
  | _ => False

/-- An IPv6 address outside the local networks: what sets `had_ipv6_address`. -/
def Sockaddr.Public6 : Sockaddr → Prop
  | .in6 sin6 => ¬V6Local sin6.sin6Addr
  | _ => False

instance : DecidablePred Sockaddr.Public4
  | .in4 sin => inferInstanceAs (Decidable (¬V4Local sin.sinAddr))
  | .in6 _ | .other _ _ => inferInstanceAs (Decidable False)

instance : DecidablePred Sockaddr.Public6
  | .in6 sin6 => inferInstanceAs (Decidable (¬V6Local sin6.sin6Addr))
  | .in4 _ | .other _ _ => inferInstanceAs (Decidable False)

/-- `st'` is `st` after looking at `addrs`: a flag is set when it was, or when one of the
    addresses is of its family and not local; `have_checked_interfaces` is left alone. -/
@[mk_iff] structure Interfaces.Saw (st : Interfaces) (addrs : List (Option Sockaddr)) (st' : Interfaces) :
    Prop where
  checked : st'.haveCheckedInterfaces = st.haveCheckedInterfaces
  ipv4 : st'.hadIpv4Address = true ↔ st.hadIpv4Address = true ∨ ∃ sa, some sa ∈ addrs ∧ sa.Public4
  ipv6 : st'.hadIpv6Address = true ↔ st.hadIpv6Address = true ∨ ∃ sa, some sa ∈ addrs ∧ sa.Public6

theorem Interfaces.Saw.trans {st₁ st₂ st₃ : Interfaces} {l₁ l₂ : List (Option Sockaddr)}
    (h₁ : st₁.Saw l₁ st₂) (h₂ : st₂.Saw l₂ st₃) : st₁.Saw (l₁ ++ l₂) st₃ where
  checked := h₂.checked.trans h₁.checked
  ipv4 := by simp only [h₂.ipv4, h₁.ipv4, List.mem_append, or_and_right, exists_or, or_assoc]
  ipv6 := by simp only [h₂.ipv6, h₁.ipv6, List.mem_append, or_and_right, exists_or, or_assoc]

/-- One address: `evutil_found_ifaddr` sets the flag of its family when it is not local. -/
theorem foundIfaddrOption_saw (st : Interfaces) (x : Option Sockaddr) :
    st.Saw [x] (foundIfaddrOption st x) := by
  rcases x with _ | (sin | sin6 | ⟨f, hf⟩)
  · exact ⟨rfl, by simp [foundIfaddrOption], by simp [foundIfaddrOption]⟩
  · have h := evutilV4addrIsLocal_iff sin.sinAddr
    cases hl : evutilV4addrIsLocal sin.sinAddr <;>
      simp_all [foundIfaddrOption, evutilFoundIfaddr, Interfaces.saw_iff, Sockaddr.Public4,
        Sockaddr.Public6]
  · have h := evutilV6addrIsLocal_iff sin6.sin6Addr
    cases hl : evutilV6addrIsLocal sin6.sin6Addr <;>
      simp_all [foundIfaddrOption, evutilFoundIfaddr, Interfaces.saw_iff, Sockaddr.Public4,
        Sockaddr.Public6]
  · simp [foundIfaddrOption, evutilFoundIfaddr, Interfaces.saw_iff, Sockaddr.Public4,
      Sockaddr.Public6]

/-- The loop of `evutil_check_ifaddrs` looks at every address it is given. -/
theorem foldl_foundIfaddrOption_saw (ifa : List (Option Sockaddr)) (st : Interfaces) :
    st.Saw ifa (ifa.foldl foundIfaddrOption st) := by
  induction ifa generalizing st with
  | nil => exact ⟨rfl, by simp, by simp⟩
  | cons x ifa ih => exact (foundIfaddrOption_saw st x).trans (ih _)

/-- A loopback address is local: `evutil_found_ifaddr` sets no flag for it. -/
theorem evutilFoundIfaddr_of_loopback (st : Interfaces) {sa : Sockaddr}
    (h : evutilSockaddrIsLoopback sa = true) : evutilFoundIfaddr st sa = st := by
  rcases sa with sin | sin6 | _
  · have hl : evutilV4addrIsLocal sin.sinAddr = true :=
      (evutilV4addrIsLocal_iff _).2 (.inr (.inl ((evutilSockaddrIsLoopback_in4 sin).1 h)))
    simp [evutilFoundIfaddr, hl]
  · have hl : evutilV6addrIsLocal sin6.sin6Addr = true := by
      rw [(evutilSockaddrIsLoopback_in6 sin6).1 h]; decide
    simp [evutilFoundIfaddr, hl]
  · rfl

theorem evutilFoundIfaddr_of_loopback_in4 :
    evutilFoundIfaddr Interfaces.init (.in4 ⟨0, inaddrLoopback, fun _ => 0⟩) = Interfaces.init :=
  evutilFoundIfaddr_of_loopback _ (by decide)

/-- The addresses `evutil_check_interfaces` looks at: the `ifa_addr` of each interface
    `getifaddrs` lists or, when it fails, what `getsockname` gives for the two UDP probes. -/
def checkedAddrs (getifaddrs : Option (List (Option Sockaddr)))
    (udpSockname : Sockaddr → Option Sockaddr) : List (Option Sockaddr) :=
  getifaddrs.getD [udpSockname (.in4 checkInterfacesSin), udpSockname (.in6 checkInterfacesSin6)]

section Check

variable (getifaddrs : Option (List (Option Sockaddr))) (udpSockname : Sockaddr → Option Sockaddr)

/-- The first check records, for each family, whether an address it looks at is not local. -/
theorem evutilCheckInterfaces_saw {st : Interfaces} (h : st.haveCheckedInterfaces = false) :
    Interfaces.Saw { st with haveCheckedInterfaces := true } (checkedAddrs getifaddrs udpSockname)
      (evutilCheckInterfaces getifaddrs udpSockname st) := by
  cases getifaddrs with
  | none =>
    simp only [evutilCheckInterfaces, h, evutilCheckIfaddrs, checkedAddrs, Option.getD_none]
    exact (foundIfaddrOption_saw _ _).trans (foundIfaddrOption_saw _ _)
  | some ifa =>
    simp only [evutilCheckInterfaces, h, evutilCheckIfaddrs, checkedAddrs, Option.getD_some]
    exact foldl_foundIfaddrOption_saw ifa _

theorem evutilCheckInterfaces_checked (st : Interfaces) :
    (evutilCheckInterfaces getifaddrs udpSockname st).haveCheckedInterfaces = true := by
  cases h : st.haveCheckedInterfaces
  · exact (evutilCheckInterfaces_saw getifaddrs udpSockname h).checked
  · simp [evutilCheckInterfaces, h]

/-- Without `AI_ADDRCONFIG`, or with a family asked for, the hints and the flags are left alone. -/
theorem evutilAdjustHintsForAddrconfig_of_not (st : Interfaces) (hints : Addrinfo)
    (h : hints.aiFlags &&& AI_ADDRCONFIG = 0 ∨ hints.aiFamily ≠ PF_UNSPEC) :
    evutilAdjustHintsForAddrconfig getifaddrs udpSockname st hints = (st, hints) := by
  unfold evutilAdjustHintsForAddrconfig
  rcases h with h | h
  · rw [if_pos h]
  · by_cases hf : hints.aiFlags &&& AI_ADDRCONFIG = 0
    · rw [if_pos hf]
    · rw [if_neg hf, if_pos h]

/-- With `AI_ADDRCONFIG` and `PF_UNSPEC` the interfaces are checked and the family becomes
    `PF_INET` when the flags record IPv4 alone, `PF_INET6` for IPv6 alone, and stays `PF_UNSPEC`
    otherwise; nothing else in the hints changes. -/
theorem evutilAdjustHintsForAddrconfig_family (st : Interfaces) (hints : Addrinfo)
    (hf : hints.aiFlags &&& AI_ADDRCONFIG ≠ 0) (hu : hints.aiFamily = PF_UNSPEC) :
    let r := evutilAdjustHintsForAddrconfig getifaddrs udpSockname st hints
    r.1 = evutilCheckInterfaces getifaddrs udpSockname st ∧
      r.2 = { hints with aiFamily := r.2.aiFamily } ∧
      (r.2.aiFamily = PF_INET ↔ r.1.hadIpv4Address = true ∧ ¬r.1.hadIpv6Address = true) ∧
      (r.2.aiFamily = PF_INET6 ↔ ¬r.1.hadIpv4Address = true ∧ r.1.hadIpv6Address = true) ∧
      (r.2.aiFamily = PF_UNSPEC ↔ (r.1.hadIpv4Address = true ↔ r.1.hadIpv6Address = true)) := by
  simp only [evutilAdjustHintsForAddrconfig, if_neg hf, hu, ne_eq, not_true_eq_false, if_false]
  generalize evutilCheckInterfaces getifaddrs udpSockname st = c
  rcases c with ⟨_, _ | _, _ | _⟩ <;>
    simp only [Bool.and_false, Bool.and_true, Bool.not_false, Bool.not_true, Bool.false_eq_true,
      ↓reduceIte] <;>
    refine ⟨trivial, trivial, ?_⟩ <;> simp [hu, PF_INET, PF_INET6, PF_UNSPEC]

/-- The first `AI_ADDRCONFIG` lookup for `PF_UNSPEC` in a process asks for IPv4 alone when the
    addresses checked include a non-local IPv4 one and no non-local IPv6 one, for IPv6 alone in
    the opposite case, and for both families otherwise. -/
theorem evutilAdjustHintsForAddrconfig_init (hints : Addrinfo)
    (hf : hints.aiFlags &&& AI_ADDRCONFIG ≠ 0) (hu : hints.aiFamily = PF_UNSPEC) :
    let r := (evutilAdjustHintsForAddrconfig getifaddrs udpSockname Interfaces.init hints).2
    let v4 := ∃ sa, some sa ∈ checkedAddrs getifaddrs udpSockname ∧ sa.Public4
    let v6 := ∃ sa, some sa ∈ checkedAddrs getifaddrs udpSockname ∧ sa.Public6
    r = { hints with aiFamily := r.aiFamily } ∧ (r.aiFamily = PF_INET ↔ v4 ∧ ¬v6) ∧
      (r.aiFamily = PF_INET6 ↔ ¬v4 ∧ v6) ∧ (r.aiFamily = PF_UNSPEC ↔ (v4 ↔ v6)) := by
  obtain ⟨hr, hframe, h4, h6, hun⟩ :=
    evutilAdjustHintsForAddrconfig_family getifaddrs udpSockname Interfaces.init hints hf hu
  have hsaw := @evutilCheckInterfaces_saw getifaddrs udpSockname Interfaces.init rfl
  rw [← hr] at hsaw
  have e4 := hsaw.ipv4.trans (or_iff_right Bool.false_ne_true)
  have e6 := hsaw.ipv6.trans (or_iff_right Bool.false_ne_true)
  dsimp only
  rw [h4, h6, hun, e4, e6]
  exact ⟨hframe, Iff.rfl, Iff.rfl, Iff.rfl⟩

/-- With no interface address at all, the first such lookup keeps asking for both families. -/
theorem evutilAdjustHintsForAddrconfig_init_none :
    (evutilAdjustHintsForAddrconfig (some []) (fun _ => none) Interfaces.init
      ⟨AI_ADDRCONFIG, PF_UNSPEC, 0, 0, 0, none⟩).2.aiFamily = PF_UNSPEC :=
  (evutilAdjustHintsForAddrconfig_init (some []) (fun _ => none) _ (by decide) rfl).2.2.2.2
    ⟨fun ⟨_, h, _⟩ => by simp [checkedAddrs] at h, fun ⟨_, h, _⟩ => by simp [checkedAddrs] at h⟩

end Check

end Evutil
