/-
  Socket addresses as text: `evutil_format_sockaddr_port_` and `evutil_parse_sockaddr_port`
  (`evutil.c`).

  * `SockaddrIn`, `SockaddrIn6`: `struct sockaddr_in` and `struct sockaddr_in6` by their fields,
    the port as the value `ntohs` reads back; `Sockaddr` is a `struct sockaddr` by its family,
    so that the family field always agrees with the structure.
  * `sockaddrParts`: the first half of `evutil_parse_sockaddr_port`, which splits the string
    into `addr_part` and `port_part` by its first byte and its colons;
  * `evutilParseSockaddrPort`: the port by `atoi`, the address by `evutil_inet_pton_scope` or
    `evutil_inet_pton`, and the structure written to `out`.
-/
import Evutil.Inet

namespace Evutil

/-- `struct sockaddr_in` with `sin_family = AF_INET`: `sinPort` is `ntohs(sin_port)`. -/
@[ext] structure SockaddrIn where
  sinPort : UInt16
  sinAddr : InAddr
  sinZero : Fin 8 → UInt8

/-- `struct sockaddr_in6` with `sin6_family = AF_INET6`: `sin6Port` is `ntohs(sin6_port)`. -/
@[ext] structure SockaddrIn6 where
  sin6Port : UInt16
  sin6Flowinfo : UInt32
  sin6Addr : In6Addr
  sin6ScopeId : UInt32

instance : DecidableEq SockaddrIn := fun a b =>
  decidable_of_iff (a.sinPort = b.sinPort ∧ a.sinAddr = b.sinAddr ∧
      ∀ k (h : k < 8), a.sinZero ⟨k, h⟩ = b.sinZero ⟨k, h⟩)
    ⟨fun ⟨h1, h2, h3⟩ => SockaddrIn.ext h1 h2 (funext fun k => h3 k.1 k.2),
      fun h => h ▸ ⟨rfl, rfl, fun _ _ => rfl⟩⟩

instance : DecidableEq SockaddrIn6 := fun a b =>
  decidable_of_iff (a.sin6Port = b.sin6Port ∧ a.sin6Flowinfo = b.sin6Flowinfo ∧
      a.sin6Addr = b.sin6Addr ∧ a.sin6ScopeId = b.sin6ScopeId)
    ⟨fun ⟨h1, h2, h3, h4⟩ => SockaddrIn6.ext h1 h2 h3 h4, fun h => h ▸ ⟨rfl, rfl, rfl, rfl⟩⟩

/-- A `struct sockaddr` by `sa_family`: a `sockaddr_in`, a `sockaddr_in6`, or another family,
    of which only the number is read. -/
inductive Sockaddr where
  | in4 (sin : SockaddrIn)
  | in6 (sin6 : SockaddrIn6)
  | other (family : UInt16) (h : (family.toNat : Int) ≠ AF_INET ∧ (family.toNat : Int) ≠ AF_INET6)

instance : DecidableEq Sockaddr
  | .in4 a, .in4 b => decidable_of_iff (a = b) (by simp)
  | .in6 a, .in6 b => decidable_of_iff (a = b) (by simp)
  | .other f _, .other g _ => decidable_of_iff (f = g) (by simp)
  | .in4 _, .in6 _ | .in4 _, .other _ _ | .in6 _, .in4 _ | .in6 _, .other _ _
  | .other _ _, .in4 _ | .other _ _, .in6 _ => isFalse (by simp)

/-- `sizeof(struct sockaddr_in)` on Linux. -/
def sizeofSockaddrIn : Int := 16

/-- `sizeof(struct sockaddr_in6)` on Linux. -/
def sizeofSockaddrIn6 : Int := 28

/-- `sizeof` the structure `sa` is. -/
def Sockaddr.size : Sockaddr → Int
  | .in4 _ => sizeofSockaddrIn
  | .in6 _ => sizeofSockaddrIn6
  | .other _ _ => 16

/-! ## `evutil_format_sockaddr_port_` -/

/-- `"<addr with socktype %d>"`. -/
def socktypeText (family : Nat) : List UInt8 :=
  cstr "<addr with socktype " ++ fmtNat 10 family ++ cstr ">"

/-- `evutil_format_sockaddr_port_(sa, out, outlen)`: the string written to `out` (`none` when
    `outlen` is `0` and `out` is left as it was). The address goes through
    `evutil_inet_ntop` into the 128-byte `b`. -/
def evutilFormatSockaddrPort (sa : Sockaddr) (outlen : Nat) : Option (List UInt8) :=
  match sa with
  | .in4 sin =>
    match evutilInetNtop (.inet sin.sinAddr) 128 with
    | some b => (evutilSnprintf outlen (b ++ ch ':' :: fmtNat 10 sin.sinPort.toNat)).2
    | none => (evutilSnprintf outlen (socktypeText 2)).2
  | .in6 sin6 =>
    match evutilInetNtop (.inet6 sin6.sin6Addr) 128 with
    | some b =>
      (evutilSnprintf outlen (ch '[' :: b ++ ch ']' :: ch ':' :: fmtNat 10 sin6.sin6Port.toNat)).2
    | none => (evutilSnprintf outlen (socktypeText 10)).2
  | .other family _ => (evutilSnprintf outlen (socktypeText family.toNat)).2

/-! ## `evutil_parse_sockaddr_port` -/

/-- The branches of `evutil_parse_sockaddr_port` on `ip_as_string`: `(is_ipv6, addr_part,
    port_part)`, `port_part` `none` for `NULL`, or `none` for `return -1`. The parts copied
    into the 128-byte `buf` must be at most 127 bytes long. -/
def sockaddrParts (s : List UInt8) : Option (Bool × List UInt8 × Option (List UInt8)) :=
  if deref s 0 = ch '[' then
    match strchr s (ch ']') with
    | none => none
    | some q =>
      let len := q - 1
      if 127 < len then none
      else some (true, (s.drop 1).take len,
        if deref s (q + 1) = ch ':' then some (s.drop (q + 2)) else none)
  else
    match strchr s (ch ':') with
    | some c =>
      if (strchr (s.drop (c + 1)) (ch ':')).isSome then some (true, s, none)
      else if 127 < c then none
      else some (false, s.take c, some (s.drop (c + 1)))
    | none => some (false, s, none)

/-- `[A]R`, the address ending at the first `]`: a port after it when it is followed by `:`. -/
theorem sockaddrParts_bracket {A R : List UInt8} (hA : ch ']' ∉ A) :
    sockaddrParts (ch '[' :: A ++ ch ']' :: R) =
      if 127 < A.length then none
      else some (true, A, if deref R 0 = ch ':' then some (R.drop 1) else none) := by
  have hb : ch ']' ∉ ch '[' :: A := List.not_mem_cons_of_ne_of_not_mem (by decide) hA
  have hderef : deref (ch '[' :: A ++ ch ']' :: R) ((ch '[' :: A).length + 1) = deref R 0 :=
    deref_of_drop (List.drop_left _ _) 1
  have hdrop : (ch '[' :: A ++ ch ']' :: R).drop ((ch '[' :: A).length + 2) = R.drop 1 :=
    List.drop_append 2
  rw [sockaddrParts, if_pos (show deref (ch '[' :: A ++ ch ']' :: R) 0 = ch '[' from rfl),
    strchr_append_cons hb]
  dsimp only
  rw [hderef, hdrop]
  simp only [List.length_cons, Nat.add_sub_cancel, List.cons_append, List.drop_one,
    List.tail_cons, List.take_left]

/-- At least two `:` and no `[` first: the whole string is the IPv6 address, with no port. -/
theorem sockaddrParts_two_colons {s : List UInt8} (h0 : deref s 0 ≠ ch '[')
    (h2 : 2 ≤ s.count (ch ':')) : sockaddrParts s = some (true, s, none) := by
  cases hs : strchr s (ch ':') with
  | none => exact absurd (List.count_pos_iff.1 (by omega)) (not_mem_of_strchr_eq_none hs)
  | some c =>
    obtain ⟨h1, h2'⟩ := strchr_eq_some hs
    have hrest : ch ':' ∈ s.drop (c + 1) := by
      rw [h2', List.count_append, List.count_cons_self,
        List.count_eq_zero_of_not_mem h1] at h2
      exact List.count_pos_iff.1 (by omega)
    have hsome : (strchr (s.drop (c + 1)) (ch ':')).isSome := by
      cases h' : strchr (s.drop (c + 1)) (ch ':') with
      | none => exact absurd hrest (not_mem_of_strchr_eq_none h')
      | some _ => rfl
    rw [sockaddrParts, if_neg h0, hs]
    simp only [hsome, if_true]

/-- One `:` and no `[` first: the IPv4 address before it and the port after it. -/
theorem sockaddrParts_one_colon {A P : List UInt8} (h0 : deref (A ++ ch ':' :: P) 0 ≠ ch '[')
    (hA : ch ':' ∉ A) (hP : ch ':' ∉ P) :
    sockaddrParts (A ++ ch ':' :: P) =
      if 127 < A.length then none else some (false, A, some P) := by
  have hdrop : (A ++ ch ':' :: P).drop (A.length + 1) = P := List.drop_append 1
  rw [sockaddrParts, if_neg h0, strchr_append_cons hA]
  simp only [hdrop, strchr_eq_none hP, Option.isSome_none, Bool.false_eq_true, if_false,
    List.take_left]

/-- No `:` and no `[` first: the whole string is the IPv4 address, with no port. -/
theorem sockaddrParts_no_colon {s : List UInt8} (h0 : deref s 0 ≠ ch '[') (h : ch ':' ∉ s) :
    sockaddrParts s = some (false, s, none) := by
  rw [sockaddrParts, if_neg h0, strchr_eq_none h]

/-- A string that starts with `[` and has a `]` is `[A]R` with no `]` in `A`. -/
theorem eq_bracket_of_strchr {s : List UInt8} {q : Nat} (h0 : deref s 0 = ch '[')
    (hq : strchr s (ch ']') = some q) : ∃ A R, s = ch '[' :: A ++ ch ']' :: R ∧ ch ']' ∉ A := by
  obtain ⟨hq1, hq2⟩ := strchr_eq_some hq
  generalize s.take q = P at hq1 hq2
  generalize s.drop (q + 1) = R at hq2
  subst hq2
  cases P with
  | nil => exact absurd h0 (show ch ']' ≠ ch '[' by decide)
  | cons y A =>
    have hy : y = ch '[' := h0
    subst hy
    exact ⟨A, R, rfl, fun h => hq1 (List.mem_cons_of_mem _ h)⟩

/-- A string with no `[` first and exactly one `:` is `A:P` with no `:` in `A` or `P`. -/
theorem eq_one_colon_of_strchr {s : List UInt8} {c : Nat} (hc : strchr s (ch ':') = some c)
    (h2 : ¬ 2 ≤ s.count (ch ':')) :
    ∃ A P, s = A ++ ch ':' :: P ∧ ch ':' ∉ A ∧ ch ':' ∉ P := by
  obtain ⟨hc1, hc2⟩ := strchr_eq_some hc
  refine ⟨_, _, hc2, hc1, fun hP => h2 ?_⟩
  rw [hc2, List.count_append, List.count_cons_self]
  have := List.count_pos_iff.2 hP
  omega

/-- The four ways `sockaddrParts` succeeds. -/
theorem sockaddrParts_cases {s A : List UInt8} {b : Bool} {pp : Option (List UInt8)}
    (h : sockaddrParts s = some (b, A, pp)) :
    (∃ R, s = ch '[' :: A ++ ch ']' :: R ∧ ch ']' ∉ A ∧ A.length ≤ 127 ∧ b = true ∧
      pp = if deref R 0 = ch ':' then some (R.drop 1) else none) ∨
    (deref s 0 ≠ ch '[' ∧ 2 ≤ s.count (ch ':') ∧ b = true ∧ A = s ∧ pp = none) ∨
    (∃ P, s = A ++ ch ':' :: P ∧ deref s 0 ≠ ch '[' ∧ ch ':' ∉ A ∧ ch ':' ∉ P ∧
      A.length ≤ 127 ∧ b = false ∧ pp = some P) ∨
    (deref s 0 ≠ ch '[' ∧ ch ':' ∉ s ∧ b = false ∧ A = s ∧ pp = none) := by
  by_cases h0 : deref s 0 = ch '['
  · cases hq : strchr s (ch ']') with
    | none => simp only [sockaddrParts, if_pos h0, hq, reduceCtorEq] at h
    | some q =>
      obtain ⟨A', R, rfl, hA'⟩ := eq_bracket_of_strchr h0 hq
      rw [sockaddrParts_bracket hA'] at h
      by_cases hlen : 127 < A'.length
      · simp only [hlen, if_true, reduceCtorEq] at h
      rw [if_neg hlen, Option.some.injEq, Prod.mk.injEq, Prod.mk.injEq] at h
      obtain ⟨rfl, rfl, rfl⟩ := h
      exact Or.inl ⟨R, rfl, hA', by omega, rfl, rfl⟩
  · cases hc : strchr s (ch ':') with
    | none =>
      have hn := not_mem_of_strchr_eq_none hc
      rw [sockaddrParts_no_colon h0 hn, Option.some.injEq, Prod.mk.injEq, Prod.mk.injEq] at h
      exact Or.inr (Or.inr (Or.inr ⟨h0, hn, h.1.symm, h.2.1.symm, h.2.2.symm⟩))
    | some c =>
      by_cases h2 : 2 ≤ s.count (ch ':')
      · rw [sockaddrParts_two_colons h0 h2, Option.some.injEq, Prod.mk.injEq,
          Prod.mk.injEq] at h
        exact Or.inr (Or.inl ⟨h0, h2, h.1.symm, h.2.1.symm, h.2.2.symm⟩)
      · obtain ⟨A', P, rfl, hA', hP⟩ := eq_one_colon_of_strchr hc h2
        rw [sockaddrParts_one_colon h0 hA' hP] at h
        by_cases hlen : 127 < A'.length
        · simp only [hlen, if_true, reduceCtorEq] at h
        rw [if_neg hlen, Option.some.injEq, Prod.mk.injEq, Prod.mk.injEq] at h
        obtain ⟨rfl, rfl, rfl⟩ := h
        exact Or.inr (Or.inr (Or.inl ⟨P, rfl, h0, hA', hP, by omega, rfl, rfl⟩))

/-- `port = atoi(port_part)`, which must be in `1..65535`; `0` when there is no port. -/
def parsePort : Option (List UInt8) → Option Nat
  | none => some 0
  | some p => let v := atoi p; if v ≤ 0 ∨ 65535 < v then none else some v.toNat

/-- `evutil_parse_sockaddr_port(ip_as_string, out, outlen)` with `*outlen = outlen`: the
    structure written to `out` and the new `*outlen` when it returns `0`, `none` when it
    returns `-1`. `if_nametoindex` is a parameter. -/
def evutilParseSockaddrPort (ifNametoindex : List UInt8 → Nat) (s : List UInt8) (outlen : Int) :
    Option (Sockaddr × Int) := do
  let (isIpv6, addrPart, portPart) ← sockaddrParts s
  let port ← parsePort portPart
  if isIpv6 then
    let (ifIndex, r) := evutilInetPtonScope ifNametoindex AF_INET6 addrPart
    match r with
    | .ok (.inet6 a) =>
      if outlen < sizeofSockaddrIn6 then none
      else some (.in6 ⟨port.toUInt16, 0, a, ifIndex.toUInt32⟩, sizeofSockaddrIn6)
    | _ => none
  else
    match evutilInetPton AF_INET addrPart with
    | .ok (.inet a) =>
      if outlen < sizeofSockaddrIn then none
      else some (.in4 ⟨port.toUInt16, a, fun _ => 0⟩, sizeofSockaddrIn)
    | _ => none

end Evutil
