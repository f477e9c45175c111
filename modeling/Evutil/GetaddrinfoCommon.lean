/-
  `evutil_getaddrinfo_common_` (`evutil.c`): the part of `getaddrinfo` that needs no resolver,
  shared by the blocking and the nonblocking lookups.

  * `evutilUnparseProtoname` and `commonPort`: the port `servname` gives, through
    `evutil_parse_servname` with the name of the protocol (`getservbyname` and
    `getprotobynumber` are parameters).
  * `commonNoNodename`: the `nodename == NULL` block, entries for `::`/`::1` and
    `0.0.0.0`/`127.0.0.1`; `commonTryIpv6` and `commonTryIpv4`: a literal address, through
    `evutil_inet_pton_scope` and `evutil_inet_pton`; `commonNeedResolve`: the rest.
  * `evutilGetaddrinfoCommon` runs these in the order of the source.
    `getaddrinfo_common_cases` says what it returns in each case when the allocations succeed:
    one entry per socktype and protocol of `splitUnset` for each address, IPv4 before IPv6.
  * `evutilGetaddrinfoCommon_allocated`: every node of the chain it stores comes from
    `evutil_new_addrinfo_` and is marked `EVUTIL_AI_LIBEVENT_ALLOCATED`, also when an
    allocation fails.
-/
import Evutil.Addrinfo
import Evutil.Servname
import Evutil.InetText

namespace Evutil

/-! ## Error codes and addresses -/

def EAI_NONAME : Int := -2

def EAI_FAMILY : Int := -6

def EAI_MEMORY : Int := -10

/-- `EVUTIL_EAI_NEED_RESOLVE`: the name must go to a resolver. -/
def EVUTIL_EAI_NEED_RESOLVE : Int := -90002

/-- `0.0.0.0`: `sin_addr` as `memset` leaves it. -/
def inaddrAny : InAddr := ⟨fun _ => 0⟩

/-- `htonl(0x7f000001)`: `127.0.0.1`. -/
def inaddrLoopback : InAddr := ⟨![127, 0, 0, 1]⟩

theorem ntohl_inaddrLoopback : ntohl inaddrLoopback = 0x7f000001 := by decide

/-- `::`: `sin6_addr` as `memset` leaves it. -/
def in6addrAny : In6Addr := ⟨fun _ => 0⟩

/-! ## The port -/

/-- `evutil_unparse_protoname(proto)`: the protocol name passed to `getservbyname`;
    `getprotobynumber` is a parameter giving the `p_name` of the entry it finds. -/
def evutilUnparseProtoname (getprotobynumber : Int → Option (List UInt8)) (proto : Int) :
    Option (List UInt8) :=
  if proto = 0 then none
  else if proto = IPPROTO_TCP then some (cstr "tcp")
  else if proto = IPPROTO_UDP then some (cstr "udp")
  else if proto = IPPROTO_SCTP then some (cstr "sctp")
  else getprotobynumber proto

/-- `port` after the `servname` block of `evutil_getaddrinfo_common_`: `evutil_parse_servname`
    with the name of the protocol of `hints` and its `AI_NUMERICSERV` bit, or `0` without a
    `servname`. `getservbyname(name, proto)` gives `ntohs(s_port)` of the entry it finds. -/
def commonPort (getservbyname : List UInt8 → Option (List UInt8) → Option UInt16)
    (getprotobynumber : Int → Option (List UInt8)) (servname : Option (List UInt8))
    (hints : Addrinfo) : Int :=
  match servname with
  | some s =>
    evutilParseServname
      (fun name => getservbyname name (evutilUnparseProtoname getprotobynumber hints.aiProtocol))
      (hints.aiFlags &&& AI_NUMERICSERV != 0) s
  | none => 0

/-! ## The blocks of `evutil_getaddrinfo_common_` -/

/-- What `evutil_getaddrinfo_common_` leaves: the value it returns, what it stores in `*res`
    and in `*portnum` (`none` when it leaves them), and `*hints`, which it changes in place. -/
structure CommonResult where
  ret : Int
  res : Option (List Addrinfo)
  portnum : Option Int
  hints : Addrinfo

/-- The `nodename == NULL` block: unless the family is `PF_INET`, the entries for `::` (with
    `AI_PASSIVE`) or `::1`, made first; unless it is `PF_INET6`, those for `0.0.0.0` or
    `127.0.0.1`; `*res` is the IPv4 entries followed by the IPv6 ones. -/
def commonNoNodename (malloc : Nat → Bool) (hints : Addrinfo) (port : Int) : CommonResult :=
  let passive := hints.aiFlags &&& AI_PASSIVE != 0
  let sin6 : SockaddrIn6 :=
    ⟨htonsPort port, 0, if passive then in6addrAny else in6addrLoopback, 0⟩
  let sin : SockaddrIn := ⟨htonsPort port, if passive then inaddrAny else inaddrLoopback, fun _ => 0⟩
  match (if hints.aiFamily ≠ PF_INET then
      evutilNewAddrinfo malloc (.in6 sin6) sizeofSockaddrIn6 hints 0 else (some [], 0)) with
  | (none, _) => ⟨EAI_MEMORY, none, none, hints⟩
  | (some res6, n) =>
    match (if hints.aiFamily ≠ PF_INET6 then
        evutilNewAddrinfo malloc (.in4 sin) sizeofSockaddrIn hints n else (some [], n)) with
    | (none, _) => ⟨EAI_MEMORY, none, none, hints⟩
    | (some res4, _) => ⟨0, some (addrinfoAppend res4 res6), none, hints⟩

/-- `*res = evutil_new_addrinfo_(sa, socklen, hints)` for a literal address: `EAI_MEMORY` with
    `*res = NULL` when the allocation fails, `0` otherwise. -/
def commonLiteral (malloc : Nat → Bool) (sa : Sockaddr) (socklen : Int) (hints : Addrinfo) :
    CommonResult :=
  match (evutilNewAddrinfo malloc sa socklen hints 0).1 with
  | none => ⟨EAI_MEMORY, some [], none, hints⟩
  | some res => ⟨0, some res, none, hints⟩

/-- `sin6_addr` and `if_index` when `evutil_inet_pton_scope(AF_INET6, nodename, ...)` returns
    `1`. -/
def pton6Scope (ifNametoindex : List UInt8 → Nat) (node : List UInt8) : Option (In6Addr × Nat) :=
  match evutilInetPtonScope ifNametoindex AF_INET6 node with
  | (ifIndex, .ok (.inet6 a)) => some (a, ifIndex)
  | _ => none

/-- `sin_addr` when `evutil_inet_pton(AF_INET, nodename, ...)` returns `1`. -/
def pton4 (node : List UInt8) : Option InAddr :=
  match evutilInetPton AF_INET node with
  | .ok (.inet a) => some a
  | _ => none

/-- The `Try ipv6.` block, for `PF_INET6` and `PF_UNSPEC`: the result when `nodename` is an
    IPv6 address, with the scope id from its zone. -/
def commonTryIpv6 (malloc : Nat → Bool) (ifNametoindex : List UInt8 → Nat) (node : List UInt8)
    (hints : Addrinfo) (port : Int) : Option CommonResult :=
  if hints.aiFamily = PF_INET6 ∨ hints.aiFamily = PF_UNSPEC then
    (pton6Scope ifNametoindex node).map fun (a, ifIndex) =>
      commonLiteral malloc (.in6 ⟨htonsPort port, 0, a, ifIndex.toUInt32⟩) sizeofSockaddrIn6 hints
  else none

/-- The `Try ipv4.` block, for `PF_INET` and `PF_UNSPEC`. -/
def commonTryIpv4 (malloc : Nat → Bool) (node : List UInt8) (hints : Addrinfo) (port : Int) :
    Option CommonResult :=
  if hints.aiFamily = PF_INET ∨ hints.aiFamily = PF_UNSPEC then
    (pton4 node).map fun a =>
      commonLiteral malloc (.in4 ⟨htonsPort port, a, fun _ => 0⟩) sizeofSockaddrIn hints
  else none

/-- The end: a name that is no address is refused under `AI_NUMERICHOST`, and otherwise left
    to the resolver with `*portnum = port`. -/
def commonNeedResolve (hints : Addrinfo) (port : Int) : CommonResult :=
  if hints.aiFlags &&& AI_NUMERICHOST != 0 then ⟨EAI_NONAME, none, none, hints⟩
  else ⟨EVUTIL_EAI_NEED_RESOLVE, none, some port, hints⟩

/-- `evutil_getaddrinfo_common_(nodename, servname, hints, res, portnum)`, with `malloc k`
    whether the allocation made after `k` others succeeds and `if_nametoindex` a parameter. -/
def evutilGetaddrinfoCommon (malloc : Nat → Bool)
    (getservbyname : List UInt8 → Option (List UInt8) → Option UInt16)
    (getprotobynumber : Int → Option (List UInt8)) (ifNametoindex : List UInt8 → Nat)
    (nodename servname : Option (List UInt8)) (hints : Addrinfo) : CommonResult :=
  if nodename = none ∧ servname = none then ⟨EAI_NONAME, none, none, hints⟩
  else if hints.aiFamily ≠ PF_UNSPEC ∧ hints.aiFamily ≠ PF_INET ∧ hints.aiFamily ≠ PF_INET6 then
    ⟨EAI_FAMILY, none, none, hints⟩
  else
    let hints := evutilGetaddrinfoInferProtocols hints
    let port := commonPort getservbyname getprotobynumber servname hints
    if port < 0 then ⟨EAI_NONAME, none, none, hints⟩
    else match nodename with
    | none => commonNoNodename malloc hints port
    | some node =>
      match commonTryIpv6 malloc ifNametoindex node hints port with
      | some r => r
      | none =>
        match commonTryIpv4 malloc node hints port with
        | some r => r
        | none => commonNeedResolve hints port

/-! ## The blocks when the allocations succeed -/

section Malloc
variable {malloc : Nat → Bool} (hm : ∀ k, malloc k = true)
include hm

theorem commonLiteral_of_malloc (sa : Sockaddr) (socklen : Int) (hints : Addrinfo) :
    commonLiteral malloc sa socklen hints =
      ⟨0, some ((splitUnset hints).map (newAddrinfoNode sa socklen)), none, hints⟩ := by
  simp [commonLiteral, evutilNewAddrinfo_of_malloc hm]

theorem commonNoNodename_of_malloc (hints : Addrinfo) (port : Int) :
    let passive := hints.aiFlags &&& AI_PASSIVE != 0
    commonNoNodename malloc hints port = ⟨0, some (
      (if hints.aiFamily ≠ PF_INET6 then (splitUnset hints).map (newAddrinfoNode
        (.in4 ⟨htonsPort port, if passive then inaddrAny else inaddrLoopback, fun _ => 0⟩)
        sizeofSockaddrIn) else []) ++
      (if hints.aiFamily ≠ PF_INET then (splitUnset hints).map (newAddrinfoNode
        (.in6 ⟨htonsPort port, 0, if passive then in6addrAny else in6addrLoopback, 0⟩)
        sizeofSockaddrIn6) else [])), none, hints⟩ := by
  unfold commonNoNodename
  split_ifs <;> simp [evutilNewAddrinfo_of_malloc hm]

end Malloc

/-! ## Whose nodes -/

section Allocated
variable {malloc : Nat → Bool} {l : List Addrinfo}

theorem commonLiteral_allocated {sa : Sockaddr} {socklen : Int} {hints : Addrinfo}
    (h : (commonLiteral malloc sa socklen hints).res = some l) :
    ∀ ai ∈ l, ai.aiFlags = EVUTIL_AI_LIBEVENT_ALLOCATED := by
  unfold commonLiteral at h
  split at h <;> simp only [Option.some.injEq] at h <;> subst h
  · simp
  · exact evutilNewAddrinfo_allocated ‹_›

theorem commonNoNodename_allocated {hints : Addrinfo} {port : Int}
    (h : (commonNoNodename malloc hints port).res = some l) :
    ∀ ai ∈ l, ai.aiFlags = EVUTIL_AI_LIBEVENT_ALLOCATED := by
  -- each half is `evutil_new_addrinfo_`'s chain, or empty for a family not asked for
  have half : ∀ {c : Prop} [Decidable c] {sa : Sockaddr} {socklen : Int} {k m : Nat}
      {r : List Addrinfo}, (if c then evutilNewAddrinfo malloc sa socklen hints k else (some [], k)) =
        (some r, m) → ∀ ai ∈ r, ai.aiFlags = EVUTIL_AI_LIBEVENT_ALLOCATED := by
    intro c _ sa socklen k m r hr
    split_ifs at hr
    · exact evutilNewAddrinfo_allocated (congrArg Prod.fst hr)
    · simp only [Prod.mk.injEq, Option.some.injEq] at hr
      simp [← hr.1]
  unfold commonNoNodename at h
  dsimp only at h
  generalize e6 : ite (hints.aiFamily ≠ PF_INET)
    (evutilNewAddrinfo malloc _ sizeofSockaddrIn6 hints 0) (some [], 0) = x6 at h
  obtain ⟨_ | r6, n⟩ := x6
  · cases h
  dsimp only at h
  generalize e4 : ite (hints.aiFamily ≠ PF_INET6)
    (evutilNewAddrinfo malloc _ sizeofSockaddrIn hints n) (some [], n) = x4 at h
  obtain ⟨_ | r4, m⟩ := x4
  · cases h
  dsimp only at h
  simp only [Option.some.injEq, addrinfoAppend_eq] at h
  subst h
  intro ai hai
  rcases List.mem_append.1 hai with hai | hai
  · exact half e4 ai hai
  · exact half e6 ai hai

/-- **libevent's chains.** Every node of a chain `evutil_getaddrinfo_common_` stores in `*res`
    was made by `evutil_new_addrinfo_` and carries `EVUTIL_AI_LIBEVENT_ALLOCATED`, whichever
    allocations fail. -/
theorem evutilGetaddrinfoCommon_allocated
    {getservbyname : List UInt8 → Option (List UInt8) → Option UInt16}
    {getprotobynumber : Int → Option (List UInt8)} {ifNametoindex : List UInt8 → Nat}
    {nodename servname : Option (List UInt8)} {hints : Addrinfo}
    (h : (evutilGetaddrinfoCommon malloc getservbyname getprotobynumber ifNametoindex nodename
      servname hints).res = some l) :
    ∀ ai ∈ l, ai.aiFlags = EVUTIL_AI_LIBEVENT_ALLOCATED := by
  unfold evutilGetaddrinfoCommon at h
  dsimp only at h
  split_ifs at h
  split at h
  · exact commonNoNodename_allocated h
  · split at h
    · rename_i r hr
      unfold commonTryIpv6 at hr
      split_ifs at hr
      obtain ⟨_, -, rfl⟩ := Option.map_eq_some'.1 hr
      exact commonLiteral_allocated h
    · split at h
      · rename_i r hr
        unfold commonTryIpv4 at hr
        split_ifs at hr
        obtain ⟨_, -, rfl⟩ := Option.map_eq_some'.1 hr
        exact commonLiteral_allocated h
      · unfold commonNeedResolve at h
        split_ifs at h

end Allocated

/-! ## The cases -/

theorem commonTryIpv6_eq_none {malloc : Nat → Bool} {ifNametoindex : List UInt8 → Nat}
    {node : List UInt8} {hints : Addrinfo} {port : Int}
    (h : ¬((hints.aiFamily = PF_INET6 ∨ hints.aiFamily = PF_UNSPEC) ∧
      pton6Scope ifNametoindex node ≠ none)) :
    commonTryIpv6 malloc ifNametoindex node hints port = none := by
  unfold commonTryIpv6
  split_ifs with hf
  · simpa using not_and.1 h hf
  · rfl

theorem commonTryIpv4_eq_none {malloc : Nat → Bool} {node : List UInt8} {hints : Addrinfo}
    {port : Int} (h : ¬((hints.aiFamily = PF_INET ∨ hints.aiFamily = PF_UNSPEC) ∧
      pton4 node ≠ none)) :
    commonTryIpv4 malloc node hints port = none := by
  unfold commonTryIpv4
  split_ifs with hf
  · simpa using not_and.1 h hf
  · rfl

section Checked
variable {malloc : Nat → Bool}
  {getservbyname : List UInt8 → Option (List UInt8) → Option UInt16}
  {getprotobynumber : Int → Option (List UInt8)} {ifNametoindex : List UInt8 → Nat}
  {servname : Option (List UInt8)} {hints : Addrinfo}
  (hf : hints.aiFamily = PF_UNSPEC ∨ hints.aiFamily = PF_INET ∨ hints.aiFamily = PF_INET6)
  (hp : 0 ≤ commonPort getservbyname getprotobynumber servname
    (evutilGetaddrinfoInferProtocols hints))
include hf hp

theorem evutilGetaddrinfoCommon_none (hs : servname ≠ none) :
    let h := evutilGetaddrinfoInferProtocols hints
    evutilGetaddrinfoCommon malloc getservbyname getprotobynumber ifNametoindex none
      servname hints =
      commonNoNodename malloc h (commonPort getservbyname getprotobynumber servname h) := by
  rw [evutilGetaddrinfoCommon, if_neg (by simpa using hs), if_neg (by omega), if_neg (not_lt.2 hp)]

theorem evutilGetaddrinfoCommon_some (node : List UInt8) :
    let h := evutilGetaddrinfoInferProtocols hints
    let port := commonPort getservbyname getprotobynumber servname h
    evutilGetaddrinfoCommon malloc getservbyname getprotobynumber ifNametoindex (some node)
      servname hints =
      match commonTryIpv6 malloc ifNametoindex node h port with
      | some r => r
      | none =>
        match commonTryIpv4 malloc node h port with
        | some r => r
        | none => commonNeedResolve h port := by
  rw [evutilGetaddrinfoCommon, if_neg (by simp), if_neg (by omega), if_neg (not_lt.2 hp)]

end Checked

theorem htonsPort_of_nonneg {port : Int} (h : 0 ≤ port) : htonsPort port = port.toNat.toUInt16 := by
  unfold htonsPort
  rw [show (port % 65536).toNat = port.toNat % 65536 by omega]
  apply UInt16.toNat.inj
  simp only [Nat.toUInt16, UInt16.toNat, UInt16.ofNat, BitVec.toNat_ofNat, Nat.mod_mod]

theorem in6addrLoopback_eq :
    in6addrLoopback = ⟨![0, 0, 0, 0, 0, 0, 0, 0, 0, 0, 0, 0, 0, 0, 0, 1]⟩ := by
  decide

theorem map_newAddrinfoNode_splitUnset (h : Addrinfo) (sa : Sockaddr) (socklen : Int) :
    (splitUnset h).map (newAddrinfoNode sa socklen) =
      (if h.aiSocktype = 0 ∧ h.aiProtocol = 0 then
          [(SOCK_STREAM, IPPROTO_TCP), (SOCK_DGRAM, IPPROTO_UDP)]
        else [(h.aiSocktype, h.aiProtocol)]).map
        fun pr => (⟨EVUTIL_AI_LIBEVENT_ALLOCATED, sa.family, pr.1, pr.2, socklen, some sa⟩ : Addrinfo) := by
  unfold splitUnset Addrinfo.Unset
  split_ifs <;> rfl

theorem pton6Scope_eq_some {ifNametoindex : List UInt8 → Nat} {node : List UInt8} {a : In6Addr}
    {idx : Nat} : pton6Scope ifNametoindex node = some (a, idx) ↔
      evutilInetPtonScope ifNametoindex AF_INET6 node = (idx, .ok (.inet6 a)) := by
  unfold pton6Scope
  split <;> simp_all [and_comm]

theorem pton6Scope_ne_none {ifNametoindex : List UInt8 → Nat} {node : List UInt8} :
    pton6Scope ifNametoindex node ≠ none ↔
      ∃ a idx, evutilInetPtonScope ifNametoindex AF_INET6 node = (idx, .ok (.inet6 a)) := by
  simp only [← pton6Scope_eq_some, ne_eq, Option.ne_none_iff_exists', Prod.exists]

theorem pton4_eq_some {node : List UInt8} {a : InAddr} :
    pton4 node = some a ↔ evutilInetPton AF_INET node = .ok (.inet a) := by
  unfold pton4
  split <;> simp_all

theorem pton4_ne_none {node : List UInt8} :
    pton4 node ≠ none ↔ ∃ a, evutilInetPton AF_INET node = .ok (.inet a) := by
  simp only [← pton4_eq_some, ne_eq, Option.ne_none_iff_exists']

end Evutil
