/-
  `struct addrinfo` chains and the helpers that build them (`evutil.c`).

  * `Addrinfo`: a `struct addrinfo` by the fields the code reads and writes. A chain linked by
    `ai_next` is a `List Addrinfo`; a `struct addrinfo **` into a chain is the suffix it points
    to. `malloc k` says whether the allocation made after `k` others succeeds.
  * `evutilGetaddrinfoInferProtocols` (`evutil_getaddrinfo_infer_protocols`), with
    `evutilGetaddrinfoInferProtocols_unset_iff`: it leaves a node without a socktype and a
    protocol exactly when the node had neither, and changes nothing else.
  * `evutilNewAddrinfo` (`evutil_new_addrinfo_`) and `addrinfoAppend` (`addrinfo_append_`);
    `evutilNewAddrinfo_of_malloc`: when the allocations succeed, one node per entry of
    `splitUnset hints`, a TCP node and a UDP node for hints without either.
-/
import Evutil.SockaddrCmp

namespace Evutil

/-! ## Constants (Linux) -/

def PF_UNSPEC : Int := 0

def PF_INET : Int := 2

def PF_INET6 : Int := 10

def SOCK_STREAM : Int := 1

def SOCK_DGRAM : Int := 2

def IPPROTO_TCP : Int := 6

def IPPROTO_UDP : Int := 17

def IPPROTO_SCTP : Int := 132

def AI_PASSIVE : UInt32 := 0x0001

def AI_NUMERICHOST : UInt32 := 0x0004

def AI_NUMERICSERV : UInt32 := 0x0400

def EVUTIL_AI_LIBEVENT_ALLOCATED : UInt32 := 0x80000000

/-! ## Nodes -/

/-- `struct addrinfo` without `ai_next`, which is the order of the chain, and `ai_canonname`,
    which the functions modelled never set (`NULL` from `mm_calloc`). `ai_flags` is kept as the
    bits of the `int`. -/
structure Addrinfo where
  aiFlags : UInt32
  aiFamily : Int
  aiSocktype : Int
  aiProtocol : Int
  aiAddrlen : Int
  aiAddr : Option Sockaddr
  deriving DecidableEq

/-- Neither a socktype nor a protocol: the "indecisive" hints of `evutil_new_addrinfo_`. -/
def Addrinfo.Unset (ai : Addrinfo) : Prop := ai.aiSocktype = 0 ∧ ai.aiProtocol = 0

instance (ai : Addrinfo) : Decidable ai.Unset := inferInstanceAs (Decidable (_ ∧ _))

/-- `ai` with the socktype and protocol pair `(st, pr)`. -/
def Addrinfo.withProto (ai : Addrinfo) (st pr : Int) : Addrinfo :=
  { ai with aiSocktype := st, aiProtocol := pr }

@[simp] theorem Addrinfo.withProto_socktype (ai : Addrinfo) (st pr : Int) :
    (ai.withProto st pr).aiSocktype = st := rfl

@[simp] theorem Addrinfo.withProto_protocol (ai : Addrinfo) (st pr : Int) :
    (ai.withProto st pr).aiProtocol = pr := rfl

@[simp] theorem Addrinfo.withProto_withProto (ai : Addrinfo) (st pr st' pr' : Int) :
    (ai.withProto st pr).withProto st' pr' = ai.withProto st' pr' := rfl

theorem Addrinfo.withProto_self (ai : Addrinfo) : ai.withProto ai.aiSocktype ai.aiProtocol = ai :=
  rfl

/-- What a node without a socktype and a protocol stands for: a TCP stream, then a UDP
    datagram; any other node stands for itself. -/
def splitUnset (ai : Addrinfo) : List Addrinfo :=
  if ai.Unset then [ai.withProto SOCK_STREAM IPPROTO_TCP, ai.withProto SOCK_DGRAM IPPROTO_UDP]
  else [ai]

/-! ## `evutil_getaddrinfo_infer_protocols` -/

/-- `evutil_getaddrinfo_infer_protocols(hints)`: the protocol guessed from a datagram or stream
    socktype, then the socktype from a UDP, TCP or SCTP protocol. -/
def evutilGetaddrinfoInferProtocols (hints : Addrinfo) : Addrinfo :=
  let hints :=
    if hints.aiProtocol = 0 ∧ hints.aiSocktype ≠ 0 then
      if hints.aiSocktype = SOCK_DGRAM then { hints with aiProtocol := IPPROTO_UDP }
      else if hints.aiSocktype = SOCK_STREAM then { hints with aiProtocol := IPPROTO_TCP }
      else hints
    else hints
  if hints.aiSocktype = 0 ∧ hints.aiProtocol ≠ 0 then
    if hints.aiProtocol = IPPROTO_UDP then { hints with aiSocktype := SOCK_DGRAM }
    else if hints.aiProtocol = IPPROTO_TCP then { hints with aiSocktype := SOCK_STREAM }
    else if hints.aiProtocol = IPPROTO_SCTP then { hints with aiSocktype := SOCK_STREAM }
    else hints
  else hints

theorem evutilGetaddrinfoInferProtocols_frame (ai : Addrinfo) :
    (evutilGetaddrinfoInferProtocols ai).aiFlags = ai.aiFlags ∧
      (evutilGetaddrinfoInferProtocols ai).aiFamily = ai.aiFamily ∧
      (evutilGetaddrinfoInferProtocols ai).aiAddrlen = ai.aiAddrlen ∧
      (evutilGetaddrinfoInferProtocols ai).aiAddr = ai.aiAddr := by
  unfold evutilGetaddrinfoInferProtocols
  simp only [apply_ite Addrinfo.aiFlags, apply_ite Addrinfo.aiFamily, apply_ite Addrinfo.aiAddrlen,
    apply_ite Addrinfo.aiAddr, ite_self, and_self]

@[simp] theorem evutilGetaddrinfoInferProtocols_aiFlags (ai : Addrinfo) :
    (evutilGetaddrinfoInferProtocols ai).aiFlags = ai.aiFlags :=
  (evutilGetaddrinfoInferProtocols_frame ai).1

@[simp] theorem evutilGetaddrinfoInferProtocols_aiFamily (ai : Addrinfo) :
    (evutilGetaddrinfoInferProtocols ai).aiFamily = ai.aiFamily :=
  (evutilGetaddrinfoInferProtocols_frame ai).2.1

theorem evutilGetaddrinfoInferProtocols_eq (ai : Addrinfo) :
    evutilGetaddrinfoInferProtocols ai = ai.withProto (evutilGetaddrinfoInferProtocols ai).aiSocktype
      (evutilGetaddrinfoInferProtocols ai).aiProtocol := by
  obtain ⟨h1, h2, h3, h4⟩ := evutilGetaddrinfoInferProtocols_frame ai
  revert h1 h2 h3 h4
  cases evutilGetaddrinfoInferProtocols ai
  rintro rfl rfl rfl rfl
  rfl

theorem evutilGetaddrinfoInferProtocols_socktype {ai : Addrinfo} (hs : ai.aiSocktype ≠ 0) :
    (evutilGetaddrinfoInferProtocols ai).aiSocktype = ai.aiSocktype := by
  unfold evutilGetaddrinfoInferProtocols
  simp only [apply_ite Addrinfo.aiSocktype, ite_self, hs, false_and, if_false]

theorem evutilGetaddrinfoInferProtocols_protocol {ai : Addrinfo} (hp : ai.aiProtocol ≠ 0) :
    (evutilGetaddrinfoInferProtocols ai).aiProtocol = ai.aiProtocol := by
  unfold evutilGetaddrinfoInferProtocols
  simp only [apply_ite Addrinfo.aiProtocol, ite_self, hp, false_and, if_false]

theorem evutilGetaddrinfoInferProtocols_of_set {ai : Addrinfo} (hs : ai.aiSocktype ≠ 0)
    (hp : ai.aiProtocol ≠ 0) : evutilGetaddrinfoInferProtocols ai = ai := by
  rw [evutilGetaddrinfoInferProtocols_eq, evutilGetaddrinfoInferProtocols_socktype hs,
    evutilGetaddrinfoInferProtocols_protocol hp, Addrinfo.withProto_self]

theorem evutilGetaddrinfoInferProtocols_of_unset {ai : Addrinfo} (h : ai.Unset) :
    evutilGetaddrinfoInferProtocols ai = ai := by
  unfold evutilGetaddrinfoInferProtocols
  simp [h.1, h.2]

/-- It leaves a node without a socktype and a protocol exactly when the node had neither. -/
theorem evutilGetaddrinfoInferProtocols_unset_iff (ai : Addrinfo) :
    (evutilGetaddrinfoInferProtocols ai).Unset ↔ ai.Unset := by
  refine ⟨fun h => ?_, fun h => by rwa [evutilGetaddrinfoInferProtocols_of_unset h]⟩
  by_contra hn
  rcases not_and_or.1 hn with hs | hp
  · exact hs (evutilGetaddrinfoInferProtocols_socktype hs ▸ h.1)
  · exact hp (evutilGetaddrinfoInferProtocols_protocol hp ▸ h.2)

@[simp] theorem evutilGetaddrinfoInferProtocols_withProto_tcp (ai : Addrinfo) :
    evutilGetaddrinfoInferProtocols (ai.withProto SOCK_STREAM IPPROTO_TCP) =
      ai.withProto SOCK_STREAM IPPROTO_TCP :=
  evutilGetaddrinfoInferProtocols_of_set (show SOCK_STREAM ≠ 0 by decide)
    (show IPPROTO_TCP ≠ 0 by decide)

@[simp] theorem evutilGetaddrinfoInferProtocols_withProto_udp (ai : Addrinfo) :
    evutilGetaddrinfoInferProtocols (ai.withProto SOCK_DGRAM IPPROTO_UDP) =
      ai.withProto SOCK_DGRAM IPPROTO_UDP :=
  evutilGetaddrinfoInferProtocols_of_set (show SOCK_DGRAM ≠ 0 by decide)
    (show IPPROTO_UDP ≠ 0 by decide)

/-! ## `evutil_new_addrinfo_` and `addrinfo_append_` -/

/-- `htons(port)` stored in `sin_port` or `sin6_port`, as `ntohs` reads it back: the `int`
    converted to `uint16_t`. -/
def htonsPort (port : Int) : UInt16 := (port % 65536).toNat.toUInt16

/-- The node `evutil_new_addrinfo_` allocates for `sa`: `ai_flags =
    EVUTIL_AI_LIBEVENT_ALLOCATED`, `ai_family = sa->sa_family`, the address copied in with its
    length, and the socktype and protocol of `hints`. -/
def newAddrinfoNode (sa : Sockaddr) (socklen : Int) (hints : Addrinfo) : Addrinfo :=
  ⟨EVUTIL_AI_LIBEVENT_ALLOCATED, sa.family, hints.aiSocktype, hints.aiProtocol, socklen, some sa⟩

/-- The allocating branch of `evutil_new_addrinfo_`: one `mm_calloc`, and the node. -/
def newAddrinfoOne (malloc : Nat → Bool) (sa : Sockaddr) (socklen : Int) (hints : Addrinfo)
    (n : Nat) : Option (List Addrinfo) × Nat :=
  (if malloc n then some [newAddrinfoNode sa socklen hints] else none, n + 1)

/-- `evutil_new_addrinfo_(sa, socklen, hints)` after `n` allocations: the chain it returns
    (`none` for `NULL`) and the allocations made by then. For hints without a socktype and a
    protocol it calls itself with `tmp` set to TCP, then to UDP; those calls take the allocating
    branch, and a failed second one frees the first node. -/
def evutilNewAddrinfo (malloc : Nat → Bool) (sa : Sockaddr) (socklen : Int) (hints : Addrinfo)
    (n : Nat) : Option (List Addrinfo) × Nat :=
  if hints.aiSocktype = 0 ∧ hints.aiProtocol = 0 then
    let tmp := hints.withProto SOCK_STREAM IPPROTO_TCP
    match newAddrinfoOne malloc sa socklen tmp n with
    | (none, n) => (none, n)
    | (some r1, n) =>
      let tmp := tmp.withProto SOCK_DGRAM IPPROTO_UDP
      match newAddrinfoOne malloc sa socklen tmp n with
      | (none, n) => (none, n)
      | (some r2, n) => (some (r1 ++ r2), n)
  else newAddrinfoOne malloc sa socklen hints n

/-- When the allocations succeed, `evutil_new_addrinfo_` returns one node for each entry of
    `splitUnset hints`, each allocated once. -/
theorem evutilNewAddrinfo_of_malloc {malloc : Nat → Bool} (hm : ∀ k, malloc k = true)
    (sa : Sockaddr) (socklen : Int) (hints : Addrinfo) (n : Nat) :
    evutilNewAddrinfo malloc sa socklen hints n =
      (some ((splitUnset hints).map (newAddrinfoNode sa socklen)), n + (splitUnset hints).length) := by
  unfold evutilNewAddrinfo splitUnset Addrinfo.Unset
  split_ifs <;> simp [newAddrinfoOne, hm]

theorem evutilNewAddrinfo_of_fail {malloc : Nat → Bool} {n : Nat} (hf : malloc n = false)
    (sa : Sockaddr) (socklen : Int) (hints : Addrinfo) :
    (evutilNewAddrinfo malloc sa socklen hints n).1 = none := by
  unfold evutilNewAddrinfo
  split_ifs <;> simp [newAddrinfoOne, hf]

/-- Every node `evutil_new_addrinfo_` returns carries `EVUTIL_AI_LIBEVENT_ALLOCATED`, whichever
    allocations fail. -/
theorem evutilNewAddrinfo_allocated {malloc : Nat → Bool} {sa : Sockaddr} {socklen : Int}
    {hints : Addrinfo} {n : Nat} {l : List Addrinfo}
    (h : (evutilNewAddrinfo malloc sa socklen hints n).1 = some l) :
    ∀ ai ∈ l, ai.aiFlags = EVUTIL_AI_LIBEVENT_ALLOCATED := by
  unfold evutilNewAddrinfo newAddrinfoOne at h
  cases h1 : malloc n <;> cases h2 : malloc (n + 1) <;> split_ifs at h <;>
    simp only [h1, h2, if_true, Bool.false_eq_true, if_false, reduceCtorEq,
      Option.some.injEq] at h <;> subst h <;> simp [newAddrinfoNode]

/-- `addrinfo_append_(first, append)`: `append` linked after the last node of `first`, or
    `append` itself when `first` is `NULL`. -/
def addrinfoAppend : List Addrinfo → List Addrinfo → List Addrinfo
  | [], append => append
  | [ai], append => ai :: append
  | ai :: rest, append => ai :: addrinfoAppend rest append

@[simp] theorem addrinfoAppend_eq (first append : List Addrinfo) :
    addrinfoAppend first append = first ++ append := by
  induction first, append using addrinfoAppend.induct <;> simp_all [addrinfoAppend]

end Evutil
