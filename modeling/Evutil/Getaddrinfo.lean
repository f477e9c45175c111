/-
  `evutil_getaddrinfo` (`evutil.c`): the system's `getaddrinfo`, repaired by the two hacks when
  `test_for_getaddrinfo_hacks` finds the resolver needs them, and answered by
  `evutil_getaddrinfo_common_` for a numeric port without a node name.

  * `testForGetaddrinfoHacks`: the three probe lookups of `1.2.3.4` and the two flags they set;
    `aiFindProtocol` is `ai_find_protocol`.
  * `evutilGetaddrinfo`: the function on Linux, where every `AI_*` flag is native, so that only
    `EVUTIL_AI_LIBEVENT_ALLOCATED` is cleared before the system call. The system's
    `getaddrinfo` is a parameter: its return value and what it leaves in `*res`.
  * `evutilGetaddrinfo_numeric_port_null`: on a resolver that needs the numeric-port hack, an answer
    whose last record is no `AF_INET`/`AF_INET6` address after ones that are makes the hack
    follow `NULL`. `evutilGetaddrinfo_socktype_split`: the socktype/protocol hack splits the
    answer as `apply_socktype_protocol_hack` does; `evutilGetaddrinfo_records_set`: whatever the
    allocations do, it leaves no record without a socktype and a protocol.
  * `evutilFreeaddrinfo` (`evutil_freeaddrinfo`): the first node's `EVUTIL_AI_LIBEVENT_ALLOCATED`
    picks `mm_free` or the system's `freeaddrinfo` for the whole chain. Chains of
    `evutil_getaddrinfo_common_` go to `mm_free`; a system chain the socktype/protocol hack has
    lengthened goes whole to `freeaddrinfo`, with the copies `mm_malloc` made.
-/
import Evutil.AddrinfoHacks
import Evutil.GetaddrinfoCommon

namespace Evutil

/-! ## The probes -/

/-- `ai_find_protocol(ai)`: the first record of the chain with a protocol. -/
def aiFindProtocol : List Addrinfo → Option Addrinfo
  | [] => none
  | ai :: rest => if ai.aiProtocol ≠ 0 then some ai else aiFindProtocol rest

/-- The hints of the probes: `PF_UNSPEC` with `AI_NUMERICHOST | AI_NUMERICSERV`. -/
def probeHints : Addrinfo := ⟨AI_NUMERICHOST ||| AI_NUMERICSERV, PF_UNSPEC, 0, 0, 0, none⟩

/-- `test_for_getaddrinfo_hacks()` with the system's `getaddrinfo`: `need_numeric_port_hack_`
    when `1.2.3.4` with port `80` fails without a socktype and succeeds with `SOCK_STREAM`, and
    `need_socktype_protocol_hack_` when the answer with `SOCK_STREAM`, or the one without a
    port, has no record with a protocol. The chains start `NULL`. -/
def testForGetaddrinfoHacks
    (getaddrinfo : Option (List UInt8) → Option (List UInt8) → Addrinfo →
      Int × Option (List Addrinfo)) : Bool × Bool :=
  let r := (getaddrinfo (some (cstr "1.2.3.4")) (some (cstr "80")) probeHints).1
  let ai3 := ((getaddrinfo (some (cstr "1.2.3.4")) none probeHints).2).getD []
  let q2 := getaddrinfo (some (cstr "1.2.3.4")) (some (cstr "80"))
    { probeHints with aiSocktype := SOCK_STREAM }
  (q2.1 = 0 ∧ r ≠ 0, (aiFindProtocol (q2.2.getD [])).isNone || (aiFindProtocol ai3).isNone)

/-! ## `evutil_getaddrinfo` -/

/-- The local `hints` of `evutil_getaddrinfo`: a copy of `hints_in`, or zeros with
    `PF_UNSPEC`. -/
def getaddrinfoHintsCopy (hintsIn : Option Addrinfo) : Addrinfo :=
  hintsIn.getD ⟨0, PF_UNSPEC, 0, 0, 0, none⟩

/-- The hints the system's `getaddrinfo` is given: the copy with its protocols inferred under
    the socktype/protocol hack, and `EVUTIL_AI_LIBEVENT_ALLOCATED` cleared (on Linux every other
    flag is native). -/
def systemHints (inferProtocols : Bool) (hints : Addrinfo) : Addrinfo :=
  let hints := if inferProtocols then evutilGetaddrinfoInferProtocols hints else hints
  { hints with aiFlags := hints.aiFlags &&& ~~~EVUTIL_AI_LIBEVENT_ALLOCATED }

/-- `evutil_getaddrinfo(nodename, servname, hints_in, res)` with `*res = res` before the call:
    the value it returns and `*res` after it, or `none` when `apply_numeric_port_hack` follows
    `NULL`. The hacks are on as `testForGetaddrinfoHacks` finds them for the same resolver;
    `portnum` is `parse_numeric_servname(servname)` when the numeric-port hack applies. -/
def evutilGetaddrinfo (malloc : Nat → Bool)
    (getservbyname : List UInt8 → Option (List UInt8) → Option UInt16)
    (getprotobynumber : Int → Option (List UInt8)) (ifNametoindex : List UInt8 → Nat)
    (getaddrinfo : Option (List UInt8) → Option (List UInt8) → Addrinfo →
      Int × Option (List Addrinfo))
    (nodename servname : Option (List UInt8)) (hintsIn : Option Addrinfo)
    (res : List Addrinfo) : Option (Int × List Addrinfo) :=
  let hacks := testForGetaddrinfoHacks getaddrinfo
  let hints := getaddrinfoHintsCopy hintsIn
  let portnum : Option Int :=
    match servname with
    | some s =>
      if hacks.1 ∧ hints.aiSocktype = 0 ∧ 0 ≤ parseNumericServname s then
        some (parseNumericServname s)
      else none
    | none => none
  match portnum, nodename with
  | some _, none =>
    let r := evutilGetaddrinfoCommon malloc getservbyname getprotobynumber ifNametoindex none
      servname hints
    some (r.ret, r.res.getD res)
  | _, _ =>
    let servname := if portnum.isSome then none else servname
    let q := getaddrinfo nodename servname (systemHints hacks.2 hints)
    let chain := q.2.getD res
    match (match portnum with
        | some port => applyNumericPortHack port chain
        | none => some chain) with
    | none => none
    | some chain =>
      if hacks.2 then
        let r := applySocktypeProtocolHack malloc 0 chain
        if r.1 < 0 then some (EAI_MEMORY, []) else some (q.1, r.2)
      else some (q.1, chain)

/-! ## `evutil_freeaddrinfo` -/

/-- Who `evutil_freeaddrinfo` gives a chain back to: the system's `freeaddrinfo`, which frees the
    whole chain, or `mm_free`, node by node in the order of the chain. -/
inductive AddrinfoRelease
  | system
  | mmFree (nodes : List Addrinfo)
  deriving DecidableEq

/-- `evutil_freeaddrinfo(ai)` on the chain from `ai`: `EVUTIL_AI_LIBEVENT_ALLOCATED` on the first
    node decides for the whole chain; the `while` loop frees each node and its `ai_canonname`
    (`NULL` in the chains modelled). `none` for `NULL`, whose `ai_flags` the function reads. -/
def evutilFreeaddrinfo : List Addrinfo → Option AddrinfoRelease
  | [] => none
  | ai :: rest =>
    if ai.aiFlags &&& EVUTIL_AI_LIBEVENT_ALLOCATED = 0 then some .system
    else some (.mmFree (ai :: rest))

theorem length_splitUnset (ai : Addrinfo) :
    (splitUnset ai).length = if ai.Unset then 2 else 1 := by
  unfold splitUnset
  split_ifs <;> rfl

/-- The split adds one record for each record left without a socktype and a protocol. -/
theorem length_flatMap_splitUnset (l : List Addrinfo) :
    (l.flatMap fun x => splitUnset (evutilGetaddrinfoInferProtocols x)).length =
      l.length + (l.filter fun x => decide (evutilGetaddrinfoInferProtocols x).Unset).length := by
  induction l with
  | nil => rfl
  | cons ai rest ih =>
    rw [List.flatMap_cons, List.length_append, ih, length_splitUnset, List.filter_cons]
    by_cases h : (evutilGetaddrinfoInferProtocols ai).Unset <;> simp [h] <;> omega

/-- The first record of the split is the first record of the chain with its protocols, so it
    keeps that record's flags. -/
theorem flatMap_splitUnset_cons (ai : Addrinfo) (rest : List Addrinfo) :
    ∃ b bs, (ai :: rest).flatMap (fun x => splitUnset (evutilGetaddrinfoInferProtocols x)) =
      b :: bs ∧ b.aiFlags = ai.aiFlags := by
  rw [List.flatMap_cons, splitUnset]
  split_ifs <;> simp [Addrinfo.withProto]

section Resolver
variable {malloc : Nat → Bool}
  {getservbyname : List UInt8 → Option (List UInt8) → Option UInt16}
  {getprotobynumber : Int → Option (List UInt8)} {ifNametoindex : List UInt8 → Nat}
  {getaddrinfo : Option (List UInt8) → Option (List UInt8) → Addrinfo →
    Int × Option (List Addrinfo)}

/-- The numeric-port hack is on exactly when the probe with a port fails without a socktype
    and succeeds with `SOCK_STREAM`. -/
theorem testForGetaddrinfoHacks_fst (getaddrinfo : Option (List UInt8) → Option (List UInt8) →
    Addrinfo → Int × Option (List Addrinfo)) :
    (testForGetaddrinfoHacks getaddrinfo).1 = true ↔
      (getaddrinfo (some (cstr "1.2.3.4")) (some (cstr "80"))
        { probeHints with aiSocktype := SOCK_STREAM }).1 = 0 ∧
      (getaddrinfo (some (cstr "1.2.3.4")) (some (cstr "80")) probeHints).1 ≠ 0 := by
  simp [testForGetaddrinfoHacks]

/-- **The numeric-port hack through `evutil_getaddrinfo`.** On a resolver that needs the
    hack, a lookup of a node name with a numeric port and no socktype asks the system without
    the port; an answer whose last record has no `AF_INET`/`AF_INET6` address, after records
    that have one, makes the hack follow `NULL`. -/
theorem evutilGetaddrinfo_numeric_port_null
    (hnp : (testForGetaddrinfoHacks getaddrinfo).1 = true) (node s : List UInt8)
    (hs : 0 ≤ parseNumericServname s) (hintsIn : Option Addrinfo)
    (hst : (getaddrinfoHintsCopy hintsIn).aiSocktype = 0)
    {pre : List Addrinfo} {victim : Addrinfo}
    (hpre : ∀ ai ∈ pre, numericPortSet (parseNumericServname s) ai ≠ none)
    (hv : numericPortSet (parseNumericServname s) victim = none) {err : Int}
    (hsys : getaddrinfo (some node) none
      (systemHints (testForGetaddrinfoHacks getaddrinfo).2 (getaddrinfoHintsCopy hintsIn)) =
        (err, some (pre ++ [victim])))
    (res : List Addrinfo) :
    evutilGetaddrinfo malloc getservbyname getprotobynumber ifNametoindex getaddrinfo
      (some node) (some s) hintsIn res = none := by
  unfold evutilGetaddrinfo
  simp [hnp, hst, hs, hsys, applyNumericPortHack_last_unlinked hpre hv]

/-- A resolver that wants a socktype with a port and answers a lookup without one with an
    `AF_INET` record and then a record with no address. -/
theorem evutilGetaddrinfo_numeric_port_null_unix :
    evutilGetaddrinfo (fun _ => true) (fun _ _ => none) (fun _ => none) (fun _ => 0)
        (fun _ serv h => if h.aiSocktype = 0 ∧ serv ≠ none then (EAI_NONAME, none)
          else (0, some [⟨0, PF_INET, 0, 0, 16, some (.in4 ⟨0, inaddrLoopback, fun _ => 0⟩)⟩,
            ⟨0, 1, 0, 0, 0, none⟩]))
        (some (cstr "host")) (some (cstr "80")) none [] = none :=
  evutilGetaddrinfo_numeric_port_null (by decide) _ _ (by decide) none rfl
    (show ∀ ai ∈ [(⟨0, PF_INET, 0, 0, 16, some (.in4 ⟨0, inaddrLoopback, fun _ => 0⟩)⟩ : Addrinfo)],
      numericPortSet (parseNumericServname (cstr "80")) ai ≠ none by simp [numericPortSet])
    (by rfl) rfl _

/-- **The socktype/protocol hack through `evutil_getaddrinfo`.** On a resolver that needs it
    and not the numeric-port hack, with allocations that succeed, the system's answer is split
    as `apply_socktype_protocol_hack` splits it and the system's return value is kept. -/
theorem evutilGetaddrinfo_socktype_split (hm : ∀ k, malloc k = true)
    (hnp : (testForGetaddrinfoHacks getaddrinfo).1 = false)
    (hsp : (testForGetaddrinfoHacks getaddrinfo).2 = true)
    (nodename servname : Option (List UInt8)) (hintsIn : Option Addrinfo) (res : List Addrinfo) :
    evutilGetaddrinfo malloc getservbyname getprotobynumber ifNametoindex getaddrinfo nodename
      servname hintsIn res =
      some ((getaddrinfo nodename servname (systemHints true (getaddrinfoHintsCopy hintsIn))).1,
        ((getaddrinfo nodename servname (systemHints true (getaddrinfoHintsCopy hintsIn))).2.getD
          res).flatMap fun ai => splitUnset (evutilGetaddrinfoInferProtocols ai)) := by
  unfold evutilGetaddrinfo
  cases servname <;> cases nodename <;> simp [hnp, hsp, applySocktypeProtocolHack_of_malloc hm]

/-- A resolver that answers every lookup with one IPv4 record without a socktype and a
    protocol: the record becomes a TCP record and a UDP one. -/
theorem evutilGetaddrinfo_socktype_split_bare :
    evutilGetaddrinfo (fun _ => true) (fun _ _ => none) (fun _ => none) (fun _ => 0)
        (fun _ _ _ => (0, some [⟨0, PF_INET, 0, 0, 16, none⟩])) (some (cstr "host")) none none [] =
      some (0, [⟨0, PF_INET, SOCK_STREAM, IPPROTO_TCP, 16, none⟩,
        ⟨0, PF_INET, SOCK_DGRAM, IPPROTO_UDP, 16, none⟩]) :=
  evutilGetaddrinfo_socktype_split (fun _ => rfl) (by decide) (by decide) _ _ _ _

/-- **The hack leaves no record undecided.** On a resolver that needs the socktype/protocol hack
    and not the numeric-port hack, whatever the allocations do, every record of the chain
    `evutil_getaddrinfo` returns has a socktype or a protocol, and the value returned is the
    system's, or `EAI_MEMORY` with no chain when an allocation of the hack fails. -/
theorem evutilGetaddrinfo_records_set
    (hnp : (testForGetaddrinfoHacks getaddrinfo).1 = false)
    (hsp : (testForGetaddrinfoHacks getaddrinfo).2 = true)
    {nodename servname : Option (List UInt8)} {hintsIn : Option Addrinfo} {res : List Addrinfo}
    {err : Int} {chain : List Addrinfo}
    (h : evutilGetaddrinfo malloc getservbyname getprotobynumber ifNametoindex getaddrinfo
      nodename servname hintsIn res = some (err, chain)) :
    (∀ ai ∈ chain, ¬ai.Unset) ∧
      (err = (getaddrinfo nodename servname (systemHints true (getaddrinfoHintsCopy hintsIn))).1 ∨
        err = EAI_MEMORY ∧ chain = []) := by
  have key : ∀ (l : List Addrinfo) (e : Int),
      (if (applySocktypeProtocolHack malloc 0 l).1 < 0 then some (EAI_MEMORY, [])
        else some (e, (applySocktypeProtocolHack malloc 0 l).2)) = some (err, chain) →
      (∀ ai ∈ chain, ¬ai.Unset) ∧ (err = e ∨ err = EAI_MEMORY ∧ chain = []) := by
    intro l e he
    rcases applySocktypeProtocolHack_spec malloc 0 l with h1 | ⟨h0, hs⟩
    · rw [if_pos (by omega)] at he
      cases he
      exact ⟨by simp, .inr ⟨rfl, rfl⟩⟩
    · rw [if_neg (by omega)] at he
      cases he
      exact ⟨hs, .inl rfl⟩
  unfold evutilGetaddrinfo at h
  cases servname <;> cases nodename <;>
    simp only [hnp, hsp, if_true, Bool.false_eq_true, false_and, if_false] at h <;> exact key _ _ h

/-- The same resolver: both records of the split have a socktype, and the value is the
    system's. -/
theorem evutilGetaddrinfo_records_set_bare :
    evutilGetaddrinfo (fun _ => true) (fun _ _ => none) (fun _ => none) (fun _ => 0)
        (fun _ _ _ => (0, some [⟨0, PF_INET, 0, 0, 16, none⟩])) (some (cstr "host")) none none [] =
        some (0, [⟨0, PF_INET, SOCK_STREAM, IPPROTO_TCP, 16, none⟩,
          ⟨0, PF_INET, SOCK_DGRAM, IPPROTO_UDP, 16, none⟩]) ∧
      (∀ ai ∈ [(⟨0, PF_INET, SOCK_STREAM, IPPROTO_TCP, 16, none⟩ : Addrinfo),
        ⟨0, PF_INET, SOCK_DGRAM, IPPROTO_UDP, 16, none⟩], ¬ai.Unset) ∧
      ((0 : Int) = 0 ∨ (0 : Int) = EAI_MEMORY ∧ [(⟨0, PF_INET, SOCK_STREAM, IPPROTO_TCP, 16, none⟩ : Addrinfo),
          ⟨0, PF_INET, SOCK_DGRAM, IPPROTO_UDP, 16, none⟩] = []) := by
  have hp : testForGetaddrinfoHacks
      (fun _ _ _ => (0, some [(⟨0, PF_INET, 0, 0, 16, none⟩ : Addrinfo)])) = (false, true) := by
    decide
  have h : evutilGetaddrinfo (fun _ => true) (fun _ _ => none) (fun _ => none) (fun _ => 0)
      (fun _ _ _ => (0, some [⟨0, PF_INET, 0, 0, 16, none⟩])) (some (cstr "host")) none none [] =
      some (0, [⟨0, PF_INET, SOCK_STREAM, IPPROTO_TCP, 16, none⟩,
        ⟨0, PF_INET, SOCK_DGRAM, IPPROTO_UDP, 16, none⟩]) := by
    simp only [evutilGetaddrinfo, hp, applySocktypeProtocolHack_of_malloc (fun _ => rfl)]
    decide
  exact ⟨h, evutilGetaddrinfo_records_set (by rw [hp]) (by rw [hp]) h⟩

/-- **Chains libevent builds go back to `mm_free`.** Every node of a chain that
    `evutil_getaddrinfo_common_` stores in `*res` (what `evutil_getaddrinfo` answers for a
    numeric port without a node name) carries `EVUTIL_AI_LIBEVENT_ALLOCATED`, whichever
    allocations fail, so `evutil_freeaddrinfo` frees the chain node by node with `mm_free`,
    never with the system's `freeaddrinfo`. -/
theorem evutilGetaddrinfoCommon_freeaddrinfo {nodename servname : Option (List UInt8)}
    {hints ai : Addrinfo} {rest : List Addrinfo}
    (h : (evutilGetaddrinfoCommon malloc getservbyname getprotobynumber ifNametoindex nodename
      servname hints).res = some (ai :: rest)) :
    (∀ x ∈ ai :: rest, x.aiFlags = EVUTIL_AI_LIBEVENT_ALLOCATED) ∧
      evutilFreeaddrinfo (ai :: rest) = some (.mmFree (ai :: rest)) := by
  have hall := evutilGetaddrinfoCommon_allocated h
  rw [evutilFreeaddrinfo, hall ai (List.mem_cons_self _ _), if_neg (by decide)]
  exact ⟨hall, rfl⟩

/-- Port `80` with no node name, for IPv4 streams: the loopback record libevent builds. -/
theorem evutilGetaddrinfoCommon_freeaddrinfo_port :
    ∃ ai rest, (evutilGetaddrinfoCommon (fun _ => true) (fun _ _ => none) (fun _ => none)
        (fun _ => 0) none (some (cstr "80")) ⟨0, PF_INET, SOCK_STREAM, 0, 0, none⟩).res =
        some (ai :: rest) ∧ (∀ x ∈ ai :: rest, x.aiFlags = EVUTIL_AI_LIBEVENT_ALLOCATED) ∧
      evutilFreeaddrinfo (ai :: rest) = some (.mmFree (ai :: rest)) := by
  obtain ⟨ai, rest, h⟩ : ∃ ai rest, (evutilGetaddrinfoCommon (fun _ => true) (fun _ _ => none)
      (fun _ => none) (fun _ => 0) none (some (cstr "80"))
      ⟨0, PF_INET, SOCK_STREAM, 0, 0, none⟩).res = some (ai :: rest) := ⟨_, _, rfl⟩
  exact ⟨ai, rest, h, evutilGetaddrinfoCommon_freeaddrinfo h⟩

/-- **The hack's copies go back to the system.** On a resolver that needs the socktype/protocol
    hack and not the numeric-port hack, with allocations that succeed: when the system's answer
    starts with a record without `EVUTIL_AI_LIBEVENT_ALLOCATED` and has a record the hack
    splits, `evutil_getaddrinfo` returns a chain longer than the system's, and
    `evutil_freeaddrinfo` gives all of it to the system's `freeaddrinfo`, the copies `mm_malloc`
    made included. -/
theorem evutilGetaddrinfo_freeaddrinfo_system (hm : ∀ k, malloc k = true)
    (hnp : (testForGetaddrinfoHacks getaddrinfo).1 = false)
    (hsp : (testForGetaddrinfoHacks getaddrinfo).2 = true)
    {nodename servname : Option (List UInt8)} {hintsIn : Option Addrinfo} {res : List Addrinfo}
    {err : Int} {ai victim : Addrinfo} {rest : List Addrinfo}
    (hsys : getaddrinfo nodename servname (systemHints true (getaddrinfoHintsCopy hintsIn)) =
      (err, some (ai :: rest)))
    (hflag : ai.aiFlags &&& EVUTIL_AI_LIBEVENT_ALLOCATED = 0)
    (hv : victim ∈ ai :: rest) (hu : (evutilGetaddrinfoInferProtocols victim).Unset) :
    ∃ chain, evutilGetaddrinfo malloc getservbyname getprotobynumber ifNametoindex getaddrinfo
        nodename servname hintsIn res = some (err, chain) ∧
      (ai :: rest).length < chain.length ∧ evutilFreeaddrinfo chain = some .system := by
  obtain ⟨b, bs, hsplit, hb⟩ := flatMap_splitUnset_cons ai rest
  refine ⟨b :: bs, ?_, ?_, ?_⟩
  · rw [← hsplit]
    unfold evutilGetaddrinfo
    cases servname <;> cases nodename <;>
      simp [hnp, hsp, hsys, applySocktypeProtocolHack_of_malloc hm]
  · have hpos : 0 < ((ai :: rest).filter
        fun x => decide (evutilGetaddrinfoInferProtocols x).Unset).length :=
      List.length_pos.2 (List.ne_nil_of_mem (List.mem_filter.2 ⟨hv, decide_eq_true hu⟩))
    rw [← hsplit, length_flatMap_splitUnset]
    omega
  · rw [evutilFreeaddrinfo, hb, if_pos hflag]

/-- A resolver that answers every lookup with one IPv4 record without a socktype and a
    protocol: the probes turn the socktype/protocol hack on, and the record is split. -/
theorem evutilGetaddrinfo_freeaddrinfo_system_bare :
    ∃ chain, evutilGetaddrinfo (fun _ => true) (fun _ _ => none) (fun _ => none) (fun _ => 0)
        (fun _ _ _ => (0, some [⟨0, PF_INET, 0, 0, 16, none⟩])) (some (cstr "host")) none none
        [] = some (0, chain) ∧
      [(⟨0, PF_INET, 0, 0, 16, none⟩ : Addrinfo)].length < chain.length ∧
      evutilFreeaddrinfo chain = some .system :=
  evutilGetaddrinfo_freeaddrinfo_system (fun _ => rfl) (by decide) (by decide) rfl (by decide)
    (List.mem_singleton_self _) (by decide)

end Resolver

end Evutil
