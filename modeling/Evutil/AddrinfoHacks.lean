/-
  The two repairs `evutil_getaddrinfo` makes to the chain the system's `getaddrinfo` returns
  (`evutil.c`), on systems where `test_for_getaddrinfo_hacks` finds them needed.

  * `applyNumericPortHack` (`apply_numeric_port_hack`): the loop over `struct addrinfo **ai`,
    which sets the port of the `AF_INET` and `AF_INET6` records and unlinks the others. After an
    unlink `*ai` already holds the next record, and the step `ai = &(*ai)->ai_next` passes over
    it, or follows `NULL` when there is none (`none`).
    `applyNumericPortHack_append`: records whose port is set are kept in order;
    `numeric_port_hack_unlink_skips`: an unlinked last record makes the step follow `NULL`,
    and the record after an unlinked one is left as it is.
  * `applySocktypeProtocolHack` (`apply_socktype_protocol_hack`): the loop that splits each
    record without a socktype and a protocol into a TCP record and a UDP copy linked after it,
    and goes on from the copy. It ends: `socktypeHackWork` counts the rounds left.
    `applySocktypeProtocolHack_of_malloc`: when the allocations succeed it returns `0` and the
    chain `flatMap` of `splitUnset` after `evutil_getaddrinfo_infer_protocols`, which
    `socktype_protocol_hack_splits` states as each record's TCP and UDP pair.
    `applySocktypeProtocolHack_spec`: whatever the allocations do, it returns `-1`, or `0` with
    no record left without a socktype and a protocol.
-/
import Evutil.Addrinfo

namespace Evutil

/-! ## `apply_numeric_port_hack` -/

/-- The body of the loop of `apply_numeric_port_hack` on the record `*ai`: the record with its
    port set when `ai_addr` is an `AF_INET` or `AF_INET6` address, `none` when the record is
    unlinked and freed. -/
def numericPortSet (port : Int) (ai : Addrinfo) : Option Addrinfo :=
  match ai.aiAddr with
  | some (.in4 sin) => some { ai with aiAddr := some (.in4 { sin with sinPort := htonsPort port }) }
  | some (.in6 sin6) =>
    some { ai with aiAddr := some (.in6 { sin6 with sin6Port := htonsPort port }) }
  | _ => none

/-- `apply_numeric_port_hack(port, ai)` on the chain `*ai`: the chain left in `*ai`, or `none`
    when the step `ai = &(*ai)->ai_next` dereferences `NULL`. A round reads only the chain from
    `*ai` on, so the loop is a recursion on it: a record whose port is set is kept and the step
    moves past it; an unlinked record is replaced in `*ai` by the next one, and the step then
    moves past that one without looking at it. -/
def applyNumericPortHack (port : Int) : List Addrinfo → Option (List Addrinfo)
  | [] => some []
  | ai :: rest =>
    match numericPortSet port ai with
    | some ai' => (applyNumericPortHack port rest).map (ai' :: ·)
    | none =>
      match rest with
      | [] => none
      | next :: rest' => (applyNumericPortHack port rest').map (next :: ·)

theorem applyNumericPortHack_cons_set {port : Int} {ai ai' : Addrinfo}
    (h : numericPortSet port ai = some ai') (rest : List Addrinfo) :
    applyNumericPortHack port (ai :: rest) = (applyNumericPortHack port rest).map (ai' :: ·) := by
  cases rest <;> simp [applyNumericPortHack, h]

/-- A prefix of records whose port is set is kept, in order, with the ports set. -/
theorem applyNumericPortHack_append {port : Int} {pre : List Addrinfo}
    (hpre : ∀ ai ∈ pre, numericPortSet port ai ≠ none) (l : List Addrinfo) :
    applyNumericPortHack port (pre ++ l) =
      (applyNumericPortHack port l).map (pre.filterMap (numericPortSet port) ++ ·) := by
  induction pre with
  | nil => simp
  | cons ai pre ih =>
    obtain ⟨ai', h⟩ := Option.ne_none_iff_exists'.1 (hpre ai (List.mem_cons_self _ _))
    rw [List.cons_append, applyNumericPortHack_cons_set h, ih fun b hb => hpre b (by simp [hb])]
    simp [List.filterMap_cons, h, Function.comp_def]

/-- On a chain of `AF_INET` and `AF_INET6` records the hack sets every port. -/
theorem applyNumericPortHack_of_inet {port : Int} {l : List Addrinfo}
    (hl : ∀ ai ∈ l, numericPortSet port ai ≠ none) :
    applyNumericPortHack port l = some (l.filterMap (numericPortSet port)) := by
  simpa [applyNumericPortHack] using applyNumericPortHack_append hl []

theorem applyNumericPortHack_of_inet_loopback :
    applyNumericPortHack 80 [⟨0, PF_INET, SOCK_STREAM, IPPROTO_TCP, 16,
        some (.in4 ⟨0, ⟨![127, 0, 0, 1]⟩, fun _ => 0⟩)⟩] =
      some ([(⟨0, PF_INET, SOCK_STREAM, IPPROTO_TCP, 16,
        some (.in4 ⟨0, ⟨![127, 0, 0, 1]⟩, fun _ => 0⟩)⟩ : Addrinfo)].filterMap (numericPortSet 80)) :=
  applyNumericPortHack_of_inet (by simp [numericPortSet])

/-- After records whose port is set, an unlinked last record makes the step follow `NULL`. -/
theorem applyNumericPortHack_last_unlinked {port : Int} {pre : List Addrinfo}
    (hpre : ∀ ai ∈ pre, numericPortSet port ai ≠ none) {victim : Addrinfo}
    (hv : numericPortSet port victim = none) :
    applyNumericPortHack port (pre ++ [victim]) = none := by
  rw [applyNumericPortHack_append hpre]
  simp [applyNumericPortHack, hv]

/-- **An unlinked record skips the step.** After records whose port is set, a record that is
    unlinked makes the step `ai = &(*ai)->ai_next` dereference `NULL` when it was the last, and
    otherwise moves past the record after it, which stays in the chain as it was. -/
theorem numeric_port_hack_unlink_skips (port : Int) (pre : List Addrinfo)
    (hpre : ∀ ai ∈ pre, numericPortSet port ai ≠ none) (victim : Addrinfo)
    (hv : numericPortSet port victim = none) :
    applyNumericPortHack port (pre ++ [victim]) = none ∧
    ∀ next rest, applyNumericPortHack port (pre ++ victim :: next :: rest) =
      (applyNumericPortHack port rest).map (pre.filterMap (numericPortSet port) ++ next :: ·) := by
  refine ⟨applyNumericPortHack_last_unlinked hpre hv, fun next rest => ?_⟩
  rw [applyNumericPortHack_append hpre]
  simp [applyNumericPortHack, hv, Function.comp_def]

/-- A chain of one record with no address: the hack follows `NULL`. -/
theorem numeric_port_hack_null_addr :
    ((∀ ai ∈ ([] : List Addrinfo), numericPortSet 80 ai ≠ none) ∧
      numericPortSet 80 ⟨0, PF_UNSPEC, 0, 0, 0, none⟩ = none) ∧
    (applyNumericPortHack 80 ([] ++ [⟨0, PF_UNSPEC, 0, 0, 0, none⟩]) = none ∧
    ∀ next rest, applyNumericPortHack 80 ([] ++ ⟨0, PF_UNSPEC, 0, 0, 0, none⟩ :: next :: rest) =
      (applyNumericPortHack 80 rest).map (([] : List Addrinfo).filterMap (numericPortSet 80) ++
        next :: ·)) :=
  ⟨⟨by simp, rfl⟩, numeric_port_hack_unlink_skips 80 [] (by simp) _ rfl⟩

/-! ## `apply_socktype_protocol_hack` -/

/-- The rounds left to the loop of `apply_socktype_protocol_hack` on a chain: one per record,
    and one more for a record without a socktype, which it may split in two. -/
def socktypeHackWork (l : List Addrinfo) : Nat :=
  (l.map fun ai => if ai.aiSocktype = 0 then 2 else 1).sum

/-- Splitting a record leaves one round less: the UDP copy has a socktype. -/
theorem socktypeHackWork_udp {ai : Addrinfo} (h : (evutilGetaddrinfoInferProtocols ai).Unset)
    (rest : List Addrinfo) :
    socktypeHackWork ((evutilGetaddrinfoInferProtocols ai).withProto SOCK_DGRAM IPPROTO_UDP :: rest)
      < socktypeHackWork (ai :: rest) := by
  have hu := (evutilGetaddrinfoInferProtocols_unset_iff ai).1 h
  simp [socktypeHackWork, hu.1, SOCK_DGRAM]

/-- `apply_socktype_protocol_hack(ai)` on the chain from `ai`, after `n` allocations: the value
    it returns and the chain, changed in place also when it returns `-1`. A record still without
    a socktype and a protocol after `evutil_getaddrinfo_infer_protocols` becomes a TCP record
    with a UDP copy (`memcpy`) linked after it, and the loop goes on from the copy. -/
def applySocktypeProtocolHack (malloc : Nat → Bool) (n : Nat) :
    List Addrinfo → Int × List Addrinfo
  | [] => (0, [])
  | ai :: rest =>
    let ai' := evutilGetaddrinfoInferProtocols ai
    if hset : ai'.aiSocktype ≠ 0 ∨ ai'.aiProtocol ≠ 0 then
      let r := applySocktypeProtocolHack malloc n rest
      (r.1, ai' :: r.2)
    else if malloc n then
      let r := applySocktypeProtocolHack malloc (n + 1)
        (ai'.withProto SOCK_DGRAM IPPROTO_UDP :: rest)
      (r.1, ai'.withProto SOCK_STREAM IPPROTO_TCP :: r.2)
    else (-1, ai' :: rest)
termination_by l => socktypeHackWork l
decreasing_by
  · simp only [socktypeHackWork, List.map_cons, List.sum_cons]
    split <;> omega
  · refine socktypeHackWork_udp ?_ _
    simpa only [Addrinfo.Unset, not_or, not_not] using hset

/-- **The split, when the allocations succeed.** The hack returns `0`, and each record gives
    the records `splitUnset` makes of it after `evutil_getaddrinfo_infer_protocols`: the UDP copy
    the loop moves onto already has a socktype, so it is not split again. -/
theorem applySocktypeProtocolHack_of_malloc {malloc : Nat → Bool} (hm : ∀ k, malloc k = true)
    (n : Nat) (l : List Addrinfo) :
    applySocktypeProtocolHack malloc n l =
      (0, l.flatMap fun ai => splitUnset (evutilGetaddrinfoInferProtocols ai)) := by
  induction n, l using applySocktypeProtocolHack.induct malloc with
  | case1 n => simp [applySocktypeProtocolHack]
  | case2 n ai rest ai' hset ih =>
    simp only [ai'] at hset
    have hs : ¬(evutilGetaddrinfoInferProtocols ai).Unset := by
      simp only [Addrinfo.Unset]; omega
    rw [applySocktypeProtocolHack, dif_pos hset]
    simp [ih, splitUnset, hs]
  | case3 n ai rest ai' hset _ ih =>
    simp only [ai'] at hset
    have hs : (evutilGetaddrinfoInferProtocols ai).Unset := by
      simp only [Addrinfo.Unset]; omega
    rw [applySocktypeProtocolHack, dif_neg hset, if_pos (hm n)]
    have hu : ¬(Addrinfo.withProto (evutilGetaddrinfoInferProtocols ai) SOCK_DGRAM
        IPPROTO_UDP).Unset := by
      simp [Addrinfo.Unset, SOCK_DGRAM]
    simp [ih, splitUnset, hs, hu]
  | case4 n ai rest _ _ hf => exact absurd (hm n) hf

/-- **No record left undecided.** The hack returns `-1` when an allocation fails, and otherwise
    `0` with every record of the chain given a socktype or a protocol. -/
theorem applySocktypeProtocolHack_spec (malloc : Nat → Bool) (n : Nat) (l : List Addrinfo) :
    (applySocktypeProtocolHack malloc n l).1 = -1 ∨
      ((applySocktypeProtocolHack malloc n l).1 = 0 ∧
        ∀ ai ∈ (applySocktypeProtocolHack malloc n l).2, ¬ai.Unset) := by
  induction n, l using applySocktypeProtocolHack.induct malloc with
  | case1 n => simp [applySocktypeProtocolHack]
  | case2 n ai rest ai' hset ih =>
    rw [applySocktypeProtocolHack, dif_pos hset]
    refine ih.imp_right fun ⟨h0, hs⟩ => ⟨h0, ?_⟩
    simp only [ai'] at hset
    simp only [List.mem_cons, forall_eq_or_imp, Addrinfo.Unset]
    exact ⟨by omega, hs⟩
  | case3 n ai rest ai' hset _ ih =>
    rw [applySocktypeProtocolHack, dif_neg hset, if_pos ‹_›]
    refine ih.imp_right fun ⟨h0, hs⟩ => ⟨h0, ?_⟩
    simp only [List.mem_cons, forall_eq_or_imp]
    exact ⟨by simp [Addrinfo.Unset, SOCK_STREAM], hs⟩
  | case4 n ai rest _ _ hf =>
    rw [applySocktypeProtocolHack, dif_neg ‹_›, if_neg hf]
    exact .inl rfl

/-- **`apply_socktype_protocol_hack` in the words of its specification.** When every
    allocation succeeds it returns `0` and leaves the chain `concatMap g`, where `g x` is the
    record `evutil_getaddrinfo_infer_protocols` makes of `x` when that has a socktype or a
    protocol, and otherwise `x` as a TCP stream followed by a copy of `x` as a UDP datagram. -/
theorem socktype_protocol_hack_splits {malloc : Nat → Bool} (hm : ∀ k, malloc k = true)
    (n : Nat) (l : List Addrinfo) :
    applySocktypeProtocolHack malloc n l = (0, l.flatMap fun x =>
      if (evutilGetaddrinfoInferProtocols x).aiSocktype ≠ 0 ∨
          (evutilGetaddrinfoInferProtocols x).aiProtocol ≠ 0 then
        [evutilGetaddrinfoInferProtocols x]
      else [{ x with aiSocktype := SOCK_STREAM, aiProtocol := IPPROTO_TCP },
        { x with aiSocktype := SOCK_DGRAM, aiProtocol := IPPROTO_UDP }]) := by
  rw [applySocktypeProtocolHack_of_malloc hm]
  congr 2
  funext x
  unfold splitUnset
  by_cases hu : x.Unset
  · have hu' := (evutilGetaddrinfoInferProtocols_unset_iff x).2 hu
    rw [if_pos hu', if_neg (by simp only [Addrinfo.Unset] at hu'; omega),
      evutilGetaddrinfoInferProtocols_of_unset hu]
    rfl
  · have hu' := mt (evutilGetaddrinfoInferProtocols_unset_iff x).1 hu
    rw [if_neg hu', if_pos (by simp only [Addrinfo.Unset] at hu'; omega)]

/-- One record with neither a socktype nor a protocol. -/
theorem socktype_protocol_hack_splits_unset :
    (∀ k, (fun _ : Nat => true) k = true) ∧
    applySocktypeProtocolHack (fun _ => true) 0 [⟨0, PF_INET, 0, 0, 16, none⟩] =
      (0, [(⟨0, PF_INET, 0, 0, 16, none⟩ : Addrinfo)].flatMap fun x =>
        if (evutilGetaddrinfoInferProtocols x).aiSocktype ≠ 0 ∨
            (evutilGetaddrinfoInferProtocols x).aiProtocol ≠ 0 then
          [evutilGetaddrinfoInferProtocols x]
        else [{ x with aiSocktype := SOCK_STREAM, aiProtocol := IPPROTO_TCP },
          { x with aiSocktype := SOCK_DGRAM, aiProtocol := IPPROTO_UDP }]) :=
  ⟨fun _ => rfl, socktype_protocol_hack_splits (fun _ => rfl) 0 _⟩

end Evutil
