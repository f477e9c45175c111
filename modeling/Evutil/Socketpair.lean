/-
  `evutil_ersatz_socketpair_` (`evutil.c`): a connected pair of `AF_INET` sockets made from a
  listener on the loopback address, for systems without `socketpair`.
  * `sysBind`, `sysListen`, `sysGetsockname`, `sysAcceptIn`: the socket calls it makes besides
    `socket` and `connect`; none opens or closes a descriptor.
  * `ersatzTidy`: its `tidy_up_and_fail:` label, which closes every descriptor that is not `-1`
    and sets `errno` to `saved_errno`. `evutilErsatzSocketpair`: the function, with the
    environment's answer to its last check (whether the connection accepted is the
    connector's) as a parameter.
  * `evutilErsatzSocketpair_opens`: it returns `-1` with the table as it was, the listener and
    whatever else it opened closed again, or `0` with two new descriptors. The first, the
    connector, has the flags `type` asks for; the second comes from a plain `accept` and has
    none, so with `SOCK_NONBLOCK` or `SOCK_CLOEXEC` in `type` the two ends differ, which
    `socketpair` does not do.
-/
import Evutil.Descriptors
import Evutil.Sockaddr

namespace Evutil

/-- `AF_UNIX` on Linux. -/
def AF_UNIX : Int := 1

/-! ## The socket calls -/

/-- `bind(fd, addr, addrlen)`. -/
def sysBind (w : World) (fd : Int) (p : Proc) : Int × Proc := sysFdCall w fd p

/-- `listen(fd, backlog)`. -/
def sysListen (w : World) (fd : Int) (p : Proc) : Int × Proc := sysFdCall w fd p

/-- `getsockname(fd, addr, &addrlen)` on an `AF_INET` socket: the value returned and `addrlen`
    after it, `sizeof(struct sockaddr_in)` when the call succeeds. -/
def sysGetsockname (w : World) (fd addrlen : Int) (p : Proc) : Int × Int × Proc :=
  let (r, p) := sysFdCall w fd p
  (r, if r = 0 then sizeofSockaddrIn else addrlen, p)

/-- `accept(sockfd, addr, &addrlen)` on an `AF_INET` listener: the new descriptor and `addrlen`
    after it, the length of the peer's `struct sockaddr_in` when the call succeeds. -/
def sysAcceptIn (w : World) (sockfd addrlen : Int) (p : Proc) : Int × Int × Proc :=
  let (r, p) := sysAccept w sockfd p
  (r, if 0 ≤ r then sizeofSockaddrIn else addrlen, p)

section Elim

variable {w : World} {p : Proc}

@[elab_as_elim]
theorem sysGetsockname_elim {motive : Int × Int × Proc → Prop} (fd addrlen : Int)
    (fail : ∀ p', p'.fds = p.fds → motive (-1, addrlen, p'))
    (ok : ∀ p', p'.fds = p.fds → motive (0, sizeofSockaddrIn, p')) :
    motive (sysGetsockname w fd addrlen p) := by
  unfold sysGetsockname
  exact sysFdCall_elim fd (fun p' h => by simpa using fail p' h) fun p' h => by simpa using ok p' h

@[elab_as_elim]
theorem sysAcceptIn_elim {motive : Int × Int × Proc → Prop} (sockfd addrlen : Int)
    (fail : ∀ p', p'.fds = p.fds → motive (-1, addrlen, p'))
    (ok : ∀ p', p'.fds = p.fds.insert p.fds.lowestFree ⟨0, false⟩ →
      motive (p.fds.lowestFree, sizeofSockaddrIn, p')) :
    motive (sysAcceptIn w sockfd addrlen p) := by
  unfold sysAcceptIn sysAccept
  refine sysAccept4_elim sockfd 0 (fun p' h => by simpa using fail p' h) fun p' h => ?_
  simpa using ok p' (by simpa using h)

end Elim

/-! ## The function -/

/-- `tidy_up_and_fail:` of `evutil_ersatz_socketpair_`: `saved_errno`, or `errno` when it is
    negative, set after closing the descriptors that are not `-1`. -/
def ersatzTidy (w : World) (savedErrno listener connector acceptor : Int) (p : Proc) : Proc :=
  let savedErrno := if savedErrno < 0 then p.errno else savedErrno
  let p := if listener ≠ -1 then (evutilClosesocket w listener p).2 else p
  let p := if connector ≠ -1 then (evutilClosesocket w connector p).2 else p
  let p := if acceptor ≠ -1 then (evutilClosesocket w acceptor p).2 else p
  { p with errno := savedErrno }

/-- `evutil_ersatz_socketpair_(family, type, protocol, fd)`, with `fd` `none` for `NULL`: the
    value returned, `fd[0]` and `fd[1]` after it, and the process. `selfConnected` is whether
    the peer `accept` reports is the address `getsockname` gives the connector. -/
def evutilErsatzSocketpair (w : World) (selfConnected : Bool) (family : Int) (type : Nat)
    (protocol : Int) (fd : Option (Int × Int)) (p : Proc) : Int × Option (Int × Int) × Proc :=
  if protocol ≠ 0 ∨ (family ≠ AF_INET ∧ family ≠ AF_UNIX) then
    (-1, fd, { p with errno := EAFNOSUPPORT })
  else
    match fd with
    | none => (-1, none, { p with errno := EINVAL })
    | some fds =>
      let fail (savedErrno listener connector acceptor : Int) (p : Proc) :
          Int × Option (Int × Int) × Proc :=
        (-1, some fds, ersatzTidy w savedErrno listener connector acceptor p)
      let (listener, p) := sysSocket w type p
      if listener < 0 then (-1, some fds, p) else
      let (r, p) := sysBind w listener p
      if r = -1 then fail (-1) listener (-1) (-1) p else
      let (r, p) := sysListen w listener p
      if r = -1 then fail (-1) listener (-1) (-1) p else
      let (connector, p) := sysSocket w type p
      if connector < 0 then fail (-1) listener connector (-1) p else
      let (r, size, p) := sysGetsockname w listener sizeofSockaddrIn p
      if r = -1 then fail (-1) listener connector (-1) p else
      if size ≠ sizeofSockaddrIn then fail ECONNABORTED listener connector (-1) p else
      let (r, p) := sysConnect w connector p
      if r = -1 then fail (-1) listener connector (-1) p else
      let (acceptor, size, p) := sysAcceptIn w listener sizeofSockaddrIn p
      if acceptor < 0 then fail (-1) listener connector acceptor p else
      if size ≠ sizeofSockaddrIn then fail ECONNABORTED listener connector acceptor p else
      let (r, size, p) := sysGetsockname w connector size p
      if r = -1 then fail (-1) listener connector acceptor p else
      if size ≠ sizeofSockaddrIn ∨ !selfConnected then
        fail ECONNABORTED listener connector acceptor p
      else (0, some (connector, acceptor), (evutilClosesocket w listener p).2)

/-! ## No descriptor leaks -/

/-- What `evutil_ersatz_socketpair_` may do from the table `t`: return `-1` with `fd` and the
    table as they were, or `0` with two descriptors, free in `t`, now open as `da` and `db`. -/
def OpensPair (t : FdTable) (fd : Option (Int × Int)) (da db : Desc)
    (r : Int × Option (Int × Int) × Proc) : Prop :=
  (r.1 = -1 ∧ r.2.1 = fd ∧ r.2.2.fds = t) ∨
    ∃ a b : Nat, r.1 = 0 ∧ r.2.1 = some ((a : Int), (b : Int)) ∧ a ≠ b ∧ t.desc a = none ∧
      t.desc b = none ∧ r.2.2.fds = (t.insert a da).insert b db

/-- `tidy_up_and_fail:` closes the listener, the connector and the acceptor, in this order;
    closing `-1` changes nothing. -/
theorem ersatzTidy_fds (w : World) (savedErrno l c a : Int) (p : Proc) :
    (ersatzTidy w savedErrno l c a p).fds = ((p.fds.erase l).erase c).erase a := by
  have hclose : ∀ (x : Int) (q : Proc),
      (if x ≠ -1 then (evutilClosesocket w x q).2 else q).fds = q.fds.erase x := by
    intro x q
    split_ifs with hx
    · exact sysClose_erase w q x
    · rw [not_not.1 hx, FdTable.erase_of_free (q.fds.desc_neg (by decide))]
  simp only [ersatzTidy, hclose]

theorem erase_neg_one (t : FdTable) : t.erase (-1) = t :=
  FdTable.erase_of_free (t.desc_neg (by decide))

/-- A failure after which the tidy-up leaves the table `t`. -/
theorem opensPair_tidy {t : FdTable} {fds : Int × Int} {da db : Desc} (w : World)
    (savedErrno l c a : Int) {q : Proc} (h : ((q.fds.erase l).erase c).erase a = t) :
    OpensPair t (some fds) da db (-1, some fds, ersatzTidy w savedErrno l c a q) :=
  .inl ⟨rfl, rfl, by rw [ersatzTidy_fds, h]⟩

/-- `evutil_ersatz_socketpair_` leaks no descriptor: it returns `-1` with the table as it was,
    or `0` with the connector, with the flags `type` asks for, and the acceptor, with none. -/
theorem evutilErsatzSocketpair_opens (w : World) (selfConnected : Bool) (family : Int)
    (type : Nat) (protocol : Int) (fd : Option (Int × Int)) (p : Proc) :
    OpensPair p.fds fd ⟨type &&& SOCK_NONBLOCK, type &&& SOCK_CLOEXEC ≠ 0⟩ ⟨0, false⟩
      (evutilErsatzSocketpair w selfConnected family type protocol fd p) := by
  set dl : Desc := ⟨type &&& SOCK_NONBLOCK, type &&& SOCK_CLOEXEC ≠ 0⟩
  unfold evutilErsatzSocketpair
  by_cases hbad : protocol ≠ 0 ∨ (family ≠ AF_INET ∧ family ≠ AF_UNIX)
  · rw [if_pos hbad]
    exact .inl ⟨rfl, rfl, rfl⟩
  rw [if_neg hbad]
  rcases fd with _ | fds
  · exact .inl ⟨rfl, rfl, rfl⟩
  dsimp only
  unfold sysSocket
  refine sysOpenOne_elim _ (fun p1 h1 => ?_) fun p1 h1 => ?_ <;> dsimp only
  · rw [if_pos (by decide)]
    exact .inl ⟨rfl, rfl, h1⟩
  rw [if_neg (by omega)]
  -- the listener is `n0`, the table `T1`
  set n0 := p.fds.lowestFree
  set T1 := p.fds.insert n0 dl
  have hf0 : p.fds.desc n0 = none := p.fds.lowestFree_free
  have e1 : ((p1.fds.erase n0).erase (-1)).erase (-1) = p.fds := by
    rw [erase_neg_one, erase_neg_one, h1, FdTable.erase_insert hf0]
  unfold sysBind sysListen
  refine sysFdCall_elim _ (fun p2 h2 => ?_) fun p2 h2 => ?_ <;> dsimp only
  · rw [if_pos rfl]
    exact opensPair_tidy w _ _ _ _ (by rw [h2, e1])
  rw [if_neg (by decide)]
  refine sysFdCall_elim _ (fun p3 h3 => ?_) fun p3 h3 => ?_ <;> dsimp only
  · rw [if_pos rfl]
    exact opensPair_tidy w _ _ _ _ (by rw [h3, h2, e1])
  rw [if_neg (by decide)]
  refine sysOpenOne_elim _ (fun p4 h4 => ?_) fun p4 h4 => ?_ <;> dsimp only
  · rw [if_pos (by decide)]
    exact opensPair_tidy w _ _ _ _ (by rw [h4, h3, h2, e1])
  rw [if_neg (by omega)]
  -- the connector is `n1`, the table `T2`
  rw [show p3.fds = T1 by rw [h3, h2, h1]] at h4 ⊢
  set n1 := T1.lowestFree
  set T2 := T1.insert n1 dl
  obtain ⟨h10, hf1⟩ := FdTable.free_of_insert T1.lowestFree_free
  have e2 : ((p4.fds.erase n0).erase n1).erase (-1) = p.fds := by
    rw [erase_neg_one, h4, FdTable.erase_insert_ne _ h10, FdTable.erase_insert hf0,
      FdTable.erase_insert hf1]
  refine sysGetsockname_elim _ _ (fun p5 h5 => ?_) fun p5 h5 => ?_ <;> dsimp only
  · rw [if_pos rfl]
    exact opensPair_tidy w _ _ _ _ (by rw [h5, e2])
  rw [if_neg (by decide), if_neg (by simp)]
  refine sysConnect_elim _ fun r p6 h6 => ?_
  dsimp only
  by_cases hr : r = -1
  · rw [if_pos hr]
    exact opensPair_tidy w _ _ _ _ (by rw [h6, h5, e2])
  rw [if_neg hr]
  refine sysAcceptIn_elim _ _ (fun p7 h7 => ?_) fun p7 h7 => ?_ <;> dsimp only
  · rw [if_pos (by decide)]
    exact opensPair_tidy w _ _ _ _ (by rw [h7, h6, h5, e2])
  rw [if_neg (by omega), if_neg (by simp)]
  -- the acceptor is `n2`
  rw [show p6.fds = T2 by rw [h6, h5, h4]] at h7 ⊢
  set n2 := T2.lowestFree
  obtain ⟨h21, hf2'⟩ := FdTable.free_of_insert T2.lowestFree_free
  obtain ⟨h20, hf2⟩ := FdTable.free_of_insert hf2'
  have e3 : ((p7.fds.erase n0).erase n1).erase n2 = p.fds := by
    rw [h7, FdTable.erase_insert_ne _ h20, FdTable.erase_insert_ne _ h10, FdTable.erase_insert hf0,
      FdTable.erase_insert_ne _ h21, FdTable.erase_insert hf1, FdTable.erase_insert hf2]
  refine sysGetsockname_elim _ _ (fun p8 h8 => ?_) fun p8 h8 => ?_ <;> dsimp only
  · rw [if_pos rfl]
    exact opensPair_tidy w _ _ _ _ (by rw [h8, e3])
  rw [if_neg (by decide)]
  cases selfConnected
  · rw [if_pos (by simp)]
    exact opensPair_tidy w _ _ _ _ (by rw [h8, e3])
  rw [if_neg (by simp)]
  refine .inr ⟨_, _, rfl, rfl, fun h => h21 (congrArg _ h.symm), hf1, hf2, ?_⟩
  rw [evutilClosesocket, sysClose_erase, h8, h7, FdTable.erase_insert_ne _ h20,
    FdTable.erase_insert_ne _ h10, FdTable.erase_insert hf0]

end Evutil
