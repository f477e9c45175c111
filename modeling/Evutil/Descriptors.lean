/-
  The descriptor wrappers of `evutil.c`: each opens a socket, an `eventfd`, a file or a pipe,
  sets `O_NONBLOCK` and `FD_CLOEXEC` on it as asked, and closes what it opened when a later
  step fails.
  * `evutilMakeSocketNonblocking`, `evutilMakeSocketCloseonexec` (read the flags, then set the
    bit) and `evutilFastSocketNonblocking`, `evutilFastSocketCloseonexec` (set the flag word
    to the bit): `setFlag` and `fastSetFlag` with the member's command and bit.
  * `evutilSocket`, `evutilAccept4`, `evutilEventfd`, `evutilOpenCloseonexec`: one descriptor,
    with the system call's flags, or without them and the fast setters after it.
    `evutilMakeInternalPipe`: two, from `pipe2`, `pipe` or `socketpair`.
  * `OpensOne`, `OpensTwo`: a wrapper returns `-1` with the table as it was, or new descriptors,
    free before, with the flags asked for. `evutilSocket_opens`, `evutilAccept4_opens`,
    `evutilEventfd_opens`, `evutilOpenCloseonexec_opens`, `evutilMakeInternalPipe_opens`: every
    wrapper does, so none leaks a descriptor on a failure.
  * `evutilSocketConnect`, `evutilSocketFinishedConnecting`: a connect and the check whether it
    finished, which reads the error pending on the socket and opens and closes nothing.
-/
import Evutil.Kernel
import Evutil.CLib

namespace Evutil

/-! ## The flag setters -/

/-- `fcntl(fd, cmd, bit)`, `-1` when it fails: the fast setters, which require that no other
    flag of the word was set. -/
def fastSetFlag (cmd bit : Nat) (w : World) (fd : Int) (p : Proc) : Int × Proc :=
  let (r, p) := sysFcntl w fd cmd bit p
  if r = -1 then (-1, p) else (0, p)

/-- `evutil_fast_socket_nonblocking(fd)`. -/
def evutilFastSocketNonblocking (w : World) (fd : Int) (p : Proc) : Int × Proc :=
  fastSetFlag F_SETFL O_NONBLOCK w fd p

/-- `evutil_fast_socket_closeonexec(fd)`. -/
def evutilFastSocketCloseonexec (w : World) (fd : Int) (p : Proc) : Int × Proc :=
  fastSetFlag F_SETFD FD_CLOEXEC w fd p

/-- `flags = fcntl(fd, get, NULL)`, then `fcntl(fd, set, flags | bit)` when `bit` is not in
    `flags`. -/
def setFlag (getCmd setCmd bit : Nat) (w : World) (fd : Int) (p : Proc) : Int × Proc :=
  let (flags, p) := sysFcntl w fd getCmd 0 p
  if flags < 0 then (-1, p)
  else if flags.toNat &&& bit = 0 then
    let (r, p) := sysFcntl w fd setCmd (flags.toNat ||| bit) p
    if r = -1 then (-1, p) else (0, p)
  else (0, p)

/-- `evutil_make_socket_nonblocking(fd)`. -/
def evutilMakeSocketNonblocking (w : World) (fd : Int) (p : Proc) : Int × Proc :=
  setFlag F_GETFL F_SETFL O_NONBLOCK w fd p

/-- `evutil_make_socket_closeonexec(fd)`. -/
def evutilMakeSocketCloseonexec (w : World) (fd : Int) (p : Proc) : Int × Proc :=
  setFlag F_GETFD F_SETFD FD_CLOEXEC w fd p

/-- `evutil_closesocket(sock)`. -/
def evutilClosesocket (w : World) (sock : Int) (p : Proc) : Int × Proc := sysClose w sock p

/-- `if (want && set(r) < 0) { evutil_closesocket(r); return -1; }`: the process after the
    close when the wrapper returns `-1` there, the process to go on with otherwise. -/
def flagStep (set : World → Int → Proc → Int × Proc) (want : Bool) (w : World) (r : Int)
    (p : Proc) : Except Proc Proc :=
  if want then
    let (s, p) := set w r p
    if s < 0 then .error (evutilClosesocket w r p).2 else .ok p
  else .ok p

/-- `if (want1 && set1(r) < 0) { evutil_closesocket(r); return -1; }`, the same with `set2`,
    then `return r`: the end of `evutil_socket_`, `evutil_accept4_` and `evutil_eventfd_`. -/
def flagSteps (set1 : World → Int → Proc → Int × Proc) (want1 : Bool)
    (set2 : World → Int → Proc → Int × Proc) (want2 : Bool) (w : World) (r : Int) (p : Proc) :
    Int × Proc :=
  match flagStep set1 want1 w r p with
  | .error p => (-1, p)
  | .ok p =>
    match flagStep set2 want2 w r p with
    | .error p => (-1, p)
    | .ok p => (r, p)

/-! ## The wrappers that open one descriptor -/

/-- `SOCKET_TYPE_MASK`, `~(SOCK_NONBLOCK|SOCK_CLOEXEC)` on the 32 bits of `type`. -/
def SOCKET_TYPE_MASK : Nat := 2 ^ 32 - 1 - (SOCK_NONBLOCK ||| SOCK_CLOEXEC)

/-- `evutil_socket_(domain, type, protocol)`. -/
def evutilSocket (w : World) (type : Nat) (p : Proc) : Int × Proc :=
  let (r, p) := sysSocket w type p
  if 0 ≤ r then (r, p)
  else if type &&& (SOCK_NONBLOCK ||| SOCK_CLOEXEC) = 0 then (-1, p)
  else
    let (r, p) := sysSocket w (type &&& SOCKET_TYPE_MASK) p
    if r < 0 then (-1, p)
    else
      flagSteps evutilFastSocketNonblocking (type &&& SOCK_NONBLOCK ≠ 0)
        evutilFastSocketCloseonexec (type &&& SOCK_CLOEXEC ≠ 0) w r p

/-- `evutil_accept4_(sockfd, addr, addrlen, flags)`. -/
def evutilAccept4 (w : World) (sockfd : Int) (flags : Nat) (p : Proc) : Int × Proc :=
  let (result, p) := sysAccept4 w sockfd flags p
  if 0 ≤ result ∨ (p.errno ≠ EINVAL ∧ p.errno ≠ ENOSYS) then (result, p)
  else
    let (result, p) := sysAccept w sockfd p
    if result < 0 then (result, p)
    else
      flagSteps evutilFastSocketCloseonexec (flags &&& SOCK_CLOEXEC ≠ 0)
        evutilFastSocketNonblocking (flags &&& SOCK_NONBLOCK ≠ 0) w result p

/-- `evutil_eventfd_(initval, flags)`. -/
def evutilEventfd (w : World) (flags : Nat) (p : Proc) : Int × Proc :=
  let (r, p) := sysEventfd w flags p
  if 0 ≤ r ∨ flags = 0 then (r, p)
  else
    let (r, p) := sysEventfd w 0 p
    if r < 0 then (r, p)
    else
      flagSteps evutilFastSocketCloseonexec (flags &&& EFD_CLOEXEC ≠ 0)
        evutilFastSocketNonblocking (flags &&& EFD_NONBLOCK ≠ 0) w r p

/-- `evutil_open_closeonexec_(pathname, flags, mode)`. -/
def evutilOpenCloseonexec (w : World) (flags : Nat) (p : Proc) : Int × Proc :=
  let (fd, p) := sysOpen w (flags ||| O_CLOEXEC) p
  if 0 ≤ fd ∨ p.errno = EINVAL then (fd, p)
  else
    let (fd, p) := sysOpen w flags p
    if fd < 0 then (-1, p)
    else
      let (r, p) := sysFcntl w fd F_SETFD FD_CLOEXEC p
      if r < 0 then (-1, (sysClose w fd p).2) else (fd, p)

/-- `SOCK_STREAM`. -/
def SOCK_STREAM_TYPE : Nat := 1

/-! ## Connecting -/

/-- `EVUTIL_ERR_CONNECT_RETRIABLE(e)` on Unix. -/
def evutilErrConnectRetriable (e : Int) : Bool := e = EINTR ∨ e = EINPROGRESS

/-- `EVUTIL_ERR_CONNECT_REFUSED(e)` on Unix. -/
def evutilErrConnectRefused (e : Int) : Bool := e = ECONNREFUSED

/-- The `err:` label of `evutil_socket_connect_`: the value returned, `*fd_ptr`, the process. -/
def socketConnectErr (w : World) (madeFd : Bool) (fd : Int) (p : Proc) : Int × Int × Proc :=
  if madeFd then (-1, -1, (evutilClosesocket w fd p).2) else (-1, fd, p)

/-- `evutil_socket_connect_(fd_ptr, sa, socklen)` with `*fd_ptr = fdPtr`: the value returned,
    `*fd_ptr` after it, and the process. -/
def evutilSocketConnect (w : World) (fdPtr : Int) (p : Proc) : Int × Int × Proc :=
  let start : Except (Int × Int × Proc) (Int × Bool × Proc) :=
    if fdPtr < 0 then
      let (fd, p) := sysSocket w SOCK_STREAM_TYPE p
      if fd < 0 then .error (socketConnectErr w false fd p)
      else
        let (r, p) := evutilMakeSocketNonblocking w fd p
        if r < 0 then .error (socketConnectErr w true fd p) else .ok (fd, true, p)
    else .ok (fdPtr, false, p)
  match start with
  | .error res => res
  | .ok (fd, madeFd, p) =>
    let (r, p) := sysConnect w fd p
    if r < 0 then
      if evutilErrConnectRetriable p.errno then (0, fd, p)
      else if evutilErrConnectRefused p.errno then (2, fd, p)
      else socketConnectErr w madeFd fd p
    else (1, fd, p)

/-- `evutil_socket_finished_connecting_(fd)`, with `soError` the error pending on the socket,
    which `getsockopt(fd, SOL_SOCKET, SO_ERROR, &e, &elen)` reads into `e` when it succeeds. -/
def evutilSocketFinishedConnecting (w : World) (soError fd : Int) (p : Proc) : Int × Proc :=
  let (r, p) := sysFdCall w fd p
  if r < 0 then (-1, p)
  else if soError ≠ 0 then
    if evutilErrConnectRetriable soError then (0, p) else (-1, { p with errno := soError })
  else (1, p)

/-! ## The pipe -/

/-- The condition `evutil_fast_socket_nonblocking(fd[0]) < 0 || ... ||
    evutil_fast_socket_closeonexec(fd[1]) < 0` of `evutil_make_internal_pipe_`, left to right:
    whether a call failed, and the process after the calls made. -/
def pipeFlagsFail (w : World) (fd : Int × Int) (p : Proc) : Bool × Proc :=
  let (r, p) := evutilFastSocketNonblocking w fd.1 p
  if r < 0 then (true, p) else
  let (r, p) := evutilFastSocketNonblocking w fd.2 p
  if r < 0 then (true, p) else
  let (r, p) := evutilFastSocketCloseonexec w fd.1 p
  if r < 0 then (true, p) else
  let (r, p) := evutilFastSocketCloseonexec w fd.2 p
  (decide (r < 0), p)

/-- `if (...) { close(fd[0]); close(fd[1]); fd[0] = fd[1] = -1; return -1; } return 0;` after
    `pipe` and after `socketpair` in `evutil_make_internal_pipe_`, with `close` or
    `evutil_closesocket` as the closer. -/
def pipeFinish (close : World → Int → Proc → Int × Proc) (w : World) (fd : Int × Int)
    (p : Proc) : Int × (Int × Int) × Proc :=
  let (bad, p) := pipeFlagsFail w fd p
  if bad then (-1, (-1, -1), (close w fd.2 (close w fd.1 p).2).2) else (0, fd, p)

/-- `evutil_make_internal_pipe_(fd)`: the value returned, `fd` after it, and the process. -/
def evutilMakeInternalPipe (w : World) (fd : Int × Int) (p : Proc) : Int × (Int × Int) × Proc :=
  let (r, fd, p) := sysPipe2 w (O_NONBLOCK ||| O_CLOEXEC) fd p
  if r = 0 then (0, fd, p)
  else
    let (r, fd, p) := sysPipe w fd p
    if r = 0 then pipeFinish sysClose w fd p
    else
      let (r, fd, p) := sysSocketpair w SOCK_STREAM_TYPE fd p
      if r = 0 then pipeFinish evutilClosesocket w fd p
      else (-1, (-1, -1), p)

/-! ## What the setters do -/

/-- `set` on an open descriptor `r` returns a negative value with the table as it was, or a
    nonnegative one with `f` applied to the descriptor. -/
def SetterSpec (set : World → Int → Proc → Int × Proc) (f : Desc → Desc) : Prop :=
  ∀ (w : World) (p : Proc) (r : Int), p.fds.desc r ≠ none →
    ((set w r p).1 < 0 ∧ (set w r p).2.fds = p.fds) ∨
      (0 ≤ (set w r p).1 ∧ (set w r p).2.fds = p.fds.modify r f)

theorem fastSetFlag_spec {cmd : Nat} (hcmd : cmd = F_SETFL ∨ cmd = F_SETFD) (bit : Nat) :
    SetterSpec (fastSetFlag cmd bit) (fcntlSet cmd bit) := by
  intro w p r h
  unfold fastSetFlag
  exact sysFcntl_set_elim h hcmd bit (fun p' h' => by simp [h']) (fun p' h' => by simp [h'])

theorem setFlag_spec {getCmd setCmd bit : Nat} {f : Desc → Desc}
    (hget : getCmd = F_GETFL ∨ getCmd = F_GETFD) (hset : setCmd = F_SETFL ∨ setCmd = F_SETFD)
    (hkeep : ∀ d, fcntlGet getCmd d &&& bit ≠ 0 → f d = d)
    (hchange : ∀ d, fcntlGet getCmd d &&& bit = 0 →
      fcntlSet setCmd (fcntlGet getCmd d ||| bit) d = f d) :
    SetterSpec (setFlag getCmd setCmd bit) f := by
  intro w p r h
  obtain ⟨d, hd⟩ := Option.ne_none_iff_exists'.1 h
  unfold setFlag
  refine sysFcntl_get_elim hd hget 0 (fun p1 h1 => .inl ⟨by simp, by simp [h1]⟩) fun p1 h1 => ?_
  simp only [Int.toNat_ofNat, Int.natCast_nonneg, not_lt.2, if_false]
  by_cases hb : fcntlGet getCmd d &&& bit = 0
  · rw [if_pos hb]
    exact sysFcntl_set_elim (by rw [h1]; exact h) hset _
      (fun p2 h2 => .inl ⟨by simp, by simp [h2, h1]⟩)
      (fun p2 h2 => .inr ⟨by simp, by simp [h2, h1, FdTable.modify_congr hd (hchange d hb)]⟩)
  · rw [if_neg hb]
    exact .inr ⟨le_rfl, by rw [h1, FdTable.modify_self hd (hkeep d hb)]⟩

/-- Case analysis on a setter call on an open descriptor. -/
@[elab_as_elim]
theorem SetterSpec.elim {set : World → Int → Proc → Int × Proc} {f : Desc → Desc}
    (hs : SetterSpec set f) {w : World} {p : Proc} {r : Int} (h : p.fds.desc r ≠ none)
    {motive : Int × Proc → Prop} (fail : ∀ s p', s < 0 → p'.fds = p.fds → motive (s, p'))
    (ok : ∀ s p', 0 ≤ s → p'.fds = p.fds.modify r f → motive (s, p')) : motive (set w r p) := by
  rcases hs w p r h with ⟨h1, h2⟩ | ⟨h1, h2⟩
  · exact fail _ _ h1 h2
  · exact ok _ _ h1 h2

theorem evutilFastSocketNonblocking_spec :
    SetterSpec evutilFastSocketNonblocking (fcntlSet F_SETFL O_NONBLOCK) :=
  fastSetFlag_spec (.inl rfl) O_NONBLOCK

theorem evutilFastSocketCloseonexec_spec :
    SetterSpec evutilFastSocketCloseonexec (fcntlSet F_SETFD FD_CLOEXEC) :=
  fastSetFlag_spec (.inr rfl) FD_CLOEXEC

theorem evutilMakeSocketNonblocking_spec :
    SetterSpec evutilMakeSocketNonblocking fun d => { d with status := d.status ||| O_NONBLOCK } := by
  refine setFlag_spec (.inl rfl) (.inl rfl) (fun d h => ?_) (fun d _ => ?_)
  · rcases and_two_pow_cases d.status 11 with h' | h'
    · exact absurd h' h
    · exact congrArg (Desc.mk · d.cloexec) (or_eq_self_of_and_eq h')
  · simp [fcntlGet, fcntlSet, setflStatus_or d.status O_NONBLOCK (by decide)]

theorem evutilMakeSocketCloseonexec_spec :
    SetterSpec evutilMakeSocketCloseonexec fun d => { d with cloexec := true } := by
  refine setFlag_spec (.inr rfl) (.inr rfl) (fun d h => ?_) (fun d h => ?_) <;>
    cases d with | mk s c => cases c <;> simp_all [fcntlGet, fcntlSet, F_GETFD, F_GETFL, F_SETFD,
      F_SETFL, FD_CLOEXEC]

/-! ## Opening one descriptor -/

/-- What a wrapper that returns one descriptor may do from the table `t`: return `-1` with the
    table as it was, or a descriptor free in `t` and now open as `d`. -/
def OpensOne (t : FdTable) (d : Desc) (r : Int × Proc) : Prop :=
  (r.1 = -1 ∧ r.2.fds = t) ∨ ∃ n : Nat, r.1 = n ∧ t.desc n = none ∧ r.2.fds = t.insert n d

/-- Case analysis on what a wrapper that opens one descriptor returned. -/
@[elab_as_elim]
theorem OpensOne.elim {t : FdTable} {d : Desc} {r : Int × Proc} (h : OpensOne t d r)
    {motive : Int × Proc → Prop} (fail : ∀ p', p'.fds = t → motive (-1, p'))
    (ok : ∀ (n : Nat) p', t.desc n = none → p'.fds = t.insert n d → motive (n, p')) :
    motive r := by
  obtain ⟨a, q⟩ := r
  rcases h with ⟨h1, h2⟩ | ⟨n, h1, hn, h2⟩ <;> dsimp only at h1 h2 <;> subst h1
  · exact fail q h2
  · exact ok n q hn h2

theorem flagStep_cases {set : World → Int → Proc → Int × Proc} {f : Desc → Desc}
    (hs : SetterSpec set f) (want : Bool) (w : World) {r : Int} {p : Proc}
    (h : p.fds.desc r ≠ none) :
    (∃ p', flagStep set want w r p = .error p' ∧ p'.fds = p.fds.erase r) ∨
      ∃ p', flagStep set want w r p = .ok p' ∧ p'.fds = p.fds.modify r (if want then f else id) := by
  unfold flagStep
  cases want
  · exact .inr ⟨p, rfl, by simp⟩
  rw [if_pos rfl, if_pos rfl]
  refine hs.elim h (fun s p1 hs h1 => .inl ⟨_, by dsimp only; rw [if_pos hs], ?_⟩)
    (fun s p1 hs h1 => .inr ⟨p1, by dsimp only; rw [if_neg (not_lt.2 hs)], by simpa using h1⟩)
  rw [evutilClosesocket, sysClose_erase, h1]

theorem flagSteps_opens {set1 set2 : World → Int → Proc → Int × Proc} {f1 f2 : Desc → Desc}
    (hs1 : SetterSpec set1 f1) (hs2 : SetterSpec set2 f2) (want1 want2 : Bool) (w : World)
    {t : FdTable} {n : Nat} (hn : t.desc n = none) (d : Desc) {p : Proc}
    (hp : p.fds = t.insert n d) :
    OpensOne t ((if want2 then f2 else id) ((if want1 then f1 else id) d))
      (flagSteps set1 want1 set2 want2 w n p) := by
  have hopen : p.fds.desc n ≠ none := by simp [hp]
  unfold flagSteps
  rcases flagStep_cases hs1 want1 w hopen with ⟨p1, e1, h1⟩ | ⟨p1, e1, h1⟩ <;> rw [e1]
  · exact .inl ⟨rfl, by rw [h1, hp, FdTable.erase_insert hn]⟩
  have h1' : p1.fds = t.insert n ((if want1 then f1 else id) d) := by
    rw [h1, hp, FdTable.modify_insert]
  have hopen1 : p1.fds.desc n ≠ none := by simp [h1']
  rcases flagStep_cases hs2 want2 w hopen1 with ⟨p2, e2, h2⟩ | ⟨p2, e2, h2⟩ <;> dsimp only <;>
    rw [e2]
  · exact .inl ⟨rfl, by rw [h2, h1', FdTable.erase_insert hn]⟩
  · exact .inr ⟨n, rfl, hn, by rw [h2, h1', FdTable.modify_insert]⟩

theorem fastFlags_desc (flags : Nat) :
    ((if flags &&& O_CLOEXEC ≠ 0 then fcntlSet F_SETFD FD_CLOEXEC else id)
        ((if flags &&& O_NONBLOCK ≠ 0 then fcntlSet F_SETFL O_NONBLOCK else id) ⟨0, false⟩) =
      ⟨flags &&& O_NONBLOCK, flags &&& O_CLOEXEC ≠ 0⟩) ∧
    ((if flags &&& O_NONBLOCK ≠ 0 then fcntlSet F_SETFL O_NONBLOCK else id)
        ((if flags &&& O_CLOEXEC ≠ 0 then fcntlSet F_SETFD FD_CLOEXEC else id) ⟨0, false⟩) =
      ⟨flags &&& O_NONBLOCK, flags &&& O_CLOEXEC ≠ 0⟩) := by
  have hm : (2048 : Nat) &&& SETFL_MASK = 2048 := by decide
  rcases and_two_pow_cases flags 11 with h | h <;> simp only [Nat.reducePow] at h <;>
    by_cases hc : flags &&& O_CLOEXEC = 0 <;>
    simp [fcntlSet, setflStatus, F_SETFL, F_SETFD, FD_CLOEXEC, hm, O_NONBLOCK, h, hc]

/-- `evutil_socket_` returns `-1` with the table as it was, or a new socket with `O_NONBLOCK` and
    `FD_CLOEXEC` as `SOCK_NONBLOCK` and `SOCK_CLOEXEC` in `type` ask, whichever way it got it. -/
theorem evutilSocket_opens (w : World) (type : Nat) (p : Proc) :
    OpensOne p.fds ⟨type &&& SOCK_NONBLOCK, type &&& SOCK_CLOEXEC ≠ 0⟩ (evutilSocket w type p) := by
  unfold evutilSocket sysSocket
  refine sysOpenOne_elim _ (fun p1 h1 => ?_) fun p1 h1 => ?_ <;> dsimp only
  swap
  · rw [if_pos (by omega)]
    exact .inr ⟨_, rfl, p.fds.lowestFree_free, h1⟩
  rw [if_neg (by decide)]
  by_cases hz : type &&& (SOCK_NONBLOCK ||| SOCK_CLOEXEC) = 0
  · rw [if_pos hz]
    exact .inl ⟨rfl, h1⟩
  rw [if_neg hz, ← h1]
  have hd0 : type &&& SOCKET_TYPE_MASK &&& SOCK_NONBLOCK = 0 ∧
      type &&& SOCKET_TYPE_MASK &&& SOCK_CLOEXEC = 0 := by
    simp only [Nat.and_assoc]
    exact ⟨by rw [show SOCKET_TYPE_MASK &&& SOCK_NONBLOCK = 0 by decide, Nat.and_zero],
      by rw [show SOCKET_TYPE_MASK &&& SOCK_CLOEXEC = 0 by decide, Nat.and_zero]⟩
  refine sysOpenOne_elim _ (fun p2 h2 => ?_) fun p2 h2 => ?_ <;> dsimp only
  · rw [if_pos (by decide)]
    exact .inl ⟨rfl, h2⟩
  rw [if_neg (by omega)]
  rw [hd0.1, hd0.2] at h2
  have := flagSteps_opens evutilFastSocketNonblocking_spec evutilFastSocketCloseonexec_spec
    (type &&& SOCK_NONBLOCK ≠ 0) (type &&& SOCK_CLOEXEC ≠ 0) w p1.fds.lowestFree_free _ h2
  simp only [decide_eq_true_eq, ne_eq, not_true_eq_false, decide_False] at this
  simpa only [SOCK_NONBLOCK, SOCK_CLOEXEC, ne_eq, (fastFlags_desc type).1] using this

/-- `evutil_accept4_` returns `-1` with the table as it was, or a new socket with the flags
    asked for, from `accept4` or from `accept` and the fast setters. -/
theorem evutilAccept4_opens (w : World) (sockfd : Int) (flags : Nat) (p : Proc) :
    OpensOne p.fds ⟨flags &&& SOCK_NONBLOCK, flags &&& SOCK_CLOEXEC ≠ 0⟩
      (evutilAccept4 w sockfd flags p) := by
  unfold evutilAccept4
  refine sysAccept4_elim _ _ (fun p1 h1 => ?_) fun p1 h1 => ?_ <;> dsimp only
  swap
  · rw [if_pos (.inl (by omega))]
    exact .inr ⟨_, rfl, p.fds.lowestFree_free, h1⟩
  by_cases he : p1.errno ≠ EINVAL ∧ p1.errno ≠ ENOSYS
  · rw [if_pos (.inr he)]
    exact .inl ⟨rfl, h1⟩
  rw [if_neg (by omega), ← h1]
  unfold sysAccept
  refine sysAccept4_elim _ _ (fun p2 h2 => ?_) fun p2 h2 => ?_ <;> dsimp only
  · rw [if_pos (by decide)]
    exact .inl ⟨rfl, h2⟩
  rw [if_neg (by omega)]
  rw [Nat.zero_and, Nat.zero_and] at h2
  have := flagSteps_opens evutilFastSocketCloseonexec_spec evutilFastSocketNonblocking_spec
    (flags &&& SOCK_CLOEXEC ≠ 0) (flags &&& SOCK_NONBLOCK ≠ 0) w p1.fds.lowestFree_free _ h2
  simp only [decide_eq_true_eq, ne_eq, not_true_eq_false, decide_False] at this
  simpa only [SOCK_NONBLOCK, SOCK_CLOEXEC, ne_eq, (fastFlags_desc flags).2] using this

/-- `evutil_eventfd_` returns `-1` with the table as it was, or a new `eventfd` with the flags
    asked for, from `eventfd` or from `eventfd` with no flags and the fast setters. -/
theorem evutilEventfd_opens (w : World) (flags : Nat) (p : Proc) :
    OpensOne p.fds ⟨flags &&& EFD_NONBLOCK, flags &&& EFD_CLOEXEC ≠ 0⟩ (evutilEventfd w flags p) := by
  unfold evutilEventfd sysEventfd
  refine sysOpenOne_elim _ (fun p1 h1 => ?_) fun p1 h1 => ?_ <;> dsimp only
  swap
  · rw [if_pos (.inl (by omega))]
    exact .inr ⟨_, rfl, p.fds.lowestFree_free, h1⟩
  by_cases hf : flags = 0
  · rw [if_pos (.inr hf)]
    exact .inl ⟨rfl, h1⟩
  rw [if_neg (by omega), ← h1]
  refine sysOpenOne_elim _ (fun p2 h2 => ?_) fun p2 h2 => ?_ <;> dsimp only
  · rw [if_pos (by decide)]
    exact .inl ⟨rfl, h2⟩
  rw [if_neg (by omega)]
  rw [Nat.zero_and, Nat.zero_and] at h2
  have := flagSteps_opens evutilFastSocketCloseonexec_spec evutilFastSocketNonblocking_spec
    (flags &&& EFD_CLOEXEC ≠ 0) (flags &&& EFD_NONBLOCK ≠ 0) w p1.fds.lowestFree_free _ h2
  simp only [decide_eq_true_eq, ne_eq, not_true_eq_false, decide_False] at this
  simpa only [EFD_NONBLOCK, EFD_CLOEXEC, ne_eq, (fastFlags_desc flags).2] using this

/-- `evutil_open_closeonexec_` returns `-1` with the table as it was, or a new descriptor with
    `FD_CLOEXEC` and the status flags of `flags`. -/
theorem evutilOpenCloseonexec_opens (w : World) (flags : Nat) (p : Proc) :
    OpensOne p.fds ⟨flags &&& SETFL_MASK, true⟩ (evutilOpenCloseonexec w flags p) := by
  have hd1 : (⟨(flags ||| O_CLOEXEC) &&& SETFL_MASK, (flags ||| O_CLOEXEC) &&& O_CLOEXEC ≠ 0⟩ :
      Desc) = ⟨flags &&& SETFL_MASK, true⟩ := by
    have hc : (flags ||| O_CLOEXEC) &&& O_CLOEXEC = O_CLOEXEC := by
      apply Nat.eq_of_testBit_eq; intro i
      simp only [Nat.testBit_and, Nat.testBit_or]
      cases flags.testBit i <;> cases O_CLOEXEC.testBit i <;> rfl
    rw [Nat.and_distrib_right, show O_CLOEXEC &&& SETFL_MASK = 0 by decide, Nat.or_zero, hc]
    rfl
  unfold evutilOpenCloseonexec sysOpen
  rw [hd1]
  refine sysOpenOne_elim _ (fun p1 h1 => ?_) fun p1 h1 => ?_ <;> dsimp only
  swap
  · rw [if_pos (.inl (by omega))]
    exact .inr ⟨_, rfl, p.fds.lowestFree_free, h1⟩
  by_cases he : p1.errno = EINVAL
  · rw [if_pos (.inr he)]
    exact .inl ⟨rfl, h1⟩
  rw [if_neg (by omega), ← h1]
  refine sysOpenOne_elim _ (fun p2 h2 => ?_) fun p2 h2 => ?_ <;> dsimp only
  · rw [if_pos (by decide)]
    exact .inl ⟨rfl, h2⟩
  rw [if_neg (by omega)]
  have hfree := p1.fds.lowestFree_free
  refine sysFcntl_set_elim (by simp [h2]) (.inr rfl) _ (fun p3 h3 => ?_) fun p3 h3 => ?_ <;>
    dsimp only
  · rw [if_pos (by decide)]
    refine .inl ⟨rfl, ?_⟩
    rw [sysClose_erase, h3, h2, FdTable.erase_insert hfree]
  · rw [if_neg (by decide)]
    refine .inr ⟨_, rfl, hfree, ?_⟩
    rw [h3, h2, FdTable.modify_insert]
    rfl

/-! ## Opening two descriptors -/

/-- What a wrapper that returns two descriptors may do from the table `t`: return `-1` with both
    set to `-1` and the table as it was, or `0` with two descriptors, free in `t`, now open
    as `d`. -/
def OpensTwo (t : FdTable) (d : Desc) (r : Int × (Int × Int) × Proc) : Prop :=
  (r.1 = -1 ∧ r.2.1 = (-1, -1) ∧ r.2.2.fds = t) ∨
    ∃ a b : Nat, r.1 = 0 ∧ r.2.1 = ((a : Int), (b : Int)) ∧ a ≠ b ∧ t.desc a = none ∧
      t.desc b = none ∧ r.2.2.fds = (t.insert a d).insert b d

/-- A setter on the first descriptor of a pair just opened. -/
@[elab_as_elim]
theorem setter_fst_elim {set : World → Int → Proc → Int × Proc} {f : Desc → Desc}
    (hs : SetterSpec set f) {w : World} {t : FdTable} {a b : Nat} (hab : a ≠ b) {da db : Desc}
    {p : Proc} (hp : p.fds = (t.insert a da).insert b db) {motive : Int × Proc → Prop}
    (fail : ∀ s p', s < 0 → p'.fds = p.fds → motive (s, p'))
    (ok : ∀ s p', 0 ≤ s → p'.fds = (t.insert a (f da)).insert b db → motive (s, p')) :
    motive (set w a p) := by
  have hab' : (a : Int) ≠ b := by exact_mod_cast hab
  refine hs.elim (by simp [hp, Function.update_noteq hab']) fail fun s p' hs' h' => ok s p' hs' ?_
  rw [h', hp, FdTable.modify_insert_ne _ (Ne.symm hab'), FdTable.modify_insert]

/-- A setter on the second descriptor of a pair just opened. -/
@[elab_as_elim]
theorem setter_snd_elim {set : World → Int → Proc → Int × Proc} {f : Desc → Desc}
    (hs : SetterSpec set f) {w : World} {t : FdTable} {a b : Nat} {da db : Desc}
    {p : Proc} (hp : p.fds = (t.insert a da).insert b db) {motive : Int × Proc → Prop}
    (fail : ∀ s p', s < 0 → p'.fds = p.fds → motive (s, p'))
    (ok : ∀ s p', 0 ≤ s → p'.fds = (t.insert a da).insert b (f db) → motive (s, p')) :
    motive (set w b p) :=
  hs.elim (by simp [hp]) fail fun s p' hs' h' => ok s p' hs' (by rw [h', hp, FdTable.modify_insert])

theorem pipeFlagsFail_cases (w : World) {t : FdTable} {a b : Nat} (hab : a ≠ b) (d : Desc)
    {p : Proc} (hp : p.fds = (t.insert a d).insert b d) :
    ((pipeFlagsFail w ((a : Int), (b : Int)) p).1 = true ∧
        ∃ da db, (pipeFlagsFail w ((a : Int), (b : Int)) p).2.fds = (t.insert a da).insert b db) ∨
      ((pipeFlagsFail w ((a : Int), (b : Int)) p).1 = false ∧ (pipeFlagsFail w ((a : Int), (b : Int)) p).2.fds =
        (t.insert a (fcntlSet F_SETFD FD_CLOEXEC (fcntlSet F_SETFL O_NONBLOCK d))).insert b
          (fcntlSet F_SETFD FD_CLOEXEC (fcntlSet F_SETFL O_NONBLOCK d))) := by
  unfold pipeFlagsFail
  dsimp only
  refine setter_fst_elim evutilFastSocketNonblocking_spec hab hp (fun r p1 h e1 => ?_)
    fun r p1 h e1 => ?_ <;> dsimp only
  · rw [if_pos h]; exact .inl ⟨rfl, d, d, e1.trans hp⟩
  rw [if_neg (not_lt.2 h)]
  refine setter_snd_elim evutilFastSocketNonblocking_spec e1 (fun r p2 h e2 => ?_)
    fun r p2 h e2 => ?_ <;> dsimp only
  · rw [if_pos h]; exact .inl ⟨rfl, _, d, e2.trans e1⟩
  rw [if_neg (not_lt.2 h)]
  refine setter_fst_elim evutilFastSocketCloseonexec_spec hab e2 (fun r p3 h e3 => ?_)
    fun r p3 h e3 => ?_ <;> dsimp only
  · rw [if_pos h]; exact .inl ⟨rfl, _, _, e3.trans e2⟩
  rw [if_neg (not_lt.2 h)]
  refine setter_snd_elim evutilFastSocketCloseonexec_spec e3 (fun r p4 h e4 => ?_)
    fun r p4 h e4 => ?_ <;> dsimp only
  · exact .inl ⟨by simpa using h, _, _, e4.trans e3⟩
  · exact .inr ⟨by simpa using h, e4⟩

theorem pipeFinish_opens {close : World → Int → Proc → Int × Proc}
    (hclose : ∀ w p (fd : Int), (close w fd p).2.fds = p.fds.erase fd)
    (w : World) {t : FdTable} {p : Proc}
    (hp : p.fds = (t.insert t.lowestFree ⟨0, false⟩).insert
      (t.insert t.lowestFree ⟨0, false⟩).lowestFree ⟨0, false⟩) :
    OpensTwo t ⟨O_NONBLOCK, true⟩
      (pipeFinish close w
        ((t.lowestFree : Int), ((t.insert t.lowestFree ⟨0, false⟩).lowestFree : Int)) p) := by
  have hab := (t.lowestFree_insert_ne ⟨0, false⟩).symm
  have hab' : (t.lowestFree : Int) ≠ (t.insert t.lowestFree ⟨0, false⟩).lowestFree := by
    exact_mod_cast hab
  have hb := t.lowestFree_insert_free ⟨0, false⟩
  unfold pipeFinish
  have c := pipeFlagsFail_cases w hab ⟨0, false⟩ hp
  generalize pipeFlagsFail w _ p = q at c ⊢
  obtain ⟨bad, p1⟩ := q
  dsimp only at c ⊢
  rcases c with ⟨rfl, da, db, e⟩ | ⟨rfl, e⟩
  · refine .inl ⟨rfl, rfl, ?_⟩
    rw [if_pos rfl, hclose, hclose, e, FdTable.erase_insert_ne _ (Ne.symm hab'),
      FdTable.erase_insert t.lowestFree_free, FdTable.erase_insert hb]
  · have hg : fcntlSet F_SETFD FD_CLOEXEC (fcntlSet F_SETFL O_NONBLOCK ⟨0, false⟩) =
        ⟨O_NONBLOCK, true⟩ := by decide
    rw [if_neg (by decide)]
    exact .inr ⟨_, _, rfl, rfl, hab, t.lowestFree_free, hb, by rw [e, hg]⟩

/-- `evutil_make_internal_pipe_` returns `-1` with `fd` set to `-1`s and the table as it was, or
    `0` with two new descriptors, both nonblocking and close-on-exec, from `pipe2`, `pipe` or
    `socketpair`. -/
theorem evutilMakeInternalPipe_opens (w : World) (fd : Int × Int) (p : Proc) :
    OpensTwo p.fds ⟨O_NONBLOCK, true⟩ (evutilMakeInternalPipe w fd p) := by
  unfold evutilMakeInternalPipe sysPipe sysPipe2 sysSocketpair
  rw [show (⟨(O_NONBLOCK ||| O_CLOEXEC) &&& O_NONBLOCK, (O_NONBLOCK ||| O_CLOEXEC) &&& O_CLOEXEC ≠ 0⟩ :
      Desc) = ⟨O_NONBLOCK, true⟩ by decide,
    show (⟨0 &&& O_NONBLOCK, 0 &&& O_CLOEXEC ≠ 0⟩ : Desc) = ⟨0, false⟩ by decide,
    show (⟨SOCK_STREAM_TYPE &&& SOCK_NONBLOCK, SOCK_STREAM_TYPE &&& SOCK_CLOEXEC ≠ 0⟩ : Desc) =
      ⟨0, false⟩ by decide]
  refine sysOpenTwo_elim _ _ (fun p1 h1 => ?_) fun p1 h1 => ?_ <;> dsimp only
  swap
  · rw [if_pos rfl]
    exact .inr ⟨_, _, rfl, rfl, (p.fds.lowestFree_insert_ne _).symm, p.fds.lowestFree_free,
      p.fds.lowestFree_insert_free _, h1⟩
  rw [if_neg (by decide), ← h1]
  refine sysOpenTwo_elim _ _ (fun p2 h2 => ?_) fun p2 h2 => ?_ <;> dsimp only
  swap
  · rw [if_pos rfl]
    exact pipeFinish_opens (sysClose_erase · ·) w h2
  rw [if_neg (by decide), ← h2]
  refine sysOpenTwo_elim _ _ (fun p3 h3 => ?_) fun p3 h3 => ?_ <;> dsimp only
  · rw [if_neg (by decide)]
    exact .inl ⟨rfl, rfl, h3⟩
  · rw [if_pos rfl]
    exact pipeFinish_opens (sysClose_erase · ·) w h3

/-! ## What `evutil_socket_connect_` does to the table -/

/-- Given a descriptor, `evutil_socket_connect_` neither closes it nor opens another. -/
theorem evutilSocketConnect_given (w : World) {fdPtr : Int} (h : 0 ≤ fdPtr) (p : Proc) :
    (evutilSocketConnect w fdPtr p).2.1 = fdPtr ∧ (evutilSocketConnect w fdPtr p).2.2.fds = p.fds := by
  unfold evutilSocketConnect
  rw [if_neg (not_lt.2 h)]
  dsimp only
  refine sysConnect_elim _ fun r p1 hc => ?_
  dsimp only
  split_ifs <;> simp [socketConnectErr, hc]

theorem evutilSocketFinishedConnecting_fds (w : World) (soError fd : Int) (p : Proc) :
    (evutilSocketFinishedConnecting w soError fd p).2.fds = p.fds := by
  unfold evutilSocketFinishedConnecting
  refine sysFdCall_elim fd (fun p' h => ?_) fun p' h => ?_ <;> dsimp only <;> split_ifs <;> exact h

/-- Without one, it makes a nonblocking socket: it returns `-1` and sets `*fd_ptr` to `-1` with
    the table as it was, or returns another value with `*fd_ptr` the new socket. -/
theorem evutilSocketConnect_made (w : World) {fdPtr : Int} (h : fdPtr < 0) (p : Proc) :
    ((evutilSocketConnect w fdPtr p).1 = -1 ↔ (evutilSocketConnect w fdPtr p).2.1 = -1) ∧
      OpensOne p.fds ⟨O_NONBLOCK, false⟩
        ((evutilSocketConnect w fdPtr p).2.1, (evutilSocketConnect w fdPtr p).2.2) := by
  unfold evutilSocketConnect sysSocket
  rw [if_pos h, show (⟨SOCK_STREAM_TYPE &&& SOCK_NONBLOCK, SOCK_STREAM_TYPE &&& SOCK_CLOEXEC ≠ 0⟩ :
    Desc) = ⟨0, false⟩ by decide]
  have hfree := p.fds.lowestFree_free
  -- the made socket closed again at `err:`
  have hclosed : ∀ p' d, p'.fds = p.fds.insert p.fds.lowestFree d →
      ((socketConnectErr w true p.fds.lowestFree p').1 = -1 ↔
        (socketConnectErr w true p.fds.lowestFree p').2.1 = -1) ∧
      OpensOne p.fds ⟨O_NONBLOCK, false⟩ ((socketConnectErr w true p.fds.lowestFree p').2.1,
        (socketConnectErr w true p.fds.lowestFree p').2.2) := fun p' _ h' =>
    ⟨by simp [socketConnectErr], .inl ⟨rfl, by
      rw [socketConnectErr, if_pos rfl, evutilClosesocket, sysClose_erase, h',
        FdTable.erase_insert hfree]⟩⟩
  refine sysOpenOne_elim _ (fun p1 h1 => ?_) fun p1 h1 => ?_ <;> dsimp only
  · rw [if_pos (by decide)]
    exact ⟨by simp [socketConnectErr], .inl ⟨rfl, by simp [socketConnectErr, h1]⟩⟩
  rw [if_neg (by omega)]
  refine evutilMakeSocketNonblocking_spec.elim (by simp [h1]) (fun r p2 hr h2 => ?_)
    fun r p2 hr h2 => ?_ <;> dsimp only <;> rw [h1] at h2
  · rw [if_pos hr]
    exact hclosed p2 _ h2
  rw [if_neg (not_lt.2 hr)]
  rw [FdTable.modify_insert, Nat.zero_or] at h2
  dsimp only at h2 ⊢
  refine sysConnect_elim _ fun c p3 hc => ?_
  dsimp only
  have hn : (p.fds.lowestFree : Int) ≠ -1 := by omega
  split_ifs
  all_goals first
    | exact hclosed p3 _ (hc.trans h2)
    | exact ⟨by simp [hn], .inr ⟨_, rfl, hfree, by rw [hc, h2]⟩⟩

end Evutil
