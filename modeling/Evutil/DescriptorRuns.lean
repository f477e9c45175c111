/-
  Programs that call the descriptor wrappers of `evutil.c` one after another, and what their
  caller can know of the descriptor table from what the calls returned.
  * `Call`: a call of one wrapper with its arguments. `Call.exec` runs it on the model of
    `Descriptors`; `runCalls` runs a list of calls and records what each returned.
  * `Call.opened`, `Call.change`, `Call.expect`: the caller's view, worked out from the
    returned values alone: the descriptors a call handed back, with the flags the code gives
    them, and what the call did to those the caller already held. `Call.asked`: the
    descriptors handed back with the flags the caller asked for.
  * `Call.exec_refines`, `runCalls_refines`: every call, and so every run, leaves the table the
    caller's view says, and hands back only distinct descriptors that were free;
    `Call.exec_asked`: each of them open with the flags the caller asked for, except the second
    end of the ersatz socketpair, which has none.
  * `runCalls_open`: after any run, an open descriptor was open at the start or was handed to
    the caller; no wrapper leaks one, whichever of its system calls fail.
-/
import Evutil.Socketpair

namespace Evutil

/-! ## Calls -/

/-- A call of a descriptor wrapper, with the arguments the model keeps. -/
inductive Call where
  /-- `evutil_socket_(domain, type, protocol)` -/
  | socket (type : Nat)
  /-- `evutil_accept4_(sockfd, addr, addrlen, flags)` -/
  | accept4 (sockfd : Int) (flags : Nat)
  /-- `evutil_eventfd_(initval, flags)` -/
  | eventfd (flags : Nat)
  /-- `evutil_open_closeonexec_(pathname, flags, mode)` -/
  | openCloseonexec (flags : Nat)
  /-- `evutil_make_internal_pipe_(fd)`, with what `fd` held before the call -/
  | makeInternalPipe (fd : Int × Int)
  /-- `evutil_socket_connect_(fd_ptr, sa, socklen)`, with `*fd_ptr` before the call -/
  | socketConnect (fdPtr : Int)
  /-- `evutil_socket_finished_connecting_(fd)`, with the error pending on the socket -/
  | socketFinishedConnecting (soError fd : Int)
  /-- `evutil_ersatz_socketpair_(family, type, protocol, fd)`, with whether the connection it
      accepts is its own -/
  | ersatzSocketpair (selfConnected : Bool) (family : Int) (type : Nat) (protocol : Int)
      (fd : Option (Int × Int))
  /-- `evutil_make_socket_nonblocking(fd)` -/
  | makeSocketNonblocking (fd : Int)
  /-- `evutil_fast_socket_nonblocking(fd)` -/
  | fastSocketNonblocking (fd : Int)
  /-- `evutil_make_socket_closeonexec(fd)` -/
  | makeSocketCloseonexec (fd : Int)
  /-- `evutil_fast_socket_closeonexec(fd)` -/
  | fastSocketCloseonexec (fd : Int)
  /-- `evutil_closesocket(sock)` -/
  | closesocket (fd : Int)
  deriving DecidableEq, Repr

namespace Call

/-- What a call gives back: the value it returns and, for the pipe and the connect, what it
    writes to `fd` and `*fd_ptr`. -/
def Out : Call → Type
  | makeInternalPipe _ => Int × (Int × Int)
  | socketConnect _ => Int × Int
  | ersatzSocketpair .. => Int × Option (Int × Int)
  | _ => Int

/-- Make the call. -/
def exec (w : World) : (c : Call) → Proc → c.Out × Proc
  | socket type, p => evutilSocket w type p
  | accept4 sockfd flags, p => evutilAccept4 w sockfd flags p
  | eventfd flags, p => evutilEventfd w flags p
  | openCloseonexec flags, p => evutilOpenCloseonexec w flags p
  | makeInternalPipe fd, p =>
    let r := evutilMakeInternalPipe w fd p
    ((r.1, r.2.1), r.2.2)
  | socketConnect fdPtr, p =>
    let r := evutilSocketConnect w fdPtr p
    ((r.1, r.2.1), r.2.2)
  | socketFinishedConnecting soError fd, p => evutilSocketFinishedConnecting w soError fd p
  | ersatzSocketpair selfConnected family type protocol fd, p =>
    let r := evutilErsatzSocketpair w selfConnected family type protocol fd p
    ((r.1, r.2.1), r.2.2)
  | makeSocketNonblocking fd, p => evutilMakeSocketNonblocking w fd p
  | fastSocketNonblocking fd, p => evutilFastSocketNonblocking w fd p
  | makeSocketCloseonexec fd, p => evutilMakeSocketCloseonexec w fd p
  | fastSocketCloseonexec fd, p => evutilFastSocketCloseonexec w fd p
  | closesocket fd, p => evutilClosesocket w fd p

/-! ## The caller's view -/

/-- The descriptor a call returned, if it returned one. -/
def openedOne (r : Int) (d : Desc) : List (Nat × Desc) := if r < 0 then [] else [(r.toNat, d)]

/-- The two descriptors a call returned with `0`, if it did. -/
def openedPair (o : Int × Option (Int × Int)) (da db : Desc) : List (Nat × Desc) :=
  match o with
  | (0, some (a, b)) => [(a.toNat, da), (b.toNat, db)]
  | _ => []

/-- The descriptors a call handed to its caller, each with the flags the code gives it: those
    the caller asked for, but none on the second end of the ersatz socketpair, which comes
    from a plain `accept`. -/
def opened : (c : Call) → c.Out → List (Nat × Desc)
  | socket type, r => openedOne r ⟨type &&& SOCK_NONBLOCK, type &&& SOCK_CLOEXEC ≠ 0⟩
  | accept4 _ flags, r => openedOne r ⟨flags &&& SOCK_NONBLOCK, flags &&& SOCK_CLOEXEC ≠ 0⟩
  | eventfd flags, r => openedOne r ⟨flags &&& EFD_NONBLOCK, flags &&& EFD_CLOEXEC ≠ 0⟩
  | openCloseonexec flags, r => openedOne r ⟨flags &&& SETFL_MASK, true⟩
  | makeInternalPipe _, o =>
    if o.1 = 0 then [(o.2.1.toNat, ⟨O_NONBLOCK, true⟩), (o.2.2.toNat, ⟨O_NONBLOCK, true⟩)] else []
  | socketConnect fdPtr, o => if fdPtr < 0 then openedOne o.2 ⟨O_NONBLOCK, false⟩ else []
  | ersatzSocketpair _ _ type _ _, o =>
    openedPair o ⟨type &&& SOCK_NONBLOCK, type &&& SOCK_CLOEXEC ≠ 0⟩ ⟨0, false⟩
  | _, _ => []

/-- The descriptors a call handed to its caller, each with the flags the caller asked for in
    `type` or `flags`. -/
def asked : (c : Call) → c.Out → List (Nat × Desc)
  | ersatzSocketpair _ _ type _ _, o =>
    openedPair o ⟨type &&& SOCK_NONBLOCK, type &&& SOCK_CLOEXEC ≠ 0⟩
      ⟨type &&& SOCK_NONBLOCK, type &&& SOCK_CLOEXEC ≠ 0⟩
  | c, o => c.opened o

/-- The second end of an ersatz socketpair that returned `0`. -/
def ersatzSecond : (c : Call) → c.Out → Option Nat
  | ersatzSocketpair .., (r, some (_, b)) => if r = 0 then some b.toNat else none
  | _, _ => none

/-- What a flag setter that returned `r` did to `fd`: `f` when it succeeded. -/
def setterChange (r fd : Int) (f : Desc → Desc) (t : FdTable) : FdTable :=
  if r < 0 then t else t.modify fd f

/-- What a call did to the descriptors the caller already held. -/
def change : (c : Call) → c.Out → FdTable → FdTable
  | makeSocketNonblocking fd, r, t =>
    setterChange r fd (fun d => { d with status := d.status ||| O_NONBLOCK }) t
  | fastSocketNonblocking fd, r, t => setterChange r fd (fcntlSet F_SETFL O_NONBLOCK) t
  | makeSocketCloseonexec fd, r, t => setterChange r fd (fun d => { d with cloexec := true }) t
  | fastSocketCloseonexec fd, r, t => setterChange r fd (fcntlSet F_SETFD FD_CLOEXEC) t
  | closesocket fd, _, t => t.erase fd
  | _, _, t => t

/-- The table after a call as its caller works it out: `change`, then the descriptors handed
    back. -/
def expect (c : Call) (o : c.Out) (t : FdTable) : FdTable :=
  (c.opened o).foldl (fun t x => t.insert x.1 x.2) (c.change o t)

/-- The descriptors a call handed back are distinct and were free before it. -/
def Fresh (c : Call) (o : c.Out) (t : FdTable) : Prop :=
  ((c.opened o).map Prod.fst).Nodup ∧ ∀ x ∈ c.opened o, t.desc x.1 = none

/-! ## Each call follows the view -/

theorem fresh_of_opened_nil {c : Call} {o : c.Out} (h : c.opened o = []) (t : FdTable) :
    c.Fresh o t := by
  simp [Fresh, h]

theorem openedOne_view {t : FdTable} {d : Desc} {r : Int × Proc} (h : OpensOne t d r) :
    (((openedOne r.1 d).map Prod.fst).Nodup ∧ ∀ x ∈ openedOne r.1 d, t.desc x.1 = none) ∧
      r.2.fds = (openedOne r.1 d).foldl (fun t x => t.insert x.1 x.2) t := by
  rcases h with ⟨h1, h2⟩ | ⟨n, h1, hn, h2⟩
  · simp [openedOne, h1, h2]
  · simp [openedOne, h1, h2, hn, show ¬(n : Int) < 0 by omega]

theorem openedTwo_view {t : FdTable} {d : Desc} {r : Int × (Int × Int) × Proc}
    (h : OpensTwo t d r) :
    let l : List (Nat × Desc) := if r.1 = 0 then [(r.2.1.1.toNat, d), (r.2.1.2.toNat, d)] else []
    ((l.map Prod.fst).Nodup ∧ ∀ x ∈ l, t.desc x.1 = none) ∧
      r.2.2.fds = l.foldl (fun t x => t.insert x.1 x.2) t := by
  rcases h with ⟨h1, -, h2⟩ | ⟨a, b, h1, h2, hab, ha, hb, h3⟩
  · simp [h1, h2]
  · simp [h1, h2, h3, hab, ha, hb]

theorem openedPair_view {t : FdTable} {fd : Option (Int × Int)} {da db : Desc}
    {r : Int × Option (Int × Int) × Proc} (h : OpensPair t fd da db r) :
    let l := openedPair (r.1, r.2.1) da db
    ((l.map Prod.fst).Nodup ∧ ∀ x ∈ l, t.desc x.1 = none) ∧
      r.2.2.fds = l.foldl (fun t x => t.insert x.1 x.2) t := by
  rcases h with ⟨h1, -, h2⟩ | ⟨a, b, h1, h2, hab, ha, hb, h3⟩
  · simp [openedPair, h1, h2]
  · simp [openedPair, h1, h2, h3, hab, ha, hb]

theorem setter_fds {set : World → Int → Proc → Int × Proc} {f : Desc → Desc}
    (hs : SetterSpec set f)
    (hfree : ∀ w p fd, p.fds.desc fd = none → (set w fd p).2.fds = p.fds)
    (w : World) (fd : Int) (p : Proc) :
    (set w fd p).2.fds = setterChange (set w fd p).1 fd f p.fds := by
  unfold setterChange
  by_cases h : p.fds.desc fd = none
  · rw [hfree w p fd h, FdTable.modify_of_free h, ite_self]
  rcases hs w p fd h with ⟨h1, h2⟩ | ⟨h1, h2⟩
  · rw [if_pos h1, h2]
  · rw [if_neg (not_lt.2 h1), h2]

end Call

theorem fastSetFlag_of_free (cmd bit : Nat) (w : World) (p : Proc) (fd : Int)
    (h : p.fds.desc fd = none) : (fastSetFlag cmd bit w fd p).2.fds = p.fds := by
  simp [fastSetFlag, sysFcntl_of_free w p h]

theorem setFlag_of_free (getCmd setCmd bit : Nat) (w : World) (p : Proc) (fd : Int)
    (h : p.fds.desc fd = none) : (setFlag getCmd setCmd bit w fd p).2.fds = p.fds := by
  simp [setFlag, sysFcntl_of_free w p h]

namespace Call

/-- Every call leaves the table its caller's view says, and hands back only distinct
    descriptors that were free. -/
theorem exec_refines (w : World) (c : Call) (p : Proc) :
    c.Fresh (c.exec w p).1 p.fds ∧ (c.exec w p).2.fds = c.expect (c.exec w p).1 p.fds := by
  cases c with
  | socket type => exact openedOne_view (evutilSocket_opens w type p)
  | accept4 sockfd flags => exact openedOne_view (evutilAccept4_opens w sockfd flags p)
  | eventfd flags => exact openedOne_view (evutilEventfd_opens w flags p)
  | openCloseonexec flags => exact openedOne_view (evutilOpenCloseonexec_opens w flags p)
  | makeInternalPipe fd => exact openedTwo_view (evutilMakeInternalPipe_opens w fd p)
  | ersatzSocketpair selfConnected family type protocol fd =>
    exact openedPair_view (evutilErsatzSocketpair_opens w selfConnected family type protocol fd p)
  | socketConnect fdPtr =>
    by_cases h : fdPtr < 0
    · have := openedOne_view (evutilSocketConnect_made w h p).2
      simp only [Fresh, expect, opened, if_pos h]
      exact this
    · have hg := evutilSocketConnect_given w (not_lt.1 h) p
      simp only [Fresh, expect, opened, if_neg h]
      exact ⟨by simp, hg.2⟩
  | socketFinishedConnecting soError fd =>
    exact ⟨fresh_of_opened_nil (by rfl) _, evutilSocketFinishedConnecting_fds w soError fd p⟩
  | makeSocketNonblocking fd =>
    exact ⟨fresh_of_opened_nil (by rfl) _,
      setter_fds evutilMakeSocketNonblocking_spec (setFlag_of_free _ _ _) w fd p⟩
  | fastSocketNonblocking fd =>
    exact ⟨fresh_of_opened_nil (by rfl) _,
      setter_fds evutilFastSocketNonblocking_spec (fastSetFlag_of_free _ _) w fd p⟩
  | makeSocketCloseonexec fd =>
    exact ⟨fresh_of_opened_nil (by rfl) _,
      setter_fds evutilMakeSocketCloseonexec_spec (setFlag_of_free _ _ _) w fd p⟩
  | fastSocketCloseonexec fd =>
    exact ⟨fresh_of_opened_nil (by rfl) _,
      setter_fds evutilFastSocketCloseonexec_spec (fastSetFlag_of_free _ _) w fd p⟩
  | closesocket fd => exact ⟨fresh_of_opened_nil (by rfl) _, sysClose_erase w p fd⟩

theorem foldl_insert_open {l : List (Nat × Desc)} {t : FdTable} {k : Int}
    (h : (l.foldl (fun t x => t.insert x.1 x.2) t).desc k ≠ none) :
    t.desc k ≠ none ∨ k ∈ l.map fun x => (x.1 : Int) := by
  induction l generalizing t with
  | nil => exact .inl h
  | cons x l ih =>
    rcases ih h with h' | h'
    · by_cases e : k = x.1
      · exact .inr (by simp [e])
      · exact .inl (by simpa [Function.update_noteq e] using h')
    · exact .inr (List.mem_cons_of_mem _ h')

theorem foldl_insert_desc_of_not_mem {l : List (Nat × Desc)} {t : FdTable} {k : Int}
    (h : k ∉ l.map fun x => (x.1 : Int)) :
    (l.foldl (fun t x => t.insert x.1 x.2) t).desc k = t.desc k := by
  induction l generalizing t with
  | nil => rfl
  | cons x l ih =>
    simp only [List.map_cons, List.mem_cons, not_or] at h
    rw [List.foldl_cons, ih h.2, FdTable.insert_desc, Function.update_noteq h.1]

theorem foldl_insert_desc {l : List (Nat × Desc)} (hl : (l.map Prod.fst).Nodup) (t : FdTable)
    {x : Nat × Desc} (hx : x ∈ l) : (l.foldl (fun t x => t.insert x.1 x.2) t).desc x.1 = some x.2 := by
  induction l generalizing t with
  | nil => cases hx
  | cons y l ih =>
    rw [List.map_cons, List.nodup_cons] at hl
    rcases List.mem_cons.1 hx with rfl | hx
    · rw [List.foldl_cons, foldl_insert_desc_of_not_mem (by simpa using hl.1), FdTable.insert_desc,
        Function.update_same]
    · exact ih hl.2 _ hx

theorem change_open {c : Call} {o : c.Out} {t : FdTable} {k : Int}
    (h : (c.change o t).desc k ≠ none) : t.desc k ≠ none := by
  have hset : ∀ r fd f, (setterChange r fd f t).desc k ≠ none → t.desc k ≠ none := by
    intro r fd f h'
    unfold setterChange at h'
    split_ifs at h'
    · exact h'
    · exact FdTable.desc_of_modify h'
  cases c
  case closesocket => exact FdTable.desc_of_erase h
  all_goals first | exact hset _ _ _ h | exact h

theorem expect_open {c : Call} {o : c.Out} {t : FdTable} {k : Int}
    (h : (c.expect o t).desc k ≠ none) :
    t.desc k ≠ none ∨ k ∈ (c.opened o).map fun x => (x.1 : Int) :=
  (foldl_insert_open h).imp_left change_open

theorem exec_opened (w : World) (c : Call) (p : Proc) {x : Nat × Desc}
    (hx : x ∈ c.opened (c.exec w p).1) : (c.exec w p).2.fds.desc x.1 = some x.2 := by
  obtain ⟨⟨hn, -⟩, he⟩ := c.exec_refines w p
  rw [he]
  exact foldl_insert_desc hn _ hx

theorem mem_opened_of_mem_asked {c : Call} {o : c.Out} {x : Nat × Desc} (hx : x ∈ c.asked o) :
    (x.1, if c.ersatzSecond o = some x.1 then (⟨0, false⟩ : Desc) else x.2) ∈ c.opened o := by
  cases c
  case ersatzSocketpair sc fam type pr fd =>
    obtain ⟨r, _ | ⟨a, b⟩⟩ := o
    · simp [asked, openedPair] at hx
    by_cases hr : r = 0
    · subst hr
      simp only [asked, opened, openedPair, ersatzSecond, List.mem_cons, List.mem_singleton,
        List.not_mem_nil, or_false] at hx ⊢
      rcases hx with rfl | rfl
      · by_cases hab : a.toNat = b.toNat
        · simp [hab]
        · simp [Ne.symm hab]
      · simp
    · simp [asked, openedPair, hr] at hx
  all_goals simpa [asked, ersatzSecond] using hx

/-- **The flags asked for.** Every descriptor a wrapper hands back is open with the flags its
    caller asked for, except the second end of `evutil_ersatz_socketpair_`: that one is open
    with neither `O_NONBLOCK` nor `FD_CLOEXEC`, so it is as asked only when `type` asks for
    neither. -/
theorem exec_asked (w : World) (c : Call) (p : Proc) {x : Nat × Desc}
    (hx : x ∈ c.asked (c.exec w p).1) :
    (c.exec w p).2.fds.desc x.1 = some x.2 ↔
      (c.ersatzSecond (c.exec w p).1 = some x.1 → x.2 = ⟨0, false⟩) := by
  have h := exec_opened w c p (mem_opened_of_mem_asked hx)
  dsimp only at h
  split_ifs at h with hs
  · rw [h, Option.some_inj, eq_comm]
    exact ⟨fun e _ => e, fun e => e hs⟩
  · exact ⟨fun _ e => absurd e hs, fun _ => h⟩

/-- `evutil_socket_` with no flag, in a process with no descriptor open and where no system call
    fails: descriptor `0`, open with no flag, as asked. -/
theorem exec_asked_socket :
    ((0 : Nat), (⟨0, false⟩ : Desc)) ∈
        (socket 0).asked ((socket 0).exec ⟨fun _ => none⟩ ⟨.empty, 0, 0⟩).1 ∧
      (((socket 0).exec ⟨fun _ => none⟩ ⟨.empty, 0, 0⟩).2.fds.desc ((0 : Nat) : Int) =
          some ⟨0, false⟩ ↔
        ((socket 0).ersatzSecond ((socket 0).exec ⟨fun _ => none⟩ ⟨.empty, 0, 0⟩).1 = some 0 →
          (⟨0, false⟩ : Desc) = ⟨0, false⟩)) := by
  have hx : ((0 : Nat), (⟨0, false⟩ : Desc)) ∈
      (socket 0).asked ((socket 0).exec ⟨fun _ => none⟩ ⟨.empty, 0, 0⟩).1 := by
    simp [asked, opened, openedOne, exec, evutilSocket, sysSocket, sysOpenOne, Proc.next,
      FdTable.lowestFree_empty]
  exact ⟨hx, exec_asked _ _ _ hx⟩

end Call

/-! ## Runs -/

/-- Make the calls `cs` one after another: each call with what it gave back, and the process
    after them. -/
def runCalls (w : World) : List Call → Proc → List (Σ c : Call, c.Out) × Proc
  | [], p => ([], p)
  | c :: cs, p =>
    let r := c.exec w p
    let rest := runCalls w cs r.2
    (⟨c, r.1⟩ :: rest.1, rest.2)

/-- The table after a run as its caller works it out from what each call gave back. -/
def replay : List (Σ c : Call, c.Out) → FdTable → FdTable
  | [], t => t
  | ⟨c, o⟩ :: tr, t => replay tr (c.expect o t)

/-- Every call of a run handed back only distinct descriptors that were free. -/
def FreshRun : List (Σ c : Call, c.Out) → FdTable → Prop
  | [], _ => True
  | ⟨c, o⟩ :: tr, t => c.Fresh o t ∧ FreshRun tr (c.expect o t)

/-- The descriptors the calls of a run handed to their caller. -/
def handed (tr : List (Σ c : Call, c.Out)) : List Int :=
  tr.flatMap fun x => (x.1.opened x.2).map fun y => (y.1 : Int)

@[simp] theorem handed_cons (c : Call) (o : c.Out) (tr : List (Σ c : Call, c.Out)) :
    handed (⟨c, o⟩ :: tr) = (c.opened o).map (fun y => (y.1 : Int)) ++ handed tr :=
  List.flatMap_cons _ _ _

theorem runCalls_fds (w : World) (cs : List Call) (p : Proc) :
    (runCalls w cs p).2.fds = replay (runCalls w cs p).1 p.fds := by
  induction cs generalizing p with
  | nil => rfl
  | cons c cs ih =>
    have h := ih (c.exec w p).2
    rw [(c.exec_refines w p).2] at h
    exact h

/-- A run makes the calls asked for, hands back only free descriptors, and leaves the table its
    caller works out from what the calls gave back. -/
theorem runCalls_refines (w : World) (cs : List Call) (p : Proc) :
    (runCalls w cs p).1.map Sigma.fst = cs ∧ FreshRun (runCalls w cs p).1 p.fds ∧
      (runCalls w cs p).2.fds = replay (runCalls w cs p).1 p.fds := by
  induction cs generalizing p with
  | nil => exact ⟨rfl, trivial, rfl⟩
  | cons c cs ih =>
    obtain ⟨h1, h2, -⟩ := ih (c.exec w p).2
    obtain ⟨hf, he⟩ := c.exec_refines w p
    rw [he] at h2
    exact ⟨by simp [runCalls, h1], ⟨hf, h2⟩, runCalls_fds w (c :: cs) p⟩

theorem replay_open {tr : List (Σ c : Call, c.Out)} {t : FdTable} {k : Int}
    (h : (replay tr t).desc k ≠ none) : t.desc k ≠ none ∨ k ∈ handed tr := by
  induction tr generalizing t with
  | nil => exact .inl h
  | cons x tr ih =>
    obtain ⟨c, o⟩ := x
    rw [handed_cons]
    rcases ih h with h' | h'
    · exact (Call.expect_open h').imp_right (List.mem_append_left _)
    · exact .inr (List.mem_append_right _ h')

/-- After any run of the wrappers, whichever of their system calls fail, a descriptor open was
    open at the start or was handed to the caller by a call of the run: no wrapper leaks one. -/
theorem runCalls_open (w : World) (cs : List Call) (p : Proc) {k : Int}
    (h : (runCalls w cs p).2.fds.desc k ≠ none) :
    p.fds.desc k ≠ none ∨ k ∈ handed (runCalls w cs p).1 := by
  rw [runCalls_fds] at h
  exact replay_open h

/-- The same run: the socket open after it was handed back. -/
theorem runCalls_open_socket :
    (runCalls ⟨fun _ => none⟩ [.socket 0] ⟨.empty, 0, 0⟩).2.fds.desc 0 ≠ none ∧
      (FdTable.empty.desc 0 ≠ none ∨
        0 ∈ handed (runCalls ⟨fun _ => none⟩ [.socket 0] ⟨.empty, 0, 0⟩).1) := by
  have h : (runCalls ⟨fun _ => none⟩ [.socket 0] ⟨.empty, 0, 0⟩).2.fds.desc 0 ≠ none := by
    simp [runCalls, Call.exec, evutilSocket, sysSocket, sysOpenOne, Proc.next,
      FdTable.lowestFree_empty]
  exact ⟨h, runCalls_open _ _ _ h⟩

end Evutil
