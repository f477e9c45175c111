/-
  The process as the descriptor wrappers of `evutil.c` see it: its descriptor table, `errno`,
  and the system calls they make, as Linux does them.
  * `Desc`: an open descriptor by its file status flags (those `F_SETFL` can change) and its
    descriptor flags (`FD_CLOEXEC`). `FdTable`: what each `int` descriptor refers to. A table
    has finitely many open descriptors, so `lowestFree`, the one a new file gets, exists.
  * `World`: the environment, `fails k` the `errno` the `k`-th system call fails with (`none`
    when it succeeds). `Proc`: the table, `errno` and the number of calls made so far.
  * `sysOpenOne`, `sysOpenTwo`: a call that opens one or two descriptors (`socket`,
    `accept4`, `eventfd`, `open`; `pipe2`, `socketpair`); `sysFcntl`, `sysClose`, and
    `sysFdCall`, a call that only reads a descriptor (`bind`, `listen`, `fstat`). The
    domain, protocol, addresses, paths and modes these take only decide, with the
    environment, whether they fail, and are left out.
  * `sysOpenOne_elim`, `sysOpenTwo_elim`, `sysFcntl_get_elim`, `sysFcntl_set_elim`,
    `sysConnect_elim`, `sysFdCall_elim`, `sysClose_erase`: all a call can do to the table, as
    the case analyses the wrappers' proofs make.
-/
import Mathlib.Data.Nat.Find
import Mathlib.Logic.Function.Basic

namespace Evutil

/-! ## Constants (Linux, x86-64) -/

def O_NONBLOCK : Nat := 0o4000

def O_CLOEXEC : Nat := 0o2000000

/-- The file status flags `F_SETFL` can change (`SETFL_MASK` of `fs/fcntl.c`): `O_APPEND`,
    `O_NONBLOCK`, `O_ASYNC`, `O_DIRECT` and `O_NOATIME`. -/
def SETFL_MASK : Nat := 0o2000 ||| O_NONBLOCK ||| 0o20000 ||| 0o40000 ||| 0o1000000

def FD_CLOEXEC : Nat := 1

/-- `SOCK_NONBLOCK`, which is `O_NONBLOCK`. -/
def SOCK_NONBLOCK : Nat := O_NONBLOCK

/-- `SOCK_CLOEXEC`, which is `O_CLOEXEC`. -/
def SOCK_CLOEXEC : Nat := O_CLOEXEC

/-- `EFD_NONBLOCK`, which is `O_NONBLOCK`. -/
def EFD_NONBLOCK : Nat := O_NONBLOCK

/-- `EFD_CLOEXEC`, which is `O_CLOEXEC`. -/
def EFD_CLOEXEC : Nat := O_CLOEXEC

def F_GETFD : Nat := 1

def F_SETFD : Nat := 2

def F_GETFL : Nat := 3

def F_SETFL : Nat := 4

def EBADF : Int := 9

def EINVAL : Int := 22

def ENOSYS : Int := 38

def EINTR : Int := 4

def ECONNREFUSED : Int := 111

def EINPROGRESS : Int := 115

def EAFNOSUPPORT : Int := 97

def ECONNABORTED : Int := 103

/-! ## The descriptor table -/

/-- An open descriptor: its file status flags (the access mode, which no call here reads or
    changes, left out), and its descriptor flags, of which `FD_CLOEXEC` is the only one. -/
structure Desc where
  status : Nat
  cloexec : Bool
  deriving DecidableEq, Repr

/-- The descriptor table: what each descriptor refers to, `none` when it is not open. No
    negative descriptor is open, and only finitely many are. -/
structure FdTable where
  desc : Int → Option Desc
  finite : ∃ n : Nat, ∀ k : Int, (k < 0 ∨ n ≤ k) → desc k = none

namespace FdTable

@[ext] theorem ext {t t' : FdTable} (h : t.desc = t'.desc) : t = t' := by
  cases t; cases t'; cases h; rfl

theorem desc_neg (t : FdTable) {k : Int} (h : k < 0) : t.desc k = none := by
  obtain ⟨n, hn⟩ := t.finite
  exact hn k (.inl h)

theorem exists_free (t : FdTable) : ∃ n : Nat, t.desc n = none :=
  let ⟨n, h⟩ := t.finite; ⟨n, h n (.inr (Int.le_refl _))⟩

/-- The descriptor a new file gets: the lowest one not open. -/
def lowestFree (t : FdTable) : Nat := Nat.find t.exists_free

theorem lowestFree_free (t : FdTable) : t.desc t.lowestFree = none := Nat.find_spec t.exists_free

/-- The table of a process with no descriptor open. -/
def empty : FdTable := ⟨fun _ => none, 0, fun _ _ => rfl⟩

@[simp] theorem empty_desc (k : Int) : empty.desc k = none := rfl

theorem lowestFree_empty : empty.lowestFree = 0 := (Nat.find_eq_zero _).2 rfl

/-- `t` with `fd` opened as `d`. -/
def insert (t : FdTable) (fd : Nat) (d : Desc) : FdTable where
  desc := Function.update t.desc fd (some d)
  finite := by
    obtain ⟨n, h⟩ := t.finite
    refine ⟨max n (fd + 1), fun k hk => ?_⟩
    rw [Function.update_noteq (by omega)]
    exact h k (by omega)

/-- `t` with `fd` closed. -/
def erase (t : FdTable) (fd : Int) : FdTable where
  desc := Function.update t.desc fd none
  finite := by
    obtain ⟨n, h⟩ := t.finite
    refine ⟨n, fun k hk => ?_⟩
    by_cases e : k = fd
    · rw [e, Function.update_same]
    · rw [Function.update_noteq e, h k hk]

/-- `t` with the descriptor `fd`, if open, changed by `f`. -/
def modify (t : FdTable) (fd : Int) (f : Desc → Desc) : FdTable where
  desc := Function.update t.desc fd ((t.desc fd).map f)
  finite := by
    obtain ⟨n, h⟩ := t.finite
    refine ⟨n, fun k hk => ?_⟩
    by_cases e : k = fd
    · rw [e, Function.update_same, ← e, h k hk, Option.map_none']
    · rw [Function.update_noteq e, h k hk]

@[simp] theorem insert_desc (t : FdTable) (fd : Nat) (d : Desc) :
    (t.insert fd d).desc = Function.update t.desc fd (some d) := rfl

@[simp] theorem erase_desc (t : FdTable) (fd : Int) :
    (t.erase fd).desc = Function.update t.desc fd none := rfl

@[simp] theorem modify_desc (t : FdTable) (fd : Int) (f : Desc → Desc) :
    (t.modify fd f).desc = Function.update t.desc fd ((t.desc fd).map f) := rfl

theorem erase_insert {t : FdTable} {fd : Nat} (h : t.desc fd = none) (d : Desc) :
    (t.insert fd d).erase fd = t := by
  ext1; simp [Function.update_idem, ← h]

theorem erase_modify (t : FdTable) (fd : Int) (f : Desc → Desc) :
    (t.modify fd f).erase fd = t.erase fd := by
  ext1; simp [Function.update_idem]

theorem modify_insert (t : FdTable) (fd : Nat) (d : Desc) (f : Desc → Desc) :
    (t.insert fd d).modify fd f = t.insert fd (f d) := by
  ext1; simp [Function.update_idem]

theorem modify_congr {t : FdTable} {fd : Int} {d : Desc} (h : t.desc fd = some d)
    {f g : Desc → Desc} (hfg : f d = g d) : t.modify fd f = t.modify fd g := by
  ext1; simp [h, hfg]

theorem modify_self {t : FdTable} {fd : Int} {d : Desc} (h : t.desc fd = some d)
    {f : Desc → Desc} (hf : f d = d) : t.modify fd f = t := by
  ext1; rw [modify_desc, h, Option.map_some', hf, ← h, Function.update_eq_self]

@[simp] theorem modify_id (t : FdTable) (fd : Int) : t.modify fd id = t := by
  ext1; simp

theorem erase_of_free {t : FdTable} {fd : Int} (h : t.desc fd = none) : t.erase fd = t := by
  ext1; rw [erase_desc, ← h, Function.update_eq_self]

theorem modify_of_free {t : FdTable} {fd : Int} (h : t.desc fd = none) (f : Desc → Desc) :
    t.modify fd f = t := by
  ext1; rw [modify_desc, h, Option.map_none', ← h, Function.update_eq_self]

theorem desc_of_erase {t : FdTable} {fd k : Int} (h : (t.erase fd).desc k ≠ none) :
    t.desc k ≠ none := by
  rw [erase_desc, Function.update_apply] at h
  split_ifs at h
  · exact absurd rfl h
  · exact h

theorem desc_of_modify {t : FdTable} {fd k : Int} {f : Desc → Desc}
    (h : (t.modify fd f).desc k ≠ none) : t.desc k ≠ none := by
  rw [modify_desc, Function.update_apply] at h
  split_ifs at h with e
  · rw [e]; exact fun h' => h (by rw [h', Option.map_none'])
  · exact h

theorem free_of_insert {t : FdTable} {a : Nat} {d : Desc} {k : Int}
    (h : (t.insert a d).desc k = none) : k ≠ a ∧ t.desc k = none := by
  by_cases e : k = a
  · subst e; simp at h
  · exact ⟨e, by simpa [Function.update_noteq e] using h⟩

theorem erase_insert_ne (t : FdTable) {a : Nat} {b : Int} (h : (a : Int) ≠ b) (d : Desc) :
    (t.insert a d).erase b = (t.erase b).insert a d := by
  ext1; exact Function.update_comm h _ _ _

theorem modify_insert_ne (t : FdTable) {a : Nat} {b : Int} (h : (a : Int) ≠ b) (d : Desc)
    (f : Desc → Desc) : (t.insert a d).modify b f = (t.modify b f).insert a d := by
  ext1; simp [Function.update_comm h, Function.update_noteq (Ne.symm h)]

theorem erase_comm (t : FdTable) (a b : Int) : (t.erase a).erase b = (t.erase b).erase a := by
  ext1; funext k
  by_cases ha : k = a <;> by_cases hb : k = b <;> simp_all [Function.update_apply]

theorem lowestFree_insert_ne (t : FdTable) (d : Desc) :
    (t.insert t.lowestFree d).lowestFree ≠ t.lowestFree := fun h => by
  have := (t.insert t.lowestFree d).lowestFree_free
  rw [h, insert_desc, Function.update_same] at this
  cases this

theorem lowestFree_insert_free (t : FdTable) (d : Desc) :
    t.desc (t.insert t.lowestFree d).lowestFree = none := by
  have h := (t.insert t.lowestFree d).lowestFree_free
  rwa [insert_desc, Function.update_noteq (by exact_mod_cast t.lowestFree_insert_ne d)] at h

end FdTable

/-! ## The process and its environment -/

/-- What the environment answers: `fails k` is the `errno` the `k`-th system call of the run
    fails with, `none` when it succeeds. -/
structure World where
  fails : Nat → Option Int

/-- The process: its descriptor table, `errno`, and the number of system calls made. -/
structure Proc where
  fds : FdTable
  errno : Int
  calls : Nat

/-- The environment's answer to the next system call, and the count advanced. -/
def Proc.next (w : World) (p : Proc) : Option Int × Proc :=
  (w.fails p.calls, { p with calls := p.calls + 1 })

/-! ## The system calls -/

/-- A call that opens one descriptor described by `d`: `-1` with `errno` set when the
    environment fails it, the lowest free descriptor otherwise. -/
def sysOpenOne (w : World) (d : Desc) (p : Proc) : Int × Proc :=
  match p.next w with
  | (some e, p) => (-1, { p with errno := e })
  | (none, p) => (p.fds.lowestFree, { p with fds := p.fds.insert p.fds.lowestFree d })

/-- `socket(domain, type, protocol)`. -/
def sysSocket (w : World) (type : Nat) (p : Proc) : Int × Proc :=
  sysOpenOne w ⟨type &&& SOCK_NONBLOCK, type &&& SOCK_CLOEXEC ≠ 0⟩ p

/-- `accept4(sockfd, addr, addrlen, flags)`: the new socket takes no flag from `sockfd`. -/
def sysAccept4 (w : World) (sockfd : Int) (flags : Nat) (p : Proc) : Int × Proc :=
  if p.fds.desc sockfd = none then (-1, { p with errno := EBADF })
  else sysOpenOne w ⟨flags &&& SOCK_NONBLOCK, flags &&& SOCK_CLOEXEC ≠ 0⟩ p

/-- `accept(sockfd, addr, addrlen)`, which is `accept4` with no flags. -/
def sysAccept (w : World) (sockfd : Int) (p : Proc) : Int × Proc := sysAccept4 w sockfd 0 p

/-- `eventfd(initval, flags)`. -/
def sysEventfd (w : World) (flags : Nat) (p : Proc) : Int × Proc :=
  sysOpenOne w ⟨flags &&& EFD_NONBLOCK, flags &&& EFD_CLOEXEC ≠ 0⟩ p

/-- `open(pathname, flags, mode)`. -/
def sysOpen (w : World) (flags : Nat) (p : Proc) : Int × Proc :=
  sysOpenOne w ⟨flags &&& SETFL_MASK, flags &&& O_CLOEXEC ≠ 0⟩ p

/-- A call that opens two descriptors described by `d` and writes them to `fd[0]` and `fd[1]`:
    the value it returns, `fd` after it, and the process. -/
def sysOpenTwo (w : World) (d : Desc) (fd : Int × Int) (p : Proc) : Int × (Int × Int) × Proc :=
  match p.next w with
  | (some e, p) => (-1, fd, { p with errno := e })
  | (none, p) =>
    let a := p.fds.lowestFree
    let t := p.fds.insert a d
    (0, (a, t.lowestFree), { p with fds := t.insert t.lowestFree d })

/-- `pipe2(fd, flags)`. -/
def sysPipe2 (w : World) (flags : Nat) (fd : Int × Int) (p : Proc) : Int × (Int × Int) × Proc :=
  sysOpenTwo w ⟨flags &&& O_NONBLOCK, flags &&& O_CLOEXEC ≠ 0⟩ fd p

/-- `pipe(fd)`, which is `pipe2` with no flags. -/
def sysPipe (w : World) (fd : Int × Int) (p : Proc) : Int × (Int × Int) × Proc :=
  sysPipe2 w 0 fd p

/-- `socketpair(domain, type, protocol, fd)`. -/
def sysSocketpair (w : World) (type : Nat) (fd : Int × Int) (p : Proc) :
    Int × (Int × Int) × Proc :=
  sysOpenTwo w ⟨type &&& SOCK_NONBLOCK, type &&& SOCK_CLOEXEC ≠ 0⟩ fd p

/-- The file status flags after `F_SETFL` with `arg`: the bits of `SETFL_MASK` from `arg`, the
    others kept. -/
def setflStatus (old arg : Nat) : Nat := (arg &&& SETFL_MASK) ||| (old ^^^ (old &&& SETFL_MASK))

theorem setflStatus_or (old bit : Nat) (hb : bit &&& SETFL_MASK = bit) :
    setflStatus old (old ||| bit) = old ||| bit := by
  apply Nat.eq_of_testBit_eq; intro i
  have hbi := congrArg (Nat.testBit · i) hb
  simp only [Nat.testBit_and] at hbi
  simp only [setflStatus, Nat.testBit_or, Nat.testBit_and, Nat.testBit_xor]
  revert hbi
  cases old.testBit i <;> cases bit.testBit i <;> cases SETFL_MASK.testBit i <;> simp

/-- On a descriptor with no settable flag, `F_SETFL` with `bit` adds `bit`: the requirement of
    the fast setters of `evutil.c`. -/
theorem setflStatus_of_clear {old : Nat} (h : old &&& SETFL_MASK = 0) (bit : Nat)
    (hb : bit &&& SETFL_MASK = bit) : setflStatus old bit = old ||| bit := by
  apply Nat.eq_of_testBit_eq; intro i
  have hbi := congrArg (Nat.testBit · i) hb
  have hi := congrArg (Nat.testBit · i) h
  simp only [Nat.testBit_and, Nat.zero_testBit] at hbi hi
  simp only [setflStatus, Nat.testBit_or, Nat.testBit_and, Nat.testBit_xor]
  revert hbi hi
  cases old.testBit i <;> cases bit.testBit i <;> cases SETFL_MASK.testBit i <;> simp

/-- Otherwise the settable flags it drops are lost: `O_APPEND` here. -/
example : setflStatus 0o2000 O_NONBLOCK = O_NONBLOCK := by decide

/-- What `F_GETFL` and `F_GETFD` read. -/
def fcntlGet (cmd : Nat) (d : Desc) : Nat :=
  if cmd = F_GETFL then d.status else if d.cloexec then FD_CLOEXEC else 0

/-- What `F_SETFL` and `F_SETFD` with `arg` do to a descriptor. -/
def fcntlSet (cmd arg : Nat) (d : Desc) : Desc :=
  if cmd = F_SETFL then { d with status := setflStatus d.status arg }
  else { d with cloexec := arg &&& FD_CLOEXEC ≠ 0 }

/-- `fcntl(fd, cmd, arg)` for `F_GETFL`, `F_SETFL`, `F_GETFD` and `F_SETFD`. -/
def sysFcntl (w : World) (fd : Int) (cmd arg : Nat) (p : Proc) : Int × Proc :=
  match p.fds.desc fd with
  | none => (-1, { p with errno := EBADF })
  | some d =>
    match p.next w with
    | (some e, p) => (-1, { p with errno := e })
    | (none, p) =>
      if cmd = F_GETFL ∨ cmd = F_GETFD then (fcntlGet cmd d, p)
      else if cmd = F_SETFL ∨ cmd = F_SETFD then (0, { p with fds := p.fds.modify fd (fcntlSet cmd arg) })
      else (-1, { p with errno := EINVAL })

/-- `connect(fd, addr, addrlen)`: the table does not change. -/
def sysConnect (w : World) (fd : Int) (p : Proc) : Int × Proc :=
  if p.fds.desc fd = none then (-1, { p with errno := EBADF })
  else
    match p.next w with
    | (some e, p) => (-1, { p with errno := e })
    | (none, p) => (0, p)

/-- A call on a descriptor that leaves the table: `EBADF` when `fd` is not open, else `-1` or
    `0` as the environment says. -/
def sysFdCall (w : World) (fd : Int) (p : Proc) : Int × Proc :=
  if p.fds.desc fd = none then (-1, { p with errno := EBADF })
  else
    match p.next w with
    | (some e, p) => (-1, { p with errno := e })
    | (none, p) => (0, p)

/-- `close(fd)`: the descriptor is released even when the call reports an error. -/
def sysClose (w : World) (fd : Int) (p : Proc) : Int × Proc :=
  match p.fds.desc fd with
  | none => (-1, { p with errno := EBADF })
  | some _ =>
    match ({ p with fds := p.fds.erase fd } : Proc).next w with
    | (some e, p) => (-1, { p with errno := e })
    | (none, p) => (0, p)

/-! ## What each call does to the table -/

section Calls

variable (w : World) (p : Proc)

theorem sysConnect_fds (fd : Int) : (sysConnect w fd p).2.fds = p.fds := by
  unfold sysConnect Proc.next
  split
  · rfl
  · cases w.fails p.calls <;> rfl

theorem sysFcntl_of_free {fd : Int} (h : p.fds.desc fd = none) (cmd arg : Nat) :
    sysFcntl w fd cmd arg p = (-1, { p with errno := EBADF }) := by
  unfold sysFcntl; rw [h]

theorem sysFdCall_of_ok {fd : Int} (hfd : p.fds.desc fd ≠ none) (hw : w.fails p.calls = none) :
    sysFdCall w fd p = (0, { p with calls := p.calls + 1 }) := by
  unfold sysFdCall Proc.next
  rw [if_neg hfd, hw]

/-- Whatever it returns, `close` leaves `fd` released. -/
theorem sysClose_erase (fd : Int) : (sysClose w fd p).2.fds = p.fds.erase fd := by
  unfold sysClose Proc.next
  rcases hd : p.fds.desc fd with _ | d
  · exact (FdTable.erase_of_free hd).symm
  · cases w.fails p.calls <;> rfl

end Calls

/-! ## Case analysis on a call inside a wrapper

Each lemma says what a call can return and leave, in the form a wrapper's proof uses: the goal
about what follows the call is proved once for each outcome. -/

section Elim

variable {w : World} {p : Proc}

@[elab_as_elim]
theorem sysOpenOne_elim {motive : Int × Proc → Prop} (d : Desc)
    (fail : ∀ p', p'.fds = p.fds → motive (-1, p'))
    (ok : ∀ p', p'.fds = p.fds.insert p.fds.lowestFree d → motive (p.fds.lowestFree, p')) :
    motive (sysOpenOne w d p) := by
  unfold sysOpenOne Proc.next
  cases w.fails p.calls
  · exact ok _ rfl
  · exact fail _ rfl

@[elab_as_elim]
theorem sysAccept4_elim {motive : Int × Proc → Prop} (sockfd : Int) (flags : Nat)
    (fail : ∀ p', p'.fds = p.fds → motive (-1, p'))
    (ok : ∀ p', p'.fds = p.fds.insert p.fds.lowestFree
      ⟨flags &&& SOCK_NONBLOCK, flags &&& SOCK_CLOEXEC ≠ 0⟩ → motive (p.fds.lowestFree, p')) :
    motive (sysAccept4 w sockfd flags p) := by
  unfold sysAccept4
  split
  · exact fail _ rfl
  · exact sysOpenOne_elim _ fail ok

@[elab_as_elim]
theorem sysOpenTwo_elim {motive : Int × (Int × Int) × Proc → Prop} (d : Desc) (fd : Int × Int)
    (fail : ∀ p', p'.fds = p.fds → motive (-1, fd, p'))
    (ok : ∀ p', p'.fds = (p.fds.insert p.fds.lowestFree d).insert
        (p.fds.insert p.fds.lowestFree d).lowestFree d →
      motive (0, ((p.fds.lowestFree : Int), ((p.fds.insert p.fds.lowestFree d).lowestFree : Int)),
        p')) :
    motive (sysOpenTwo w d fd p) := by
  unfold sysOpenTwo Proc.next
  cases w.fails p.calls
  · exact ok _ rfl
  · exact fail _ rfl

@[elab_as_elim]
theorem sysFcntl_get_elim {motive : Int × Proc → Prop} {fd : Int} {d : Desc}
    (h : p.fds.desc fd = some d) {cmd : Nat} (hcmd : cmd = F_GETFL ∨ cmd = F_GETFD) (arg : Nat)
    (fail : ∀ p', p'.fds = p.fds → motive (-1, p'))
    (ok : ∀ p', p'.fds = p.fds → motive (fcntlGet cmd d, p')) :
    motive (sysFcntl w fd cmd arg p) := by
  unfold sysFcntl Proc.next
  rw [h]
  cases w.fails p.calls
  · dsimp only
    rw [if_pos hcmd]
    exact ok _ rfl
  · exact fail _ rfl

@[elab_as_elim]
theorem sysFcntl_set_elim {motive : Int × Proc → Prop} {fd : Int} (h : p.fds.desc fd ≠ none)
    {cmd : Nat} (hcmd : cmd = F_SETFL ∨ cmd = F_SETFD) (arg : Nat)
    (fail : ∀ p', p'.fds = p.fds → motive (-1, p'))
    (ok : ∀ p', p'.fds = p.fds.modify fd (fcntlSet cmd arg) → motive (0, p')) :
    motive (sysFcntl w fd cmd arg p) := by
  have hget : ¬(cmd = F_GETFL ∨ cmd = F_GETFD) := by
    rcases hcmd with rfl | rfl <;> decide
  unfold sysFcntl Proc.next
  rcases hd : p.fds.desc fd with _ | d
  · exact absurd hd h
  cases w.fails p.calls
  · dsimp only
    rw [if_neg hget, if_pos hcmd]
    exact ok _ rfl
  · exact fail _ rfl

@[elab_as_elim]
theorem sysFdCall_elim {motive : Int × Proc → Prop} (fd : Int)
    (fail : ∀ p', p'.fds = p.fds → motive (-1, p')) (ok : ∀ p', p'.fds = p.fds → motive (0, p')) :
    motive (sysFdCall w fd p) := by
  unfold sysFdCall Proc.next
  split
  · exact fail _ rfl
  · cases w.fails p.calls
    · exact ok _ rfl
    · exact fail _ rfl

@[elab_as_elim]
theorem sysConnect_elim {motive : Int × Proc → Prop} (fd : Int)
    (h : ∀ r p', p'.fds = p.fds → motive (r, p')) : motive (sysConnect w fd p) :=
  h _ _ (sysConnect_fds w p fd)

end Elim

end Evutil
