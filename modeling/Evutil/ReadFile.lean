/-
  `evutil_read_file_` (`evutil.c`): the contents of a file in a new `NUL`-terminated buffer.
  * `File`: what the path names, as the system calls see it: the size `fstat` reports, the bytes
    the `read`s give one after another, and at most how many of them each `read` hands over.
    The size need not be the number of bytes (a file in `/proc`, a file another process
    changes), and a `read` may give `0` before the end. `sysFstat`, `sysRead`: `fstat` and
    `read` on it.
  * `readLoop`: the loop `while ((r = read(...)) > 0)`, by recursion on the bytes still to
    read. `evutilReadFile`: the function, on Linux, where `O_BINARY` does not exist.
  * `readLoop_spec`: the loop reads the bytes in order, at most `st_size` of them, and stops
    short of `st_size` only at a `read` that gives `0` or fails. `evutilReadFile_spec`: the
    file is closed again on every path, and when the function returns `0` the buffer holds
    the first `*len_out ≤ st_size` bytes and a `NUL`, all that `st_size` and the file allow
    when no `read` comes up empty early. `readLoop_ok`, `evutilReadFile_succeeds`: and it does
    return `0` when no system call fails, `mm_malloc` succeeds and the size fits.
-/
import Evutil.Descriptors

namespace Evutil

def O_RDONLY : Nat := 0

/-- `EV_SSIZE_MAX` on a 64-bit system. -/
def EV_SSIZE_MAX : Int := 2 ^ 63 - 1

/-- The file a path names, as the system calls see it: `st_size` as `fstat` reports it, the
    bytes the `read`s give in order, and at most how many of them the `read` made as system
    call `k` hands over. -/
structure File where
  stSize : Int
  data : List UInt8
  chunk : Nat → Nat

/-- `fstat(fd, &st)`: the value returned and `st.st_size`. -/
def sysFstat (w : World) (f : File) (fd : Int) (p : Proc) : Int × Int × Proc :=
  let (r, p) := sysFdCall w fd p
  (r, f.stSize, p)

/-- `read(fd, buf, count)` at the offset `off` of the file: the value returned, the bytes put in
    `buf`, and the process. -/
def sysRead (w : World) (f : File) (fd : Int) (off count : Nat) (p : Proc) :
    Int × List UInt8 × Proc :=
  let k := p.calls
  let (r, p) := sysFdCall w fd p
  if r < 0 then (r, [], p)
  else
    let n := min (f.chunk k) (min count (f.data.length - off))
    (n, (f.data.drop off).take n, p)

/-- `while ((r = read(fd, mem + read_so_far, st.st_size - read_so_far)) > 0) {
    read_so_far += r; if (read_so_far >= (size_t)st.st_size) break; }` on a descriptor just
    opened, whose offset is `read_so_far`: `r` at the end, `read_so_far`, the bytes in `mem`, and
    the process. -/
def readLoop (w : World) (f : File) (fd : Int) (size readSoFar : Nat) (mem : List UInt8)
    (p : Proc) : Int × Nat × List UInt8 × Proc :=
  let (r, bytes, p) := sysRead w f fd readSoFar (size - readSoFar) p
  if 0 < r then
    if size ≤ readSoFar + r.toNat then (r, readSoFar + r.toNat, mem ++ bytes, p)
    else readLoop w f fd size (readSoFar + r.toNat) (mem ++ bytes) p
  else (r, readSoFar, mem, p)
termination_by size - readSoFar
decreasing_by omega

/-- `evutil_read_file_(filename, &content_out, &len_out, is_binary)`, with whether `mm_malloc`
    succeeds as `mallocOk`: the value returned, `*content_out` (`none` for `NULL`, else the
    buffer up to and with its `NUL`), `*len_out`, and the process. -/
def evutilReadFile (w : World) (f : File) (mallocOk : Bool) (p : Proc) :
    Int × Option (List UInt8) × Nat × Proc :=
  let (fd, p) := evutilOpenCloseonexec w O_RDONLY p
  if fd < 0 then (-1, none, 0, p) else
  let (s, size, p) := sysFstat w f fd p
  if s ≠ 0 ∨ size < 0 ∨ EV_SSIZE_MAX - 1 < size then (-2, none, 0, (sysClose w fd p).2) else
  if !mallocOk then (-2, none, 0, (sysClose w fd p).2) else
  let (r, readSoFar, mem, p) := readLoop w f fd size.toNat 0 [] p
  let p := (sysClose w fd p).2
  if r < 0 then (-2, none, 0, p) else (0, some (mem ++ [0]), readSoFar, p)

/-! ## The loop -/

section Read

variable {w : World} {p : Proc}

/-- A `read` fails, or hands over the next `n` bytes from `off`: as many as the system call
    hands over, no more than asked for or left. -/
@[elab_as_elim]
theorem sysRead_elim {motive : Int × List UInt8 × Proc → Prop} (f : File) (fd : Int)
    (off count : Nat) (fail : ∀ p', p'.fds = p.fds → motive (-1, [], p'))
    (ok : ∀ p' (n : Nat), p'.fds = p.fds → n = min (f.chunk p.calls) (min count (f.data.length - off)) →
      motive (n, (f.data.drop off).take n, p')) :
    motive (sysRead w f fd off count p) := by
  unfold sysRead
  refine sysFdCall_elim fd (fun p' h => ?_) fun p' h => ?_ <;> dsimp only
  · exact fail p' h
  · rw [if_neg (by decide)]
    exact ok p' _ h rfl

end Read

/-- The loop reads the file in order: it leaves the table, the bytes in `mem` are the first
    `read_so_far` of the file, at most `size`, and when no `read` fails and none gives `0`
    before the end, as many as `size` and the file allow. -/
theorem readLoop_spec (w : World) (f : File) (fd : Int) (size : Nat) :
    ∀ (readSoFar : Nat) (mem : List UInt8) (p : Proc), readSoFar ≤ size →
      readSoFar ≤ f.data.length → mem = f.data.take readSoFar →
      let res := readLoop w f fd size readSoFar mem p
      res.2.2.2.fds = p.fds ∧ res.2.2.1 = f.data.take res.2.1 ∧ res.2.1 ≤ size ∧
        (0 ≤ res.1 → (∀ k, 0 < f.chunk k) → res.2.1 = min size f.data.length) := by
  intro readSoFar
  obtain ⟨n, hn⟩ : ∃ n, size - readSoFar = n := ⟨_, rfl⟩
  induction n using Nat.strong_induction_on generalizing readSoFar with
  | _ n ih =>
    intro mem p hle hlen hmem
    rw [readLoop]
    refine sysRead_elim f fd _ _ (fun p1 h1 => ?_) (fun p1 m h1 hm => ?_) <;> dsimp only
    · rw [if_neg (by decide)]
      exact ⟨h1, hmem, hle, fun h => absurd h (by decide : ¬(0 : Int) ≤ -1)⟩
    have hmem' : mem ++ (f.data.drop readSoFar).take m = f.data.take (readSoFar + m) := by
      rw [hmem, List.take_add]
    by_cases h0 : 0 < (m : Int)
    · rw [if_pos h0, Int.toNat_ofNat]
      by_cases hs : size ≤ readSoFar + m
      · rw [if_pos hs]
        exact ⟨h1, hmem', show readSoFar + m ≤ size by omega,
          fun _ _ => show readSoFar + m = min size f.data.length by omega⟩
      · rw [if_neg hs]
        obtain ⟨e1, e2, e3, e4⟩ := ih (size - (readSoFar + m)) (by omega) (readSoFar + m) rfl
          (mem ++ (f.data.drop readSoFar).take m) p1 (by omega) (by omega) hmem'
        exact ⟨e1.trans h1, e2, e3, e4⟩
    · rw [if_neg h0]
      exact ⟨h1, hmem, hle, fun _ hc =>
        show readSoFar = min size f.data.length by have := hc p.calls; omega⟩

/-- When no `read` fails the loop ends with `r ≥ 0`. -/
theorem readLoop_ok (w : World) (f : File) {fd : Int} (size : Nat) :
    ∀ (readSoFar : Nat) (mem : List UInt8) (p : Proc), p.fds.desc fd ≠ none →
      (∀ k, p.calls ≤ k → w.fails k = none) → 0 ≤ (readLoop w f fd size readSoFar mem p).1 := by
  intro readSoFar
  obtain ⟨n, hn⟩ : ∃ n, size - readSoFar = n := ⟨_, rfl⟩
  induction n using Nat.strong_induction_on generalizing readSoFar with
  | _ n ih =>
    intro mem p hfd hw
    rw [readLoop]
    unfold sysRead
    rw [sysFdCall_of_ok _ _ hfd (hw _ le_rfl)]
    dsimp only
    rw [if_neg (lt_irrefl (0 : Int))]
    dsimp only
    simp only [Int.toNat_ofNat]
    split_ifs with h0
    · exact h0.le
    · exact ih _ (by omega) _ rfl _ _ hfd fun k hk => hw k (Nat.le_of_succ_le hk)
    · exact Int.natCast_nonneg _

/-! ## The function -/

/-- **What `evutil_read_file_` returns.** It closes what it opened whatever happens. When it
    returns `0`, the buffer holds the first `*len_out` bytes of the file and a `NUL`, with
    `*len_out` at most the `st_size` `fstat` reported; and when no `read` gives `0` before the
    end, `*len_out` is all that `st_size` and the file allow: the whole file when its size is
    right, its first `st_size` bytes when it grew, and what is left when it shrank. -/
theorem evutilReadFile_spec (w : World) (f : File) (mallocOk : Bool) (p : Proc) :
    let r := evutilReadFile w f mallocOk p
    r.2.2.2.fds = p.fds ∧
      (r.1 = 0 → r.2.1 = some (f.data.take r.2.2.1 ++ [0]) ∧ r.2.2.1 ≤ f.stSize.toNat ∧
        ((∀ k, 0 < f.chunk k) → r.2.2.1 = min f.stSize.toNat f.data.length)) := by
  have hm1 : (-1 : Int) ≠ 0 := by decide
  have hm2 : (-2 : Int) ≠ 0 := by decide
  unfold evutilReadFile
  refine (evutilOpenCloseonexec_opens w O_RDONLY p).elim (fun p1 h1 => ?_)
    fun n p1 hn h1 => ?_ <;> dsimp only
  · rw [if_pos (by decide)]
    exact ⟨h1, fun h => absurd h hm1⟩
  rw [if_neg (by omega)]
  -- every path closes `n`, which gives the table back
  have hclose : ∀ q : Proc, q.fds = p1.fds → (sysClose w n q).2.fds = p.fds := fun q hq => by
    rw [sysClose_erase, hq, h1, FdTable.erase_insert hn]
  unfold sysFstat
  refine sysFdCall_elim _ (fun p2 h2 => ?_) fun p2 h2 => ?_ <;> dsimp only
  · rw [if_pos (.inl (by decide))]
    exact ⟨hclose p2 h2, fun h => absurd h hm2⟩
  by_cases hbig : (0 : Int) ≠ 0 ∨ f.stSize < 0 ∨ EV_SSIZE_MAX - 1 < f.stSize
  · rw [if_pos hbig]
    exact ⟨hclose p2 h2, fun h => absurd h hm2⟩
  rw [if_neg hbig]
  cases mallocOk
  · rw [if_pos (by decide)]
    exact ⟨hclose p2 h2, fun h => absurd h hm2⟩
  rw [if_neg (by decide)]
  obtain ⟨e1, e2, e3, e4⟩ := readLoop_spec w f n f.stSize.toNat 0 [] p2 (Nat.zero_le _)
    (Nat.zero_le _) rfl
  generalize readLoop w f _ _ 0 [] p2 = q at e1 e2 e3 e4 ⊢
  obtain ⟨r, readSoFar, mem, p3⟩ := q
  dsimp only at e1 e2 e3 e4 ⊢
  by_cases hr : r < 0
  · rw [if_pos hr]
    exact ⟨hclose p3 (e1.trans h2), fun h => absurd h hm2⟩
  · rw [if_neg hr, e2]
    exact ⟨hclose p3 (e1.trans h2), fun _ => ⟨rfl, e3, e4 (by omega)⟩⟩

/-- When no system call fails, `mm_malloc` succeeds and `fstat` reports a size in
    `0..EV_SSIZE_MAX - 1`, `evutil_read_file_` returns `0`. -/
theorem evutilReadFile_succeeds (w : World) (f : File) (p : Proc)
    (hw : ∀ k, p.calls ≤ k → w.fails k = none) (hsize : 0 ≤ f.stSize ∧ f.stSize ≤ EV_SSIZE_MAX - 1) :
    (evutilReadFile w f true p).1 = 0 := by
  unfold evutilReadFile evutilOpenCloseonexec sysOpen sysOpenOne Proc.next
  rw [hw _ le_rfl]
  dsimp only
  rw [if_pos (Or.inl (Int.natCast_nonneg _))]
  dsimp only
  rw [if_neg (by omega)]
  unfold sysFstat
  rw [sysFdCall_of_ok _ _ (by simp) (hw _ (Nat.le_succ _))]
  dsimp only
  rw [if_neg (by omega), if_neg (by decide), if_neg (not_lt.mpr (readLoop_ok w f _ 0 [] _ ?_ ?_))]
  · simp
  · intro k hk
    exact hw k (by dsimp only at hk; omega)

/-- A three-byte file read in one chunk, in a process where no system call fails. -/
theorem evutilReadFile_succeeds_abc :
    (evutilReadFile ⟨fun _ => none⟩ ⟨3, cstr "abc", fun _ => 3⟩ true ⟨.empty, 0, 0⟩).1 = 0 :=
  evutilReadFile_succeeds _ _ _ (fun _ _ => rfl) (by simp [EV_SSIZE_MAX])

end Evutil
