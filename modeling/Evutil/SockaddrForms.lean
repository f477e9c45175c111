/-
  The strings `evutil_parse_sockaddr_port` (`evutil.c`) accepts.

  * `SockaddrForm f s r`: `s` has one of the forms `[A6]:P`, `[A6]R`, `A6`, `A4:P`, `A4` that
    the function reads, and `r` is the structure and length it writes for it. `A6` is a text
    `evutil_inet_pton_scope(AF_INET6, ...)` accepts, `A4` one `evutil_inet_pton(AF_INET, ...)`
    accepts, and `P` a port text whose `atoi` is in `1..65535`.
  * `parse_sockaddr_port_iff_form`: with room for a `sockaddr_in6`, the function returns `0`
    exactly on these forms.

  The forms are what the code reads, not the five the header documents, which promises `-1`
  for a port out of range or an address that is not well formed: anything after `[A6]` that
  does not start with `:` is ignored, and `atoi` takes any prefix of `P` it can read and wraps
  it to `int`, so that `1.2.3.4:4294967376` has the port `80`
  (`parse_sockaddr_port_wraps_port`). An `A4` or a bracketed `A6` longer than 127 bytes is
  refused, even when it is a text `evutil_inet_pton` accepts: the function copies the address
  into a 128-byte buffer first.
-/
import Evutil.Sockaddr
import Evutil.InetAccept

namespace Evutil

/-- The forms of `ip_as_string` that `evutil_parse_sockaddr_port` accepts, with the structure
    written to `out` and the new `*outlen`. -/
inductive SockaddrForm (ifNametoindex : List UInt8 → Nat) : List UInt8 → Sockaddr × Int → Prop
  /-- Form `[A6]:P`. -/
  | bracketPort {A P : List UInt8} {idx port : Nat} {a : In6Addr} :
      ch ']' ∉ A → A.length ≤ 127 →
      evutilInetPtonScope ifNametoindex AF_INET6 A = (idx, .ok (.inet6 a)) →
      parsePort (some P) = some port →
      SockaddrForm ifNametoindex (ch '[' :: A ++ ch ']' :: ch ':' :: P)
        (.in6 ⟨port.toUInt16, 0, a, idx.toUInt32⟩, sizeofSockaddrIn6)
  /-- Form `[A6]R`, where `R` does not start with `:` and is ignored. -/
  | bracket {A R : List UInt8} {idx : Nat} {a : In6Addr} :
      ch ']' ∉ A → A.length ≤ 127 → deref R 0 ≠ ch ':' →
      evutilInetPtonScope ifNametoindex AF_INET6 A = (idx, .ok (.inet6 a)) →
      SockaddrForm ifNametoindex (ch '[' :: A ++ ch ']' :: R)
        (.in6 ⟨0, 0, a, idx.toUInt32⟩, sizeofSockaddrIn6)
  /-- Form `A6`. -/
  | inet6 {s : List UInt8} {idx : Nat} {a : In6Addr} :
      evutilInetPtonScope ifNametoindex AF_INET6 s = (idx, .ok (.inet6 a)) →
      SockaddrForm ifNametoindex s (.in6 ⟨0, 0, a, idx.toUInt32⟩, sizeofSockaddrIn6)
  /-- Form `A4:P`. -/
  | inetPort {A P : List UInt8} {port : Nat} {a : InAddr} :
      A.length ≤ 127 → ch ':' ∉ P → evutilInetPton AF_INET A = .ok (.inet a) →
      parsePort (some P) = some port →
      SockaddrForm ifNametoindex (A ++ ch ':' :: P)
        (.in4 ⟨port.toUInt16, a, fun _ => 0⟩, sizeofSockaddrIn)
  /-- Form `A4`. -/
  | inet {s : List UInt8} {a : InAddr} :
      evutilInetPton AF_INET s = .ok (.inet a) →
      SockaddrForm ifNametoindex s (.in4 ⟨0, a, fun _ => 0⟩, sizeofSockaddrIn)

/-! ## The address texts -/

theorem evutilInetPton_inet {t : List UInt8} {x : Addr} (h : evutilInetPton AF_INET t = .ok x) :
    ∃ a, evutilInetPton4 t = .ok a ∧ x = .inet a := by
  unfold evutilInetPton at h
  rw [if_pos rfl] at h
  cases h4 : evutilInetPton4 t with
  | error e => simp [h4, Except.map] at h
  | ok a => simp only [h4, Except.map, Except.ok.injEq] at h; exact ⟨a, rfl, h.symm⟩

theorem deref_append_ne {A B : List UInt8} {c : UInt8} (hA : deref A 0 ≠ c)
    (hB : deref B 0 ≠ c) : deref (A ++ B) 0 ≠ c := by
  cases A with
  | nil => exact hB
  | cons x xs => exact hA

/-- An `A4`, alone or before `:`, is split by its colon. -/
theorem sockaddrParts_of_inet {A P : List UInt8} {a : InAddr}
    (hA : evutilInetPton AF_INET A = .ok (.inet a)) (hP : ch ':' ∉ P) :
    sockaddrParts (A ++ ch ':' :: P) = (if 127 < A.length then none else some (false, A, some P)) ∧
    sockaddrParts A = some (false, A, none) := by
  obtain ⟨a4, h4, -⟩ := evutilInetPton_inet hA
  have h0 := evutilInetPton4_not_bracket h4
  have hc := evutilInetPton4_no_colon h4
  exact ⟨sockaddrParts_one_colon (deref_append_ne h0 (show ch ':' ≠ ch '[' by decide)) hc hP,
    sockaddrParts_no_colon h0 hc⟩

/-! ## Each form is accepted -/

section Accept

variable {ifNametoindex : List UInt8 → Nat} {n : Int}

theorem parse_of_sockaddrForm (hn : sizeofSockaddrIn6 ≤ n) {s : List UInt8} {r : Sockaddr × Int}
    (h : SockaddrForm ifNametoindex s r) : evutilParseSockaddrPort ifNametoindex s n = some r := by
  have h6 : ¬ n < sizeofSockaddrIn6 := not_lt.2 hn
  have h4 : ¬ n < sizeofSockaddrIn := fun h => h6 (lt_of_lt_of_le h (by decide))
  unfold evutilParseSockaddrPort
  cases h with
  | bracketPort hA hlen hsc hport =>
    rw [sockaddrParts_bracket hA, if_neg (by omega)]
    simp only [deref, List.getD_cons_zero, if_true, List.drop_one, List.tail_cons,
      Option.bind_eq_bind, Option.some_bind, hport, hsc, h6, if_false]
  | bracket hA hlen hR hsc =>
    rw [sockaddrParts_bracket hA, if_neg (by omega), if_neg hR]
    simp only [Option.bind_eq_bind, Option.some_bind, parsePort, hsc, h6, if_true, if_false]
    rfl
  | inet6 hsc =>
    rw [sockaddrParts_two_colons (evutilInetPtonScope_not_bracket hsc)
      (evutilInetPtonScope_colons hsc)]
    simp only [Option.bind_eq_bind, Option.some_bind, parsePort, hsc, h6, if_true, if_false]
    rfl
  | inetPort hlen hP hA hport =>
    rw [(sockaddrParts_of_inet hA hP).1, if_neg (by omega)]
    simp only [Option.bind_eq_bind, Option.some_bind, hport, hA, h4, Bool.false_eq_true,
      if_false]
  | inet hA =>
    rw [(sockaddrParts_of_inet hA (List.not_mem_nil _)).2]
    simp only [Option.bind_eq_bind, Option.some_bind, parsePort, hA, h4, Bool.false_eq_true,
      if_false]
    rfl

/-! ## Only the forms are accepted -/

/-- What the function returns once it has split `s` as an `A6`: the structure
    `evutil_inet_pton_scope` gives. -/
theorem evutilParseSockaddrPort_inet6_inv {s A : List UInt8} {pp : Option (List UInt8)}
    {port : Nat} {r : Sockaddr × Int} (hp : sockaddrParts s = some (true, A, pp))
    (hport : parsePort pp = some port) (h : evutilParseSockaddrPort ifNametoindex s n = some r) :
    ∃ idx a, evutilInetPtonScope ifNametoindex AF_INET6 A = (idx, .ok (.inet6 a)) ∧
      r = (.in6 ⟨port.toUInt16, 0, a, idx.toUInt32⟩, sizeofSockaddrIn6) := by
  simp only [evutilParseSockaddrPort, hp, hport, Option.bind_eq_bind, Option.some_bind,
    if_true] at h
  generalize evutilInetPtonScope ifNametoindex AF_INET6 A = sc at h
  obtain ⟨idx, _ | _ | a⟩ := sc <;> dsimp only at h <;> try split_ifs at h
  all_goals cases h
  exact ⟨idx, a, rfl, rfl⟩

/-- The same for an `A4` and `evutil_inet_pton`. -/
theorem evutilParseSockaddrPort_inet_inv {s A : List UInt8} {pp : Option (List UInt8)}
    {port : Nat} {r : Sockaddr × Int} (hp : sockaddrParts s = some (false, A, pp))
    (hport : parsePort pp = some port) (h : evutilParseSockaddrPort ifNametoindex s n = some r) :
    ∃ a, evutilInetPton AF_INET A = .ok (.inet a) ∧
      r = (.in4 ⟨port.toUInt16, a, fun _ => 0⟩, sizeofSockaddrIn) := by
  simp only [evutilParseSockaddrPort, hp, hport, Option.bind_eq_bind, Option.some_bind,
    Bool.false_eq_true, if_false] at h
  generalize evutilInetPton AF_INET A = sc at h
  obtain _ | a | _ := sc <;> dsimp only at h <;> try split_ifs at h
  all_goals cases h
  exact ⟨a, rfl, rfl⟩

theorem sockaddrForm_of_parse {s : List UInt8} {r : Sockaddr × Int}
    (h : evutilParseSockaddrPort ifNametoindex s n = some r) : SockaddrForm ifNametoindex s r := by
  cases hp : sockaddrParts s with
  | none =>
    simp only [evutilParseSockaddrPort, hp, Option.bind_eq_bind, Option.none_bind, reduceCtorEq] at h
  | some parts =>
    obtain ⟨b, A, pp⟩ := parts
    cases hport : parsePort pp with
    | none =>
      simp only [evutilParseSockaddrPort, hp, hport, Option.bind_eq_bind, Option.some_bind,
        Option.none_bind, reduceCtorEq] at h
    | some port =>
      rcases sockaddrParts_cases hp with
        ⟨R, rfl, hA, hlen, rfl, rfl⟩ | ⟨-, -, rfl, rfl, rfl⟩ | ⟨P, rfl, -, -, hP, hlen, rfl, rfl⟩ |
          ⟨-, -, rfl, rfl, rfl⟩
      · obtain ⟨idx, a, hsc, rfl⟩ := evutilParseSockaddrPort_inet6_inv hp hport h
        by_cases hc : deref R 0 = ch ':'
        · rw [if_pos hc] at hport
          cases R with
          | nil => exact absurd hc (by decide)
          | cons x P =>
            obtain rfl : x = ch ':' := hc
            exact .bracketPort hA hlen hsc hport
        · rw [if_neg hc] at hport
          cases hport
          exact .bracket hA hlen hc hsc
      · obtain ⟨idx, a, hsc, rfl⟩ := evutilParseSockaddrPort_inet6_inv hp hport h
        cases hport
        exact .inet6 hsc
      · obtain ⟨a, hsc, rfl⟩ := evutilParseSockaddrPort_inet_inv hp hport h
        exact .inetPort hlen hP hsc hport
      · obtain ⟨a, hsc, rfl⟩ := evutilParseSockaddrPort_inet_inv hp hport h
        cases hport
        exact .inet hsc

end Accept

/-- **Exactly the forms.** With room for a `sockaddr_in6` in `*outlen`,
    `evutil_parse_sockaddr_port` returns `0` and writes `r` exactly when the string has one of
    the forms of `SockaddrForm` and `r` is what that form gives. -/
theorem parse_sockaddr_port_iff_form (ifNametoindex : List UInt8 → Nat) (s : List UInt8)
    (n : Int) (r : Sockaddr × Int) (hn : sizeofSockaddrIn6 ≤ n) :
    evutilParseSockaddrPort ifNametoindex s n = some r ↔ SockaddrForm ifNametoindex s r :=
  ⟨sockaddrForm_of_parse, parse_of_sockaddrForm hn⟩

/-- Two strings outside the five documented forms that the function takes: the port text
    `4294967376`, whose `atoi` wraps to `80`, and `[::1]` followed by text that is ignored. -/
theorem parse_sockaddr_port_wraps_port :
    sizeofSockaddrIn6 ≤ 28 ∧
      evutilParseSockaddrPort (fun _ => 0) (cstr "1.2.3.4" ++ ch ':' :: cstr "4294967376") 28 =
        some (.in4 ⟨80, htonl 0x01020304, fun _ => 0⟩, sizeofSockaddrIn) ∧
      evutilParseSockaddrPort (fun _ => 0) (ch '[' :: cstr "::1" ++ ch ']' :: cstr "junk") 28 =
        some (.in6 ⟨0, 0, ⟨![0, 0, 0, 0, 0, 0, 0, 0, 0, 0, 0, 0, 0, 0, 0, 1]⟩, 0⟩,
          sizeofSockaddrIn6) :=
  have hn : sizeofSockaddrIn6 ≤ 28 := by decide
  ⟨hn, (parse_sockaddr_port_iff_form (fun _ => 0) _ 28 _ hn).2
      (@SockaddrForm.inetPort _ _ _ 80 _ (by decide) (by decide) (by decide) (by decide)),
    (parse_sockaddr_port_iff_form (fun _ => 0) _ 28 _ hn).2
      (@SockaddrForm.bracket _ _ _ 0 _ (by decide) (by decide) (by decide) (by decide))⟩

end Evutil
