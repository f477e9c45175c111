/-
  `evutil_parse_sockaddr_port` reads back what `evutil_format_sockaddr_port_` writes
  (`format_parse_sockaddr_round_trip`), for a port in `1..65535` and the fields the parser
  leaves zero (`sin_zero`, `sin6_flowinfo`, `sin6_scope_id`) zero.

  The texts `evutil_inet_ntop` writes hold digits, `.` and (for IPv6) `:` only
  (`mem_inetNtop4Text`, `mem_inetNtop6Text`), so the parser's search for `:`, `]` and `%`
  splits the formatted string where the formatter joined it.
-/
import Evutil.Sockaddr
import Evutil.InetRoundTrip

namespace Evutil

/-! ## The bytes of the address texts -/

theorem mem_fmtDottedQuad {a b c d : Nat} {x : UInt8} (h : x ∈ fmtDottedQuad a b c d) :
    (digitVal 10 x).isSome ∨ x = ch '.' := by
  have hd : ∀ n, x ∈ fmtNat 10 n → (digitVal 10 x).isSome ∨ x = ch '.' :=
    fun n h => Or.inl (fmtNat_digits (by decide) (by decide) n x h)
  simp only [fmtDottedQuad, List.mem_append, List.mem_cons] at h
  rcases h with ((h | h | h) | h | h) | h | h
  all_goals first | exact hd _ h | exact Or.inr h

theorem mem_inetNtop4Text {a : InAddr} {x : UInt8} (h : x ∈ inetNtop4Text a) :
    (digitVal 10 x).isSome ∨ x = ch '.' := by
  rw [inetNtop4Text] at h
  exact mem_fmtDottedQuad h

/-- A byte of the IPv6 text: a hex digit, `:` or `.`. -/
def Ntop6Byte (x : UInt8) : Prop := (digitVal 16 x).isSome ∨ x = ch ':' ∨ x = ch '.'

theorem ntop6Byte_of_decimal {x : UInt8} (h : (digitVal 10 x).isSome) : Ntop6Byte x := by
  obtain ⟨d, hd⟩ := Option.isSome_iff_exists.1 h
  exact Or.inl (Option.isSome_iff_exists.2 ⟨d, digitVal_mono (by decide) hd⟩)

theorem ntop6Byte_of_hex {n : Nat} {x : UInt8} (h : x ∈ fmtNat 16 n) : Ntop6Byte x :=
  Or.inl (fmtNat_digits (by decide) le_rfl n x h)

theorem ntop6Byte_of_quad {a b c d : Nat} {x : UInt8} (h : x ∈ fmtDottedQuad a b c d) :
    Ntop6Byte x :=
  (mem_fmtDottedQuad h).elim ntop6Byte_of_decimal fun h => Or.inr (Or.inr h)

theorem ntop6Byte_of_colonIf {p : Prop} [Decidable p] {x : UInt8}
    (h : x ∈ if p then [ch ':'] else []) : Ntop6Byte x := by
  split at h <;> simp at h
  exact Or.inr (Or.inl h)

theorem mem_ntop6Groups {w : Nat → Nat} {gp : Int} {x : UInt8} :
    ∀ k i, x ∈ ntop6Groups w gp k i → Ntop6Byte x
  | 0, _, h => by simp [ntop6Groups] at h
  | k + 1, i, h => by
    by_cases hi : i < 8
    · by_cases hgap : w i = 0 ∧ gp = i
      · simp only [ntop6Groups, if_pos hi, if_pos hgap, List.mem_append, List.mem_cons] at h
        rcases h with h | h | h
        · exact ntop6Byte_of_colonIf h
        · exact Or.inr (Or.inl h)
        · exact mem_ntop6Groups k _ h
      · simp only [ntop6Groups, if_pos hi, if_neg hgap, List.mem_append] at h
        rcases h with (h | h) | h
        · exact ntop6Byte_of_hex h
        · exact ntop6Byte_of_colonIf h
        · exact mem_ntop6Groups k _ h
    · simp [ntop6Groups, hi] at h

theorem mem_inetNtop6Text {a : In6Addr} {x : UInt8} (h : x ∈ inetNtop6Text a) : Ntop6Byte x := by
  unfold inetNtop6Text at h
  split_ifs at h
  · simp only [List.mem_cons] at h
    rcases h with h | h | h
    · exact Or.inr (Or.inl h)
    · exact Or.inr (Or.inl h)
    · exact ntop6Byte_of_quad h
  · simp only [List.mem_append, List.mem_cons] at h
    rcases h with (h | h | h) | h | h
    · exact Or.inr (Or.inl h)
    · exact Or.inr (Or.inl h)
    · exact ntop6Byte_of_hex h
    · exact Or.inr (Or.inl h)
    · exact ntop6Byte_of_quad h
  · exact mem_ntop6Groups _ _ h

/-! ## Splitting the formatted string -/

/-- `"%s:%d"` with an IPv4 text: no `[`, one `:`, the address before it and the port after. -/
theorem sockaddrParts_inet {T P : List UInt8} (hT : ∀ x ∈ T, (digitVal 10 x).isSome ∨ x = ch '.')
    (hne : T ≠ []) (hlen : T.length ≤ 127) (hP : ch ':' ∉ P) :
    sockaddrParts (T ++ ch ':' :: P) = some (false, T, some P) := by
  have hcolon : ch ':' ∉ T := fun h => by rcases hT _ h with h | h <;> revert h <;> decide
  have hfirst : deref (T ++ ch ':' :: P) 0 ≠ ch '[' := by
    obtain ⟨x, xs, rfl⟩ := List.exists_cons_of_ne_nil hne
    show x ≠ ch '['
    rintro rfl
    rcases hT _ (List.mem_cons_self _ _) with h | h <;> revert h <;> decide
  rw [sockaddrParts_one_colon hfirst hcolon hP, if_neg (by omega)]

/-- `"[%s]:%d"` with an IPv6 text: `[`, then the address up to the first `]`, then `:` and
    the port. -/
theorem sockaddrParts_inet6 {T P : List UInt8} (hT : ∀ x ∈ T, Ntop6Byte x) (hlen : T.length ≤ 127) :
    sockaddrParts (ch '[' :: T ++ ch ']' :: ch ':' :: P) = some (true, T, some P) := by
  have hb : ch ']' ∉ T := fun h => by rcases hT _ h with h | h | h <;> revert h <;> decide
  rw [sockaddrParts_bracket hb, if_neg (by omega)]
  rfl

/-! ## The port and the scope -/

theorem parsePort_fmtNat {p : Nat} (h0 : 0 < p) (h1 : p ≤ 65535) :
    parsePort (some (fmtNat 10 p)) = some p := by
  have h := strtol_fmtNat (n := p) (Or.inl rfl) (by unfold LONG_MAX; omega) stop_nil
  rw [List.append_nil] at h
  have hc : toCInt p = p := by unfold toCInt; omega
  simp only [parsePort, atoi, h, hc]
  rw [if_neg (by omega)]
  simp

theorem evutilInetPtonScope_of_not_mem (ifNametoindex : List UInt8 → Nat) {src : List UInt8}
    (h : ch '%' ∉ src) :
    evutilInetPtonScope ifNametoindex AF_INET6 src = (0, evutilInetPton AF_INET6 src) := by
  simp [evutilInetPtonScope, strchr_eq_none h]

/-! ## The round trip -/

theorem length_fmtNat_port (p : UInt16) : (fmtNat 10 p.toNat).length ≤ 5 :=
  fmtNat_length_le (by decide) (by decide) (lt_of_lt_of_le p.toNat_lt_size (by decide))

theorem colon_not_mem_fmtNat (n : Nat) : ch ':' ∉ fmtNat 10 n := fun h => by
  have := fmtNat_digits (by decide) (by decide) n _ h
  revert this; decide

theorem toUInt16_toNat (p : UInt16) : p.toNat.toUInt16 = p :=
  UInt16.toNat.inj (UInt16.toNat_ofNat_of_lt p.toNat_lt_size)

/-- An IPv4 socket address, formatted into at least 64 bytes, is parsed back. -/
theorem format_parse_sockaddr_in4 (ifNametoindex : List UInt8 → Nat) {len : Nat} {n : Int}
    (hlen : 64 ≤ len) (hn : sizeofSockaddrIn ≤ n) (sin : SockaddrIn)
    (hz : sin.sinZero = fun _ => 0) (hp : 0 < sin.sinPort.toNat) :
    ∃ s, evutilFormatSockaddrPort (.in4 sin) len = some s ∧
      evutilParseSockaddrPort ifNametoindex s n = some (.in4 sin, sizeofSockaddrIn) := by
  obtain ⟨port, a, zero⟩ := sin
  simp only at hz hp
  subst hz
  have hT := length_inetNtop4Text a
  have hP := length_fmtNat_port port
  have hne : inetNtop4Text a ≠ [] := by simp [inetNtop4Text, fmtDottedQuad]
  refine ⟨inetNtop4Text a ++ ch ':' :: fmtNat 10 port.toNat, ?_, ?_⟩
  · unfold evutilFormatSockaddrPort
    simp only [evutilInetNtop_inet (show 16 ≤ 128 by decide)]
    exact evutilSnprintf_of_lt (by simp only [List.length_append, List.length_cons]; omega)
  · have hparts := sockaddrParts_inet (fun x hx => mem_inetNtop4Text hx) hne (by omega)
      (colon_not_mem_fmtNat port.toNat)
    have hport := parsePort_fmtNat hp (by have : port.toNat < 65536 := port.toNat_lt_size; omega)
    simp [evutilParseSockaddrPort, hparts, hport, inetPton4_ntop4Text, evutilInetPton,
      not_lt.2 hn, Except.map, toUInt16_toNat]

/-- An IPv6 socket address with no flow label or scope, formatted into at least 64 bytes, is
    parsed back. -/
theorem format_parse_sockaddr_in6 (ifNametoindex : List UInt8 → Nat) {len : Nat} {n : Int}
    (hlen : 64 ≤ len) (hn : sizeofSockaddrIn6 ≤ n) (sin6 : SockaddrIn6)
    (hf : sin6.sin6Flowinfo = 0) (hs : sin6.sin6ScopeId = 0) (hp : 0 < sin6.sin6Port.toNat) :
    ∃ s, evutilFormatSockaddrPort (.in6 sin6) len = some s ∧
      evutilParseSockaddrPort ifNametoindex s n = some (.in6 sin6, sizeofSockaddrIn6) := by
  obtain ⟨port, flow, a, scope⟩ := sin6
  simp only at hf hs hp
  subst hf hs
  have hT := length_inetNtop6Text a
  have hP := length_fmtNat_port port
  refine ⟨ch '[' :: inetNtop6Text a ++ ch ']' :: ch ':' :: fmtNat 10 port.toNat, ?_, ?_⟩
  · unfold evutilFormatSockaddrPort
    simp only [evutilInetNtop_inet6 (show 41 ≤ 128 by decide)]
    exact evutilSnprintf_of_lt (by simp only [List.length_append, List.length_cons]; omega)
  · have hparts := sockaddrParts_inet6 (T := inetNtop6Text a) (P := fmtNat 10 port.toNat)
      (fun x hx => mem_inetNtop6Text hx) (by omega)
    have hport := parsePort_fmtNat hp (by have : port.toNat < 65536 := port.toNat_lt_size; omega)
    have hpct : ch '%' ∉ inetNtop6Text a := fun h => by
      rcases mem_inetNtop6Text h with h | h | h <;> revert h <;> decide
    rw [List.cons_append] at hparts
    simp [evutilParseSockaddrPort, hparts, hport, evutilInetPtonScope_of_not_mem _ hpct,
      inetPton6_ntop6Text, evutilInetPton, show AF_INET6 ≠ AF_INET by decide, not_lt.2 hn,
      Except.map, toUInt16_toNat]
    rfl

/-- **Formatting a socket address then parsing it gives it back**, with `out` of at least
    64 bytes and `*outlen` at least `sizeof(struct sockaddr_in6)`, for a port in `1..65535`
    and with the fields the parser zeroes zero. -/
theorem format_parse_sockaddr_round_trip (ifNametoindex : List UInt8 → Nat) (len : Nat) (n : Int)
    (hlen : 64 ≤ len) (hn : sizeofSockaddrIn6 ≤ n) :
    (∀ sin : SockaddrIn, sin.sinZero = (fun _ => 0) → 0 < sin.sinPort.toNat →
      ∃ s, evutilFormatSockaddrPort (.in4 sin) len = some s ∧
        evutilParseSockaddrPort ifNametoindex s n = some (.in4 sin, sizeofSockaddrIn)) ∧
    (∀ sin6 : SockaddrIn6, sin6.sin6Flowinfo = 0 → sin6.sin6ScopeId = 0 →
      0 < sin6.sin6Port.toNat →
      ∃ s, evutilFormatSockaddrPort (.in6 sin6) len = some s ∧
        evutilParseSockaddrPort ifNametoindex s n = some (.in6 sin6, sizeofSockaddrIn6)) :=
  have hn4 : sizeofSockaddrIn ≤ n := le_trans (by decide) hn
  ⟨format_parse_sockaddr_in4 ifNametoindex hlen hn4,
    format_parse_sockaddr_in6 ifNametoindex hlen hn⟩

theorem format_parse_sockaddr_loopback :
    (64 ≤ 64 ∧ sizeofSockaddrIn6 ≤ 28) ∧
    (∃ s, evutilFormatSockaddrPort (.in4 ⟨80, htonl 0x7f000001, fun _ => 0⟩) 64 = some s ∧
      evutilParseSockaddrPort (fun _ => 0) s 28 =
        some (.in4 ⟨80, htonl 0x7f000001, fun _ => 0⟩, sizeofSockaddrIn)) ∧
    (∃ s, evutilFormatSockaddrPort (.in6 ⟨443, 0, in6addrLoopback, 0⟩) 64 = some s ∧
      evutilParseSockaddrPort (fun _ => 0) s 28 =
        some (.in6 ⟨443, 0, in6addrLoopback, 0⟩, sizeofSockaddrIn6)) :=
  ⟨⟨le_rfl, by decide⟩,
    (format_parse_sockaddr_round_trip (fun _ => 0) 64 28 le_rfl (by decide)).1 _ rfl (by decide),
    (format_parse_sockaddr_round_trip (fun _ => 0) 64 28 le_rfl (by decide)).2 _ rfl rfl
      (by decide)⟩

end Evutil
