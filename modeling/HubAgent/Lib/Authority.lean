import HubAgent.Lib.IpAddr
import HubAgent.Lib.StrParts
/-!
# The authority of a URI with an address and a port

In an authority (`host ":" port`, RFC 3986) an IPv4 host stands in its dotted form and an IPv6 host in brackets.  Such a
text denotes one address and one port (`Denotes.unique`); an address written with colons and without brackets, and a
port behind it, denotes nothing (`not_denotes_of_colon`).
-/
namespace Authority

inductive Denotes : List Char → IpAddr → Nat → Prop
  | v4 (octets : Vector UInt8 4) (port : Nat) :
      Denotes ((IpAddr.v4 octets).toString.toList ++ ':' :: port.repr.toList) (.v4 octets) port
  | v6 (segments : Vector UInt16 8) (port : Nat) (host : String) : IpAddr.parse host = some (.v6 segments) →
      Denotes (('[' :: host.toList ++ [']']) ++ ':' :: port.repr.toList) (.v6 segments) port

/-- The URI of the scheme `http` with this authority and nothing behind it. -/
def UriDenotes (uri : List Char) (ip : IpAddr) (port : Nat) : Prop :=
  ∃ authority, uri = "http://".toList ++ authority ∧ (∀ c ∈ authority, c ∉ ['/', '?', '#']) ∧ Denotes authority ip port

/-! ## Ports -/

theorem colon_notMem_repr (n : Nat) : ':' ∉ n.repr.toList := by
  intro h
  rw [Nat.toList_repr] at h
  exact absurd (Nat.isDigit_of_mem_toDigits (by decide) (by decide) h) (by decide)

theorem repr_injective {n m : Nat} (h : n.repr.toList = m.repr.toList) : n = m := by
  rw [Nat.toList_repr, Nat.toList_repr] at h
  calc n = Nat.ofDigitChars 10 (Nat.toDigits 10 n) 0 := Nat.ofDigitChars_ten_toDigits.symm
    _ = Nat.ofDigitChars 10 (Nat.toDigits 10 m) 0 := by rw [h]
    _ = m := Nat.ofDigitChars_ten_toDigits

theorem host_port_unique {host host' : List Char} {port port' : Nat}
    (h : host ++ ':' :: port.repr.toList = host' ++ ':' :: port'.repr.toList) : host = host' ∧ port = port' := by
  have hle := RustStr.length_le_of_last h (colon_notMem_repr port)
  have hge := RustStr.length_le_of_last h.symm (colon_notMem_repr port')
  have hlength : (':' :: port.repr.toList).length = (':' :: port'.repr.toList).length := by
    simp only [List.length_cons]
    omega
  obtain ⟨hhost, hport⟩ := List.append_inj' h hlength
  exact ⟨hhost, repr_injective (List.cons.inj hport).2⟩

/-! ## The texts of addresses -/

/-- What an address is written with. -/
def AddressChar (c : Char) : Prop := c.isAlphanum = true ∨ c = ':' ∨ c = '.'

theorem AddressChar.notMem {c : Char} (h : AddressChar c) : c ∉ ['/', '?', '#', '[', ']'] := by
  intro hmem
  simp only [List.mem_cons, List.not_mem_nil, or_false] at hmem
  rcases hmem with rfl | rfl | rfl | rfl | rfl <;> exact absurd h (by unfold AddressChar; decide)

theorem isAlphanum_digitChar : ∀ d < 16, (Nat.digitChar d).isAlphanum = true := by decide

theorem isAlphanum_of_mem_toDigits {b : Nat} (hb : 1 < b) (hb16 : b ≤ 16) {c : Char} : ∀ (n : Nat), c ∈ Nat.toDigits b n →
    c.isAlphanum = true := by
  intro n
  induction n using Nat.strongRecOn with
  | ind n ih =>
    intro h
    rw [Nat.toDigits_eq_if hb] at h
    split_ifs at h with hlt
    · rw [List.mem_singleton.1 h]
      exact isAlphanum_digitChar n (by omega)
    · rcases List.mem_append.1 h with hfront | hlast
      · exact ih (n / b) (Nat.div_lt_self (by omega) hb) hfront
      · rw [List.mem_singleton.1 hlast]
        exact isAlphanum_digitChar _ (Nat.lt_of_lt_of_le (Nat.mod_lt n (by omega)) hb16)

theorem toList_displayIpv4 (a b c d : Nat) : (IpAddr.displayIpv4 a b c d).toList =
    ['.'].intercalate [a.repr.toList, b.repr.toList, c.repr.toList, d.repr.toList] := by
  rw [IpAddr.displayIpv4, String.toList_intercalate]
  rfl

theorem isDigit_of_mem_repr {n : Nat} {c : Char} (h : c ∈ n.repr.toList) : c.isDigit = true := by
  rw [Nat.toList_repr] at h
  exact Nat.isDigit_of_mem_toDigits (by decide) (by decide) h

theorem mem_displayIpv4 {a b c d : Nat} {x : Char} (h : x ∈ (IpAddr.displayIpv4 a b c d).toList) :
    x = '.' ∨ x.isDigit = true := by
  rw [toList_displayIpv4] at h
  refine (RustStr.mem_intercalate h).imp_right ?_
  rintro ⟨part, hpart, hx⟩
  simp only [List.mem_cons, List.not_mem_nil, or_false] at hpart
  rcases hpart with rfl | rfl | rfl | rfl <;> exact isDigit_of_mem_repr hx

theorem dot_notMem_repr (n : Nat) : '.' ∉ n.repr.toList := fun h => absurd (isDigit_of_mem_repr h) (by decide)

theorem displayIpv4_injective {a b c d a' b' c' d' : Nat}
    (h : (IpAddr.displayIpv4 a b c d).toList = (IpAddr.displayIpv4 a' b' c' d').toList) :
    a = a' ∧ b = b' ∧ c = c' ∧ d = d' := by
  have hsplit : ∀ a b c d : Nat, RustStr.split '.' (IpAddr.displayIpv4 a b c d).toList =
      [a.repr.toList, b.repr.toList, c.repr.toList, d.repr.toList] := fun a b c d => by
    rw [toList_displayIpv4]
    refine RustStr.split_intercalate (List.cons_ne_nil _ _) fun part hpart => ?_
    simp only [List.mem_cons, List.not_mem_nil, or_false] at hpart
    rcases hpart with rfl | rfl | rfl | rfl <;> exact dot_notMem_repr _
  have hparts := hsplit a b c d
  rw [h, hsplit] at hparts
  simp only [List.cons.injEq, and_true] at hparts
  exact ⟨(repr_injective hparts.1).symm, (repr_injective hparts.2.1).symm, (repr_injective hparts.2.2.1).symm,
    (repr_injective hparts.2.2.2).symm⟩

theorem toString_v4_injective {octets octets' : Vector UInt8 4}
    (h : (IpAddr.v4 octets).toString.toList = (IpAddr.v4 octets').toString.toList) : octets = octets' := by
  obtain ⟨h0, h1, h2, h3⟩ := displayIpv4_injective h
  refine Vector.ext fun i hi => UInt8.toNat_inj.1 ?_
  match i, hi with
  | 0, _ => exact h0
  | 1, _ => exact h1
  | 2, _ => exact h2
  | 3, _ => exact h3

/-! ## The texts of IPv6 addresses -/

theorem addressChar_hex {segment : Nat} {c : Char} (h : c ∈ (IpAddr.hex segment).toList) : AddressChar c := by
  rw [IpAddr.hex, String.toList_ofList] at h
  exact Or.inl (isAlphanum_of_mem_toDigits (by decide) (by decide) segment h)

theorem addressChar_displayIpv4 {a b c d : Nat} {x : Char} (h : x ∈ (IpAddr.displayIpv4 a b c d).toList) :
    AddressChar x := by
  rcases mem_displayIpv4 h with rfl | hdigit
  · exact Or.inr (Or.inr rfl)
  · exact Or.inl (by rw [Char.isAlphanum, hdigit, Bool.or_true])

theorem addressChar_join {chunk : List Nat} {c : Char} (h : c ∈ (":".intercalate (chunk.map IpAddr.hex)).toList) :
    AddressChar c := by
  rw [String.toList_intercalate] at h
  rcases RustStr.mem_intercalate h with rfl | ⟨part, hpart, hc⟩
  · exact Or.inr (Or.inl rfl)
  · obtain ⟨text, htext, rfl⟩ := List.mem_map.1 hpart
    obtain ⟨segment, -, rfl⟩ := List.mem_map.1 htext
    exact addressChar_hex hc

theorem addressChar_displayIpv6 {segments : List Nat} {c : Char} (h : c ∈ (IpAddr.displayIpv6 segments).toList) :
    AddressChar c := by
  unfold IpAddr.displayIpv6 at h
  split at h
  · rw [String.toList_append, List.mem_append] at h
    rcases h with hprefix | hv4
    · have hall : "::ffff:".toList.all (fun x => decide (x.isAlphanum = true ∨ x = ':' ∨ x = '.')) = true := by decide
      show c.isAlphanum = true ∨ c = ':' ∨ c = '.'
      exact of_decide_eq_true (List.all_eq_true.1 hall c hprefix)
    · exact addressChar_displayIpv4 hv4
  · dsimp only at h
    split_ifs at h
    · rw [String.toList_append, String.toList_append, List.mem_append, List.mem_append] at h
      rcases h with (hfront | hcolons) | hback
      · exact addressChar_join hfront
      · have hall : "::".toList.all (fun x => decide (x.isAlphanum = true ∨ x = ':' ∨ x = '.')) = true := by decide
        show c.isAlphanum = true ∨ c = ':' ∨ c = '.'
        exact of_decide_eq_true (List.all_eq_true.1 hall c hcolons)
      · exact addressChar_join hback
    · exact addressChar_join h

theorem colon_mem_displayIpv6 {segments : List Nat} (h : 1 < segments.length) :
    ':' ∈ (IpAddr.displayIpv6 segments).toList := by
  unfold IpAddr.displayIpv6
  split
  · rw [String.toList_append]
    exact List.mem_append_left _ (by decide)
  · dsimp only
    split_ifs
    · rw [String.toList_append, String.toList_append]
      exact List.mem_append_left _ (List.mem_append_right _ (by decide))
    · obtain ⟨x, y, rest, rfl⟩ : ∃ x y rest, segments = x :: y :: rest := by
        match segments, h with
        | x :: y :: rest, _ => exact ⟨x, y, rest, rfl⟩
      rw [String.toList_intercalate, List.map_cons, List.map_cons, List.map_cons, List.map_cons,
        List.intercalate_cons_cons]
      exact List.mem_append_left _ (List.mem_append_right _ List.mem_cons_self)

theorem addressChar_toString {ip : IpAddr} {c : Char} (h : c ∈ ip.toString.toList) : AddressChar c := by
  cases ip with
  | v4 octets => exact addressChar_displayIpv4 h
  | v6 segments => exact addressChar_displayIpv6 h

theorem colon_mem_toString_v6 (segments : Vector UInt16 8) : ':' ∈ (IpAddr.v6 segments).toString.toList :=
  colon_mem_displayIpv6 (by simp)

theorem colon_notMem_toString_v4 (octets : Vector UInt8 4) : ':' ∉ (IpAddr.v4 octets).toString.toList := by
  intro h
  rcases mem_displayIpv4 h with heq | hdigit
  · exact absurd heq (by decide)
  · exact absurd hdigit (by decide)

/-! ## What an authority denotes -/

/-- **An authority denotes one address and one port.** -/
theorem Denotes.unique {authority : List Char} {ip ip' : IpAddr} {port port' : Nat} (h : Denotes authority ip port)
    (h' : Denotes authority ip' port') : ip = ip' ∧ port = port' := by
  -- the dotted form has no bracket to begin with
  have hmixed : ∀ (octets : Vector UInt8 4) (host : List Char),
      (IpAddr.v4 octets).toString.toList ≠ '[' :: host ++ [']'] := fun octets host heq => by
    have hmem : '[' ∈ (IpAddr.v4 octets).toString.toList := heq ▸ List.mem_cons_self
    exact (addressChar_toString hmem).notMem (by decide)
  generalize htext : authority = text at h'
  cases h with
  | v4 octets port =>
    cases h' with
    | v4 octets' port' =>
      obtain ⟨hhost, hport⟩ := host_port_unique htext
      exact ⟨by rw [toString_v4_injective hhost], hport⟩
    | v6 segments' port' host' hparse' => exact absurd (host_port_unique htext).1 (hmixed octets _)
  | v6 segments port host hparse =>
    cases h' with
    | v4 octets' port' => exact absurd (host_port_unique htext).1.symm (hmixed octets' _)
    | v6 segments' port' host' hparse' =>
      obtain ⟨hhost, hport⟩ := host_port_unique htext
      have hlists := List.append_cancel_right (List.cons.inj hhost).2
      rw [String.toList_inj.1 hlists, hparse'] at hparse
      exact ⟨(Option.some.inj hparse).symm, hport⟩

/-- **A host with a colon has to be bracketed.** -/
theorem not_denotes_of_colon {host : List Char} (hcolon : ':' ∈ host) (hbracket : '[' ∉ host) (port : Nat) (ip : IpAddr)
    (port' : Nat) : ¬ Denotes (host ++ ':' :: port.repr.toList) ip port' := by
  intro h
  generalize htext : host ++ ':' :: port.repr.toList = text at h
  cases h with
  | v4 octets =>
    rw [(host_port_unique htext).1] at hcolon
    exact colon_notMem_toString_v4 octets hcolon
  | v6 segments _ bracketed _ =>
    rw [(host_port_unique htext).1] at hbracket
    exact hbracket List.mem_cons_self

theorem UriDenotes.unique {uri : List Char} {ip ip' : IpAddr} {port port' : Nat} (h : UriDenotes uri ip port)
    (h' : UriDenotes uri ip' port') : ip = ip' ∧ port = port' := by
  obtain ⟨authority, rfl, -, hdenotes⟩ := h
  obtain ⟨authority', heq, -, hdenotes'⟩ := h'
  rw [List.append_cancel_left heq] at hdenotes
  exact hdenotes.unique hdenotes'

end Authority
