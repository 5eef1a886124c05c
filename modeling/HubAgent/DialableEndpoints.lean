import HubAgent.Lib.Authority
import HubAgent.Streams
/-!
# What the discovered endpoints denote (`tetragon.rs`)

Every discovered endpoint is dialed as `http://` and its text.  It is to denote an address of a ready pod and a port of
its slice, and no two of them are to be written alike.  An IPv6 address is written without brackets, which is no
authority, and a port of 32 bits is cut to 16: `dialable_iff`.  With the port numbers that there are, what is left is
that all addresses are IPv4 (`plain_iff_of_portNumbers`).
-/
namespace HubAgent
namespace Tetragon

open Authority (UriDenotes Denotes)

/-- The URI of `grpc_channel`. -/
def channelUri (address : String) : String :=
  if "://".toList <:+: address.toList then address else "http://" ++ address

/-! ## What is listed -/

/-- An endpoint that is not said to be unready, of a pod or of nothing in particular. -/
structure ReadyPod (endpoint : SliceEndpoint) : Prop where
  ready : endpoint.conditions.bind (·.ready) ≠ some false
  pod : endpoint.targetRef.any (fun targetRef => targetRef.kind ≠ some "Pod") = false

instance (endpoint : SliceEndpoint) : Decidable (ReadyPod endpoint) :=
  decidable_of_iff (_ ∧ _) ⟨fun h => ⟨h.1, h.2⟩, fun h => ⟨h.ready, h.pod⟩⟩

/-- A port of the slice, or the configured one when the slice states none. -/
inductive PortOf (runtime : TetragonRuntime) (slice : EndpointSlice) : Nat → Prop
  | stated {p : EndpointPort} {n : Int32} {port : Nat} : p ∈ slice.ports.getD [] → p.port = some n → n.toInt = port →
      PortOf runtime slice port
  | configured : (∀ p ∈ slice.ports.getD [], p.port = none) → PortOf runtime slice runtime.grpcPort.toNat

def ListedAs (runtime : TetragonRuntime) (slices : List EndpointSlice) (ip : IpAddr) (port : Nat) : Prop :=
  ∃ slice ∈ slices, (∃ endpoint ∈ slice.endpoints, ReadyPod endpoint ∧
    ∃ address ∈ endpoint.addresses, IpAddr.parse address = some ip) ∧ PortOf runtime slice port

def candidates (slices : List EndpointSlice) : List (EndpointSlice × String) :=
  slices.flatMap (fun slice => (slice.endpoints.filter (fun endpoint => ReadyPod endpoint)).flatMap
    (fun endpoint => endpoint.addresses.map (fun address => (slice, address))))

def endpointText (ip : IpAddr) (port : UInt16) : String := ip.toString ++ ":" ++ port.toNat.repr

/-- The candidates that are addresses and are listed before there are sixteen endpoints. -/
def reachedFrom (runtime : TetragonRuntime) : Finset String → List (EndpointSlice × String) →
    List (EndpointSlice × IpAddr)
  | _, [] => []
  | seen, (slice, address) :: rest =>
    if maxDiscoveredEndpoints ≤ seen.card then []
    else
      match IpAddr.parse address with
      | none => reachedFrom runtime seen rest
      | some ip => (slice, ip) :: reachedFrom runtime (insert (endpointText ip (slicePort runtime slice)) seen) rest

def reached (runtime : TetragonRuntime) (slices : List EndpointSlice) : List (EndpointSlice × IpAddr) :=
  reachedFrom runtime ∅ (candidates slices)

def statedPort (runtime : TetragonRuntime) (slice : EndpointSlice) : Int :=
  ((slice.ports.bind (fun ports => ports.findSome? (·.port))).map Int32.toInt).getD runtime.grpcPort.toNat

/-! ## The discovery, candidate by candidate -/

section discovery

variable (runtime : TetragonRuntime)

def discoverCandidate (addresses : Finset String) (c : EndpointSlice × String) :
    Except (Finset String) (Finset String) :=
  discoverAddress (slicePort runtime c.1) addresses c.2

theorem foldlM_flatMap {ε α β σ : Type} (f : α → List β) (step : σ → β → Except ε σ) : ∀ (l : List α) (s : σ),
    (l.flatMap f).foldlM step s = l.foldlM (fun s a => (f a).foldlM step s) s
  | [], s => rfl
  | a :: l, s => by
    rw [List.flatMap_cons, List.foldlM_append, List.foldlM_cons]
    exact bind_congr fun s' => foldlM_flatMap f step l s'

theorem discoverEndpoint_eq (slice : EndpointSlice) (addresses : Finset String) (endpoint : SliceEndpoint)
    (h : ReadyPod endpoint) : discoverEndpoint (slicePort runtime slice) addresses endpoint =
      (endpoint.addresses.map (fun address => (slice, address))).foldlM (discoverCandidate runtime) addresses := by
  rw [discoverEndpoint, if_neg h.ready, h.pod, if_neg Bool.false_ne_true, List.foldlM_map]
  rfl

theorem discoverEndpoint_skips {port : UInt16} {addresses : Finset String} {endpoint : SliceEndpoint}
    (h : ¬ ReadyPod endpoint) : discoverEndpoint port addresses endpoint = .ok addresses := by
  rw [discoverEndpoint]
  split_ifs with hready hpod
  · rfl
  · rfl
  · exact absurd ⟨hready, Bool.eq_false_iff.2 hpod⟩ h

theorem discoverSlice_eq (addresses : Finset String) (slice : EndpointSlice) :
    discoverSlice runtime addresses slice =
      ((slice.endpoints.filter (fun endpoint => ReadyPod endpoint)).flatMap
        (fun endpoint => endpoint.addresses.map (fun address => (slice, address)))).foldlM
          (discoverCandidate runtime) addresses := by
  rw [discoverSlice, foldlM_flatMap, List.foldlM_filter]
  congr 1
  funext addresses endpoint
  split_ifs with h
  · exact discoverEndpoint_eq runtime slice addresses endpoint (of_decide_eq_true h)
  · exact discoverEndpoint_skips (by simpa using h)

theorem foldlM_discoverSlice (slices : List EndpointSlice) (addresses : Finset String) :
    slices.foldlM (discoverSlice runtime) addresses =
      (candidates slices).foldlM (discoverCandidate runtime) addresses := by
  rw [candidates, foldlM_flatMap]
  congr 1
  funext addresses slice
  exact discoverSlice_eq runtime addresses slice

def textOf (d : EndpointSlice × IpAddr) : String := endpointText d.2 (slicePort runtime d.1)

/-- The addresses that a discovery returns, at the cap or at the end. -/
def returned : Except (Finset String) (Finset String) → Finset String
  | .ok addresses => addresses
  | .error addresses => addresses

theorem mem_foldlM_discoverCandidate {text : String} : ∀ (l : List (EndpointSlice × String)) (seen : Finset String),
    text ∈ returned (l.foldlM (discoverCandidate runtime) seen) ↔
      text ∈ seen ∨ ∃ d ∈ reachedFrom runtime seen l, textOf runtime d = text
  | [], seen => by
    rw [List.foldlM_nil, reachedFrom]
    simp [pure, Except.pure, returned]
  | (slice, address) :: rest, seen => by
    rw [List.foldlM_cons, discoverCandidate, discoverAddress, reachedFrom, normalizeDiscoveredAddress]
    by_cases hcap : maxDiscoveredEndpoints ≤ seen.card
    · rw [if_pos hcap, if_pos hcap]
      simp [bind, Except.bind, returned]
    · rw [if_neg hcap, if_neg hcap]
      cases IpAddr.parse address with
      | none => exact mem_foldlM_discoverCandidate rest seen
      | some ip =>
        refine (mem_foldlM_discoverCandidate rest (insert (textOf runtime (slice, ip)) seen)).trans ?_
        rw [Finset.mem_insert, or_assoc, or_left_comm, eq_comm]
        simp only [List.mem_cons, exists_eq_or_imp]
        rfl

/-- **What is discovered is what the reached pairs are dialed by.** -/
theorem mem_discoverTetragonEndpoints {slices : List EndpointSlice} {text : String} :
    text ∈ discoverTetragonEndpoints runtime slices ↔ ∃ d ∈ reached runtime slices, textOf runtime d = text := by
  have hreturned : discoverTetragonEndpoints runtime slices =
      returned (slices.foldlM (discoverSlice runtime) ∅) := by
    unfold discoverTetragonEndpoints
    cases slices.foldlM (discoverSlice runtime) ∅ with
    | ok addresses => rfl
    | error addresses => rfl
  rw [hreturned, foldlM_discoverSlice, mem_foldlM_discoverCandidate, reached]
  simp

theorem mem_candidates_of_reachedFrom {d : EndpointSlice × IpAddr} : ∀ (l : List (EndpointSlice × String))
    (seen : Finset String), d ∈ reachedFrom runtime seen l → ∃ address, (d.1, address) ∈ l ∧ IpAddr.parse address = some d.2
  | (slice, address) :: rest, seen, h => by
    rw [reachedFrom] at h
    split_ifs at h
    · cases h
    · cases hparse : IpAddr.parse address with
      | none =>
        rw [hparse] at h
        obtain ⟨found, hmem, hfound⟩ := mem_candidates_of_reachedFrom rest _ h
        exact ⟨found, List.mem_cons_of_mem _ hmem, hfound⟩
      | some ip =>
        rw [hparse] at h
        rcases List.mem_cons.1 h with rfl | h
        · exact ⟨address, List.mem_cons_self, hparse⟩
        · obtain ⟨found, hmem, hfound⟩ := mem_candidates_of_reachedFrom rest _ h
          exact ⟨found, List.mem_cons_of_mem _ hmem, hfound⟩

theorem listed_of_reached {slices : List EndpointSlice} {d : EndpointSlice × IpAddr} (h : d ∈ reached runtime slices) :
    d.1 ∈ slices ∧ ∃ endpoint ∈ d.1.endpoints, ReadyPod endpoint ∧
      ∃ address ∈ endpoint.addresses, IpAddr.parse address = some d.2 := by
  obtain ⟨address, hmem, hparse⟩ := mem_candidates_of_reachedFrom runtime _ _ h
  obtain ⟨slice, hslice, hmem⟩ := List.mem_flatMap.1 hmem
  obtain ⟨endpoint, hendpoint, hmem⟩ := List.mem_flatMap.1 hmem
  obtain ⟨listed, hlisted, heq⟩ := List.mem_map.1 hmem
  cases heq
  rw [List.mem_filter, decide_eq_true_eq] at hendpoint
  exact ⟨hslice, endpoint, hendpoint.1, hendpoint.2, address, hlisted, hparse⟩

end discovery

/-! ## What is dialed -/

section dialed

variable (runtime : TetragonRuntime) (slices : List EndpointSlice)

/-- Every endpoint denotes a listed address and port, and no two pairs are dialed alike. -/
structure Dialable : Prop where
  denotes : ∀ endpoint ∈ discoverTetragonEndpoints runtime slices, ∃ ip port,
    UriDenotes (channelUri endpoint).toList ip port ∧
      (∀ ip' port', UriDenotes (channelUri endpoint).toList ip' port' → ip' = ip ∧ port' = port) ∧
      ListedAs runtime slices ip port
  distinct : ∀ d ∈ reached runtime slices, ∀ d' ∈ reached runtime slices, textOf runtime d = textOf runtime d' →
    d.2 = d'.2 ∧ statedPort runtime d.1 = statedPort runtime d'.1

/-- The reached addresses are IPv4, and the cut of the ports to 16 bits does not show. -/
structure Plain : Prop where
  v4 : ∀ d ∈ reached runtime slices, ∃ octets, d.2 = .v4 octets
  listed : ∀ d ∈ reached runtime slices, ListedAs runtime slices d.2 (slicePort runtime d.1).toNat
  distinct : ∀ d ∈ reached runtime slices, ∀ d' ∈ reached runtime slices, d.2 = d'.2 →
    slicePort runtime d.1 = slicePort runtime d'.1 → statedPort runtime d.1 = statedPort runtime d'.1

theorem toList_endpointText (ip : IpAddr) (port : UInt16) :
    (endpointText ip port).toList = ip.toString.toList ++ ':' :: port.toNat.repr.toList := by
  rw [endpointText, String.toList_append, String.toList_append, List.append_assoc]
  rfl

theorem addressChar_endpointText {ip : IpAddr} {port : UInt16} {c : Char} (h : c ∈ (endpointText ip port).toList) :
    Authority.AddressChar c := by
  rw [toList_endpointText, List.mem_append, List.mem_cons] at h
  rcases h with hhost | rfl | hport
  · exact Authority.addressChar_toString hhost
  · exact Or.inr (Or.inl rfl)
  · exact Or.inl (by rw [Char.isAlphanum, Authority.isDigit_of_mem_repr hport, Bool.or_true])

theorem channelUri_endpointText (ip : IpAddr) (port : UInt16) :
    (channelUri (endpointText ip port)).toList = "http://".toList ++ (ip.toString.toList ++ ':' :: port.toNat.repr.toList) := by
  have hslash : ¬ "://".toList <:+: (endpointText ip port).toList := fun h =>
    (addressChar_endpointText (h.subset (show '/' ∈ "://".toList by decide))).notMem (by decide)
  rw [channelUri, if_neg hslash, String.toList_append, toList_endpointText]

theorem uriDenotes_v4 (octets : Vector UInt8 4) (port : UInt16) :
    UriDenotes (channelUri (endpointText (.v4 octets) port)).toList (.v4 octets) port.toNat := by
  refine ⟨_, channelUri_endpointText _ _, fun c hc => ?_, .v4 octets port.toNat⟩
  rw [← toList_endpointText] at hc
  exact fun hmem => (addressChar_endpointText hc).notMem (List.mem_append_left ['[', ']'] hmem)

/-- **An IPv6 endpoint is no authority.** -/
theorem not_uriDenotes_v6 (segments : Vector UInt16 8) (port : UInt16) (ip : IpAddr) (port' : Nat) :
    ¬ UriDenotes (channelUri (endpointText (.v6 segments) port)).toList ip port' := by
  rintro ⟨authority, heq, -, hdenotes⟩
  rw [channelUri_endpointText] at heq
  rw [← List.append_cancel_left heq] at hdenotes
  refine Authority.not_denotes_of_colon (Authority.colon_mem_toString_v6 segments) ?_ _ ip port' hdenotes
  exact fun hmem => (Authority.addressChar_toString hmem).notMem (by decide)

/-- **The endpoints can be dialed exactly when all reached addresses are IPv4** and the ports survive their cut. -/
theorem dialable_iff : Dialable runtime slices ↔ Plain runtime slices := by
  constructor
  · intro h
    have hv4 : ∀ d ∈ reached runtime slices, ∃ octets, d.2 = .v4 octets := by
      rintro ⟨slice, ip⟩ hd
      obtain ⟨ip', port, hdenotes, -, -⟩ := h.denotes _ ((mem_discoverTetragonEndpoints runtime).2 ⟨_, hd, rfl⟩)
      cases ip with
      | v4 octets => exact ⟨octets, rfl⟩
      | v6 segments => exact absurd hdenotes (not_uriDenotes_v6 segments _ ip' port)
    refine ⟨hv4, ?_, ?_⟩
    · rintro ⟨slice, ip⟩ hd
      obtain ⟨octets, rfl⟩ := hv4 _ hd
      obtain ⟨ip', port, hdenotes, -, hlisted⟩ := h.denotes _ ((mem_discoverTetragonEndpoints runtime).2 ⟨_, hd, rfl⟩)
      obtain ⟨rfl, rfl⟩ := (uriDenotes_v4 octets (slicePort runtime slice)).unique hdenotes
      exact hlisted
    · intro d hd d' hd' hip hport
      exact (h.distinct d hd d' hd' (by rw [textOf, textOf, hip, hport])).2
  · intro h
    refine ⟨?_, ?_⟩
    · intro endpoint hendpoint
      obtain ⟨⟨slice, ip⟩, hd, rfl⟩ := (mem_discoverTetragonEndpoints runtime).1 hendpoint
      obtain ⟨octets, rfl⟩ := h.v4 _ hd
      have hdenotes := uriDenotes_v4 octets (slicePort runtime slice)
      exact ⟨_, _, hdenotes, fun ip' port' h' => h'.unique hdenotes, h.listed _ hd⟩
    · rintro ⟨slice, ip⟩ hd ⟨slice', ip'⟩ hd' htext
      obtain ⟨octets, rfl⟩ := h.v4 _ hd
      obtain ⟨octets', rfl⟩ := h.v4 _ hd'
      have hlists := congrArg String.toList htext
      rw [textOf, textOf, toList_endpointText, toList_endpointText] at hlists
      obtain ⟨hhost, hport⟩ := Authority.host_port_unique hlists
      have hip : IpAddr.v4 octets = .v4 octets' := by rw [Authority.toString_v4_injective hhost]
      exact ⟨hip, h.distinct _ hd _ hd' hip (UInt16.toNat_inj.1 hport)⟩

/-- The port numbers that there are; the API server takes no others. -/
def PortNumbers : Prop :=
  ∀ slice ∈ slices, ∀ p ∈ slice.ports.getD [], ∀ n, p.port = some n → 0 ≤ n.toInt ∧ n.toInt ≤ 65535

theorem toNat_cast {n : Int32} (h : 0 ≤ n.toInt ∧ n.toInt ≤ 65535) : (n.toUInt32.toUInt16.toNat : Int) = n.toInt := by
  have hint : n.toInt = n.toUInt32.toBitVec.toInt := rfl
  have hlt := n.toUInt32.toNat_lt
  rw [hint, BitVec.toInt_eq_toNat_cond, UInt32.toNat_toBitVec] at h ⊢
  rw [UInt32.toNat_toUInt16]
  split_ifs at h ⊢ <;> omega

theorem slicePort_of_portNumbers {runtime : TetragonRuntime} {slices : List EndpointSlice} (h : PortNumbers slices)
    {slice : EndpointSlice} (hslice : slice ∈ slices) : ((slicePort runtime slice).toNat : Int) = statedPort runtime slice ∧
      PortOf runtime slice (slicePort runtime slice).toNat := by
  have hports : slice.ports.bind (fun ports => ports.findSome? (·.port)) = (slice.ports.getD []).findSome? (·.port) := by
    cases slice.ports <;> rfl
  rw [slicePort, statedPort, hports]
  cases hfind : (slice.ports.getD []).findSome? (·.port) with
  | none => exact ⟨rfl, .configured fun p hp => List.findSome?_eq_none_iff.1 hfind p hp⟩
  | some n =>
    obtain ⟨p, hp, hstated⟩ := List.exists_of_findSome?_eq_some hfind
    have hcast := toNat_cast (h slice hslice p hp n hstated)
    exact ⟨hcast, .stated hp hstated hcast.symm⟩

/-- **With port numbers nothing is left but the addresses.** -/
theorem plain_iff_of_portNumbers {runtime : TetragonRuntime} {slices : List EndpointSlice} (h : PortNumbers slices) :
    Plain runtime slices ↔ ∀ d ∈ reached runtime slices, ∃ octets, d.2 = .v4 octets := by
  refine ⟨fun hplain => hplain.v4, fun hv4 => ⟨hv4, ?_, ?_⟩⟩
  · intro d hd
    obtain ⟨hslice, hready⟩ := listed_of_reached runtime hd
    exact ⟨d.1, hslice, hready, (slicePort_of_portNumbers h hslice).2⟩
  · intro d hd d' hd' _ hport
    rw [← (slicePort_of_portNumbers h (listed_of_reached runtime hd).1).1,
      ← (slicePort_of_portNumbers h (listed_of_reached runtime hd').1).1, hport]

def ipv6Slice : EndpointSlice where
  ports := some [⟨some 54321⟩]
  endpoints := [⟨["fd00::1"], none, some ⟨some "Pod"⟩⟩]

/-- Its endpoint is `fd00::1:54321`, which is no authority. -/
theorem ipv6_not_dialable : ¬ ∀ (runtime : TetragonRuntime) (slices : List EndpointSlice), Dialable runtime slices := by
  intro h
  have hdiscovered : "fd00::1:54321" ∈ discoverTetragonEndpoints ⟨true, 54321, ""⟩ [ipv6Slice] := by decide +kernel
  obtain ⟨ip, port, hdenotes, -, -⟩ := (h ⟨true, 54321, ""⟩ [ipv6Slice]).denotes _ hdiscovered
  have htext : "fd00::1:54321" = endpointText (.v6 #v[0xfd00, 0, 0, 0, 0, 0, 0, 1]) 54321 := by decide +kernel
  rw [htext] at hdenotes
  exact not_uriDenotes_v6 _ _ ip port hdenotes

end dialed

end Tetragon
end HubAgent
