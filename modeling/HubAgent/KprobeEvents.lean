import HubAgent.Dependencies
/-!
# Kernel events, written and read back (`tetragon.rs`, `collector.rs`)

The stream turns an event of the gRPC server into a line of JSON, and the collection reads the line as a record.  The
two meet only through the text: `event_line_read_back` says that what one writes is what the other reads.  The JSON
library is a parameter that is asked to read back the one value that is written.
-/
namespace HubAgent
namespace Tetragon

open Collector

/-! ## Events (`api.proto`) -/

structure KprobeSock where
  protocol : String
  saddr : String
  daddr : String
  dport : UInt32

inductive KprobeArg where
  | intArg (value : Int32)
  | sockArg (sock : KprobeSock)

structure KprobeArgument where
  arg : Option KprobeArg

structure ProcessKprobe where
  functionName : String
  args : List KprobeArgument

structure Timestamp where
  seconds : Int64
  nanos : Int32

structure GetEventsResponse where
  /-- The one kind of event there is. -/
  event : Option ProcessKprobe
  time : Option Timestamp

/-! ## Writing -/

def sockOf (argument : KprobeArgument) : Option KprobeSock :=
  match argument.arg with
  | some (.sockArg sock) => some sock
  | _ => none

def sockJson (sock : KprobeSock) : Json :=
  .obj [("daddr", .str sock.daddr), ("dport", Json.ofInt sock.dport.toNat), ("protocol", .str sock.protocol),
    ("saddr", .str sock.saddr)]

def sockArg (argument : KprobeArgument) : Option Json := (sockOf argument).map sockJson

def intArg (argument : KprobeArgument) : Nat :=
  match argument.arg with
  | some (.intArg value) => (max value.toInt 0).toNat
  | _ => 0

def timestampMs (timestamp : Timestamp) : Option Nat :=
  if timestamp.seconds.toInt < 0 then none
  else some (timestamp.seconds.toInt.toNat * 1000 + (max timestamp.nanos.toInt 0).toNat / 1000000)

/-- The value of `event_line`, in the order of its member names.  `json!` panics on a number beyond `u64`. -/
def eventValue (now : Nat) (response : GetEventsResponse) : Except String (Option Json) :=
  match response.event with
  | none => .ok none
  | some kprobe =>
    let functionName := kprobe.functionName
    if functionName ≠ "tcp_sendmsg" ∧ functionName ≠ "tcp_close" then .ok none
    else
      match kprobe.args.findSome? sockArg with
      | none => .ok none
      | some sock =>
        let bytes := if functionName = "tcp_sendmsg" then (kprobe.args[1]?.map intArg).getD 0 else 0
        let timestampUnixMs := (response.time.bind timestampMs).getD now
        if timestampUnixMs > u64Max then .error "number out of range"
        else
          .ok (some (.obj [("process_kprobe", .obj [
            ("args", .arr (if functionName = "tcp_sendmsg" then
                [.obj [("sock_arg", sock)], .obj [("int_arg", Json.ofInt bytes)]]
              else [.obj [("sock_arg", sock)]])),
            ("function_name", .str functionName),
            ("timestamp_unix_ms", Json.ofInt timestampUnixMs)])]))

/-- `serde_json::to_string` and `serde_json::from_str`. -/
structure JsonLibrary where
  toString : Json → Option String
  fromStr : String → Option Json

/-- The library reads back the text of a value. -/
def JsonLibrary.Faithful (json : JsonLibrary) (value : Json) : Prop :=
  ∀ text, json.toString value = some text → json.fromStr text = some value

/-- A text of the library is one line: it escapes the line breaks of its strings. -/
def JsonLibrary.OneLine (json : JsonLibrary) : Prop :=
  ∀ value text, json.toString value = some text → '\n' ∉ text.toList ∧ '\r' ∉ text.toList

def eventLine (json : JsonLibrary) (now : Nat) (response : GetEventsResponse) : Except String (Option String) :=
  (eventValue now response).map (fun value => value.bind json.toString)

/-! ## What an event says -/

def ProcessKprobe.sock (kprobe : ProcessKprobe) : Option KprobeSock := kprobe.args.findSome? sockOf

/-- The bytes that a call of `tcp_sendmsg` was given. -/
def ProcessKprobe.size (kprobe : ProcessKprobe) : Int :=
  match kprobe.args[1]?.bind KprobeArgument.arg with
  | some (.intArg value) => value.toInt
  | _ => 0

/-- A text without a leading `pre`. -/
def withoutLeading (pre s : String) : String :=
  if pre.toList.isPrefixOf s.toList then String.ofList (s.toList.drop pre.length) else s

/-- **A record is what its event says.** -/
structure Describes (casing : Casing) (response : GetEventsResponse) (kprobe : ProcessKprobe) (sock : KprobeSock)
    (record : TetragonDependencyRecord) : Prop where
  srcIp : record.srcIp = withoutLeading "::ffff:" sock.saddr
  dstIp : record.dstIp = withoutLeading "::ffff:" sock.daddr
  protocol : record.protocol = withoutLeading "ipproto_" (casing.toLowercase (RustStr.trim sock.protocol))
  destinationPort : record.destinationPort = sock.dport.toNat
  sendmsg : kprobe.functionName = "tcp_sendmsg" →
    record.bytes = (max kprobe.size 0).toNat ∧ record.packets = 1 ∧ record.connections = 0
  close : kprobe.functionName = "tcp_close" → record.bytes = 0 ∧ record.packets = 0 ∧ record.connections = 1
  timestamp : ∀ time, response.time = some time → 0 ≤ time.seconds.toInt →
    record.timestampUnixMs = time.seconds.toInt.toNat * 1000 + time.nanos.toInt.toNat / 1000000

/-! ## Reading back -/

variable {casing : Casing} {response : GetEventsResponse} {now now' : Nat} {value : Json}

theorem findSome?_sockArg (args : List KprobeArgument) :
    args.findSome? sockArg = (args.findSome? sockOf).map sockJson := by
  rw [List.map_findSome?]
  rfl

theorem intArg_size (kprobe : ProcessKprobe) :
    (kprobe.args[1]?.map intArg).getD 0 = (max kprobe.size 0).toNat := by
  unfold ProcessKprobe.size
  cases kprobe.args[1]? with
  | none => rfl
  | some argument =>
    obtain ⟨arg⟩ := argument
    cases arg with
    | none => rfl
    | some arg => cases arg <;> rfl

/-- The arguments that are written: the socket, and the size of what is sent. -/
def writtenArgs (kprobe : ProcessKprobe) (sock : KprobeSock) : List Json :=
  if kprobe.functionName = "tcp_sendmsg" then
    [.obj [("sock_arg", sockJson sock)], .obj [("int_arg", Json.ofInt (max kprobe.size 0).toNat)]]
  else [.obj [("sock_arg", sockJson sock)]]

def writtenKprobe (kprobe : ProcessKprobe) (sock : KprobeSock) (timestampUnixMs : Nat) : Json :=
  .obj [("args", .arr (writtenArgs kprobe sock)), ("function_name", .str kprobe.functionName),
    ("timestamp_unix_ms", Json.ofInt timestampUnixMs)]

def kprobeJson (kprobe : ProcessKprobe) (sock : KprobeSock) (timestampUnixMs : Nat) : Json :=
  .obj [("process_kprobe", writtenKprobe kprobe sock timestampUnixMs)]

/-- **What `event_line` writes**, and when. -/
theorem eventValue_eq_some (h : eventValue now response = .ok (some value)) :
    ∃ kprobe sock, response.event = some kprobe ∧
      (kprobe.functionName = "tcp_sendmsg" ∨ kprobe.functionName = "tcp_close") ∧ kprobe.sock = some sock ∧
      (response.time.bind timestampMs).getD now ≤ u64Max ∧
      value = kprobeJson kprobe sock ((response.time.bind timestampMs).getD now) := by
  unfold eventValue at h
  cases hevent : response.event with
  | none =>
    rw [hevent] at h
    cases h
  | some kprobe =>
    simp only [hevent, findSome?_sockArg, intArg_size] at h
    by_cases hname : kprobe.functionName ≠ "tcp_sendmsg" ∧ kprobe.functionName ≠ "tcp_close"
    · rw [if_pos hname] at h
      cases h
    rw [if_neg hname] at h
    cases hsock : kprobe.args.findSome? sockOf with
    | none =>
      simp only [hsock, Option.map_none] at h
      cases h
    | some sock =>
      simp only [hsock, Option.map_some] at h
      by_cases htime : (response.time.bind timestampMs).getD now > u64Max
      · rw [if_pos htime] at h
        cases h
      rw [if_neg htime] at h
      refine ⟨kprobe, sock, rfl, ?_, hsock, by omega, ?_⟩
      · by_contra hneither
        push Not at hneither
        exact hname hneither
      · have hvalue := Option.some.inj (Except.ok.inj h)
        rw [← hvalue, kprobeJson, writtenKprobe, writtenArgs]
        by_cases hsend : kprobe.functionName = "tcp_sendmsg" <;> simp [hsend]

theorem parseTetragonFlowRecord_kprobeJson (kprobe : ProcessKprobe) (sock : KprobeSock) (t : Nat) :
    parseTetragonFlowRecord casing now (kprobeJson kprobe sock t) = none := by
  simp [parseTetragonFlowRecord, kprobeJson, getStringPath, Json.pointer, Json.get, Json.lookup]

theorem asU64_ofInt {n : Nat} (h : n ≤ u64Max) : asU64 (Json.ofInt n) = some n := by
  unfold Json.ofInt asU64
  simp only [Int.ofNat_eq_natCast]
  rw [if_pos ⟨by omega, by omega⟩]
  rfl

theorem size_le (kprobe : ProcessKprobe) : (max kprobe.size 0).toNat ≤ u64Max := by
  have hlt : kprobe.size < 2 ^ 31 := by
    unfold ProcessKprobe.size
    split
    · exact Int32.toInt_lt _
    · decide
  unfold u64Max
  omega

theorem pointer_obj (members : List (String × Json)) (key : String) :
    (Json.obj members).pointer [key] = Json.lookup members key := by
  simp only [Json.pointer, Json.get]
  cases Json.lookup members key <;> rfl

theorem lookup_cons (key key' : String) (value : Json) (members : List (String × Json)) :
    Json.lookup ((key, value) :: members) key' = if key = key' then some value else Json.lookup members key' := by
  unfold Json.lookup
  by_cases h : key = key'
  · rw [List.find?_cons_of_pos (by simpa using h), if_pos h]
    rfl
  · rw [List.find?_cons_of_neg (by simpa using h), if_neg h]

/-- The fields of the socket, as they are looked for. -/
theorem read_sockJson (sock : KprobeSock) :
    getStringPath (sockJson sock) [["saddr"], ["src_ip"]] = some sock.saddr ∧
    getStringPath (sockJson sock) [["daddr"], ["dst_ip"]] = some sock.daddr ∧
    getStringPath (sockJson sock) [["protocol"]] = some sock.protocol ∧
    getU64Path (sockJson sock) [["dport"]] = some sock.dport.toNat := by
  have hport : sock.dport.toNat ≤ u64Max := by
    have hlt := sock.dport.toNat_lt
    unfold u64Max
    omega
  simp [getStringPath, getU64Path, sockJson, pointer_obj, lookup_cons, Json.asStr, asU64_ofInt hport]

theorem findSome?_writtenArgs (kprobe : ProcessKprobe) (sock : KprobeSock) :
    (writtenArgs kprobe sock).findSome? (fun arg => arg.pointer ["sock_arg"]) = some (sockJson sock) := by
  unfold writtenArgs
  split_ifs <;> simp [pointer_obj, lookup_cons]

theorem kprobeCounts_writtenArgs {kprobe : ProcessKprobe} (sock : KprobeSock)
    (hname : kprobe.functionName = "tcp_sendmsg" ∨ kprobe.functionName = "tcp_close") :
    kprobeCounts kprobe.functionName (writtenArgs kprobe sock) =
      if kprobe.functionName = "tcp_sendmsg" then some ((max kprobe.size 0).toNat, 1, 0) else some (0, 0, 1) := by
  have hsize := size_le kprobe
  unfold writtenArgs
  generalize (max kprobe.size 0).toNat = size at hsize ⊢
  rcases hname with hsend | hclose
  · simp [kprobeCounts, hsend, pointer_obj, lookup_cons, asU64_ofInt hsize]
  · simp [kprobeCounts, hclose]

theorem read_writtenKprobe (kprobe : ProcessKprobe) (sock : KprobeSock) {t : Nat} (ht : t ≤ u64Max) :
    (writtenKprobe kprobe sock t).pointer ["function_name"] = some (.str kprobe.functionName) ∧
    (writtenKprobe kprobe sock t).pointer ["args"] = some (.arr (writtenArgs kprobe sock)) ∧
    getU128Path (writtenKprobe kprobe sock t) timestampPaths = some t := by
  simp [writtenKprobe, getU128Path, timestampPaths, pointer_obj, lookup_cons, asU64_ofInt ht]

def recordOfKprobe (casing : Casing) (kprobe : ProcessKprobe) (sock : KprobeSock) (t : Nat) :
    TetragonDependencyRecord where
  srcIp := normalizeTetragonIp sock.saddr
  dstIp := normalizeTetragonIp sock.daddr
  srcEndpoint := none
  dstEndpoint := none
  protocol := normalizeTetragonProtocol casing sock.protocol
  destinationPort := asU16 sock.dport.toNat
  bytes := if kprobe.functionName = "tcp_sendmsg" then (max kprobe.size 0).toNat else 0
  packets := if kprobe.functionName = "tcp_sendmsg" then 1 else 0
  connections := if kprobe.functionName = "tcp_sendmsg" then 0 else 1
  timestampUnixMs := t

/-- **What the collection reads in what the stream writes.** -/
theorem parseTetragonRecord_kprobeJson {kprobe : ProcessKprobe} {sock : KprobeSock} {t : Nat} (ht : t ≤ u64Max)
    (hname : kprobe.functionName = "tcp_sendmsg" ∨ kprobe.functionName = "tcp_close") :
    parseTetragonRecord casing now (kprobeJson kprobe sock t) = some (recordOfKprobe casing kprobe sock t) := by
  obtain ⟨hfunction, hargs, htime⟩ := read_writtenKprobe kprobe sock ht
  obtain ⟨hsrc, hdst, hprotocol, hport⟩ := read_sockJson sock
  have hkprobe : (kprobeJson kprobe sock t).pointer ["process_kprobe"] = some (writtenKprobe kprobe sock t) := by
    rw [kprobeJson, pointer_obj, lookup_cons, if_pos rfl]
  rw [parseTetragonRecord, parseTetragonFlowRecord_kprobeJson, Option.none_or]
  unfold parseTetragonKprobeRecord
  simp only [hkprobe, hfunction, hargs, htime, hsrc, hdst, hprotocol, hport, Json.asStr, asArray,
    findSome?_writtenArgs, kprobeCounts_writtenArgs sock hname, Option.bind_eq_bind, Option.bind_some,
    Option.getD_some]
  by_cases hsend : kprobe.functionName = "tcp_sendmsg"
  · simp only [if_pos hsend, Option.bind_some, recordOfKprobe]
    rfl
  · simp only [if_neg hsend, Option.bind_some, recordOfKprobe]
    rfl

theorem stripPrefix_eq (pre s : String) :
    ((RustStr.stripPrefix pre.toList s.toList).map String.ofList).getD s = withoutLeading pre s := by
  unfold RustStr.stripPrefix withoutLeading
  split_ifs
  · rw [String.length_toList]
    rfl
  · rfl

/-- **An event that is written is read back as it was.** -/
theorem event_line_read_back (json : JsonLibrary) (casing : Casing) (response : GetEventsResponse) (now now' : Nat)
    (line : String) (hline : eventLine json now response = .ok (some line))
    (hjson : ∀ value, eventValue now response = .ok (some value) → json.Faithful value)
    (hport : ∀ kprobe sock, response.event = some kprobe → kprobe.sock = some sock → sock.dport.toNat < 65536) :
    ∃ value record kprobe sock, json.fromStr line = some value ∧
      parseTetragonRecord casing now' value = some record ∧ response.event = some kprobe ∧ kprobe.sock = some sock ∧
      (kprobe.functionName = "tcp_sendmsg" ∨ kprobe.functionName = "tcp_close") ∧
      Describes casing response kprobe sock record := by
  obtain ⟨written, hwritten, htext⟩ : ∃ written, eventValue now response = .ok written ∧
      written.bind json.toString = some line := by
    unfold eventLine at hline
    cases hvalue : eventValue now response with
    | error e =>
      rw [hvalue] at hline
      cases hline
    | ok written =>
      rw [hvalue] at hline
      exact ⟨written, rfl, Except.ok.inj hline⟩
  obtain ⟨value, rfl, hvalue⟩ := Option.bind_eq_some_iff.1 htext
  obtain ⟨kprobe, sock, hevent, hname, hsock, htime, rfl⟩ := eventValue_eq_some hwritten
  refine ⟨_, _, kprobe, sock, hjson _ hwritten line hvalue, parseTetragonRecord_kprobeJson htime hname, hevent, hsock,
    hname, ?_⟩
  constructor
  · exact stripPrefix_eq _ _
  · exact stripPrefix_eq _ _
  · exact stripPrefix_eq _ _
  · exact Nat.mod_eq_of_lt (hport kprobe sock hevent hsock)
  · intro hsend
    simp [recordOfKprobe, hsend]
  · intro hclose
    simp [recordOfKprobe, hclose]
  · intro time hpresent hpositive
    simp only [recordOfKprobe, hpresent, Option.bind_some, timestampMs]
    rw [if_neg (by omega), Option.getD_some]
    congr 2
    omega

def sendmsgSock : KprobeSock :=
  { protocol := "IPPROTO_TCP", saddr := "::ffff:10.0.0.5", daddr := "10.9.0.1", dport := 5432 }

def sendmsgKprobe : ProcessKprobe :=
  { functionName := "tcp_sendmsg", args := [⟨some (.sockArg sendmsgSock)⟩, ⟨some (.intArg 39)⟩] }

/-- A call that sends 39 bytes, one and a half seconds after the epoch. -/
def sendmsgEvent : GetEventsResponse := { event := some sendmsgKprobe, time := some ⟨1, 500000000⟩ }

def sendmsgText : String :=
  "\x7b\"process_kprobe\":\x7b\"args\":[\x7b\"sock_arg\":\x7b\"daddr\":\"10.9.0.1\",\"dport\":5432," ++
    "\"protocol\":\"IPPROTO_TCP\",\"saddr\":\"::ffff:10.0.0.5\"\x7d\x7d," ++
    "\x7b\"int_arg\":39\x7d],\"function_name\":\"tcp_sendmsg\",\"timestamp_unix_ms\":1500\x7d\x7d"

def sendmsgLibrary : JsonLibrary where
  toString := fun _ => some sendmsgText
  fromStr := fun text => if text = sendmsgText then some (kprobeJson sendmsgKprobe sendmsgSock 1500) else none

theorem eventValue_sendmsg :
    eventValue 0 sendmsgEvent = .ok (some (kprobeJson sendmsgKprobe sendmsgSock 1500)) := rfl

theorem fromStr_sendmsg : sendmsgLibrary.fromStr sendmsgText = some (kprobeJson sendmsgKprobe sendmsgSock 1500) := by
  simp only [sendmsgLibrary, if_true]

theorem event_line_read_back_sendmsg : ∃ value record kprobe sock,
    sendmsgLibrary.fromStr sendmsgText = some value ∧
      parseTetragonRecord ⟨String.toLower, String.toUpper⟩ 0 value = some record ∧
      sendmsgEvent.event = some kprobe ∧ kprobe.sock = some sock ∧
      (kprobe.functionName = "tcp_sendmsg" ∨ kprobe.functionName = "tcp_close") ∧
      Describes ⟨String.toLower, String.toUpper⟩ sendmsgEvent kprobe sock record := by
  refine event_line_read_back sendmsgLibrary ⟨String.toLower, String.toUpper⟩ sendmsgEvent 0 0 sendmsgText ?_ ?_ ?_
  · rw [eventLine, eventValue_sendmsg]
    rfl
  · intro value hvalue text htext
    rw [eventValue_sendmsg] at hvalue
    rw [← Option.some.inj htext, ← Option.some.inj (Except.ok.inj hvalue)]
    exact fromStr_sendmsg
  · intro kprobe sock hkprobe hsock
    cases hkprobe
    cases hsock
    decide

end Tetragon
end HubAgent
