import Mathlib.Data.List.Basic
/-!
# `IpAddr` as the Rust standard library reads and writes it

An address is read by a parser that takes characters from the front of a text and gives back the rest; the text has to
be used up.  It is written in one form: without leading zeros, in lower case, the longest run of zero segments as `::`.
-/

/-- `std::net::IpAddr`: four octets, or eight segments. -/
inductive IpAddr where
  | v4 (octets : Vector UInt8 4)
  | v6 (segments : Vector UInt16 8)
  deriving DecidableEq

namespace IpAddr

/-- `char::to_digit`, at a radix of at most 16. -/
def toDigit (radix : Nat) (c : Char) : Option Nat :=
  let value :=
    if '0' ≤ c ∧ c ≤ '9' then some (c.toNat - '0'.toNat)
    else if 'a' ≤ c ∧ c ≤ 'f' then some (c.toNat - 'a'.toNat + 10)
    else if 'A' ≤ c ∧ c ≤ 'F' then some (c.toNat - 'A'.toNat + 10)
    else none
  value.filter (· < radix)

def readGivenChar (c : Char) : List Char → Option (List Char)
  | [] => none
  | x :: xs => if x = c then some xs else none

/-- All digits that follow, which have to be one at least, `maxDigits` at most, and a number of at most `limit`. -/
def readNumber (radix maxDigits : Nat) (allowZeroPrefix : Bool) (limit : Nat) (l : List Char) :
    Option (Nat × List Char) :=
  let digits := (l.takeWhile (fun c => (toDigit radix c).isSome)).filterMap (toDigit radix)
  let number := digits.foldl (fun n d => n * radix + d) 0
  if digits = [] ∨ maxDigits < digits.length then none
  else if !allowZeroPrefix ∧ digits.head? = some 0 ∧ 1 < digits.length then none
  else if limit < number then none
  else some (number, l.drop digits.length)

/-- The item at an index of a list: all but the first follow a separator. -/
def readSeparator {α : Type} (separator : Char) (index : Nat) (inner : List Char → Option (α × List Char))
    (l : List Char) : Option (α × List Char) :=
  if 0 < index then (readGivenChar separator l).bind inner else inner l

def readIpv4Addr (l : List Char) : Option (Vector UInt8 4 × List Char) := do
  let octet := fun index => readSeparator '.' index (readNumber 10 3 false 255)
  let (a, l) ← octet 0 l
  let (b, l) ← octet 1 l
  let (c, l) ← octet 2 l
  let (d, l) ← octet 3 l
  return (#v[a.toUInt8, b.toUInt8, c.toUInt8, d.toUInt8], l)

/-- The two segments that an address of four octets fills. -/
def segmentsOfIpv4 (octets : Vector UInt8 4) : List Nat :=
  [octets[0].toNat * 256 + octets[1].toNat, octets[2].toNat * 256 + octets[3].toNat]

/-- The segments that follow, `limit` at most, from the one at `index` on, and whether they end in four octets. -/
def readGroups (index : Nat) : Nat → List Char → (List Nat × Bool) × List Char
  | 0, l => (([], false), l)
  | left + 1, l =>
    match if 0 < left then readSeparator ':' index readIpv4Addr l else none with
    | some (octets, l) => ((segmentsOfIpv4 octets, true), l)
    | none =>
      match readSeparator ':' index (readNumber 16 4 true 65535) l with
      | none => (([], false), l)
      | some (segment, l) =>
        let ((segments, endsInIpv4), l) := readGroups (index + 1) left l
        ((segment :: segments, endsInIpv4), l)

def vectorOf (segments : List Nat) : Vector UInt16 8 := Vector.ofFn (fun i => (segments.getD i 0).toUInt16)

def readIpv6Addr (l : List Char) : Option (Vector UInt16 8 × List Char) :=
  let ((head, headIpv4), l) := readGroups 0 8 l
  if head.length = 8 then some (vectorOf head, l)
  else if headIpv4 then none
  else do
    let l ← readGivenChar ':' l
    let l ← readGivenChar ':' l
    let ((tail, _), l) := readGroups 0 (8 - (head.length + 1)) l
    return (vectorOf (head ++ List.replicate (8 - head.length - tail.length) 0 ++ tail), l)

/-- `str::parse::<IpAddr>`. -/
def parse (s : String) : Option IpAddr :=
  match ((readIpv4Addr s.toList).map (fun p => (v4 p.1, p.2))).or
      ((readIpv6Addr s.toList).map (fun p => (v6 p.1, p.2))) with
  | some (ip, []) => some ip
  | _ => none

def displayIpv4 (a b c d : Nat) : String := ".".intercalate [a.repr, b.repr, c.repr, d.repr]

def hex (segment : Nat) : String := String.ofList (Nat.toDigits 16 segment)

/-- The start and the length of the longest run of zeros, the first one among equals. -/
def longestZeros (segments : List Nat) : Nat × Nat :=
  (segments.zipIdx.foldl (fun (acc : (Nat × Nat) × (Nat × Nat)) (entry : Nat × Nat) =>
    let (longest, current) := acc
    if entry.1 = 0 then
      let current := (if current.2 = 0 then entry.2 else current.1, current.2 + 1)
      (if longest.2 < current.2 then current else longest, current)
    else (longest, (0, 0))) ((0, 0), (0, 0))).1

def displayIpv6 (segments : List Nat) : String :=
  match segments with
  | [0, 0, 0, 0, 0, 0xffff, high, low] =>
    "::ffff:" ++ displayIpv4 (high / 256) (high % 256) (low / 256) (low % 256)
  | _ =>
    let (start, length) := longestZeros segments
    let join := fun chunk : List Nat => ":".intercalate (chunk.map hex)
    if 1 < length then join (segments.take start) ++ "::" ++ join (segments.drop (start + length)) else join segments

/-- `IpAddr::to_string`. -/
def toString : IpAddr → String
  | v4 octets => displayIpv4 octets[0].toNat octets[1].toNat octets[2].toNat octets[3].toNat
  | v6 segments => displayIpv6 (segments.toList.map UInt16.toNat)

end IpAddr
