import HubAgent.Lib.RustStr
/-!
# `serde_json::Value`, and what `serde_json::from_value` accepts

An object is its list of members, looked up by the first of a name (`Value` holds no duplicate).  A number is an
integer, or a float kept as its text: no decoder of the agent reads one.

The decoders follow the derived `Deserialize` of a struct: an object is read by field name and unknown members are
ignored; an **array** is read by position, a field past its end is missing and an element past the last field is
refused; anything else is an invalid type.  The messages are those of `serde::de::Error`.
-/
namespace HubAgent

inductive Number where
  | int (n : Int)
  | float (text : String)
  deriving DecidableEq, Repr

inductive Json where
  | null
  | bool (b : Bool)
  | num (n : Number)
  | str (s : String)
  | arr (items : List Json)
  | obj (members : List (String × Json))

namespace Json

def ofInt (n : Int) : Json := .num (.int n)

def ofOptInt : Option Int → Json
  | none => .null
  | some n => ofInt n

def ofOptStr : Option String → Json
  | none => .null
  | some s => .str s

def lookup (members : List (String × Json)) (key : String) : Option Json :=
  (members.find? (fun m => m.1 == key)).map Prod.snd

/-- `Value::get` at a key. -/
def get (j : Json) (key : String) : Option Json :=
  match j with
  | .obj members => lookup members key
  | _ => none

/-- `Value::pointer`, for a pointer made of member names. -/
def pointer (j : Json) : List String → Option Json
  | [] => some j
  | key :: keys => (j.get key).bind (fun v => v.pointer keys)

def asStr : Json → Option String
  | .str s => some s
  | _ => none

def asBool : Json → Option Bool
  | .bool b => some b
  | _ => none

/-- `Map::remove`. -/
def removeMember (members : List (String × Json)) (key : String) : List (String × Json) :=
  members.filter (fun m => m.1 != key)

end Json

/-! ## Decoding -/

inductive DeError where
  | missingField (name : String)
  | invalidType (unexpected expected : String)
  | invalidValue (unexpected expected : String)
  | invalidLength (len : Nat) (expected : String)
  | unknownVariant (variant expected : String)
  | noVariant (enum : String)
  | custom (message : String)
  deriving DecidableEq, Repr

def DeError.describe : DeError → String
  | .missingField name => s!"missing field `{name}`"
  | .invalidType u e => s!"invalid type: {u}, expected {e}"
  | .invalidValue u e => s!"invalid value: {u}, expected {e}"
  | .invalidLength n e => s!"invalid length {n}, expected {e}"
  | .unknownVariant v e => s!"unknown variant `{v}`, expected {e}"
  | .noVariant enum => s!"data did not match any variant of untagged enum {enum}"
  | .custom message => message

/-- How `serde_json` names what it found. -/
def Json.unexpected : Json → String
  | .null => "null"
  | .bool b => s!"boolean `{b}`"
  | .num (.int n) => s!"integer `{n}`"
  | .num (.float text) => s!"floating point `{text}`"
  | .str s => s!"string \"{s}\""
  | .arr _ => "sequence"
  | .obj _ => "map"

abbrev Decoder (α : Type) := Json → Except DeError α

namespace Decode

def string : Decoder String
  | .str s => .ok s
  | j => .error (.invalidType j.unexpected "a string")

def bool : Decoder Bool
  | .bool b => .ok b
  | j => .error (.invalidType j.unexpected "a boolean")

/-- An integer of the range `lo` to `hi`; a float is another type, also an integral one. -/
def int (expected : String) (lo hi : Int) : Decoder Int
  | .num (.int n) =>
    if lo ≤ n ∧ n ≤ hi then .ok n else .error (.invalidValue (Json.ofInt n).unexpected expected)
  | j => .error (.invalidType j.unexpected expected)

def i32 : Decoder Int := int "i32" (-2147483648) 2147483647

def u64 : Decoder Nat := fun j => (int "u64" 0 18446744073709551615 j).map Int.toNat

def option {α : Type} (d : Decoder α) : Decoder (Option α)
  | .null => .ok none
  | j => (d j).map some

/-- Where a struct's fields are found: by name in an object, by position in an array. -/
def fieldsOf (struct : String) (names : List String) : Decoder (String → Option Json)
  | .obj members => .ok (Json.lookup members)
  | .arr items =>
    if items.length ≤ names.length then .ok (fun name => items[names.idxOf name]?)
    else .error (.invalidLength items.length "fewer elements in array")
  | j => .error (.invalidType j.unexpected s!"struct {struct}")

def field {α : Type} (f : String → Option Json) (name : String) (d : Decoder α) : Except DeError α :=
  match f name with
  | some j => d j
  | none => .error (.missingField name)

/-- A field with `#[serde(default)]`. -/
def fieldOr {α : Type} (f : String → Option Json) (name : String) (d : Decoder α) (dflt : α) : Except DeError α :=
  match f name with
  | some j => d j
  | none => .ok dflt

end Decode

end HubAgent
