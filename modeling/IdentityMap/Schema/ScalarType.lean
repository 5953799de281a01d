import IdentityMap.Binary64.Rounding
import IdentityMap.Error
/-!
# Scalar types

The declared type of a field, and the decoding of a raw value into it. A row store hands back bare
storage classes; `ScalarType.decode` restores the declared type and refuses what cannot stand for
it. Null belongs to every type.
-/

namespace IdentityMap

inductive ScalarType
  | boolean
  | tinyInt
  | smallInt
  | integer
  | bigInt
  | float
  | double
  | decimal (precision scale : Nat)
  /-- Text, of `limit` characters at most where there is a limit. -/
  | string (limit : Option Nat)
  /-- Bytes, declared with a limit where there is one. -/
  | binary (limit : Option Nat)
  | date
  | time
  | dateTime
  /-- A type known by its name only. -/
  | other (name : String)
deriving DecidableEq, Repr

namespace ScalarType

/-- The storage form of 16-byte identifiers. -/
def uuid : ScalarType := binary (some 16)

def display : ScalarType → String
  | boolean => "boolean"
  | tinyInt => "tinyint"
  | smallInt => "smallint"
  | integer => "integer"
  | bigInt => "bigint"
  | float => "float"
  | double => "double"
  | decimal precision scale => s!"decimal({precision},{scale})"
  | string (some limit) => s!"string({limit})"
  | string none => "string"
  | binary (some limit) => s!"binary({limit})"
  | binary none => "binary"
  | date => "date"
  | time => "time"
  | dateTime => "datetime"
  | other name => name

/-- The type that a bare name stands for. Types with measures have none, and neither have types that
are known by their name only. -/
def ofName? : String → Option ScalarType
  | "boolean" => some boolean
  | "tinyint" => some tinyInt
  | "smallint" => some smallInt
  | "integer" => some integer
  | "bigint" => some bigInt
  | "float" => some float
  | "double" => some double
  | "text" => some (string none)
  | "binary" => some (binary none)
  | "uuid" => some uuid
  | "date" => some date
  | "time" => some time
  | "datetime" => some dateTime
  | _ => none

def isInteger : ScalarType → Bool
  | tinyInt | smallInt | integer | bigInt => true
  | _ => false

/-- Values of the type can identify an instance. -/
def isKeyType : ScalarType → Bool
  | tinyInt | smallInt | integer | bigInt => true
  | string _ => true
  | binary limit => limit = some 16
  | _ => false

/-- The signed integers of `bits + 1` bits. -/
def fits (bits : Nat) (n : Int64) : Bool :=
  -(Nat.pow 2 bits : Int) ≤ n.toInt && n.toInt < Nat.pow 2 bits

def mismatch (type : ScalarType) (field : String) (raw : Value) : Error :=
  .typeMismatch field type.display raw.kindName

/-- The integer, if the type with `bits + 1` bits holds it. -/
def decodeInteger (type : ScalarType) (bits : Nat) (field : String) (raw : Value) :
    Except Error Value :=
  match raw with
  | .int n => if fits bits n then .ok (.int n) else .error (type.mismatch field raw)
  | _ => .error (type.mismatch field raw)

/-- The raw value as a value of the type, or the reason why `field` cannot hold it. -/
def decode (type : ScalarType) (field : String) (raw : Value) : Except Error Value :=
  match type, raw with
  | _, .null => .ok .null
  | boolean, .bool b => .ok (.bool b)
  | boolean, .int n =>
    if n = 0 then .ok (.bool false)
    else if n = 1 then .ok (.bool true)
    else .error (type.mismatch field raw)
  | tinyInt, _ => type.decodeInteger 7 field raw
  | smallInt, _ => type.decodeInteger 15 field raw
  | integer, _ => type.decodeInteger 31 field raw
  | bigInt, _ => type.decodeInteger 63 field raw
  | float, .float x | double, .float x => .ok (.float x)
  | float, .int n | double, .int n => .ok (.float (Binary64.ofInt n.toInt))
  | decimal _ _, .decimal written => .ok (.decimal written)
  | decimal _ _, .text s => .ok (.decimal s)
  | decimal _ _, .int n => .ok (.decimal (toString n.toInt))
  | decimal _ _, .float x => .ok (.decimal x.plainText)
  | string limit, .text s =>
    match limit with
    | some limit =>
      if limit < s.length then .error (.illegal (.tooLong field limit)) else .ok (.text s)
    | none => .ok (.text s)
  | binary _, .bytes b => .ok (.bytes b)
  | date, .date d => .ok (.date d)
  | date, .text s =>
    match Calendar.Date.ofText? s with
    | some d => .ok (.date d)
    | none => .error (type.mismatch field raw)
  | time, .time t => .ok (.time t)
  | time, .text s =>
    match Calendar.TimeOfDay.ofText? s with
    | some t => .ok (.time t)
    | none => .error (type.mismatch field raw)
  | dateTime, .dateTime t => .ok (.dateTime t)
  | dateTime, .text s =>
    match Calendar.DateTime.ofText? s with
    | some t => .ok (.dateTime t)
    | none => .error (type.mismatch field raw)
  | other _, _ => .ok raw
  | _, _ => .error (type.mismatch field raw)

end ScalarType

end IdentityMap
