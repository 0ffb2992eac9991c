import QueryChain.Number.Decimal
import QueryChain.Number.Layout
import QueryChain.Value.DateTime
import QueryChain.Value.Guid

/-!
# Scalar values

A `Value` is a constant of a predicate, a parameter of a statement, or a cell of a row. Its type is
known only at run time, because the columns of a table are known only to the database.
-/

namespace QueryChain

/-- A loosely typed scalar. -/
inductive Value
  | null
  | bool (b : Bool)
  | byte (n : UInt8)
  | int16 (n : Int16)
  | int32 (n : Int32)
  | int64 (n : Int64)
  | decimal (d : Decimal)
  | double (x : Double)
  | string (s : String)
  | dateTime (t : DateTime)
  | guid (g : Guid)
deriving DecidableEq

namespace Value

def isNull : Value → Bool
  | null => true
  | _ => false

/-- The name of the type, as messages show it. -/
def typeName : Value → String
  | null => "null"
  | bool _ => "bool"
  | byte _ => "byte"
  | int16 _ => "int16"
  | int32 _ => "int32"
  | int64 _ => "int64"
  | decimal _ => "decimal"
  | double _ => "double"
  | string _ => "string"
  | dateTime _ => "datetime"
  | guid _ => "guid"

/-- Booleans and strings cannot be compared by order. -/
def isOrdered : Value → Bool
  | bool _ | string _ => false
  | _ => true

/-! ## Views -/

def asBool? : Value → Option Bool
  | bool b => some b
  | _ => none

/-- Any integer, widened to 64 bits. -/
def asInt64? : Value → Option Int64
  | byte n => some (Int64.ofNat n.toNat)
  | int16 n => some n.toInt64
  | int32 n => some n.toInt64
  | int64 n => some n
  | _ => none

/-- Any number, as the nearest double. -/
def asDouble? : Value → Option Double
  | double x => some x
  | decimal d => some d.toDouble
  | v => v.asInt64?.map fun n ↦ .ofInt n.toInt

def asString? : Value → Option String
  | string s => some s
  | _ => none

def asDateTime? : Value → Option DateTime
  | dateTime t => some t
  | _ => none

def asGuid? : Value → Option Guid
  | guid g => some g
  | _ => none

/-- The text of a value in messages and listings. Strings stand between single quotes and nothing
in them is doubled, so this is no SQL literal. -/
def text : Value → String
  | null => "NULL"
  | bool b => if b then "true" else "false"
  | byte n => toString n.toNat
  | int16 n => toString n.toInt
  | int32 n => toString n.toInt
  | int64 n => toString n.toInt
  | decimal d => d.text
  | double x => x.text
  | string s => "'" ++ s ++ "'"
  | dateTime t => "'" ++ t.text ++ "'"
  | guid g => "'" ++ g.text ++ "'"

/-- The narrower of the two integer types that literals have: 32 bits where the number fits. -/
def ofInt64 (n : Int64) : Value :=
  if Int32.minValue.toInt ≤ n.toInt ∧ n.toInt ≤ Int32.maxValue.toInt then .int32 n.toInt32 else .int64 n

/-- The integer value of a number that fits 64 bits. -/
def ofInt? (n : Int) : Option Value :=
  if Int64.minValue.toInt ≤ n ∧ n ≤ Int64.maxValue.toInt then some (ofInt64 (Int64.ofInt n)) else none

end Value

end QueryChain
