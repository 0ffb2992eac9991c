import QueryChain.Error
import QueryChain.Json.Basic
import QueryChain.Value.Basic

/-!
# Values and JSON

A JSON scalar becomes a value of the narrowest type that keeps it; arrays and objects are no values.
In the other direction every value has a JSON form: integers and doubles are numbers, and what JSON
has no type for is a string of its text.
-/

namespace QueryChain.Value

/-- The value of a JSON scalar. An integer beyond 64 bits with a sign becomes the nearest double.
`param` is named in the error for arrays and objects. -/
def fromJson (param : String) : Json → Except Error Value
  | .null => .ok .null
  | .bool b => .ok (.bool b)
  | .integer n => .ok ((ofInt? n).getD (.double (.ofInt n)))
  | .double x => .ok (.double x)
  | .string s => .ok (.string s)
  | .array _ => .error (.unsupportedType param "array")
  | .object _ => .error (.unsupportedType param "object")

/-- The JSON form of a value. -/
def toJson : Value → Json
  | .null => .null
  | .bool b => .bool b
  | .double x => .ofDouble x
  | .string s => .string s
  | v => match v.asInt64? with
    | some n => .integer n.toInt
    | none => .string v.text

end QueryChain.Value
