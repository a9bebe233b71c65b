import LintRelay.Value

/-!
# Lenient reading

Reading the parts of a value that may be missing or of another kind: the empty text, zero, falsehood
and the empty list stand for them.
-/

namespace LintRelay.Value

/-- What stands under a text key, which may be nothing. -/
def get (v : Value) (key : String) : Value :=
  (v.field? key).getD .null

/-- Whether something stands under a text key. -/
def has (v : Value) (key : String) : Bool :=
  (v.field? key).isSome

/-- A value as text, if it is one. -/
def asText? : Value → Option String
  | .text s => some s
  | _ => none

/-- A value as text, with a text that stands for all others. -/
def asTextOr (v : Value) (other : String) : String :=
  v.asText?.getD other

/-- A value as text. -/
def asText (v : Value) : String :=
  v.asTextOr ""

/-- A value as an integer. -/
def asInt : Value → Int
  | .int i => i
  | _ => 0

/-- A value as a truth value. -/
def asBool : Value → Bool
  | .bool b => b
  | _ => false

/-- A value as a list. -/
def asList : Value → List Value
  | .list vs => vs
  | _ => []

/-- A value as a mapping with text keys. -/
def asFields : Value → List (String × Value)
  | .map es => es.map fun (k, v) => (k.asText, v)
  | _ => []

/-- The text under a key. -/
def textAt (v : Value) (key : String) : String :=
  (v.get key).asText

/-- The integer under a key. -/
def intAt (v : Value) (key : String) : Int :=
  (v.get key).asInt

/-- The truth value under a key. -/
def boolAt (v : Value) (key : String) : Bool :=
  (v.get key).asBool

/-- The list under a key. -/
def listAt (v : Value) (key : String) : List Value :=
  (v.get key).asList

/-- The fields of the mapping under a key. -/
def fieldsAt (v : Value) (key : String) : List (String × Value) :=
  (v.get key).asFields

end LintRelay.Value
