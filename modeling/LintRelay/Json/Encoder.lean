import LintRelay.Value.Shown

/-!
# Encoding JSON

The text of a document in ASCII: all other characters are written as UTF-16 escapes.  A document is
written on one line, or with one item to a line and two blanks for each level.

A document is a `Json.Tree`, which can always be written.  A dynamic value is made one first, and
not every value can be: mappings may have keys that are no scalars, numbers may have too many
digits, and collections may occur inside themselves or be nested too deeply.
-/

namespace LintRelay.Json

/-- A document as it is written.  Strings are given by their code points. -/
inductive Tree where
  | null
  | bool (b : Bool)
  | int (i : Int)
  | float (x : Binary64)
  | text (points : List Nat)
  | list (items : List Tree)
  | object (entries : List (List Nat × Tree))
  deriving Inhabited

namespace Tree

/-- A text as a document. -/
def ofText (s : String) : Tree :=
  .text (Text.points s)

/-- An object with text keys. -/
def ofFields (fields : List (String × Tree)) : Tree :=
  .object (fields.map fun (k, t) => (Text.points k, t))

end Tree

/-! ### Writing -/

/-- A code unit as an escape. -/
def unitEscape (u : Nat) : List Char :=
  '\\' :: 'u' :: Text.hexDigits 4 u

/-- A code point inside a string. -/
def encodePoint (n : Nat) : List Char :=
  let c := Char.ofNat n
  if c == '"' then ['\\', '"']
  else if c == '\\' then ['\\', '\\']
  else if c == '\n' then ['\\', 'n']
  else if c == '\r' then ['\\', 'r']
  else if c == '\t' then ['\\', 't']
  else if n == 8 then ['\\', 'b']
  else if n == 12 then ['\\', 'f']
  else if 32 ≤ n && n < 127 then [c]
  else if n < 0x10000 then unitEscape n
  else unitEscape (0xD800 + (n - 0x10000) / 0x400) ++ unitEscape (0xDC00 + (n - 0x10000) % 0x400)

/-- A string with its quotes. -/
def encodePoints (ps : List Nat) : String :=
  String.ofList ('"' :: (ps.flatMap encodePoint ++ ['"']))

/-- The text of a floating-point number. -/
def floatText : Binary64 → String
  | .nan => "NaN"
  | .infinite negative => if negative then "-Infinity" else "Infinity"
  | x => x.text

/-- The text of a document that is neither a list nor an object. -/
def encodeScalar : Tree → String
  | .bool b => if b then "true" else "false"
  | .int i => toString i
  | .float x => floatText x
  | .text ps => encodePoints ps
  | _ => "null"

mutual

/-- A document on one line. -/
def encode : Tree → String
  | .list items => "[" ++ ", ".intercalate (encodeItems items) ++ "]"
  | .object entries => "\x7b" ++ ", ".intercalate (encodeEntries entries) ++ "\x7d"
  | t => encodeScalar t

/-- The items of a list. -/
def encodeItems : List Tree → List String
  | [] => []
  | t :: ts => encode t :: encodeItems ts

/-- The entries of an object. -/
def encodeEntries : List (List Nat × Tree) → List String
  | [] => []
  | (k, t) :: es => (encodePoints k ++ ": " ++ encode t) :: encodeEntries es

end

/-- A line break and the blanks of a level. -/
def newline (level : Nat) : String :=
  String.ofList ('\n' :: List.replicate (2 * level) ' ')

mutual

/-- A document with one item to a line, at a level. -/
def encodeIndented (level : Nat) : Tree → String
  | .list [] => "[]"
  | .list (t :: ts) =>
    let items := indentedItems (level + 1) (t :: ts)
    "[" ++ newline (level + 1) ++ ("," ++ newline (level + 1)).intercalate items ++
      newline level ++ "]"
  | .object [] => "\x7b\x7d"
  | .object (e :: es) =>
    let entries := indentedEntries (level + 1) (e :: es)
    "\x7b" ++ newline (level + 1) ++ ("," ++ newline (level + 1)).intercalate entries ++
      newline level ++ "\x7d"
  | t => encodeScalar t

/-- The items of a list. -/
def indentedItems (level : Nat) : List Tree → List String
  | [] => []
  | t :: ts => encodeIndented level t :: indentedItems level ts

/-- The entries of an object. -/
def indentedEntries (level : Nat) : List (List Nat × Tree) → List String
  | [] => []
  | (k, t) :: es =>
    (encodePoints k ++ ": " ++ encodeIndented level t) :: indentedEntries level es

end

/-! ### Values as documents -/

open Value (WriteError)

namespace Tree

/-- The key that a scalar is written as. -/
def key? : Value → Option (List Nat)
  | .text s => some (Text.points s)
  | .points ps => some ps
  | .null => some (Text.points (encodeScalar .null))
  | .bool b => some (Text.points (encodeScalar (.bool b)))
  | .int i => if Value.isTooLong i then none else some (Text.points (toString i))
  | .float x => some (Text.points (floatText x))
  | _ => none

mutual

/-- The document of a value that is nested no deeper than `depth`, inside the collections with the
numbers in `around`.  What is no JSON is written as the text that shows it. -/
def ofValue? (depth : Nat) (around : List Nat) : Value → Except WriteError Tree
  | .null => .ok .null
  | .bool b => .ok (.bool b)
  | .int i => if Value.isTooLong i then .error .refused else .ok (.int i)
  | .float x => .ok (.float x)
  | .text s => .ok (.ofText s)
  | .points ps => .ok (.text ps)
  | .list items | .tuple items =>
    if depth = 0 then .error .tooDeep else (itemsOf? (depth - 1) around items).map .list
  | .map entries =>
    if depth = 0 then .error .tooDeep else (entriesOf? (depth - 1) around entries).map .object
  | .cyclic n v => if around.contains n then .error .refused else ofValue? depth (n :: around) v
  | v =>
    match v.unshown? [] depth with
    | some e => .error (.ofShowError e)
    | none => .ok (.ofText v.quoted)

/-- The items of a list. -/
def itemsOf? (depth : Nat) (around : List Nat) : List Value → Except WriteError (List Tree)
  | [] => .ok []
  | v :: vs => do return (← ofValue? depth around v) :: (← itemsOf? depth around vs)

/-- The entries of an object. -/
def entriesOf? (depth : Nat) (around : List Nat) :
    List (Value × Value) → Except WriteError (List (List Nat × Tree))
  | [] => .ok []
  | (k, v) :: es =>
    match key? k with
    | none => .error .refused
    | some k => do return (k, ← ofValue? depth around v) :: (← entriesOf? depth around es)

end

end Tree

end LintRelay.Json
