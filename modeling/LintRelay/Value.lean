import LintRelay.Number.Decimal
import LintRelay.Text.Quoted
import LintRelay.Timestamp

/-!
# Dynamic values

The values of configuration files, of JSON documents and of the fields of log events, and the text
by which a message shows one.
-/

namespace LintRelay

/-- A dynamic value.  A mapping is a list of its entries in order, with keys of any kind. -/
inductive Value where
  | null
  | bool (b : Bool)
  | int (i : Int)
  | float (x : Binary64)
  | text (s : String)
  /-- A text that holds halves of surrogate pairs, by its code points. -/
  | points (ps : List Nat)
  | bytes (bs : List UInt8)
  /-- A day of the calendar, with or without a time of day. -/
  | time (t : Timestamp)
  | list (items : List Value)
  /-- A list of fixed length. -/
  | tuple (items : List Value)
  /-- A list without repetitions, whose order is of no account. -/
  | set (items : List Value)
  | map (entries : List (Value × Value))
  /-- A collection that occurs inside itself, written out down to some depth.  Wherever it occurs it
  has the same number. -/
  | cyclic (number : Nat) (v : Value)
  deriving Repr, Inhabited

namespace Value

/-- The text of code points. -/
def ofPoints (ps : List Nat) : Value :=
  if ps.any Text.isHalf then .points ps else .text (String.ofList (ps.map Char.ofNat))

/-- The mark that stands for a collection inside itself. -/
def againMark : Value → String
  | .list _ => "[...]"
  | .tuple _ => "(...)"
  | .set _ => "set(...)"
  | .map _ => "\x7b...\x7d"
  | _ => "..."

mutual

/-- The text of a value inside another one: texts are quoted.  The collections with the numbers in
`around` are not written out again. -/
def quotedInside (around : List Nat) : Value → String
  | .null => "None"
  | .bool b => if b then "True" else "False"
  | .int i => toString i
  | .float x => x.text
  | .text s => Text.quoted s
  | .points ps => Text.quotedPoints ps
  | .bytes bs => Text.quotedBytes bs
  | .time t => t.quoted
  | .list items => "[" ++ ", ".intercalate (quotedItems around items) ++ "]"
  | .tuple [v] => "(" ++ quotedInside around v ++ ",)"
  | .tuple items => "(" ++ ", ".intercalate (quotedItems around items) ++ ")"
  | .set [] => "set()"
  | .set items => "\x7b" ++ ", ".intercalate (quotedItems around items) ++ "\x7d"
  | .map entries => "\x7b" ++ ", ".intercalate (quotedEntries around entries) ++ "\x7d"
  | .cyclic n v => if around.contains n then againMark v else quotedInside (n :: around) v

/-- The texts of the items of a list. -/
def quotedItems (around : List Nat) : List Value → List String
  | [] => []
  | v :: vs => quotedInside around v :: quotedItems around vs

/-- The texts of the entries of a mapping. -/
def quotedEntries (around : List Nat) : List (Value × Value) → List String
  | [] => []
  | (k, v) :: es => (quotedInside around k ++ ": " ++ quotedInside around v) ::
      quotedEntries around es

end

/-- The text of a value by which a message shows it: texts are quoted. -/
def quoted (v : Value) : String :=
  v.quotedInside []

/-- The text of a value that stands alone: a text is itself. -/
def shown : Value → String
  | .text s => s
  | .points ps => Text.lossy ps
  | .time t => t.shown
  | v => v.quoted

/-- The text of a value that stands alone, as a value. -/
def asShown : Value → Value
  | .points ps => .points ps
  | v => .text v.shown

/-- The value itself, where it is a collection that occurs inside itself. -/
def uncover : Value → Value
  | .cyclic _ v => v.uncover
  | v => v

/-- Whether a value counts as absent where a default may take its place. -/
def isFalsy : Value → Bool
  | .null => true
  | .bool b => !b
  | .int i => i == 0
  | .float x => x.isZero
  | .text s => s.isEmpty
  | .points ps => ps.isEmpty
  | .bytes bs => bs.isEmpty
  | .time _ | .cyclic .. => false
  | .list items | .tuple items | .set items => items.isEmpty
  | .map entries => entries.isEmpty

/-- The number that a value counts as when keys are compared: truth values are one and zero. -/
def number? : Value → Option (Int ⊕ Binary64)
  | .bool b => some (.inl (if b then 1 else 0))
  | .int i => some (.inl i)
  | .float x => match x.toInt? with
    | some i => some (.inl i)
    | none => some (.inr x)
  | _ => none

/-- Whether two values are the same key.  Numbers are the same key when they are equal. -/
def sameKey (a b : Value) : Bool :=
  match a, b with
  | .null, .null => true
  | .text s, .text t => s == t
  | .points ps, .points qs => ps == qs
  | .bytes bs, .bytes cs => bs == cs
  | .time t, .time u => t.sameMoment u
  | a, b => match a.number?, b.number? with
    | some x, some y => x == y && x != .inr .nan
    | _, _ => false

/-- The value under a text key. -/
def field? (name : String) : Value → Option Value
  | .map entries => (entries.find? fun (k, _) => k.sameKey (.text name)).map (·.2)
  | _ => none

/-- The entries with `key` bound to `value`: in place if the key is there, at the end if not. -/
def insertEntry {α : Type} (key : Value) (value : α) : List (Value × α) → List (Value × α)
  | [] => [(key, value)]
  | (k, v) :: es => if k.sameKey key then (k, value) :: es else (k, v) :: insertEntry key value es

/-- A mapping with text keys. -/
def ofFields (fields : List (String × Value)) : Value :=
  .map (fields.map fun (k, v) => (.text k, v))

end Value

end LintRelay
