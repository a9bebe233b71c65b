import LintRelay.Json.Token

/-!
# Decoding JSON

The tokens of a text drive a machine with a stack of the lists and objects that are still open.  The
machine knows what it wants next, and complains about the first token that is something else.  Of
several entries of an object with one key the last one counts.
-/

namespace LintRelay.Json

/-- Why a text cannot be decoded. -/
inductive DecodeError where
  | syntaxError (e : SyntaxError)
  /-- A number with too many digits. -/
  | numeral (e : NumeralError)
  /-- Lists and objects are nested too deeply; `inObject` tells which of them goes too far. -/
  | tooDeep (inObject : Bool)
  deriving DecidableEq, Repr

/-- A list or an object that is still open. -/
inductive Frame where
  /-- The items so far, last first. -/
  | list (items : List Value)
  /-- The entries so far, last first, and the key whose value is being read. -/
  | object (entries : List (Value × Value)) (key : Value)

/-- What comes next. -/
inductive Wanted where
  | value
  /-- A value, or the end of the empty list. -/
  | valueOrClose
  | key
  /-- A key, or the end of the empty object. -/
  | keyOrClose
  | colon
  /-- A comma, or the end of the innermost list or object. -/
  | comma
  /-- Nothing: the document is complete. -/
  | nothing
  deriving DecidableEq

/-- The state of the decoder. -/
structure Machine where
  /-- The open lists and objects, the innermost first. -/
  stack : List Frame
  /-- How many more may be opened within the innermost. -/
  room : Nat
  wanted : Wanted
  /-- The document, once it is complete. -/
  result : Value

/-- Whether a frame is that of an object. -/
def Frame.isObject : Frame → Bool
  | .object .. => true
  | .list _ => false

namespace Machine

/-- The machine before the first token. -/
def start (depth : Nat) : Machine := ⟨[], depth, .value, .null⟩

/-- Takes in a complete value. -/
def supply (m : Machine) (v : Value) : Machine :=
  match m.stack with
  | [] => { m with wanted := .nothing, result := v }
  | .list items :: fs => { m with stack := .list (v :: items) :: fs, wanted := .comma }
  | .object entries key :: fs =>
    { m with stack := .object ((key, v) :: entries) key :: fs, wanted := .comma }

/-- The entries of an object, of which the later win; `entries` is last first. -/
def objectValue (entries : List (Value × Value)) : Value :=
  .map (entries.foldr (fun (k, v) es => Value.insertEntry k v es) [])

/-- Closes the innermost list or object. -/
def close (m : Machine) : Machine :=
  match m.stack with
  | [] => m
  | .list items :: fs => { m with stack := fs, room := m.room + 1 }.supply (.list items.reverse)
  | .object entries _ :: fs =>
    { m with stack := fs, room := m.room + 1 }.supply (objectValue entries)

/-- Opens a list or an object. -/
def enter (m : Machine) (f : Frame) (w : Wanted) : Except DecodeError Machine :=
  match m.room with
  | 0 => .error (.tooDeep f.isObject)
  | room + 1 => .ok { m with stack := f :: m.stack, room, wanted := w }

/-- The complaint about a token at `offset` that is not what is wanted. -/
def refuse {α : Type} (complaint : Complaint) (offset : Nat) : Except DecodeError α :=
  .error (.syntaxError ⟨complaint, offset⟩)

/-- Reads a token where a value is wanted. -/
def onValue (m : Machine) (t : Placed) : Except DecodeError Machine :=
  match t.token with
  | .openObject => m.enter (.object [] .null) .keyOrClose
  | .openList => m.enter (.list []) .valueOrClose
  | .text ps => .ok (m.supply (.ofPoints ps))
  | .scalar v => .ok (m.supply v)
  | .flawedText e => .error (.syntaxError e)
  | .flawedNumber e => .error (.numeral e)
  | _ => refuse .value t.offset

/-- Reads a token where a key is wanted. -/
def onKey (m : Machine) (t : Placed) : Except DecodeError Machine :=
  match t.token, m.stack with
  | .text ps, .object entries _ :: fs =>
    .ok { m with stack := .object entries (.ofPoints ps) :: fs, wanted := .colon }
  | .flawedText e, _ => .error (.syntaxError e)
  | _, _ => refuse .key t.offset

/-- Reads a token where the innermost list or object may go on or end. -/
def onComma (m : Machine) (t : Placed) : Except DecodeError Machine :=
  match t.token, m.stack with
  | .comma, .list _ :: _ => .ok { m with wanted := .value }
  | .comma, .object .. :: _ => .ok { m with wanted := .key }
  | .closeList, .list _ :: _ => .ok m.close
  | .closeObject, .object .. :: _ => .ok m.close
  | _, _ => refuse .comma t.offset

/-- Reads one token. -/
def step (m : Machine) (t : Placed) : Except DecodeError Machine :=
  match m.wanted with
  | .value => m.onValue t
  | .valueOrClose =>
    match t.token with
    | .closeList => .ok m.close
    | _ => m.onValue t
  | .key => m.onKey t
  | .keyOrClose =>
    match t.token with
    | .closeObject => .ok m.close
    | _ => m.onKey t
  | .colon =>
    match t.token with
    | .colon => .ok { m with wanted := .value }
    | _ => refuse .colon t.offset
  | .comma => m.onComma t
  | .nothing => refuse .extraData t.offset

/-- The document at the end of the text, which has offset `offset`. -/
def finish (m : Machine) (offset : Nat) : Except DecodeError Value :=
  match m.wanted with
  | .value | .valueOrClose => refuse .value offset
  | .key | .keyOrClose => refuse .key offset
  | .colon => refuse .colon offset
  | .comma => refuse .comma offset
  | .nothing => .ok m.result

/-- Reads tokens up to the first that is refused. -/
def run (m : Machine) : List Placed → Except DecodeError Machine
  | [] => .ok m
  | t :: ts =>
    match m.step t with
    | .ok m' => m'.run ts
    | .error e => .error e

end Machine

/-- Decodes a document in which lists and objects are nested no deeper than `depth`. -/
def decode (depth : Nat) (cs : List Char) : Except DecodeError Value :=
  if cs.head? == some '\uFEFF' then Machine.refuse .byteOrderMark 0
  else
    match (Machine.start depth).run (tokens cs) with
    | .ok m => m.finish cs.length
    | .error e => .error e

/-- The complaint with its place: line and column from one, and the offset. -/
def SyntaxError.message (e : SyntaxError) (text : List Char) : String :=
  let before := text.take e.offset
  let line := before.count '\n' + 1
  let column := (before.reverse.takeWhile (· != '\n')).length + 1
  s!"{e.complaint.message}: line {line} column {column} (char {e.offset})"

end LintRelay.Json
