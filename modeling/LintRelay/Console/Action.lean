import LintRelay.Text.Blank
import LintRelay.Text.Word

/-!
# Actions

A tag whose name starts with an at sign ties an *action* to the text up to its closing tag.  What
follows the equals sign describes the action: a name with arguments in parentheses behind it, or the
arguments alone.  Arguments are plain *data*: numbers, strings, and tuples, dictionaries and sets of
data.  `Action.isSound` tells whether a description can be read.

Data are read token by token by a machine that keeps the open brackets on a stack, with what it has
read since the last comma in each of them.
-/

namespace LintRelay.Action

/-! ### Tokens -/

/-- A token of a description. -/
inductive Token where
  /-- A number, which is imaginary or not. -/
  | number (imaginary : Bool)
  /-- A string of characters or of bytes. -/
  | string (bytes : Bool)
  /-- One of the words for nothing, for truth and falsehood, or the ellipsis. -/
  | constant
  /-- The name of the empty set. -/
  | set
  /-- A plus or a minus. -/
  | sign
  | comma
  | colon
  | opening (curly : Bool)
  | closing (curly : Bool)
  | lineBreak
  deriving DecidableEq, Repr

/-- Whether `c` may stand in a name or a number. -/
def isNameChar (c : Char) : Bool :=
  c.isAlphanum || c == '_' || 128 ≤ c.toNat

/-- Whether `c` is a hexadecimal digit. -/
def isHexDigit (c : Char) : Bool :=
  c.isDigit || ('a' ≤ c && c ≤ 'f') || ('A' ≤ c && c ≤ 'F')

/-- What follows digits with single low lines between them, if such digits come first. -/
def digits? (isDigit : Char → Bool) (cs : List Char) : Option (List Char) :=
  let body := cs.takeWhile fun c => isDigit c || c == '_'
  let rest := cs.dropWhile fun c => isDigit c || c == '_'
  let doubled := (body.zip (body.drop 1)).contains ('_', '_')
  if body.isEmpty || body.head? == some '_' || body.getLast? == some '_' || doubled then none
  else some rest

/-- What follows the digits of a base, which may be set off by a low line. -/
def basedDigits? (isDigit : Char → Bool) (cs : List Char) : Option (List Char) :=
  match cs with
  | '_' :: cs => digits? isDigit cs
  | cs => digits? isDigit cs

/-- Whether the digits before `rest` make an integer: behind a zero there are only zeros, and there
are not too many digits. -/
def isInteger (cs rest : List Char) : Bool :=
  let ds := (cs.take (cs.length - rest.length)).filter (· != '_')
  (ds.head? != some '0' || ds.all (· == '0')) && ds.length ≤ 4300

/-- What follows an exponent, or the text itself if no exponent comes first. -/
def afterExponent (cs : List Char) : Option (List Char) :=
  match cs with
  | e :: sign :: cs =>
    if e == 'e' || e == 'E' then
      if sign == '+' || sign == '-' then digits? Char.isDigit cs
      else digits? Char.isDigit (sign :: cs)
    else some (e :: sign :: cs)
  | cs => some cs

/-- The token of a decimal number, and what follows it. -/
def decimal? (cs : List Char) : Option (Token × List Char) := do
  let whole := (digits? Char.isDigit cs).getD cs
  let point := match whole with
    | '.' :: rest => some ((digits? Char.isDigit rest).getD rest)
    | _ => none
  let mantissa := point.getD whole
  let rest ← afterExponent mantissa
  match rest with
  | 'j' :: rest | 'J' :: rest => return (.number true, rest)
  | _ =>
    let isReal := point.isSome || rest.length < mantissa.length
    if isReal || isInteger cs whole then return (.number false, rest) else none

/-- The token of a number, and what follows it. -/
def number? (cs : List Char) : Option (Token × List Char) := do
  let isBased (base : Char) := base == 'x' || base == 'X' || base == 'o' || base == 'O' ||
    base == 'b' || base == 'B'
  let (token, rest) ← match cs with
    | '0' :: base :: ds =>
      if !isBased base then decimal? cs
      else
        let isDigit (c : Char) : Bool :=
          if base.toLower == 'x' then isHexDigit c
          else if base.toLower == 'o' then '0' ≤ c && c ≤ '7'
          else c == '0' || c == '1'
        (basedDigits? isDigit ds).map (Token.number false, ·)
    | cs => decimal? cs
  match rest with
  | c :: _ => if isNameChar c then none else return (token, rest)
  | [] => return (token, rest)

/-- What follows the closing quotes of a string: three of them, or one on the same line. -/
def afterString? (quote : Char) (long : Bool) : List Char → Option (List Char × List Char)
  | [] => none
  | '\\' :: c :: cs => (afterString? quote long cs).map fun (s, rest) => ('\\' :: c :: s, rest)
  | c :: cs =>
    if c == quote && (!long || [quote, quote].isPrefixOf cs) then
      some ([], if long then cs.drop 2 else cs)
    else if c == '\n' && !long then none
    else (afterString? quote long cs).map fun (s, rest) => (c :: s, rest)

/-- Whether a text starts with a number of hexadecimal digits. -/
def startsHex (count : Nat) (cs : List Char) : Bool :=
  count ≤ cs.length && (cs.take count).all isHexDigit

/-- Whether the escapes in a string can be read.  Names of characters are not. -/
def areEscapesSound (bytes : Bool) : List Char → Bool
  | '\\' :: c :: cs =>
    (if c == 'x' then startsHex 2 cs
      else if bytes then true
      else if c == 'u' then startsHex 4 cs
      else if c == 'U' then
        startsHex 8 cs && (cs.take 2).all (· == '0') &&
          ((cs.drop 2).head? == some '0' || ['1', '0'].isPrefixOf (cs.drop 2))
      else c != 'N') &&
      areEscapesSound bytes cs
  | _ :: cs => areEscapesSound bytes cs
  | [] => true

/-- The token of a string behind its prefix, and what follows it. -/
def string? (bytes raw : Bool) (cs : List Char) : Option (Token × List Char) :=
  match cs with
  | [] => none
  | quote :: cs =>
    let long := [quote, quote].isPrefixOf cs
    match afterString? quote long (if long then cs.drop 2 else cs) with
    | none => none
    | some (body, rest) =>
      if (raw || areEscapesSound bytes body) && (!bytes || body.all fun c => c.toNat < 128) then
        some (.string bytes, rest)
      else none

/-- The token of a name, or of the string whose prefix it is, and what follows it. -/
def name? (cs : List Char) : Option (Token × List Char) :=
  let name := String.ofList (cs.takeWhile isNameChar)
  let rest := cs.dropWhile isNameChar
  if rest.head? == some '"' || rest.head? == some '\'' then
    let lower := name.toLower
    if lower == "r" then string? false true rest
    else if lower == "u" then string? false false rest
    else if lower == "b" then string? true false rest
    else if lower == "br" || lower == "rb" then string? true true rest
    else none
  else if name == "set" then some (.set, rest)
  else if name == "None" || name == "True" || name == "False" then some (.constant, rest)
  else none

/-- The first token of a text that starts with none of the blanks, and what follows it. -/
def token? (cs : List Char) : Option (Token × List Char) :=
  match cs with
  | '.' :: '.' :: '.' :: rest => some (.constant, rest)
  | c :: rest =>
    if c == '(' || c == '\x7b' then some (.opening (c != '('), rest)
    else if c == ')' || c == '\x7d' then some (.closing (c != ')'), rest)
    else if c == ',' then some (.comma, rest)
    else if c == ':' then some (.colon, rest)
    else if c == '+' || c == '-' then some (.sign, rest)
    else if c == '\n' then some (.lineBreak, rest)
    else if c == '\'' || c == '"' then string? false false cs
    else if c.isDigit || (c == '.' && (rest.head?.any Char.isDigit)) then number? cs
    else if isNameChar c then name? cs
    else none
  | [] => none

/-- The text without the blanks, joined lines and comments at its start. -/
def skipBlanks : List Char → List Char
  | '\\' :: '\n' :: cs => skipBlanks cs
  | c :: cs =>
    if c == ' ' || c == '\t' || c == '\x0c' then skipBlanks cs
    else if c == '#' then cs.dropWhile (· != '\n')
    else c :: cs
  | [] => []

/-- Skipping blanks leaves no longer text. -/
theorem length_skipBlanks_le (cs : List Char) : (skipBlanks cs).length ≤ cs.length := by
  fun_induction skipBlanks cs with
  | case1 cs ih => simp only [List.length_cons]; omega
  | case2 c cs _ _ ih => simp only [List.length_cons]; omega
  | case3 c cs =>
    have := (List.dropWhile_sublist (l := cs) (· != '\n')).length_le
    simp only [List.length_cons]
    omega
  | case4 => exact Nat.le_refl _
  | case5 => exact Nat.le_refl _

/-- The tokens of a text. -/
def tokens? (cs : List Char) : Option (List Token) :=
  match token? (skipBlanks cs) with
  | none => if (skipBlanks cs).isEmpty then some [] else none
  | some (t, rest) =>
    if _h : rest.length < (skipBlanks cs).length then (tokens? rest).map (t :: ·) else none
termination_by cs.length
decreasing_by
  have := length_skipBlanks_le cs
  omega

/-! ### Data -/

/-- What is known of data. -/
inductive Kind where
  /-- A number that is not imaginary. -/
  | real
  /-- An imaginary number. -/
  | imaginary
  /-- A number that is not imaginary, with a sign. -/
  | signedReal
  /-- A string that stands there by itself, so that another one may continue it. -/
  | string (bytes : Bool)
  /-- The name of the empty set, which is no datum yet. -/
  | set
  /-- A datum that may be an element of a set or a key. -/
  | fixed
  /-- A set, a dictionary, or a tuple that holds one. -/
  | changing
  deriving DecidableEq, Repr

/-- What has been read since the last comma or colon. -/
inductive Operand where
  | nothing
  | sign
  | datum (k : Kind)
  /-- A number and a sign behind it, which only an imaginary number may follow. -/
  | sum
  deriving DecidableEq, Repr

namespace Operand

/-- Adds a datum. -/
def supply? : Operand → Kind → Option Operand
  | .nothing, k => some (.datum k)
  | .sign, .real => some (.datum .signedReal)
  | .sign, .imaginary => some (.datum .fixed)
  | .sum, .imaginary => some (.datum .fixed)
  | .datum (.string bytes), .string more =>
    if bytes == more then some (.datum (.string bytes)) else none
  | _, _ => none

/-- Adds a sign. -/
def addSign? : Operand → Option Operand
  | .nothing => some .sign
  | .datum .real | .datum .signedReal => some .sum
  | _ => none

/-- The datum that has been read, if it is one. -/
def datum? : Operand → Option Kind
  | .datum .set => none
  | .datum k => some k
  | _ => none

end Operand

/-- The kinds of brackets, and what stands for brackets around the whole. -/
inductive Bracket where
  | whole
  | round
  | curly
  /-- The brackets of a call. -/
  | call
  deriving DecidableEq, Repr

/-- What has been read inside a bracket. -/
structure Group where
  bracket : Bracket
  operand : Operand := .nothing
  /-- The number of data that a comma follows. -/
  finished : Nat := 0
  /-- Whether one of them is a set or a dictionary. -/
  hasChanging : Bool := false
  /-- Whether the data come in pairs, as far as that is known. -/
  paired : Option Bool := none
  /-- Whether the operand stands behind a colon. -/
  behindColon : Bool := false
  deriving DecidableEq, Repr

namespace Group

/-- Whether a datum may stand where the operand stands: sets hold nothing that changes, and neither
do keys. -/
def allows (g : Group) (k : Kind) : Bool :=
  g.bracket != .curly || g.behindColon || k != .changing

/-- Ends the operand, where a comma follows it or the bracket is closed. -/
def finish? (g : Group) : Option Group :=
  match g.operand.datum? with
  | none => none
  | some k =>
    let isPair := g.behindColon
    if !g.allows k || g.bracket == .call || g.paired.any (· != isPair) then none
    else
      some { g with
        operand := .nothing
        finished := g.finished + 1
        hasChanging := g.hasChanging || k == .changing
        paired := some isPair
        behindColon := false }

/-- Turns the operand into a key. -/
def addColon? (g : Group) : Option Group :=
  match g.operand.datum? with
  | some k =>
    if g.bracket == .curly && !g.behindColon && k != .changing then
      some { g with operand := .nothing, behindColon := true }
    else none
  | none => none

/-- The group with nothing unfinished. -/
def settle? (g : Group) : Option Group :=
  if g.operand == .nothing && !g.behindColon then some g else g.finish?

/-- The datum of a closed bracket. -/
def close? (g : Group) : Option Kind :=
  match g.bracket with
  | .whole => none
  | .call => if g.operand == .nothing && g.finished == 0 then some .changing else none
  | .curly => g.settle?.map fun _ => .changing
  | .round =>
    match g.finished, g.operand with
    | 0, .datum (.string _) => some .fixed
    | 0, .datum k => some k
    | _, _ => g.settle?.map fun g => if g.hasChanging then .changing else .fixed

end Group

/-- The deepest nesting of brackets. -/
def depthLimit : Nat := 200

/-- Data that are being read: the open brackets from the inside out, and whether the line has ended
outside all brackets. -/
structure Reading where
  inner : Group
  outer : List Group := []
  ended : Bool := false
  deriving DecidableEq, Repr

namespace Reading

/-- Adds a datum to the innermost bracket. -/
def supply? (r : Reading) (k : Kind) : Option Reading :=
  (r.inner.operand.supply? k).map fun operand => { r with inner := { r.inner with operand } }

/-- Opens a bracket.  A round bracket behind the name of the empty set makes a call. -/
def open? (r : Reading) (curly : Bool) : Option Reading :=
  if depthLimit ≤ r.outer.length then none
  else
    let outer := r.inner :: r.outer
    match r.inner.operand with
    | .datum .set => if curly then none else some { r with inner := { bracket := .call }, outer }
    | .datum _ => none
    | _ => some { r with inner := { bracket := if curly then .curly else .round }, outer }

/-- Closes the innermost bracket. -/
def close? (r : Reading) (curly : Bool) : Option Reading :=
  match r.outer with
  | [] => none
  | g :: outer =>
    if curly != (r.inner.bracket == .curly) then none
    else
      match r.inner.close? with
      | none => none
      | some k =>
        let g := if r.inner.bracket == .call then { g with operand := .nothing } else g
        supply? { r with inner := g, outer } k

/-- Reads one token. -/
def step? (r : Reading) (t : Token) : Option Reading :=
  if t == .lineBreak then
    let started := r.inner.operand != .nothing || r.inner.finished != 0
    some { r with ended := r.ended || (r.outer.isEmpty && started) }
  else if r.ended then none
  else
    match t with
    | .number imaginary => r.supply? (if imaginary then .imaginary else .real)
    | .string bytes => r.supply? (.string bytes)
    | .constant => r.supply? .fixed
    | .set => r.supply? .set
    | .sign =>
      r.inner.operand.addSign?.map fun operand => { r with inner := { r.inner with operand } }
    | .comma => r.inner.finish?.map fun inner => { r with inner }
    | .colon => r.inner.addColon?.map fun inner => { r with inner }
    | .opening curly => r.open? curly
    | .closing curly => r.close? curly
    | .lineBreak => none

/-- Whether data are complete. -/
def isComplete (r : Reading) : Bool :=
  r.outer.isEmpty && match r.inner.operand with
    | .nothing => r.inner.finished != 0
    | o => o.datum?.isSome

end Reading

/-- Whether a text is data. -/
def isData (cs : List Char) : Bool :=
  match (tokens? cs).bind fun ts => ts.foldlM Reading.step? { inner := { bracket := .whole } } with
  | some r => r.isComplete
  | none => false

/-! ### Descriptions -/

/-- The arguments in the description of an action: what stands in parentheses behind its name, or
else all of it.  There are none behind a name alone. -/
def arguments (description : List Char) : List Char :=
  let rest := description.dropWhile fun c => Text.isWord c || c == '.'
  if rest.isEmpty then ['(', ')']
  else if rest.head? == some '(' && rest.getLast? == some ')' && !rest.contains '\n' then rest
  else description

/-- A text with line feeds for all its line breaks. -/
def withLineFeeds : List Char → List Char
  | '\r' :: '\n' :: cs => '\n' :: withLineFeeds cs
  | '\r' :: cs => '\n' :: withLineFeeds cs
  | c :: cs => c :: withLineFeeds cs
  | [] => []

/-- Whether the description of an action can be read. -/
def isSound (description : List Char) : Bool :=
  isData (withLineFeeds (arguments (Text.trim description)))

end LintRelay.Action
