import LintRelay.Timestamp

/-!
# What plain scalars stand for

A scalar without quotation marks and without a tag stands for what it looks like: a truth value,
nothing, an integer, a number with a point, a date, or else a text.  `Tag.ofPlain` decides which.
Two more words are plain scalars of their own: the key of merged mappings and that of a default.
-/

namespace LintRelay.Yaml

/-- What a node stands for. -/
inductive Tag where
  | null
  | bool
  | int
  | float
  | timestamp
  | text
  | binary
  | sequence
  | mapping
  | set
  /-- A sequence of mappings with one entry each. -/
  | pairs
  /-- The key under which other mappings are merged. -/
  | merge
  /-- The key of a default value. -/
  | default
  | other (name : String)
  deriving DecidableEq, Repr

namespace Tag

/-- What the names of the usual tags start with. -/
def family : String := "tag:yaml.org,2002:"

/-- The usual tags by name. -/
def known : List (String × Tag) := [
  ("null", .null), ("bool", .bool), ("int", .int), ("float", .float), ("timestamp", .timestamp),
  ("str", .text), ("binary", .binary), ("seq", .sequence), ("map", .mapping), ("set", .set),
  ("omap", .pairs), ("pairs", .pairs), ("merge", .merge), ("value", .default)]

/-- The tag of a full name. -/
def ofName (name : String) : Tag :=
  match known.find? fun (n, _) => family ++ n == name with
  | some (_, t) => t
  | none => .other name

/-- Whether a tag is one of a scalar that has a value. -/
def isScalar : Tag → Bool
  | .null | .bool | .int | .float | .timestamp | .text | .binary => true
  | _ => false

/-- The words for truth values. -/
def boolWords : List (String × Bool) := [
  ("yes", true), ("Yes", true), ("YES", true), ("no", false), ("No", false), ("NO", false),
  ("true", true), ("True", true), ("TRUE", true), ("false", false), ("False", false),
  ("FALSE", false), ("on", true), ("On", true), ("ON", true), ("off", false), ("Off", false),
  ("OFF", false)]

/-- The words for nothing. -/
def nullWords : List String := ["~", "null", "Null", "NULL", ""]

/-- The text without a sign in front. -/
def unsigned : List Char → List Char
  | '+' :: cs => cs
  | '-' :: cs => cs
  | cs => cs

/-- Whether `c` is a decimal digit or an underscore. -/
def isDigitOrUnderscore (c : Char) : Bool :=
  Decimal.isAsciiDigit c || c == '_'

/-- Whether a text is nothing but groups of base sixty, each behind a colon. -/
def isSixties : List Char → Bool
  | [] => true
  | ':' :: a :: b :: cs =>
    if Decimal.isAsciiDigit b then '0' ≤ a && a ≤ '5' && isSixties cs
    else Decimal.isAsciiDigit a && isSixties (b :: cs)
  | [':', a] => Decimal.isAsciiDigit a
  | _ => false

/-- Whether a text is an integer: decimal, octal, hexadecimal, binary, or of base sixty. -/
def isInt (cs : List Char) : Bool :=
  match unsigned cs with
  | '0' :: 'b' :: ds => !ds.isEmpty && ds.all fun c => c == '0' || c == '1' || c == '_'
  | '0' :: 'x' :: ds => !ds.isEmpty && ds.all fun c =>
      isDigitOrUnderscore c || ('a' ≤ c && c ≤ 'f') || ('A' ≤ c && c ≤ 'F')
  | ['0'] => true
  | '0' :: ds => ds.all fun c => ('0' ≤ c && c ≤ '7') || c == '_'
  | c :: ds =>
    '1' ≤ c && c ≤ '9' && isSixties (ds.dropWhile isDigitOrUnderscore)
  | [] => false

/-- Whether a text is an exponent, or nothing. -/
def isExponent : List Char → Bool
  | [] => true
  | e :: sign :: ds =>
    (e == 'e' || e == 'E') && (sign == '+' || sign == '-') && !ds.isEmpty &&
      ds.all Decimal.isAsciiDigit
  | _ => false

/-- Whether the groups of base sixty in front of a point are at least one and well formed. -/
def isSixtiesBeforePoint (cs : List Char) : Bool :=
  let groups := cs.takeWhile (· != '.')
  match cs.dropWhile (· != '.') with
  | '.' :: rest => !groups.isEmpty && isSixties groups && rest.all isDigitOrUnderscore
  | _ => false

/-- Whether a text is a number with a point. -/
def isFloat (cs : List Char) : Bool :=
  let infinities := [".inf", ".Inf", ".INF"].map String.toList
  let nans := [".nan", ".NaN", ".NAN"].map String.toList
  if nans.contains cs || infinities.contains (unsigned cs) then true
  else match cs with
    | '.' :: d :: ds => Decimal.isAsciiDigit d && isExponent (ds.dropWhile isDigitOrUnderscore)
    | _ =>
      match unsigned cs with
      | d :: ds =>
        Decimal.isAsciiDigit d &&
          (match ds.dropWhile isDigitOrUnderscore with
          | '.' :: rest => isExponent (rest.dropWhile isDigitOrUnderscore)
          | ':' :: rest => isSixtiesBeforePoint (':' :: rest)
          | _ => false)
      | [] => false

/-- The marks that stand for a tag of their own and have no value. -/
def markWords : List String := ["!", "&", "*"]

/-- What a plain scalar stands for.  A line break at its end does not count, unless there is nothing
before it. -/
def ofPlain (s : String) : Tag :=
  let cs := Timestamp.withoutBreak s.toList
  let word := String.ofList cs
  if s.startsWith "\n" then .text
  else if (boolWords.lookup word).isSome then .bool
  else if nullWords.contains word then .null
  else if isInt cs then .int
  else if isFloat cs then .float
  else if (Timestamp.ofText? s.toList).isSome then .timestamp
  else if word == "<<" then .merge
  else if word == "=" then .default
  else if markWords.contains word then .other (family ++ "yaml")
  else .text

end Tag

end LintRelay.Yaml
