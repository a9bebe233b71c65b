import LintRelay.Machine.Script

/-!
# Arithmetic

The expressions of scripts: whole numbers of sixty-four bits with the usual operators, and
parameters that may be assigned to.  An expression is read into a tree, with the weakest operator at
its root, and the tree is worked out from the left; what a condition excludes is not worked out.
-/

namespace LintRelay.Machine

/-- Operators between two numbers. -/
inductive Operator where
  | times | over | modulo | plus | minus | shiftLeft | shiftRight
  | less | lessEqual | greater | greaterEqual | equal | unequal
  | bitAnd | bitXor | bitOr
  deriving DecidableEq, Repr

/-- Expressions. -/
inductive Expression where
  | number (n : Int)
  | parameter (name : String)
  | negative (e : Expression)
  | inverse (e : Expression)
  | no (e : Expression)
  | binary (op : Operator) (a b : Expression)
  | both (a b : Expression)
  | either (a b : Expression)
  | choice (condition yes no : Expression)
  /-- An assignment, perhaps of what an operator makes of the old value. -/
  | assign (name : String) (op : Option Operator) (e : Expression)
  deriving DecidableEq, Repr

namespace Arithmetic

/-- Tokens of expressions. -/
inductive Token where
  | number (n : Int)
  | name (s : String)
  | sign (s : String)
  /-- A character that means nothing. -/
  | unknown
  deriving DecidableEq, Repr

/-- The signs, longer ones first. -/
def signs : List String :=
  ["<<=", ">>=", "<<", ">>", "<=", ">=", "==", "!=", "&&", "||", "+=", "-=", "*=", "/=", "%=",
    "&=", "^=", "|=", "+", "-", "*", "/", "%", "<", ">", "=", "&", "^", "|", "!", "~", "(", ")",
    "?", ":"]

/-- The value of a digit in a base. -/
def digit? (base : Nat) (c : Char) : Option Nat :=
  let n := if c.isDigit then c.toNat - 48
    else if 'a' ≤ c && c ≤ 'f' then c.toNat - 87
    else if 'A' ≤ c && c ≤ 'F' then c.toNat - 55
    else base
  if n < base then some n else none

/-- The greatest number. -/
def greatest : Nat := Nat.pow 2 63 - 1

/-- A number in the notation of its prefix, and how many characters it takes. -/
def number (cs : List Char) : Nat × Nat :=
  let read (base : Nat) (ds : List Char) : Nat × Nat :=
    let ds := ds.takeWhile fun c => (digit? base c).isSome
    (min greatest (ds.foldl (fun n c => n * base + (digit? base c).getD 0) 0), ds.length)
  match cs with
  | '0' :: x :: ds =>
    if (x == 'x' || x == 'X') && ds.head?.any fun c => (digit? 16 c).isSome then
      let (n, count) := read 16 ds
      (n, count + 2)
    else read 8 cs
  | '0' :: _ => read 8 cs
  | _ => read 10 cs

/-- The tokens of an expression, of which the first `skip` characters have been read already. -/
def tokens : Nat → List Char → List Token
  | _, [] => []
  | skip + 1, _ :: cs => tokens skip cs
  | 0, c :: cs =>
    if c == ' ' || c == '\t' || c == '\n' then tokens 0 cs
    else if c.isDigit then
      let (n, count) := number (c :: cs)
      .number n :: tokens (count - 1) cs
    else if isNameChar c then
      let name := (c :: cs).takeWhile isNameChar
      .name (String.ofList name) :: tokens (name.length - 1) cs
    else
      match signs.find? fun s => s.toList.isPrefixOf (c :: cs) with
      | some s => .sign s :: tokens (s.length - 1) cs
      | none => .unknown :: tokens 0 cs

/-- Operators by their signs, each with how tightly it binds. -/
def operators : List (String × Operator × Nat) :=
  [("*", .times, 7), ("/", .over, 7), ("%", .modulo, 7), ("+", .plus, 6), ("-", .minus, 6),
    ("<<", .shiftLeft, 5), (">>", .shiftRight, 5), ("<", .less, 4), ("<=", .lessEqual, 4),
    (">", .greater, 4), (">=", .greaterEqual, 4), ("==", .equal, 3), ("!=", .unequal, 3),
    ("&", .bitAnd, 2), ("^", .bitXor, 1), ("|", .bitOr, 0)]

/-- The operator in the sign of an assignment. -/
def assignment? (s : String) : Option (Option Operator) :=
  if s == "=" then some none
  else if s.endsWith "=" then (operators.lookup (s.dropEnd 1).toString).map fun (op, _) => some op
  else none

/-- A reading of tokens that may fail with a complaint. -/
abbrev Reader := StateT (List Token) (Except String)

/-- Passes over a sign if it comes next. -/
def take (s : String) : Reader Bool := do
  match ← get with
  | .sign t :: ts =>
    if s == t then
      set ts
      return true
    else return false
  | _ => return false

mutual

/-- An assignment, or anything that binds more tightly. -/
def assignment : Nat → Reader Expression
  | 0 => throw "expecting primary"
  | fuel + 1 => do
    match ← get with
    | .name name :: .sign s :: ts =>
      match assignment? s with
      | some op =>
        set ts
        return .assign name op (← assignment fuel)
      | none => choice fuel
    | _ => choice fuel

/-- A condition with its two cases, or anything that binds more tightly. -/
def choice : Nat → Reader Expression
  | 0 => throw "expecting primary"
  | fuel + 1 => do
    let condition ← disjunction fuel
    if ← take "?" then
      let yes ← assignment fuel
      if ← take ":" then return .choice condition yes (← choice fuel)
      else throw "expecting ':'"
    else return condition

/-- Conditions of which one has to hold. -/
def disjunction : Nat → Reader Expression
  | 0 => throw "expecting primary"
  | fuel + 1 => do
    let a ← conjunction fuel
    if ← take "||" then return .either a (← disjunction fuel) else return a

/-- Conditions all of which have to hold. -/
def conjunction : Nat → Reader Expression
  | 0 => throw "expecting primary"
  | fuel + 1 => do
    let a ← binary 0 fuel
    if ← take "&&" then return .both a (← conjunction fuel) else return a

/-- Operands with operators between them that bind at least as tightly as a level. -/
def binary (level : Nat) : Nat → Reader Expression
  | 0 => throw "expecting primary"
  | fuel + 1 => do
    let a ← primary fuel
    binaryRest level a fuel

/-- What follows an operand. -/
def binaryRest (level : Nat) (a : Expression) : Nat → Reader Expression
  | 0 => throw "expecting primary"
  | fuel + 1 => do
    match ← get with
    | .sign s :: ts =>
      match operators.lookup s with
      | some (op, tightness) =>
        if level ≤ tightness then
          set ts
          let b ← binary (tightness + 1) fuel
          binaryRest level (.binary op a b) fuel
        else return a
      | none => return a
    | _ => return a

/-- A number, a parameter, or an expression in brackets, with signs before it. -/
def primary : Nat → Reader Expression
  | 0 => throw "expecting primary"
  | fuel + 1 => do
    match ← get with
    | .number n :: ts =>
      set ts
      return .number n
    | .name name :: ts =>
      set ts
      return .parameter name
    | .sign "(" :: ts =>
      set ts
      let e ← assignment fuel
      if ← take ")" then return e else throw "expecting ')'"
    | .sign "-" :: ts =>
      set ts
      return .negative (← primary fuel)
    | .sign "+" :: ts =>
      set ts
      primary fuel
    | .sign "!" :: ts =>
      set ts
      return .no (← primary fuel)
    | .sign "~" :: ts =>
      set ts
      return .inverse (← primary fuel)
    | _ => throw "expecting primary"

end

/-- The expression of a text. -/
def parse (cs : List Char) : Except String Expression :=
  let ts := tokens 0 cs
  match (assignment (20 * ts.length + 20)).run ts with
  | .ok (e, []) => .ok e
  | .ok _ => .error "expecting EOF"
  | .error reason => .error reason

/-! ### Working out -/

/-- The number of sixty-four bits that is left of a number. -/
def wrap (n : Int) : Int :=
  let m := n % Nat.pow 2 64
  if m < Nat.pow 2 63 then m else m - Nat.pow 2 64

/-- The number of a truth value. -/
def truth (b : Bool) : Int :=
  if b then 1 else 0

/-- The bits of a number as a natural number. -/
def bits (n : Int) : Nat :=
  (n % Nat.pow 2 64).toNat

/-- What an operator makes of two numbers; nothing can be divided by zero. -/
def outcome? (op : Operator) (a b : Int) : Option Int :=
  match op with
  | .times => some (wrap (a * b))
  | .over => if b == 0 then none else some (wrap (a.tdiv b))
  | .modulo => if b == 0 then none else some (a.tmod b)
  | .plus => some (wrap (a + b))
  | .minus => some (wrap (a - b))
  | .shiftLeft => some (wrap (a * Nat.pow 2 (bits b % 64)))
  | .shiftRight => some (a / Nat.pow 2 (bits b % 64))
  | .less => some (truth (a < b))
  | .lessEqual => some (truth (a ≤ b))
  | .greater => some (truth (a > b))
  | .greaterEqual => some (truth (a ≥ b))
  | .equal => some (truth (a == b))
  | .unequal => some (truth (a != b))
  | .bitAnd => some (wrap (bits a &&& bits b : Nat))
  | .bitXor => some (wrap (bits a ^^^ bits b : Nat))
  | .bitOr => some (wrap (bits a ||| bits b : Nat))

/-- Why an expression has no value. -/
inductive Failure where
  | zeroDivisor
  /-- The value of a parameter is no number. -/
  | badNumber (text : String)
  deriving DecidableEq, Repr

/-- The number that a text stands for. -/
def valueOf (text : String) : Except Failure Int :=
  let cs := text.toList.dropWhile fun c => c == ' ' || c == '\t' || c == '\n'
  let (negative, ds) := match cs with
    | '-' :: ds => (true, ds)
    | '+' :: ds => (false, ds)
    | ds => (false, ds)
  if cs.isEmpty then .ok 0
  else
    let (n, count) := number ds
    let rest := (ds.drop count).dropWhile fun c => c == ' ' || c == '\t' || c == '\n'
    if count == 0 || !rest.isEmpty then .error (.badNumber text)
    else .ok (if negative then -n else n)

/-- Works out an expression; the assignments in it come with its value, the latest first. -/
def evaluate (look : String → String) (done : List (String × Int)) :
    Expression → Except Failure (Int × List (String × Int))
  | .number n => .ok (n, done)
  | .parameter name => do
    match done.lookup name with
    | some n => return (n, done)
    | none => return (← valueOf (look name), done)
  | .negative e => do
    let (n, done) ← evaluate look done e
    return (wrap (-n), done)
  | .inverse e => do
    let (n, done) ← evaluate look done e
    return (-n - 1, done)
  | .no e => do
    let (n, done) ← evaluate look done e
    return (truth (n == 0), done)
  | .binary op a b => do
    let (m, done) ← evaluate look done a
    let (n, done) ← evaluate look done b
    match outcome? op m n with
    | some r => return (r, done)
    | none => throw .zeroDivisor
  | .both a b => do
    let (m, done) ← evaluate look done a
    if m == 0 then return (0, done)
    let (n, done) ← evaluate look done b
    return (truth (n != 0), done)
  | .either a b => do
    let (m, done) ← evaluate look done a
    if m != 0 then return (1, done)
    let (n, done) ← evaluate look done b
    return (truth (n != 0), done)
  | .choice c yes no => do
    let (m, done) ← evaluate look done c
    if m != 0 then evaluate look done yes else evaluate look done no
  | .assign name op e => do
    let (n, done) ← evaluate look done e
    match op with
    | none => return (n, (name, n) :: done)
    | some op =>
      let old ← match done.lookup name with
        | some m => pure m
        | none => valueOf (look name)
      match outcome? op old n with
      | some r => return (r, (name, r) :: done)
      | none => throw .zeroDivisor

end Arithmetic

end LintRelay.Machine
