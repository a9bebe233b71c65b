import LintRelay.Machine.Work

/-!
# Conditions

The conditions that scripts ask about texts, numbers and files.  A condition is a row of words;
which of them are operators depends on the words around them.
-/

namespace LintRelay.Machine.Condition

/-- The operators with one operand. -/
def unary : List String :=
  ["-r", "-w", "-x", "-e", "-f", "-d", "-c", "-b", "-p", "-u", "-g", "-k", "-s", "-t", "-z", "-n",
    "-h", "-O", "-G", "-L", "-S"]

/-- The operators with two operands. -/
def binary : List String :=
  ["=", "!=", "<", ">", "-eq", "-ne", "-ge", "-gt", "-le", "-lt", "-nt", "-ot", "-ef"]

/-- What a word is. -/
inductive Role where
  | nothing
  | operand
  | not
  | and
  | or
  | opening
  | closing
  | unary
  | binary
  deriving DecidableEq, Repr

/-- What a word would be wherever it stood. -/
def role (word : String) : Role :=
  if word == "!" then .not
  else if word == "-a" then .and
  else if word == "-o" then .or
  else if word == "(" then .opening
  else if word == ")" then .closing
  else if unary.contains word then .unary
  else if binary.contains word then .binary
  else .operand

/-- What the first of some words is. -/
def roleOf : List String → Role
  | [] => .nothing
  | word :: rest =>
    match role word, rest with
    | .opening, [] => .operand
    | .unary, [] => .operand
    | .unary, next :: _ :: _ => if role next == .binary then .operand else .unary
    | r, _ => r

/-- The number that a word stands for: decimal digits behind a sign, with blanks around them, and no
greater than sixty-four bits allow. -/
def number (word : String) : Except String Int :=
  let isGap (c : Char) : Bool := c == ' ' || (9 ≤ c.toNat && c.toNat ≤ 13)
  let (negative, cs) := match word.toList.dropWhile isGap with
    | '-' :: cs => (true, cs)
    | '+' :: cs => (false, cs)
    | cs => (false, cs)
  let ds := cs.takeWhile Char.isDigit
  let size : Int := (ds.foldl (fun n c => n * 10 + (c.toNat - 48)) 0 : Nat)
  let n := if negative then -size else size
  if ds.isEmpty || !(cs.drop ds.length).all isGap || n < -Nat.pow 2 63 || Nat.pow 2 63 ≤ n then
    .error ("Illegal number: " ++ word)
  else .ok n

/-- Whether a file is as an operator asks. -/
def file (w : Work) (op path : String) : Bool :=
  if Work.isDevice path then ["-e", "-r", "-w", "-c"].contains op
  else match w.locate path (op != "-h" && op != "-L") with
  | .error _ => false
  | .ok (_, e) =>
    match op, e with
    | "-e", _ | "-r", _ | "-w", _ | "-O", _ | "-G", _ => true
    | "-f", .file .. => true
    | "-d", .directory => true
    | "-x", .directory => true
    | "-x", .file _ executable => executable
    | "-s", .directory => true
    | "-s", .file bytes _ => !bytes.isEmpty
    | "-h", .link _ | "-L", .link _ => true
    | _, _ => false

/-- The truth of an operator with one operand. -/
def one (w : Work) (op operand : String) : Except String Bool :=
  if op == "-z" then .ok operand.isEmpty
  else if op == "-n" then .ok !operand.isEmpty
  else if op == "-t" then (number operand).map fun _ => false
  else .ok (file w op operand)

/-- The truth of an operator with two operands. -/
def two (w : Work) (op a b : String) : Except String Bool :=
  match op with
  | "=" => .ok (a == b)
  | "!=" => .ok (a != b)
  | "<" => .ok (a < b)
  | ">" => .ok (b < a)
  | "-nt" | "-ot" => .ok false
  | "-ef" =>
    match w.locate a, w.locate b with
    | .ok (p, _), .ok (q, _) => .ok (p == q)
    | _, _ => .ok false
  | _ => do
    let m ← number a
    let n ← number b
    match op with
    | "-eq" => return m == n
    | "-ne" => return m != n
    | "-ge" => return m ≥ n
    | "-gt" => return m > n
    | "-le" => return m ≤ n
    | _ => return m < n

/-- The words behind an operand that has just been read, the operand included. -/
abbrev Reader := StateT (List String) (Except String)

mutual

/-- Conditions of which one has to hold.  The last word that belongs to them is left. -/
def disjunction (w : Work) (r : Role) : Nat → Reader Bool
  | 0 => throw "too deep"
  | fuel + 1 => do
    let a ← conjunction w r fuel
    if roleOf (← get).tail == .or then
      modify fun ws => ws.drop 2
      let b ← disjunction w (roleOf (← get)) fuel
      return a || b
    else return a

/-- Conditions all of which have to hold. -/
def conjunction (w : Work) (r : Role) : Nat → Reader Bool
  | 0 => throw "too deep"
  | fuel + 1 => do
    let a ← negation w r fuel
    if roleOf (← get).tail == .and then
      modify fun ws => ws.drop 2
      let b ← conjunction w (roleOf (← get)) fuel
      return a && b
    else return a

/-- A condition that may be turned around. -/
def negation (w : Work) (r : Role) : Nat → Reader Bool
  | 0 => throw "too deep"
  | fuel + 1 => do
    if r == .not then
      let next := roleOf (← get).tail
      if next != .nothing then modify List.tail
      return !(← negation w next fuel)
    else primary w r fuel

/-- A condition without signs before it. -/
def primary (w : Work) (r : Role) : Nat → Reader Bool
  | 0 => throw "too deep"
  | fuel + 1 => do
    match r, ← get with
    | .nothing, _ | _, [] => return false
    | .opening, _ :: rest =>
      set rest
      let next := roleOf rest
      if next == .closing then return false
      let a ← disjunction w next fuel
      modify List.tail
      if roleOf (← get) != .closing then throw "closing paren expected"
      return a
    | .unary, [op] => throw (op ++ ": argument expected")
    | .unary, op :: operand :: rest =>
      set (operand :: rest)
      one w op operand
    | _, a :: rest =>
      if roleOf rest == .binary then
        match rest with
        | op :: b :: rest =>
          set (b :: rest)
          two w op a b
        | op :: [] => throw (op ++ ": argument expected")
        | [] => return !a.isEmpty
      else return !a.isEmpty

end

/-- The truth of a condition. -/
def holds (w : Work) (words : List String) : Except String Bool := do
  let start (r : Role) (words : List String) : Except String Bool := do
    let (truth, rest) ← (disjunction w r (4 * words.length + 4)).run words
    match rest with
    | word :: _ :: _ => throw (word ++ ": unexpected operator")
    | _ => return truth
  let isBracketed := words.head? == some "(" && words.getLast? == some ")"
  let inside := (words.drop 1).dropLast
  match words with
  | [] => return false
  | [_, op, _] =>
    if role op == .binary then start .operand words
    else if isBracketed then start (roleOf inside) inside
    else if words.head? == some "!" then start .not words
    else start (roleOf words) words
  | [_, _, _, _] =>
    if isBracketed then start (roleOf inside) inside
    else if words.head? == some "!" then start .not words
    else start (roleOf words) words
  | words => start (roleOf words) words

end LintRelay.Machine.Condition
