import LintRelay.Machine.Condition
import LintRelay.Machine.Format
import LintRelay.Machine.Program
import LintRelay.Machine.Regular

/-!
# Programs on words

The programs that work out, ask or print something about their arguments.
-/

namespace LintRelay.Machine.Program

/-! ### Expressions -/

/-- Whether a text counts as nothing: it is empty or zero. -/
def isNull (s : String) : Bool :=
  s.isEmpty || s.toInt? == some 0

/-- What the basic regular expression `pattern` fits at the start of a text: the first group in it,
or, if it has none, how many characters. -/
def fitted (text pattern : String) : Except String String :=
  match Regular.read false pattern.toList with
  | .error f => .error f.message
  | .ok r =>
    let hasGroup := 1 < (pattern.splitOn "\\(").length
    match r.fitAt? { text := text.toList.toArray } 0 with
    | none => .ok (if hasGroup then "" else "0")
    | some f =>
      if hasGroup then
        match f.groups.lookup 1 with
        | some (a, b) => .ok (String.ofList ((text.toList.take b).drop a))
        | none => .ok ""
      else .ok (toString f.stop)

/-- What an operator makes of two words. -/
def operate (op a b : String) : Except String String :=
  let truth (t : Bool) : Except String String := .ok (if t then "1" else "0")
  let compared (ints : Int → Int → Bool) (words : String → String → Bool) :
      Except String String :=
    match a.toInt?, b.toInt? with
    | some m, some n => truth (ints m n)
    | _, _ => truth (words a b)
  let computed (f : Int → Int → Except String Int) : Except String String :=
    match a.toInt?, b.toInt? with
    | some m, some n => (f m n).map toString
    | _, _ => .error "non-integer argument"
  match op with
  | "|" => .ok (if !isNull a then a else if !isNull b then b else "0")
  | "&" => .ok (if isNull a || isNull b then "0" else a)
  | "+" => computed fun m n => .ok (m + n)
  | "-" => computed fun m n => .ok (m - n)
  | "*" => computed fun m n => .ok (m * n)
  | "/" => computed fun m n => if n == 0 then .error "division by zero" else .ok (m.tdiv n)
  | "%" => computed fun m n => if n == 0 then .error "division by zero" else .ok (m.tmod n)
  | "=" | "==" => compared (· == ·) (· == ·)
  | "!=" => compared (· != ·) (· != ·)
  | "<" => compared (· < ·) (· < ·)
  | "<=" => compared (· ≤ ·) (fun a b => !(b < a))
  | ">" => compared (· > ·) (fun a b => b < a)
  | ">=" => compared (· ≥ ·) (fun a b => !(a < b))
  | _ => fitted a b

/-- The operators by how tightly they bind, the loosest first. -/
def operatorLevels : List (List String) :=
  [["|"], ["&"], ["<", "<=", "=", "==", "!=", ">=", ">"], ["+", "-"], ["*", "/", "%"], [":"]]

/-- The words of an expression that are left, with the word before them. -/
abbrev WordReader := StateT (String × List String) (Except String)

/-- The next word, which has to be there. -/
def nextWord : WordReader String := do
  match ← get with
  | (_, a :: rest) =>
    set (a, rest)
    return a
  | (before, []) => throw ("syntax error: missing argument after " ++ Raw.marked before)

mutual

/-- The value of operands with the operators of some levels between them. -/
def level : List (List String) → Nat → WordReader String
  | _, 0 => throw "syntax error"
  | [], fuel + 1 => operand fuel
  | operators :: tighter, fuel + 1 => do
    let a ← level tighter fuel
    levelRest a operators tighter fuel

/-- The value of what follows an operand on a level. -/
def levelRest (a : String) (operators : List String) (tighter : List (List String)) :
    Nat → WordReader String
  | 0 => return a
  | fuel + 1 => do
    match ← get with
    | (_, op :: rest) =>
      if operators.contains op then
        set (op, rest)
        let b ← level tighter fuel
        levelRest (← operate op a b) operators tighter fuel
      else return a
    | _ => return a

/-- The value of an operand: a word, a function of words, or an expression in brackets. -/
def operand : Nat → WordReader String
  | 0 => throw "syntax error"
  | fuel + 1 => do
    match ← nextWord with
    | "(" =>
      let a ← level operatorLevels fuel
      match ← get with
      | (_, ")" :: rest) =>
        set (")", rest)
        return a
      | (before, []) => throw ("syntax error: expecting ')' after " ++ Raw.marked before)
      | (_, other :: _) => throw ("syntax error: expecting ')' instead of " ++ Raw.marked other)
    | ")" => throw "syntax error: unexpected ')'"
    | "+" => nextWord
    | "length" => return toString (← operand fuel).length
    | "match" =>
      let a ← operand fuel
      let b ← operand fuel
      fitted a b
    | "index" =>
      let a ← operand fuel
      let b ← operand fuel
      return toString (((a.toList.findIdx? b.toList.contains).map (· + 1)).getD 0)
    | "substr" =>
      let a ← operand fuel
      let first ← operand fuel
      let count ← operand fuel
      match first.toNat?, count.toNat? with
      | some (n + 1), some k => return String.ofList ((a.toList.drop n).take k)
      | _, _ => return ""
    | a => return a

end

/-- Works out an expression of words. -/
def expression (w : Work) (arguments : List String) : Work × Nat :=
  match arguments with
  | [] => misuse w "expr" "missing operand" 2
  | words =>
    let words := if words.head? == some "--" then words.tail else words
    match (level operatorLevels (12 * words.length + 12)).run ("", words) with
    | .error e => (warn w "expr" e, 2)
    | .ok (_, (_, a :: _)) =>
      (warn w "expr" ("syntax error: unexpected argument " ++ Raw.marked a), 2)
    | .ok (v, _) => (w.say (v ++ "\n"), if isNull v then 1 else 0)

/-! ### Waiting and printing -/

/-- The microseconds in a number of seconds, with the letter of another unit behind it. -/
def microseconds? (s : String) : Option Nat :=
  let cs := s.toList
  let (cs, unit) := match cs.getLast? with
    | some 's' => (cs.dropLast, 1)
    | some 'm' => (cs.dropLast, 60)
    | some 'h' => (cs.dropLast, 3600)
    | some 'd' => (cs.dropLast, 86400)
    | _ => (cs, 1)
  if cs == "inf".toList || cs == "infinity".toList then some (Nat.pow 10 15)
  else
    let whole := cs.takeWhile Char.isDigit
    let rest := cs.drop whole.length
    let fraction := rest.drop 1
    let isSound := (rest.isEmpty || rest.head? == some '.') && fraction.all Char.isDigit &&
      !(whole.isEmpty && fraction.isEmpty)
    let value (ds : List Char) : Nat := ds.foldl (fun n c => n * 10 + (c.toNat - 48)) 0
    if isSound then
      some ((value whole * 1000000 + value ((fraction ++ List.replicate 6 '0').take 6)) * unit)
    else none

/-- Waits. -/
def sleep (w : Work) (arguments : List String) : Work × Nat :=
  match arguments, arguments.mapM microseconds? with
  | [], _ => misuse w "sleep" "missing operand"
  | _, some times => (w.wait (times.foldl (· + ·) 0), 0)
  | _, none =>
    let bad := arguments.filter fun a => (microseconds? a).isNone
    let w := bad.foldl (fun w a => warn w "sleep" ("invalid time interval " ++ Raw.marked a)) w
    (w.complain "Try 'sleep --help' for more information.", 1)

/-- Writes words. -/
def echo (w : Work) (arguments : List String) : Work × Nat :=
  let isFlag (a : String) : Bool :=
    match a.toList with
    | '-' :: c :: cs => (c :: cs).all fun d => "neE".toList.contains d
    | _ => false
  let flags := arguments.takeWhile isFlag
  let letters := flags.flatMap (·.toList.drop 1)
  let escapes := ((letters.filter (· != 'n')).getLast?).getD 'E' == 'e'
  let text := (" ".intercalate (arguments.drop flags.length)).toList
  let (cs, ended) := if escapes then Format.unescape .program true 0 text else (text, false)
  (put w (if letters.contains 'n' || ended then cs else cs ++ ['\n']), 0)

/-- Writes what a format makes of arguments. -/
def printf (w : Work) (arguments : List String) : Work × Nat :=
  let arguments := if arguments.head? == some "--" then arguments.tail else arguments
  match arguments with
  | [] => misuse w "printf" "missing operand"
  | format :: rest =>
    let r := Format.apply .program format rest
    let w := r.complaints.foldl (fun w c => warn w "printf" c) w
    (put w r.written.reverse, if r.complaints.isEmpty then 0 else 1)

/-- Prints the values of variables. -/
def environment (w : Work) (names : List String) : Work × Nat :=
  if names.isEmpty then
    (w.say (String.join (w.environment.map fun (n, v) => n ++ "=" ++ v ++ "\n")), 0)
  else
    names.foldl (fun (w, status) n =>
      match w.environment.lookup n with
      | some v => (w.say (v ++ "\n"), status)
      | none => (w, 1)) (w, 0)

/-- Prints the paths of programs. -/
def which (w : Work) (names : List String) : Work × Nat :=
  names.foldl (fun (w, status) n =>
    match programPath? w n with
    | some path => (w.say (path ++ "\n"), status)
    | none => (w, 1)) (w, if names.isEmpty then 1 else 0)

/-- Does what one of these programs does. -/
def onWords? (w : Work) (program : String) (arguments : List String) : Option (Work × Nat) :=
  let asked (words : List String) : Work × Nat :=
    match Condition.holds w words with
    | .ok truth => (w, if truth then 0 else 1)
    | .error e => (warn w program e, 2)
  match program with
  | "true" => some (w, 0)
  | "false" => some (w, 1)
  | "sleep" => some (sleep w arguments)
  | "pwd" => some (w.say (Raw.ofText (Path.ofNames w.disk.workingPlace).text ++ "\n"), 0)
  | "printf" => some (printf w arguments)
  | "echo" => some (echo w arguments)
  | "expr" => some (expression w arguments)
  | "printenv" => some (environment w arguments)
  | "which" => some (which w arguments)
  | "uname" => if arguments.all (· == "-s") then some (w.say "Linux\n", 0) else none
  | "whoami" => some (w.say "root\n", 0)
  | "id" =>
    match arguments with
    | ["-u"] | ["-g"] => some (w.say "0\n", 0)
    | ["-un"] | ["-gn"] => some (w.say "root\n", 0)
    | _ => none
  | "yes" =>
    let line := (if arguments.isEmpty then "y" else " ".intercalate arguments) ++ "\n"
    some ((w.say (String.join (List.replicate 20000 line))).wait Work.endless, 1)
  | "test" => some (asked arguments)
  | "[" =>
    some (if arguments.getLast? == some "]" then asked arguments.dropLast
      else (warn w "[" ("missing " ++ Raw.marked "]"), 2))
  | _ => none

end LintRelay.Machine.Program
