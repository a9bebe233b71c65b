import LintRelay.Machine.Launch
import LintRelay.Machine.Work

/-!
# Programs

What the system's own programs have in common: how they read their arguments, how they complain, and
how they read files.  A program that reads files is given paths; where there is none, and for a lone
dash, it reads its input.
-/

namespace LintRelay.Machine.Program

/-! ### Arguments -/

/-- The options of a program: the letters, each with its value if it takes one. -/
structure Options where
  letters : List (Char × String) := []
  operands : List String := []
  /-- What is wrong with an option that the program does not know, or that wants a value. -/
  fault : Option String := none
  deriving DecidableEq, Repr

namespace Options

/-- Whether a letter is given. -/
def has (o : Options) (c : Char) : Bool :=
  o.letters.any (·.1 == c)

/-- The last value of a letter. -/
def value? (o : Options) (c : Char) : Option String :=
  o.letters.reverse.lookup c

end Options

/-- Reads a group of letters, the first of which that takes a value ends it. -/
def group (valued plain : String) : List Char → List String →
    Except String (List (Char × String) × List String)
  | [], rest => .ok ([], rest)
  | c :: cs, rest =>
    if valued.toList.contains c then
      if !cs.isEmpty then .ok ([(c, String.ofList cs)], rest)
      else
        match rest with
        | value :: rest => .ok ([(c, value)], rest)
        | [] => .error ("option requires an argument -- '" ++ String.singleton c ++ "'")
    else if plain.toList.contains c then
      match group valued plain cs rest with
      | .ok (ls, rest) => .ok ((c, "") :: ls, rest)
      | .error e => .error e
    else .error ("invalid option -- '" ++ String.singleton c ++ "'")

/-- The letter, and the value if it takes one, of an option that is written as a word behind two
dashes. -/
def wordOption? (valued : String) (long : List (String × Char)) (word : String)
    (rest : List String) : Option ((Char × String) × List String) := do
  let name := word.toList.takeWhile (· != '=')
  let c ← long.lookup (String.ofList name)
  match word.toList.drop name.length with
  | _ :: value => some ((c, String.ofList value), rest)
  | [] =>
    if valued.toList.contains c then some ((c, rest.headD ""), rest.tail) else some ((c, ""), rest)

/-- Reads arguments, where options may stand anywhere before two dashes. -/
def options (valued plain : String) (long : List (String × Char)) (o : Options)
    (arguments : List String) : Nat → Options
  | 0 => o
  | fuel + 1 =>
    match arguments with
    | [] => o
    | "--" :: rest => { o with operands := o.operands ++ rest }
    | a :: rest =>
      match a.toList with
      | '-' :: '-' :: cs =>
        match wordOption? valued long (String.ofList cs) rest with
        | some (l, rest) =>
          options valued plain long { o with letters := o.letters ++ [l] } rest fuel
        | none => { o with fault := some ("unrecognized option '" ++ a ++ "'") }
      | '-' :: c :: cs =>
        match group valued plain (c :: cs) rest with
        | .ok (ls, rest) =>
          options valued plain long { o with letters := o.letters ++ ls } rest fuel
        | .error e => { o with fault := some e }
      | _ => options valued plain long { o with operands := o.operands ++ [a] } rest fuel

/-- The options and operands among arguments. -/
def read (valued plain : String) (arguments : List String) (long : List (String × Char) := []) :
    Options :=
  options valued plain long {} arguments (arguments.length + 1)

/-! ### Programs by name -/

/-- The path of the program of a name, if there is one. -/
def programPath? (w : Work) (name : String) : Option String :=
  let found (path : String) : Option String :=
    match w.locate path with
    | .ok (_, .file _ true) => some path
    | _ => none
  if isPathName name then found name
  else
    programDirectories.findSome? fun d => found ((Path.ofNames d).text ++ "/" ++ name)

/-! ### Complaints -/

/-- Says that a program goes wrong. -/
def warn (w : Work) (program message : String) : Work :=
  w.complain (program ++ ": " ++ message)

/-- Says that a program goes wrong, and where more about it is to be had. -/
def misuse (w : Work) (program message : String) (status : Nat := 1) : Work × Nat :=
  ((warn w program message).complain ("Try '" ++ program ++ " --help' for more information."),
    status)

/-! ### Reading -/

/-- The text at a path, or that of the input. -/
def source (w : Work) (path : String) : Work × Except Obstacle (List Char) :=
  if path == "-" || Work.streamOf? path == some 0 then
    ({ w with input := [] }, .ok (Raw.ofBytes w.input))
  else if path == Work.voidPath then (w, .ok [])
  else
    match w.locate path with
    | .ok (_, .file bytes _) => (w, .ok (Raw.ofBytes bytes))
    | .ok _ => (w, .error .denied)
    | .error e => (w, .error (.ofLookup e))

/-- What is said about a path from which nothing can be read. -/
def wording (o : Obstacle) : String :=
  if o == .denied then "Is a directory" else o.text

/-- The texts of paths, one behind the other. -/
def texts (w : Work) (program how : String) (paths : List String) :
    Work × List Char × Bool :=
  let paths := if paths.isEmpty then ["-"] else paths
  paths.foldl (fun (w, cs, good) path =>
    match source w path with
    | (w, .ok more) => (w, cs ++ more, good)
    | (w, .error o) => (warn w program (how.replace "@" path ++ ": " ++ wording o), cs, false))
    (w, [], true)

/-- Writes a raw text. -/
def put (w : Work) (cs : List Char) : Work :=
  w.write (Raw.bytes cs)

/-- A program that turns the text of its files into another text. -/
def filter (w : Work) (program : String) (paths : List String) (f : List Char → List Char)
    (how : String := "@") (failure : Nat := 1) : Work × Nat :=
  let (w, cs, good) := texts w program how paths
  if good then (put w (f cs), 0) else (put w (f cs), failure)

end LintRelay.Machine.Program
