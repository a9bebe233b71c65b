import LintRelay.Text.Quoted
import LintRelay.Text.Similar

/-!
# Arguments

How the arguments of a command are told apart.  An argument that begins with a dash is an *option*:
a long option, which may have a value, or a group of letters, each of which stands for an option
without a value.  Two dashes alone end the options.
-/

namespace LintRelay

/-- The options of a command. -/
structure OptionTable where
  /-- The long options without a value. -/
  flags : List String
  /-- The long options with a value. -/
  valued : List String := []
  /-- The letters, each with the option it stands for. -/
  letters : List (Char × String) := []

/-- An option as it is given. -/
inductive GivenOption where
  | flag (name : String)
  | value (name value : String)
  deriving DecidableEq, Repr

/-- Why arguments cannot be told apart. -/
inductive ArgumentError where
  /-- There is no such option, but perhaps some that are similar. -/
  | unknown (name : String) (similar : List String)
  /-- An option has no value but needs one. -/
  | valueNeeded (name : String)
  /-- An option has a value but takes none. -/
  | valueRefused (name : String)
  deriving DecidableEq, Repr

namespace OptionTable

/-- Whether an argument is an option. -/
def isOption (argument : String) : Bool :=
  match argument.toList with
  | '-' :: _ :: _ => true
  | _ => false

/-- An option cut at its first equals sign: its name, and the value that is attached to it. -/
def attachment (argument : String) : String × Option String :=
  let cs := argument.toList
  let name := String.ofList (cs.takeWhile (· != '='))
  match cs.dropWhile (· != '=') with
  | _ :: value => (name, some (String.ofList value))
  | [] => (name, none)

/-- The options for which a group of letters stands. -/
def ofLetters (t : OptionTable) (letters : List Char) : Except ArgumentError (List GivenOption) :=
  letters.mapM fun c =>
    match t.letters.lookup c with
    | some name => .ok (.flag name)
    | none => .error (.unknown (String.ofList ['-', c]) [])

/-- Tells arguments apart, where `options` and `others` are those that were told apart before, last
first.  If `mixed` does not hold, the first argument that is no option ends the options. -/
def tellApart (t : OptionTable) (mixed : Bool) (options : List GivenOption) (others : List String)
    (arguments : List String) : Except ArgumentError (List GivenOption × List String) :=
  match arguments with
  | [] => .ok (options.reverse, others.reverse)
  | argument :: rest =>
    if argument == "--" then .ok (options.reverse, others.reverse ++ rest)
    else if !isOption argument then
      if mixed then t.tellApart mixed options (argument :: others) rest
      else .ok (options.reverse, others.reverse ++ argument :: rest)
    else
      let (name, attached) := attachment argument
      if t.valued.contains name then
        match attached, rest with
        | some value, rest => t.tellApart mixed (.value name value :: options) others rest
        | none, value :: rest => t.tellApart mixed (.value name value :: options) others rest
        | none, [] => .error (.valueNeeded name)
      else if t.flags.contains name then
        if attached.isSome then .error (.valueRefused name)
        else t.tellApart mixed (.flag name :: options) others rest
      else if argument.startsWith "--" then
        .error (.unknown name (Text.similarTo name (t.flags ++ t.valued)))
      else
        match t.ofLetters (argument.toList.drop 1) with
        | .ok given => t.tellApart mixed (given.reverse ++ options) others rest
        | .error e => .error e
termination_by arguments.length

/-- The options among some arguments, and the other arguments. -/
def read (t : OptionTable) (mixed : Bool) (arguments : List String) :
    Except ArgumentError (List GivenOption × List String) :=
  t.tellApart mixed [] [] arguments

end OptionTable

/-- What is said about names that may have been meant instead of one. -/
def suggestion : List String → String
  | [] => ""
  | [name] => " Did you mean " ++ Text.quoted name ++ "?"
  | names => " (Did you mean one of: " ++ ", ".intercalate (names.map Text.quoted) ++ "?)"

namespace ArgumentError

/-- The complaint about arguments that cannot be told apart. -/
def message : ArgumentError → String
  | .unknown name similar => s!"No such option {Text.quoted name}." ++ suggestion similar
  | .valueNeeded name => s!"Option {Text.quoted name} requires an argument."
  | .valueRefused name => s!"Option {Text.quoted name} does not take a value."

end ArgumentError

end LintRelay
