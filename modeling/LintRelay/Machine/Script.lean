/-!
# Scripts

The language of command scripts.  A *word* is written in pieces: text, parameters, and parts that
stand for the result of something else.  A *node* is a command in the wide sense: a simple command
of words, or commands that are joined by one of the signs and keywords of the language.

A here-document stands behind the line of the command that reads it.  A redirection therefore only
says which of the documents it reads, and the documents are kept beside the nodes.

The texts of scripts are raw: each of their characters stands for one byte.
-/

namespace LintRelay.Machine

/-- A parameter of a script. -/
inductive Parameter where
  | positional (n : Nat)
  /-- All positional parameters, each by itself. -/
  | all
  /-- All positional parameters, joined to one text. -/
  | joined
  | count
  /-- The status of the last command. -/
  | status
  | processId
  /-- The number of the last command that runs in the background. -/
  | background
  /-- The letters of the options that are on. -/
  | options
  | named (name : String)
  deriving DecidableEq, Repr

/-- How a file is written. -/
inductive Writing where
  /-- From its start, unless the interpreter is told to spare files. -/
  | fresh
  /-- From its start in any case. -/
  | over
  /-- Behind its end. -/
  | behind
  deriving DecidableEq, Repr

/-- What is done with a parameter in braces, to which a word belongs.  Where a colon stands before
the sign, a parameter without text counts as one without a value. -/
inductive Operation where
  /-- The word stands for a parameter without a value. -/
  | default (colon : Bool)
  /-- The word stands for a parameter with a value. -/
  | alternative (colon : Bool)
  /-- The word becomes the value of a parameter without one. -/
  | assign (colon : Bool)
  /-- The word is the complaint about a parameter without a value. -/
  | require (colon : Bool)
  /-- What a pattern fits is dropped from the start, as much of it as can be or as little. -/
  | dropStart (longest : Bool)
  /-- What a pattern fits is dropped from the end, as much of it as can be or as little. -/
  | dropEnd (longest : Bool)
  /-- The word does not count. -/
  | idle
  deriving DecidableEq, Repr

mutual

/-- A piece of a word.  Pieces between quotation marks are marked as quoted; an opening quotation
mark leaves a quoted text even if nothing follows it. -/
inductive Piece where
  | text (cs : List Char) (quoted : Bool)
  | parameter (p : Parameter) (quoted : Bool)
  /-- The number of characters of a parameter. -/
  | length (p : Parameter) (quoted : Bool)
  | operation (p : Parameter) (op : Operation) (operand : List Piece) (quoted : Bool)
  /-- Braces with something in them that is not understood. -/
  | unknown
  /-- What commands print. -/
  | output (commands : List Node) (quoted : Bool)
  /-- The value of an arithmetic expression. -/
  | sum (expression : List Piece) (quoted : Bool)

/-- What is done to a stream of a command. -/
inductive Redirection where
  /-- It writes to a file. -/
  | output (stream : Nat) (file : List Piece) (manner : Writing)
  /-- It reads from a file, which is made if it does not exist and `making` says so. -/
  | input (stream : Nat) (file : List Piece) (making : Bool)
  /-- It leads to where another stream leads, or is closed. -/
  | copy (stream : Nat) (source : List Piece)
  /-- It reads a here-document. -/
  | here (stream : Nat) (document : Nat)

/-- A command in the wide sense. -/
inductive Node where
  /-- A command of words on a line, with assignments before them. -/
  | simple (line : Nat) (assignments : List (String × List Piece)) (words : List (List Piece))
      (redirections : List Redirection)
  /-- A command that begins on a line. -/
  | located (line : Nat) (n : Node)
  /-- Commands each of which reads what the one before it writes. -/
  | pipeline (parts : List Node)
  | negation (n : Node)
  /-- Commands of which the second is run if the first goes well. -/
  | both (first second : Node)
  /-- Commands of which the second is run if the first goes wrong. -/
  | either (first second : Node)
  /-- Commands that are run one after the other. -/
  | sequence (parts : List Node)
  /-- A command for whose end nothing waits. -/
  | background (n : Node)
  | redirected (n : Node) (redirections : List Redirection)
  /-- A command that changes nothing outside it. -/
  | subshell (n : Node)
  | branch (condition yes : Node) (no : Option Node)
  /-- A command that is repeated as long as a condition goes well, or as long as it goes wrong. -/
  | loop (well : Bool) (condition body : Node)
  /-- A command that is run for each of some words, or for each positional parameter. -/
  | each (name : String) (words : Option (List (List Piece))) (body : Node)
  /-- The command behind the first pattern that fits a word. -/
  | select (w : List Piece) (cases : List (List (List Piece) × Node))
  | definition (name : String) (body : Node)

end

instance : Inhabited Node := ⟨.sequence []⟩

/-- A word, piece by piece. -/
abbrev Word := List Piece

namespace Piece

/-- Whether a piece stands between quotation marks. -/
def isQuoted : Piece → Bool
  | .text _ quoted | .parameter _ quoted | .length _ quoted | .operation _ _ _ quoted
  | .output _ quoted | .sum _ quoted => quoted
  | .unknown => false

end Piece

namespace Word

/-- The text of a word of which nothing is quoted and nothing stands for something else. -/
def plain? : Word → Option String
  | [.text cs false] => some (String.ofList cs)
  | _ => none

end Word

/-- A script that cannot be read. -/
structure SyntaxError where
  line : Nat
  reason : String
  deriving DecidableEq, Repr

/-- Whether a character may stand in the name of a parameter. -/
def isNameChar (c : Char) : Bool :=
  c.isAlphanum || c == '_'

/-- Whether a text is the name of a parameter. -/
def isName (cs : List Char) : Bool :=
  match cs with
  | [] => false
  | c :: _ => !c.isDigit && cs.all isNameChar

/-- The commands that change the interpreter itself. -/
def specialNames : List String :=
  [".", ":", "break", "continue", "eval", "exec", "exit", "export", "local", "readonly", "return",
    "set", "shift", "times", "trap", "unset"]

end LintRelay.Machine
