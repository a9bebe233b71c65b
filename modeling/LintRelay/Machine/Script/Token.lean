import LintRelay.Machine.Script

/-!
# Tokens of scripts

What a script is cut into: words, signs, and the beginnings of redirections.  A keyword is a word
that stands where a command may begin and of which nothing is quoted; whether a word stands there is
known only to who reads it.
-/

namespace LintRelay.Machine

/-- The signs between words. -/
inductive Punctuation where
  | newline
  | semicolon
  /-- Two semicolons. -/
  | caseEnd
  | background
  | both
  | either
  | pipe
  | opening
  | closing
  /-- The end of the script. -/
  | stop
  deriving DecidableEq, Repr

/-- What a redirection does. -/
inductive RedirectionKind where
  | input
  /-- A file is read and made if it does not exist. -/
  | exchange
  | output (manner : Writing)
  | copy
  /-- A here-document follows, where tabs at the start of its lines may not count. -/
  | here (untabbed : Bool)
  deriving DecidableEq, Repr

/-- A token of a script. -/
inductive Token where
  | word (w : Word)
  | sign (s : Punctuation)
  | redirection (stream : Nat) (kind : RedirectionKind)

/-- The keywords. -/
def keywords : List String :=
  ["!", "case", "do", "done", "elif", "else", "esac", "fi", "for", "if", "in", "then", "until",
    "while", "\x7b", "\x7d"]

namespace Punctuation

/-- What a sign is called in complaints. -/
def name : Punctuation → String
  | .newline => "newline"
  | .semicolon => "\";\""
  | .caseEnd => "\";;\""
  | .background => "\"&\""
  | .both => "\"&&\""
  | .either => "\"||\""
  | .pipe => "\"|\""
  | .opening => "\"(\""
  | .closing => "\")\""
  | .stop => "end of file"

end Punctuation

namespace Token

/-- Whether a token is a sign. -/
def isSign (t : Token) (s : Punctuation) : Bool :=
  match t with
  | .sign r => r == s
  | _ => false

/-- The keyword that a token is. -/
def keyword? : Token → Option String
  | .word w => w.plain?.filter keywords.contains
  | _ => none

/-- Whether a token is a keyword. -/
def isKeyword (t : Token) (k : String) : Bool :=
  t.keyword? == some k

/-- What a token is called in complaints where keywords are words like all others. -/
def bareName : Token → String
  | .word _ => "word"
  | .sign s => s.name
  | .redirection .. => "redirection"

/-- What a token is called in complaints. -/
def name (t : Token) : String :=
  (t.keyword?.map fun k => "\"" ++ k ++ "\"").getD t.bareName

/-- Whether a token ends a list of commands that stands inside a command. -/
def endsList (t : Token) : Bool :=
  match t with
  | .sign .closing | .sign .caseEnd | .sign .stop => true
  | _ => t.keyword?.any ["do", "done", "elif", "else", "esac", "fi", "then", "\x7d"].contains

end Token

end LintRelay.Machine
