import LintRelay.Value

/-!
# Issues of a configuration

What is wrong with a value that was given for a setting.  `Checked α` is the outcome of a check: the
setting that the value stands for, or all issues in order, or the note that the check could not be
carried out at all.  `Checked.pair` and `Checked.all` check several values and gather the issues of
each.
-/

namespace LintRelay

/-- A step from a value to one inside it. -/
inductive Step where
  | field (name : String)
  | index (i : Int)
  deriving DecidableEq, Repr

/-- The text of a step. -/
def Step.text : Step → String
  | .field name => name
  | .index i => toString i

/-- What is wrong with a value. -/
inductive Complaint where
  /-- No truth value. -/
  | boolType
  /-- A text or a number that names no truth value. -/
  | boolParsing
  /-- No text. -/
  | stringType
  /-- Bytes that are no text, or a text with halves of surrogate pairs. -/
  | stringUnicode
  /-- No number. -/
  | floatType
  /-- A text that is no number. -/
  | floatParsing
  /-- None of the names that are known. -/
  | literal (names : List String)
  /-- No mapping. -/
  | dictType
  /-- No list. -/
  | listType
  /-- No mapping where the configuration of the given kind is wanted. -/
  | modelType (kind : String)
  /-- A value that a rule of its setting forbids. -/
  | rejected (reason : String)
  /-- A setting that does not exist. -/
  | extra
  deriving DecidableEq, Repr

namespace Complaint

/-- The name of a complaint. -/
def name : Complaint → String
  | .boolType => "bool_type"
  | .boolParsing => "bool_parsing"
  | .stringType => "string_type"
  | .stringUnicode => "string_unicode"
  | .floatType => "float_type"
  | .floatParsing => "float_parsing"
  | .literal _ => "literal_error"
  | .dictType => "dict_type"
  | .listType => "list_type"
  | .modelType _ => "model_type"
  | .rejected _ => "value_error"
  | .extra => "extra_forbidden"

/-- Names in quotation marks, the last two joined by "or". -/
def choice : List String → String
  | [] => ""
  | [a] => s!"'{a}'"
  | [a, b] => s!"'{a}' or '{b}'"
  | a :: rest => s!"'{a}', " ++ choice rest

/-- The wording of a complaint. -/
def message : Complaint → String
  | .boolType => "Input should be a valid boolean"
  | .boolParsing => "Input should be a valid boolean, unable to interpret input"
  | .stringType => "Input should be a valid string"
  | .stringUnicode =>
    "Input should be a valid string, unable to parse raw data as a unicode string"
  | .floatType => "Input should be a valid number"
  | .floatParsing => "Input should be a valid number, unable to parse string as a number"
  | .literal names => "Input should be " ++ choice names
  | .dictType => "Input should be a valid dictionary"
  | .listType => "Input should be a valid list"
  | .modelType kind => s!"Input should be a valid dictionary or instance of {kind}"
  | .rejected reason => s!"Value error, {reason}"
  | .extra => "Extra inputs are not permitted"

end Complaint

/-- A complaint about a value at a place of a document. -/
structure Issue where
  place : List Step
  complaint : Complaint
  value : Value

/-- The outcome of a check. -/
inductive Checked (α : Type) where
  | accepted (a : α)
  | refused (first : Issue) (others : List Issue)
  /-- A home directory is wanted that is not known. -/
  | homeless

namespace Checked

variable {α β γ : Type}

/-- The outcome with its result changed. -/
def map (f : α → β) : Checked α → Checked β
  | .accepted a => .accepted (f a)
  | .refused i is => .refused i is
  | .homeless => .homeless

/-- Checks two values, the second even if the first is refused. -/
def pair : Checked α → Checked β → Checked (α × β)
  | .homeless, _ => .homeless
  | _, .homeless => .homeless
  | .accepted a, .accepted b => .accepted (a, b)
  | .accepted _, .refused j js => .refused j js
  | .refused i is, .accepted _ => .refused i is
  | .refused i is, .refused j js => .refused i (is ++ j :: js)

/-- Checks a list of values. -/
def all : List (Checked α) → Checked (List α)
  | [] => .accepted []
  | c :: cs => (c.pair (all cs)).map fun (a, as) => a :: as

/-- Goes on with a result that was accepted. -/
def bind (c : Checked α) (f : α → Checked β) : Checked β :=
  match c with
  | .accepted a => f a
  | .refused i is => .refused i is
  | .homeless => .homeless

/-- The outcome of a check of a value inside another one. -/
def within (step : Step) : Checked α → Checked α
  | .refused i is =>
    let move (i : Issue) : Issue := { i with place := step :: i.place }
    .refused (move i) (is.map move)
  | c => c

/-- Refuses a value. -/
def refuse (value : Value) (complaint : Complaint) : Checked α :=
  .refused ⟨[], complaint, value⟩ []

end Checked

end LintRelay
