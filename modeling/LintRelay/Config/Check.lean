import LintRelay.Config
import LintRelay.Config.Issue
import LintRelay.Keyed
import LintRelay.Text.Blank
import LintRelay.Text.Utf8

/-!
# Checking a configuration

`Config.check` reads a configuration from a dynamic value.  Values are read leniently: the usual
words and the numbers zero and one are truth values, numbers may be given as texts, and texts as
bytes.  A text with halves of surrogate pairs is never taken.  Settings that are missing have their
default, and settings that do not exist are passed over.
-/

namespace LintRelay

/-- The home directories of users by name; the empty name is the user who runs the program. -/
abbrev Homes := List (String × String)

namespace Check

/-- The words for true, in lower case. -/
def trueWords : List String := ["1", "on", "t", "true", "y", "yes"]

/-- The words for false, in lower case. -/
def falseWords : List String := ["0", "off", "f", "false", "n", "no"]

/-- The truth value that a word names, in upper or lower case. -/
def boolOfWord? (s : String) : Option Bool :=
  let w := String.ofList (s.toList.map Char.toLower)
  if trueWords.contains w then some true
  else if falseWords.contains w then some false
  else none

/-- The truth value of a number that has one. -/
def boolOfInt? (i : Int) : Option Bool :=
  if i == 0 then some false else if i == 1 then some true else none

/-- Whether a number is read as a truth value at all: greater ones count as another kind. -/
def isSmall (i : Int) : Bool :=
  -Nat.pow 2 63 ≤ i && i < Nat.pow 2 63

/-- The text of bytes. -/
def textOfBytes? (bs : List UInt8) : Option String :=
  (Utf8.decode? bs).map String.ofList

/-- Reads a truth value. -/
def bool (v : Value) : Checked Bool :=
  let orParsing : Option Bool → Checked Bool
    | some b => .accepted b
    | none => .refuse v .boolParsing
  match v with
  | .bool b => .accepted b
  | .text s => orParsing (boolOfWord? s)
  | .points _ => .refuse v .stringUnicode
  | .bytes bs => orParsing ((textOfBytes? bs).bind boolOfWord?)
  | .int i => if isSmall i then orParsing (boolOfInt? i) else .refuse v .boolType
  | .float x => match x.toInt? with
    | some i =>
      if isSmall i && i != -Nat.pow 2 63 then orParsing (boolOfInt? i) else .refuse v .boolType
    | none => .refuse v .boolType
  | v => .refuse v .boolType

/-- Whether an underscore in a text stands alone between two other characters. -/
def underscoresStandAlone : List Char → Bool
  | [] => true
  | ['_'] => false
  | '_' :: '_' :: _ => false
  | _ :: cs => underscoresStandAlone cs

/-- The text without underscores, if each of them stands alone between two other characters. -/
def withoutUnderscores? (cs : List Char) : Option (List Char) :=
  if cs.head? == some '_' || !underscoresStandAlone cs then none
  else some (cs.filter (· != '_'))

/-- The number that a text stands for. -/
def numberOfText? (s : String) : Option Binary64 :=
  let cs := s.toList
  let trimmed := ((cs.dropWhile Text.isSpace).reverse.dropWhile Text.isSpace).reverse
  match Decimal.read? trimmed with
  | some x => some x
  | none => (withoutUnderscores? cs).bind Decimal.read?

/-- Reads a number. -/
def number (v : Value) : Checked Binary64 :=
  match v with
  | .float x => .accepted x
  | .bool b => .accepted (Binary64.ofDecimal false (if b then 1 else 0) 0)
  | .int i => match Binary64.ofInt? i with
    | some x => .accepted x
    | none => .refuse v .floatType
  | .text s => match numberOfText? s with
    | some x => .accepted x
    | none => .refuse v .floatParsing
  | .points _ => .refuse v .stringUnicode
  | .bytes bs => match (textOfBytes? bs).bind numberOfText? with
    | some x => .accepted x
    | none => .refuse v .floatParsing
  | v => .refuse v .floatType

/-- Reads a text. -/
def text (v : Value) : Checked String :=
  match v with
  | .text s => .accepted s
  | .points _ => .refuse v .stringUnicode
  | .bytes bs => match textOfBytes? bs with
    | some s => .accepted s
    | none => .refuse v .stringUnicode
  | v => .refuse v .stringType

/-- Reads one of several names. -/
def oneOf {α : Type} (ofName? : String → Option α) (names : List String) (v : Value) : Checked α :=
  match v with
  | .text s => match ofName? s with
    | some a => .accepted a
    | none => .refuse v (.literal names)
  | .points _ => .refuse v .stringUnicode
  | v => .refuse v (.literal names)

/-- Reads a value that may be null. -/
def nullable {α : Type} (check : Value → Checked α) (v : Value) : Checked (Option α) :=
  match v with
  | .null => .accepted none
  | v => (check v).map some

/-- Reads a text that is not blank. -/
def filledText (v : Value) : Checked String :=
  (text v).bind fun s =>
    if Text.isAllBlank s.toList then .refuse v (.rejected "must not be blank") else .accepted s

/-- Reads a number of seconds, which must not be zero or less. -/
def seconds (v : Value) : Checked Binary64 :=
  (number v).bind fun x =>
    if x.isNonpositive then .refuse v (.rejected s!"timeout_sec must be positive, got {x.text}")
    else .accepted x

/-- Reads a level. -/
def level (v : Value) : Checked Level :=
  oneOf Level.ofLabel? (Level.all.map Level.label) v

/-- Reads a severity. -/
def severity (v : Value) : Checked Severity :=
  oneOf Severity.ofName? (Severity.all.map Severity.name) v

/-- A home directory as it is put in the place of a tilde. -/
def homeText (home : String) : String :=
  let cs := (home.toList.reverse.dropWhile (· == '/')).reverse
  if cs.isEmpty then "/" else String.ofList cs

/-- Why no home directory can take the place of a tilde. -/
inductive HomeError where
  /-- It is not known. -/
  | unknown
  /-- The name of the user holds the character that no name can hold. -/
  | nul
  deriving DecidableEq, Repr

/-- The path with a home directory in the place of a tilde in front. -/
def expandHome (homes : Homes) (p : Path) : Except HomeError Path :=
  match p.anchor, p.names with
  | .here, first :: rest =>
    match first.toList with
    | '~' :: user =>
      if user.contains '\x00' then .error .nul
      else match homes.lookup (String.ofList user) with
        | some home =>
          let h := Path.ofText (homeText home)
          if home.startsWith "~" then .error .unknown else .ok { h with names := h.names ++ rest }
        | none => .error .unknown
    | _ => .ok p
  | _, _ => .ok p

/-- Reads a destination: one of the two streams, or an absolute path. -/
def destination (homes : Homes) (v : Value) : Checked Destination :=
  (text v).bind fun s =>
    if s == "stderr" then .accepted .stderr
    else if s == "stdout" then .accepted .stdout
    else match expandHome homes (.ofText s) with
      | .error .unknown => .homeless
      | .error .nul => .refuse v (.rejected "embedded null byte")
      | .ok p =>
        if p.isAbsolute then .accepted (.file p)
        else .refuse v (.rejected s!"File destination must be absolute path: {s}")

/-- The step to the value under a key. -/
def keyStep : Value → Step
  | .text s => .field s
  | .points ps => .field (Text.lossy ps)
  | .bool b => .index (if b then 1 else 0)
  | .int i => if isSmall i then .index i else .field (toString i)
  | v => .field v.quoted

/-- Reads the overrides of severities.  Of two keys that are the same text the last one counts. -/
def overrides (v : Value) : Checked (List (String × Severity)) :=
  match v.uncover with
  | .map entries =>
    (Checked.all (entries.map fun (k, w) =>
      (((text k).within (.field "[key]")).within (keyStep k)).pair
        ((severity w).within (keyStep k)))).map fun os =>
      os.foldl (fun acc (k, s) => Keyed.put k s acc) []
  | _ => .refuse v .dictType

/-- Reads a setting of a mapping, which has a default. -/
def setting {α : Type} (entries : List (Value × Value)) (name : String) (default : α)
    (check : Value → Checked α) : Checked α :=
  match Value.field? name (.map entries) with
  | some v => (check v).within (.field name)
  | none => .accepted default

/-- Reads the settings of a mapping. -/
def settingsOf {α : Type} (kind : String) (check : List (Value × Value) → Checked α) (v : Value) :
    Checked α :=
  match v.uncover with
  | .map entries => check entries
  | _ => .refuse v (.modelType kind)

/-- Reads a list, or what counts as one. -/
def listOf {α : Type} (check : Value → Checked α) (v : Value) : Checked (List α) :=
  match v.uncover with
  | .list items | .tuple items | .set items =>
    Checked.all (items.zipIdx.map fun (w, i) => (check w).within (.index (i : Int)))
  | _ => .refuse v .listType

end Check

open Check

/-- Reads an output. -/
def OutputConfig.check (homes : Homes) : Value → Checked OutputConfig :=
  settingsOf "LogOutputConfig" fun es =>
    let default : OutputConfig := {}
    let format := oneOf LogFormat.ofName? (LogFormat.all.map LogFormat.name)
    ((setting es "format" default.format format).pair
      ((setting es "destination" default.destination (Check.destination homes)).pair
        (setting es "level" default.level (nullable Check.level)))).map
      fun (format, destination, level) => { format, destination, level }

/-- Reads the outputs of log events. -/
def LoggingConfig.check (homes : Homes) : Value → Checked LoggingConfig :=
  settingsOf "LoggingConfig" fun es =>
    let default : LoggingConfig := {}
    ((setting es "level" default.level Check.level).pair
      (setting es "outputs" default.outputs (listOf (OutputConfig.check homes)))).map
      fun (level, outputs) => { level, outputs }

/-- Reads how the linter is run. -/
def LinterConfig.check : Value → Checked LinterConfig :=
  settingsOf "LinterConfig" fun es =>
    let default : LinterConfig := {}
    ((setting es "executable" default.executable filledText).pair
      ((setting es "subcommand" default.subcommand filledText).pair
        ((setting es "strict" default.strict bool).pair
          ((setting es "language_id" default.languageId filledText).pair
            ((setting es "timeout_sec" default.timeout (nullable seconds)).pair
              ((setting es "cache_manifest" default.cacheManifest bool).pair
                (setting es "severity_overrides" default.severityOverrides overrides))))))).map
      fun (executable, subcommand, strict, languageId, timeout, cacheManifest, severityOverrides) =>
        { executable, subcommand, strict, languageId, timeout, cacheManifest, severityOverrides }

/-- Reads the two sections of a configuration. -/
def Config.checkSections (homes : Homes) (es : List (Value × Value)) : Checked Config :=
  let default : Config := {}
  ((setting es "logging" default.logging (LoggingConfig.check homes)).pair
    (setting es "linter" default.linter LinterConfig.check)).map
    fun (logging, linter) => { logging, linter }

/-- Reads a configuration. -/
def Config.check (homes : Homes) : Value → Checked Config :=
  settingsOf "CredoLintConfig" (Config.checkSections homes)

end LintRelay
