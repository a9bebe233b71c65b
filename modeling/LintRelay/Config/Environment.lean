import LintRelay.Config.Layer
import LintRelay.Json.Decoder
import LintRelay.Text.Lower

/-!
# Configuration from the environment

A variable whose name starts with `CREDOLINT__` and goes on with the name of a section sets that
section, as a JSON document.  A name that goes on further, each time behind two underscores, sets
what lies inside: a text, or again a JSON document where a setting is a list or a mapping.  Names
are read without regard to case.
-/

namespace LintRelay

/-- The variables of an environment, in order. -/
abbrev Environment := List (String × String)

namespace Environment

/-- What the names of the variables start with, in lower case. -/
def mark : List Char := "credolint__".toList

/-- Why an environment cannot be read. -/
inductive Flaw where
  /-- A variable that should be a JSON document is none. -/
  | noDocument
  /-- A document is nested too deeply. -/
  | tooDeep
  deriving DecidableEq, Repr

/-- A section, with its settings and those of them that are lists or mappings. -/
structure Section where
  name : String
  settings : List String
  documents : List String

/-- The sections of a configuration. -/
def sections : List Section := [
  { name := "logging", settings := ["level", "outputs"], documents := ["outputs"] },
  { name := "linter"
    settings := ["executable", "subcommand", "strict", "language_id", "timeout_sec",
      "cache_manifest", "severity_overrides"]
    documents := ["severity_overrides"] }]

/-- The pieces of a name between pairs of underscores; `piece` is the one begun, backwards. -/
def pieces (piece : List Char) : List Char → List (List Char)
  | '_' :: '_' :: cs => piece.reverse :: pieces [] cs
  | c :: cs => pieces (c :: piece) cs
  | [] => [piece.reverse]

/-- What a name says, in lower case: the section that it sets something in, and the way to it. -/
def path? (name : String) : Option (String × List String) :=
  let cs := (Text.lower name).toList
  if mark.isPrefixOf cs then
    match (pieces [] (cs.drop mark.length)).map String.ofList with
    | s :: keys => some (s, keys)
    | [] => none
  else none

/-- Reads a JSON document. -/
def readDocument (depth : Nat) (s : String) : Except Flaw Value :=
  match Json.decode depth s.toList with
  | .ok v => .ok v
  | .error (.tooDeep _) => .error .tooDeep
  | .error _ => .error .noDocument

/-- Sets a value inside a mapping, at the end of a way of keys.  What is no mapping on that way
stays as it is. -/
def setAt (value : Value) : List String → List (Value × Value) → List (Value × Value)
  | [], es => es
  | [k], es => Value.insertEntry (.text k) value es
  | k :: ks, es =>
    match Layer.lookup? (.text k) es with
    | some (.map inner) => Value.insertEntry (.text k) (.map (setAt value ks inner)) es
    | some _ => es
    | none => Value.insertEntry (.text k) (.map (setAt value ks [])) es

/-- The value that a variable gives to a setting of a section. -/
def settingValue (depth : Nat) (s : Section) (keys : List String) (text : String) :
    Except Flaw Value :=
  match keys with
  | [k] =>
    if s.documents.contains k && !text.isEmpty then readDocument depth text else .ok (.text text)
  | _ => .ok (.text text)

/-- What the variables set inside a section, one after the other. -/
def inside (depth : Nat) (s : Section) (acc : List (Value × Value)) :
    Environment → Except Flaw (List (Value × Value))
  | [] => .ok acc
  | (name, text) :: rest =>
    match path? name with
    | some (t, k :: ks) =>
      if t == s.name then
        match settingValue depth s (k :: ks) text with
        | .ok v => inside depth s (setAt v (k :: ks) acc) rest
        | .error e => .error e
      else inside depth s acc rest
    | _ => inside depth s acc rest

/-- The text of the variable that sets a whole section.  Of several names that differ in case only,
the last one counts. -/
def whole? (env : Environment) (s : Section) : Option String :=
  (env.reverse.find? fun (name, _) => path? name == some (s.name, [])).map (·.2)

/-- The variables without those whose name comes again later in another case. -/
def distinct (env : Environment) : Environment :=
  let lowered := env.map fun (n, v) => (Text.lower n, v)
  lowered.foldl (fun acc (n, v) =>
    if acc.any (·.1 == n) then acc.map fun (m, w) => if m == n then (m, v) else (m, w)
    else acc ++ [(n, v)]) []

/-- The entries of a section with the names of its settings in their usual case. -/
def usualNames (s : Section) (es : List (Value × Value)) : List (Value × Value) :=
  es.foldl (fun acc (k, v) =>
    let k := match k with
      | .text n => match s.settings.find? fun m => m == Text.lower n with
        | some m => .text m
        | none => k
      | k => k
    Value.insertEntry k v acc) []

/-- What the variables say about a section. -/
def sectionValue? (depth : Nat) (env : Environment) (s : Section) :
    Except Flaw (Option Value) := do
  let value ← match env.whole? s with
    | none => do
      let es ← inside depth s [] env
      pure (if es.isEmpty then none else some (Value.map es))
    | some text =>
      match ← readDocument depth text with
      | .null => pure none
      | .map es => do
        let es' ← inside depth s [] env
        pure (some (.map (Layer.merge es es')))
      | v => pure (some v)
  return value.map fun
    | .map es => .map (usualNames s es)
    | v => v

/-- The layer of an environment, whose JSON documents are nested no deeper than `depth`. -/
def layer (depth : Nat) (env : Environment) : Except Flaw (List (Value × Value)) := do
  let env := env.distinct
  let values ← sections.mapM fun s => do
    return (← env.sectionValue? depth s).map fun v => (Value.text s.name, v)
  return values.filterMap id

end Environment

end LintRelay
