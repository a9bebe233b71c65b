import LintRelay.Config.Check
import LintRelay.Config.Environment
import LintRelay.Disk
import LintRelay.Failure
import LintRelay.Value.Shown
import LintRelay.Yaml.Decoder

/-!
# Loading a configuration

A configuration has four sources: settings that are given directly, the environment, a file in the
project, and a file of the user, each of which is laid over those behind it.  `Config.load` puts
them together and checks the result; the first issue is reported.
-/

namespace LintRelay

/-- Why there is no configuration. -/
inductive LoadError where
  /-- A file that is no mapping in YAML, or a setting with a bad value. -/
  | failure (f : Failure)
  /-- A scalar of a file has no value, or values go too deep to be merged, or the value of an issue
  cannot be shown. -/
  | scalar (f : Yaml.Fault)
  /-- A file is no text. -/
  | encoding
  /-- A directory stands in the place of a file. -/
  | directory
  /-- A file cannot be looked for. -/
  | unreachable (e : Disk.LookupError)
  /-- The environment cannot be read. -/
  | environment (f : Environment.Flaw)
  /-- A setting whose name is no text. -/
  | unnamed
  /-- A home directory is wanted that is not known. -/
  | homeless

/-- What a configuration is loaded from. -/
structure ConfigSources where
  disk : Disk
  environment : Environment := []
  homes : Homes := []
  /-- The file of the user. -/
  userFile : Path
  /-- The root of the project. -/
  projectRoot : Path
  /-- The settings that are given directly. -/
  given : List (Value × Value) := []

namespace Config

/-- The name of the file in a project. -/
def fileName : String := ".credolint.yaml"

/-- The complaint about a text that breaks a rule of YAML. -/
def malformedReason : String := "the text is not well-formed YAML"

/-- The complaint about a document of another kind. -/
def noMappingReason : String := "top level must be a mapping"

/-- The entries of a configuration text; a value that counts as absent has none. -/
def entriesOf (depths : Depths) (path : Path) (e : Yaml.Excerpt) :
    Except LoadError (List (Value × Value)) :=
  match Yaml.decode depths.yaml depths.merges e with
  | .error .malformed => .error (.failure (.unreadableConfig path.text malformedReason))
  | .error .undecodable => .error .encoding
  | .error f => .error (.scalar f)
  | .ok v =>
    if v.isFalsy then .ok []
    else match v.uncover with
      | .map es => .ok es
      | _ => .error (.failure (.unreadableConfig path.text noMappingReason))

/-- The entries of a configuration file; one that is not there has none. -/
def entriesAt (d : Disk) (path : Path) : Except LoadError (List (Value × Value)) :=
  if path.flaw?.isSome then .ok []
  else match d.locate path with
    | .error .nameTooLong => .error (.unreachable .nameTooLong)
    | .error _ => .ok []
    | .ok (_, .file bytes _) => entriesOf d.depths path (.ofBytes bytes)
    | .ok _ => .error .directory

/-- The given settings with the names of the sections in their usual case.  Of several names that
differ in case only, the first one counts. -/
def usualSections (es : List (Value × Value)) : List (Value × Value) :=
  es.foldl (fun acc (k, v) =>
    let section? : Option Environment.Section := match k with
      | .text n => Environment.sections.find? fun s => s.name == Text.lower n
      | _ => none
    match section? with
    | some s =>
      if acc.any fun (k, _) => k.sameKey (.text s.name) then acc
      else Value.insertEntry (.text s.name) v acc
    | none => Value.insertEntry k v acc) []

/-- Whether a key is a text, with or without halves of surrogate pairs. -/
def isName : Value → Bool
  | .text _ | .points _ => true
  | _ => false

/-- The issue of the first name with halves of surrogate pairs.  It is told alone, whatever else is
wrong. -/
def nameIssue? (es : List (Value × Value)) : Option Issue :=
  (es.find? fun (k, _) => match k with | .points _ => true | _ => false).map
    fun (k, _) => ⟨[], .stringUnicode, k⟩

/-- The issue of the first setting outside all sections. -/
def extraIssue? (es : List (Value × Value)) : Option Issue :=
  (es.find? fun (k, _) => !Environment.sections.any fun s => k.sameKey (.text s.name)).map
    fun (k, v) => ⟨[.field k.shown], .extra, v⟩

/-! ### Reporting issues

The failure that reports an issue shows the value that was refused, and not every value can be
shown.
-/

/-- The failure that reports an issue. -/
def failureOf (i : Issue) : Failure :=
  .invalidSetting (".".intercalate (i.place.map Step.text)) i.value i.complaint.message

/-- What becomes of an issue: the failure that reports it, if its value can be shown and is nested
no deeper than `depth`. -/
def report (depth : Nat) (i : Issue) : LoadError :=
  match i.value.unshown? [] depth with
  | some .digits => .scalar (.badScalar Value.tooManyDigitsMessage)
  | some .depth => .scalar .tooDeep
  | none => .failure (failureOf i)

/-- Lays the entries of one source over those of another, through mappings that are nested no deeper
than `depth`. -/
def lay (depth : Nat) (lower upper : List (Value × Value)) :
    Except LoadError (List (Value × Value)) :=
  if Layer.isTooDeep depth lower upper then .error (.scalar .tooDeep)
  else .ok (Layer.merge lower upper)

/-- The layers of all sources, laid over each other. -/
def layers (s : ConfigSources) : Except LoadError (List (Value × Value)) := do
  let user ← entriesAt s.disk s.userFile
  let project ← entriesAt s.disk (s.projectRoot.join (.ofText fileName))
  let depth := s.disk.depths.layers
  let files ← lay depth user project
  let env ← match s.environment.layer s.disk.depths.json with
    | .ok es => pure es
    | .error f => throw (.environment f)
  lay depth files (← lay depth env (usualSections s.given))

/-- Checks the settings that the layers give.  A value that is reported is nested no deeper than
`depth`. -/
def ofLayers (depth : Nat) (homes : Homes) (es : List (Value × Value)) : Except LoadError Config :=
  if es.any fun e => !isName e.1 then .error .unnamed
  else match Config.checkSections homes es with
    | .homeless => .error .homeless
    | .refused i _ => .error (report depth ((nameIssue? es).getD i))
    | .accepted c =>
      match (nameIssue? es).or (extraIssue? es) with
      | some i => .error (report depth i)
      | none => .ok c

/-- Loads a configuration. -/
def load (s : ConfigSources) : Except LoadError Config := do
  ofLayers s.disk.depths.shown s.homes (← layers s)

end Config

end LintRelay
