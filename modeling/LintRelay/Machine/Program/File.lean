import LintRelay.Machine.Pattern
import LintRelay.Machine.Program

/-!
# Programs on paths

The programs that make, remove, move and list files and directories, and those that take paths
apart.
-/

namespace LintRelay.Machine.Program

/-- The last name of a path, without an ending. -/
def baseName (path ending : String) : String :=
  let cs := (path.toList.reverse.dropWhile (· == '/')).takeWhile (· != '/')
  let name := String.ofList cs.reverse
  let name := if name.isEmpty then (if path.isEmpty then "" else "/") else name
  if !ending.isEmpty && name != ending && name.endsWith ending then
    (name.dropEnd ending.length).toString
  else name

/-- A path without its last name. -/
def directoryName (path : String) : String :=
  let cs := (path.toList.reverse.dropWhile (· == '/')).dropWhile (· != '/')
  let rest := cs.dropWhile (· == '/')
  if !rest.isEmpty then String.ofList rest.reverse
  else if path.startsWith "/" then "/" else "."

/-- Makes, removes or touches what paths lead to, one after the other. -/
def eachPath (w : Work) (status : Nat) (act : Work → String → Except String Work)
    (program : String) : List String → Work × Nat
  | [] => (w, status)
  | path :: rest =>
    match act w path with
    | .ok w => eachPath w status act program rest
    | .error reason => eachPath (warn w program reason) 1 act program rest

/-- Makes an empty file, unless there is one. -/
def touch (w : Work) (path : String) : Except String Work :=
  match w.locate path with
  | .ok _ => .ok w
  | .error _ =>
    match w.placeFor path with
    | .ok place => .ok { w with disk := w.disk.insert place (.file [] false) }
    | .error e => .error ("cannot touch '" ++ path ++ "': " ++ (Obstacle.ofLookup e).text)

/-- Makes a directory, and those above it if `above` says so. -/
def makeDirectory (above : Bool) (w : Work) (path : String) : Except String Work :=
  let refuse (reason : String) : Except String Work :=
    .error ("cannot create directory " ++ Raw.marked path ++ ": " ++ reason)
  let p := Path.ofText (Raw.text path)
  let counts := if above then List.range (p.names.length + 1) else [p.names.length]
  counts.foldlM (fun w n =>
    let part := Raw.ofText { p with names := p.names.take n : Path }.text
    match w.locate part with
    | .ok (_, .directory) => if above then .ok w else refuse "File exists"
    | .ok _ => refuse "File exists"
    | .error _ =>
      match w.placeFor part with
      | .ok place => .ok { w with disk := w.disk.insert place .directory }
      | .error e => refuse (Obstacle.ofLookup e).text) w

/-- Removes a file, or a directory with all that is in it if `whole` says so. -/
def remove (whole quiet : Bool) (w : Work) (path : String) : Except String Work :=
  match w.locate path false with
  | .ok (_, .directory) =>
    if whole then
      match w.locate path with
      | .ok (place, _) =>
        .ok { w with disk.entries := w.disk.entries.filter fun e => !place.isPrefixOf e.1 }
      | .error _ => .ok w
    else .error ("cannot remove '" ++ path ++ "': Is a directory")
  | .ok (place, _) =>
    .ok { w with disk.entries := w.disk.entries.filter fun e => e.1 != place }
  | .error e =>
    if quiet then .ok w
    else .error ("cannot remove '" ++ path ++ "': " ++ (Obstacle.ofLookup e).text)

/-- Removes an empty directory. -/
def removeDirectory (w : Work) (path : String) : Except String Work :=
  let refuse (reason : String) : Except String Work :=
    .error ("failed to remove '" ++ path ++ "': " ++ reason)
  match w.locate path false with
  | .ok (place, .directory) =>
    if w.disk.entries.any fun e => place.isPrefixOf e.1 && e.1 != place then
      refuse "Directory not empty"
    else .ok { w with disk.entries := w.disk.entries.filter fun e => e.1 != place }
  | .ok _ => refuse "Not a directory"
  | .error e => refuse (Obstacle.ofLookup e).text

/-- The path where something called `name` ends up: in a directory, or at the path itself. -/
def target (w : Work) (path name : String) : String :=
  match w.locate path with
  | .ok (_, .directory) => path ++ "/" ++ baseName name ""
  | _ => path

/-- What stands below a place, itself included, moved to another place. -/
def moved (w : Work) (old new : Place) : List (Place × Entry) :=
  w.disk.entries.filterMap fun (p, e) =>
    if old.isPrefixOf p then some (new ++ p.drop old.length, e) else none

/-- Copies a file, or a directory with all that is in it if `whole` says so. -/
def copy (whole : Bool) (destination : String) (w : Work) (path : String) : Except String Work :=
  let goal := target w destination path
  match w.locate path with
  | .error e => .error ("cannot stat '" ++ path ++ "': " ++ (Obstacle.ofLookup e).text)
  | .ok (place, e) =>
    if e == .directory && !whole then
      .error ("-r not specified; omitting directory '" ++ path ++ "'")
    else
      let goalPlace : Except Disk.LookupError Place := match w.locate goal with
        | .ok (p, _) => .ok p
        | .error _ => w.placeFor goal
      match goalPlace with
      | .error _ =>
        .error ("cannot create regular file '" ++ goal ++ "': No such file or directory")
      | .ok p =>
        if p == place then .error ("'" ++ path ++ "' and '" ++ goal ++ "' are the same file")
        else
          .ok { w with disk := (moved w place p).foldl (fun d (q, e) => d.insert q e) w.disk }

/-- Moves a file or a directory. -/
def move (destination : String) (w : Work) (path : String) : Except String Work :=
  let goal := target w destination path
  match w.locate path false with
  | .error e => .error ("cannot stat '" ++ path ++ "': " ++ (Obstacle.ofLookup e).text)
  | .ok (place, _) =>
    let goalPlace : Except Disk.LookupError Place := match w.locate goal false with
      | .ok (p, _) => .ok p
      | .error _ => w.placeFor goal
    match goalPlace with
    | .error e =>
      .error ("cannot move '" ++ path ++ "' to '" ++ goal ++ "': " ++ (Obstacle.ofLookup e).text)
    | .ok p =>
      if p == place then .error ("'" ++ path ++ "' and '" ++ goal ++ "' are the same file")
      else
        let there := moved w place p
        let d := { w.disk with entries := w.disk.entries.filter fun e => !place.isPrefixOf e.1 }
        .ok { w with disk := there.foldl (fun d (q, e) => d.insert q e) d }

/-- Makes a symbolic link to a path, or another entry for the same file. -/
def link (symbolic : Bool) (destination : String) (w : Work) (path : String) :
    Except String Work :=
  let goal := target w destination path
  let kind := if symbolic then "symbolic link" else "hard link"
  let refuse (reason : String) : Except String Work :=
    .error ("failed to create " ++ kind ++ " '" ++ goal ++ "': " ++ reason)
  match w.locate goal false, w.placeFor goal with
  | .ok _, _ => refuse "File exists"
  | .error _, .error e => refuse (Obstacle.ofLookup e).text
  | .error _, .ok p =>
    if symbolic then .ok { w with disk := w.disk.insert p (.link (Raw.text path)) }
    else
      match w.locate path with
      | .ok (_, e) => .ok { w with disk := w.disk.insert p e }
      | .error e => .error ("failed to access '" ++ path ++ "': " ++ (Obstacle.ofLookup e).text)

/-- The classes, the sign and the letters of a clause of a mode, such as `u+x`. -/
def clause? (text : String) : Option (Char × List Char) :=
  let cs := text.toList.dropWhile "ugoa".toList.contains
  match cs with
  | sign :: letters =>
    if "+-=".toList.contains sign && letters.all "rwxXst".toList.contains then some (sign, letters)
    else none
  | [] => none

/-- Whether a file can be run behind a change of its mode, if the mode can be read. -/
def modeOf? (mode : String) (executable : Bool) : Option Bool :=
  if !mode.isEmpty && mode.toList.all fun c => '0' ≤ c && c ≤ '7' then
    let n := mode.toList.foldl (fun n c => n * 8 + (c.toNat - 48)) 0
    if n < 0o10000 then some (n &&& 0o111 != 0) else none
  else
    (mode.splitOn ",").foldlM (fun executable text =>
      (clause? text).map fun (sign, letters) =>
        let named := letters.contains 'x' || (letters.contains 'X' && executable)
        match sign with
        | '+' => executable || named
        | '-' => executable && !named
        | _ => named) executable

/-- Changes the mode of a file. -/
def changeMode (mode : String) (w : Work) (path : String) : Except String Work :=
  match w.locate path with
  | .ok (place, .file bytes executable) =>
    let e := Entry.file bytes ((modeOf? mode executable).getD executable)
    .ok { w with disk := w.disk.insert place e }
  | .ok _ => .ok w
  | .error e => .error ("cannot access '" ++ path ++ "': " ++ (Obstacle.ofLookup e).text)

/-- Changes the modes of files. -/
def changeModes (w : Work) (arguments : List String) : Work × Nat :=
  let (options, rest) := arguments.span fun a =>
    ["-R", "-v", "-c", "-f", "--", "--recursive", "--verbose"].contains a
  match rest with
  | [] => misuse w "chmod" "missing operand"
  | [mode] => misuse w "chmod" ("missing operand after " ++ Raw.marked mode)
  | mode :: paths =>
    if (modeOf? mode false).isNone then misuse w "chmod" ("invalid mode: " ++ Raw.marked mode)
    else
      let below (path : String) : List String := match w.locate path with
        | .ok (place, .directory) =>
          if options.contains "-R" then
            (w.disk.entries.filter fun e => place.isPrefixOf e.1).map fun e =>
              Raw.ofText (Path.ofNames e.1).text
          else [path]
        | _ => [path]
      eachPath w 0 (changeMode mode) "chmod" (paths.flatMap below)

/-- What a link leads to, as it stands there, or the path without links that a path stands for. -/
def linkText? (w : Work) (canonical : Bool) (path : String) : Option String :=
  let shown (place : Place) : String := Raw.ofText (Path.ofNames place).text
  if canonical then
    match w.locate path with
    | .ok (place, _) => some (shown place)
    | .error _ => (w.placeFor path).toOption.map shown
  else
    match w.locate path false with
    | .ok (_, .link text) => some (Raw.ofText text)
    | _ => none

/-- Prints what paths lead to, where `complains` says whether what is missing is named. -/
def readLinks (w : Work) (program : String) (canonical complains : Bool) (paths : List String) :
    Work × Nat :=
  if paths.isEmpty then misuse w program "missing operand"
  else
    paths.foldl (fun (w, status) path =>
      match linkText? w canonical path with
      | some text => (w.say (text ++ "\n"), status)
      | none =>
        (if complains then warn w program (path ++ ": No such file or directory") else w, 1)) (w, 0)

/-- Does something with each path but the last, which says where to. -/
def toLast (w : Work) (program : String) (operands : List String)
    (act : String → Work → String → Except String Work) : Work × Nat :=
  match operands.getLast?, operands.dropLast with
  | none, _ => misuse w program "missing file operand"
  | some a, [] => misuse w program ("missing destination file operand after '" ++ a ++ "'")
  | some goal, paths =>
    let isDirectory := match w.locate goal with
      | .ok (_, .directory) => true
      | _ => false
    if 1 < paths.length && !isDirectory then
      (warn w program ("target '" ++ goal ++ "': " ++ match w.locate goal with
        | .ok _ => "Not a directory"
        | .error e => (Obstacle.ofLookup e).text), 1)
    else eachPath w 0 (act goal) program paths

/-- The names in a directory, or a file's own name. -/
def list (w : Work) (arguments : List String) : Work × Nat :=
  let o := read "" "1aAd" arguments [("all", 'a'), ("almost-all", 'A'), ("directory", 'd')]
  match o.fault with
  | some c => misuse w "ls" c 2
  | none =>
    let paths := if o.operands.isEmpty then ["."] else o.operands
    let names (path : String) : List String :=
      let all := (Pattern.namesIn w path).filter fun n =>
        o.has 'a' || o.has 'A' || !n.startsWith "."
      let all := if o.has 'a' then "." :: ".." :: all else all
      all.mergeSort fun a b => !(b < a)
    let opens (p : String) : Bool := match w.locate p with
      | .ok (_, .directory) => !o.has 'd'
      | _ => false
    let files := paths.filter fun p => (w.locate p).toOption.isSome && !opens p
    let directories := paths.filter opens
    let missing := paths.filter fun p => (w.locate p).toOption.isNone
    let w := missing.foldl (fun w p =>
      warn w "ls" ("cannot access '" ++ p ++ "': " ++ match w.locate p with
        | .error e => (Obstacle.ofLookup e).text
        | .ok _ => "")) w
    let lines (ns : List String) : String := String.join (ns.map (· ++ "\n"))
    let sorted (ps : List String) : List String := ps.mergeSort fun a b => !(b < a)
    let blocks := (sorted directories).map fun p =>
      (if 1 < paths.length then p ++ ":\n" else "") ++ lines (names p)
    let blocks := if files.isEmpty then blocks else lines (sorted files) :: blocks
    (w.say ("\n".intercalate blocks), if missing.isEmpty then 0 else 2)

/-- Does what one of these programs does. -/
def onPaths? (w : Work) (program : String) (arguments : List String) : Option (Work × Nat) :=
  let each (valued plain : String) (act : Options → Work → String → Except String Work) :
      Option (Work × Nat) :=
    let o := read valued plain arguments
    match o.fault with
    | some c => some (misuse w program c)
    | none =>
      if o.operands.isEmpty && !(program == "rm" && o.has 'f') then
        let what := if program == "touch" then "missing file operand" else "missing operand"
        some (misuse w program what)
      else some (eachPath w 0 (act o) program o.operands)
  let last (plain : String) (act : Options → String → Work → String → Except String Work) :
      Option (Work × Nat) :=
    let o := read "" plain arguments
    match o.fault with
    | some c => some (misuse w program c)
    | none => some (toLast w program o.operands (act o))
  match program with
  | "ls" => some (list w arguments)
  | "basename" =>
    match arguments with
    | [] => some (misuse w "basename" "missing operand")
    | first :: rest =>
      let o := read "s" "az" arguments [("suffix", 's'), ("multiple", 'a')]
      some (if o.has 'a' || o.has 's' then
          let ending := (o.value? 's').getD ""
          (w.say (String.join (o.operands.map fun p => baseName p ending ++ "\n")), 0)
        else (w.say (baseName first (rest.headD "") ++ "\n"), 0))
  | "dirname" =>
    match arguments with
    | [] => some (misuse w "dirname" "missing operand")
    | paths => some (w.say (String.join (paths.map fun p => directoryName p ++ "\n")), 0)
  | "chmod" => some (changeModes w arguments)
  | "readlink" | "realpath" =>
    let o := read "" "femnqsz" arguments
    let isReal := program == "realpath"
    some (match o.fault with
      | some c => misuse w program c
      | none =>
        let canonical := isReal || o.has 'f' || o.has 'e' || o.has 'm'
        readLinks w program canonical isReal o.operands)
  | "mkdir" => each "m" "pv" fun o => makeDirectory (o.has 'p')
  | "rmdir" => each "" "pv" fun _ => removeDirectory
  | "touch" => each "dtr" "acm" fun _ => touch
  | "rm" => each "" "rRfv" fun o => remove (o.has 'r' || o.has 'R') (o.has 'f')
  | "cp" => last "rRafpv" fun o => copy (o.has 'r' || o.has 'R' || o.has 'a')
  | "mv" => last "fnv" fun _ => move
  | "ln" => last "sfn" fun o => link (o.has 's')
  | _ => none

end LintRelay.Machine.Program
