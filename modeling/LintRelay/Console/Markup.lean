import LintRelay.Console.Action
import LintRelay.Console.Pictograph
import LintRelay.Console.Style

/-!
# Console markup

Text for the console may hold *tags*: a style in brackets switches the style on, and the style
behind a slash switches it off again.  A tag whose name starts with an at sign ties an action to the
text up to its closing tag.  A tag with an odd number of backslashes in front of it is no tag but
text.  `Markup.escape` puts backslashes where a text is to be shown as it is, and `Markup.render`
gives what is shown on a console without styles: the text without its tags, with its pictographs.
No name of a pictograph goes over a tag.
-/

namespace LintRelay.Markup

/-! ### Pieces -/

/-- What marked-up text consists of. -/
inductive Piece where
  | char (c : Char)
  /-- An opening bracket that starts no tag, with the backslashes in front of it. -/
  | bracket (slashes : Nat)
  /-- The inner text of a tag, with the backslashes in front of the tag. -/
  | tag (slashes : Nat) (inner : List Char)
  deriving DecidableEq, Repr

/-- The characters that may stand first in a tag. -/
def opensTag (c : Char) : Bool :=
  ('a' ≤ c && c ≤ 'z') || c == '#' || c == '/' || c == '@'

/-- Whether a character may stand inside a tag. -/
def isInner (c : Char) : Bool :=
  c != '[' && c != ']'

/-- The inner text of the tag whose opening bracket stands before `cs`, and what follows the tag. -/
def tag? (cs : List Char) : Option (List Char × List Char) :=
  match cs, cs.dropWhile isInner with
  | c :: _, ']' :: rest => if opensTag c then some (cs.takeWhile isInner, rest) else none
  | _, _ => none

/-- Dropping characters leaves no longer list. -/
theorem length_dropWhile_le (p : α → Bool) (as : List α) : (as.dropWhile p).length ≤ as.length :=
  (List.dropWhile_sublist p).length_le

/-- What follows a tag is shorter than what follows its opening bracket. -/
theorem length_lt_of_tag {cs inner rest : List Char} (h : tag? cs = some (inner, rest)) :
    rest.length < cs.length := by
  unfold tag? at h
  split at h
  next c cs r hd =>
    have hle := length_dropWhile_le isInner (c :: cs)
    rw [hd] at hle
    split at h
    · cases h
      simp at hle ⊢
      omega
    · cases h
  next => cases h

/-- The pieces of `cs`, where `slashes` backslashes stand directly before it and `done` holds the
pieces before them, backwards. -/
def piecesFrom (slashes : Nat) (done : List Piece) (cs : List Char) : List Piece :=
  match cs with
  | [] => (List.replicate slashes (Piece.char '\\') ++ done).reverse
  | '\\' :: cs => piecesFrom (slashes + 1) done cs
  | '[' :: cs =>
    match _ : tag? cs with
    | some (inner, rest) => piecesFrom 0 (.tag slashes inner :: done) rest
    | none => piecesFrom 0 (.bracket slashes :: done) cs
  | c :: cs => piecesFrom 0 (.char c :: (List.replicate slashes (Piece.char '\\') ++ done)) cs
termination_by cs.length
decreasing_by
  · simp
  · have := length_lt_of_tag ‹_›
    simp
    omega
  · simp
  · simp

/-- The pieces of a text. -/
def pieces (cs : List Char) : List Piece :=
  piecesFrom 0 [] cs

/-! ### Escaping -/

/-- A piece in a text that is to be shown as it is: the backslashes before a tag are doubled, and
one more is added. -/
def escapedPiece : Piece → List Char
  | .char c => [c]
  | .bracket n => List.replicate n '\\' ++ ['[']
  | .tag n inner => List.replicate (2 * n + 1) '\\' ++ '[' :: inner ++ [']']

/-- The backslash that a text with a single backslash at its end gets, so that what follows the text
cannot be taken for escaped. -/
def guard (cs : List Char) : List Char :=
  match cs.reverse with
  | '\\' :: '\\' :: _ => []
  | '\\' :: _ => ['\\']
  | _ => []

/-- A text in the form in which it is shown as it is. -/
def escape (s : String) : String :=
  let cs := (pieces s.toList).flatMap escapedPiece
  String.ofList (cs ++ guard cs)

/-! ### Rendering -/

/-- Why marked-up text cannot be shown. -/
inductive MarkupError where
  /-- A closing tag closes no tag that is open. -/
  | unopened (inner : String)
  /-- The description of an action cannot be read. -/
  | badAction (description : String)
  /-- A part of a colour that ought to be a number is none. -/
  | badNumber (name : String)
  deriving DecidableEq, Repr

/-- What is said about marked-up text that cannot be shown. -/
def MarkupError.message : MarkupError → String
  | .unopened inner => "Nothing is closed by [" ++ inner ++ "]"
  | .badAction description => "The action cannot be read: " ++ description
  | .badNumber name => "A part of a colour is no number: " ++ name

/-- A tag that is open. -/
structure OpenTag where
  /-- Its name, in the form in which names are compared. -/
  name : String
  /-- What follows the equals sign in the tag. -/
  parameters : Option (List Char) := none
  deriving DecidableEq, Repr

/-- The name of a tag in the form in which names are compared: the text of a style, and the name in
lower case if it is no style. -/
def tagName (cs : List Char) : Except MarkupError String :=
  match Style.read cs with
  | .ok s => .ok s.text
  | .error .unknown => .ok (Text.lower (String.ofList (Text.trim cs)))
  | .error .badNumber => .error (.badNumber (String.ofList cs))

/-- Takes the tag that was opened last under a name from the open tags, the latest of which comes
first. -/
def close? (name : String) : List OpenTag → Option (OpenTag × List OpenTag)
  | [] => none
  | t :: ts =>
    if t.name == name then some (t, ts)
    else (close? name ts).map fun (closed, ts) => (closed, t :: ts)

/-- Checks the style of a tag whose text is to be shown.  What follows its equals sign belongs to
the style. -/
def checkStyle (t : OpenTag) : Except MarkupError Unit :=
  match t.parameters with
  | some cs =>
    match Style.read (t.name.toList ++ ' ' :: cs) with
    | .error .badNumber => .error (.badNumber (String.ofList cs))
    | _ => .ok ()
  | none => .ok ()

/-- Checks a tag that is closed: if it ties an action, the action must have a description that can
be read, or none at all. -/
def checkClosed (t : OpenTag) : Except MarkupError Unit :=
  match t.parameters with
  | some (c :: cs) =>
    if t.name.startsWith "@" && !Action.isSound (c :: cs) then
      .error (.badAction (String.ofList (c :: cs)))
    else checkStyle t
  | _ => .ok ()

/-- The tag that a closing tag closes, and the tags that are left open.  A closing tag without a
name closes the latest. -/
def closed? (name : List Char) (opened : List OpenTag) :
    Except MarkupError (Option (OpenTag × List OpenTag)) :=
  if Text.isAllBlank name then
    match opened with
    | [] => .ok none
    | t :: ts => .ok (some (t, ts))
  else (tagName (Text.trim name)).map fun name => close? name opened

/-- The open tags behind a tag. -/
def applyTag (opened : List OpenTag) (inner : List Char) : Except MarkupError (List OpenTag) := do
  match inner.takeWhile (· != '=') with
  | '/' :: name =>
    match ← closed? name opened with
    | some (t, opened) => do
      checkClosed t
      return opened
    | none => throw (.unopened (String.ofList inner))
  | name =>
    let parameters := match inner.dropWhile (· != '=') with
      | _ :: parameters => some parameters
      | [] => none
    return { name := ← tagName name, parameters } :: opened

/-- Whether a console swallows a character: bell, backspace, vertical tab, form feed and carriage
return. -/
def isSwallowed (c : Char) : Bool :=
  [7, 8, 11, 12, 13].contains c.toNat

/-- Shows pieces, where `shown` is what has been shown and `run` the text since the last tag, both
backwards.  A tag that is shown as text is a text of its own. -/
def show? (table : Pictograph.Table) (opened : List OpenTag) (shown run : List Char) :
    List Piece → Except MarkupError (List Char)
  | [] =>
    match opened.forM checkStyle with
    | .ok () => .ok (shown.reverse ++ Pictograph.showIn table run.reverse)
    | .error e => .error e
  | .char c :: ps => show? table opened shown (c :: run) ps
  | .bracket n :: ps => show? table opened shown ('[' :: List.replicate (n - 1) '\\' ++ run) ps
  | .tag n inner :: ps =>
    let shown :=
      List.replicate (n / 2) '\\' ++ (Pictograph.showIn table run.reverse).reverse ++ shown
    if n % 2 == 1 then
      let text := Pictograph.showIn table ('[' :: inner ++ [']'])
      show? table opened (text.reverse ++ shown) [] ps
    else
      match applyTag opened inner with
      | .ok opened => show? table opened shown [] ps
      | .error e => .error e

/-- What a console without styles shows of a text, with the pictographs that it knows. -/
def render (s : String) (table : Pictograph.Table := Pictograph.numerals) :
    Except MarkupError (List Char) :=
  match show? table [] [] [] (pieces s.toList) with
  | .ok cs => .ok (cs.filter fun c => !isSwallowed c)
  | .error e => .error e

end LintRelay.Markup
