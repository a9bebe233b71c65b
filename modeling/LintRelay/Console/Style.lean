import LintRelay.Number.Radix
import LintRelay.Text.Lower

/-!
# Styles

A style says how text looks: which *attributes* it has or has not, its colour, the colour behind it,
and a link.  `Style.read` reads one from its words, and `Style.text` writes it in one fixed order,
so that two descriptions of a style have the same text.
-/

namespace LintRelay

/-- What text may look like besides its colours. -/
inductive Attribute where
  | bold
  | dim
  | italic
  | underline
  | blink
  | fastBlink
  | reverse
  | conceal
  | strike
  | doubleUnderline
  | frame
  | encircle
  | overline
  deriving DecidableEq, Repr

namespace Attribute

/-- The attributes in the order in which a style names them. -/
def all : List Attribute :=
  [.bold, .dim, .italic, .underline, .blink, .fastBlink, .reverse, .conceal, .strike,
    .doubleUnderline, .frame, .encircle, .overline]

/-- The name of an attribute. -/
def name : Attribute → String
  | .bold => "bold"
  | .dim => "dim"
  | .italic => "italic"
  | .underline => "underline"
  | .blink => "blink"
  | .fastBlink => "blink2"
  | .reverse => "reverse"
  | .conceal => "conceal"
  | .strike => "strike"
  | .doubleUnderline => "underline2"
  | .frame => "frame"
  | .encircle => "encircle"
  | .overline => "overline"

/-- The attributes that have a short name. -/
def shortNames : List (String × Attribute) :=
  [("b", .bold), ("c", .conceal), ("d", .dim), ("i", .italic), ("o", .overline), ("r", .reverse),
    ("s", .strike), ("u", .underline), ("uu", .doubleUnderline)]

/-- The attribute of a name or a short name. -/
def ofWord? (word : String) : Option Attribute :=
  match shortNames.lookup word with
  | some a => some a
  | none => all.find? fun a => a.name == word

end Attribute

/-- How text looks. -/
structure Style where
  /-- The attributes that are said to be there or not to be there, the latest first. -/
  attributes : List (Attribute × Bool) := []
  color : Option String := none
  background : Option String := none
  link : Option String := none
  deriving DecidableEq, Repr

/-- Why words are no style. -/
inductive StyleError where
  /-- A word is neither an attribute nor a colour, or a word is missing. -/
  | unknown
  /-- A part of a colour that ought to be a number is none. -/
  | badNumber
  deriving DecidableEq, Repr

namespace Style

/-! ### Colours -/

/-- The colours that have a name of their own, apart from shades of grey. -/
def colorNames : List String := [
    "aquamarine1", "aquamarine3", "black", "blue", "blue1", "blue3", "blue_violet", "bright_black",
    "bright_blue", "bright_cyan", "bright_green", "bright_magenta", "bright_red", "bright_white",
    "bright_yellow", "cadet_blue", "chartreuse1", "chartreuse2", "chartreuse3", "chartreuse4",
    "cornflower_blue", "cornsilk1", "cyan", "cyan1", "cyan2", "cyan3", "dark_blue", "dark_cyan",
    "dark_goldenrod", "dark_green", "dark_khaki", "dark_magenta", "dark_olive_green1",
    "dark_olive_green2", "dark_olive_green3", "dark_orange", "dark_orange3", "dark_red",
    "dark_sea_green", "dark_sea_green1", "dark_sea_green3", "dark_sea_green4", "dark_slate_gray1",
    "dark_slate_gray2", "dark_slate_gray3", "dark_turquoise", "dark_violet", "deep_pink1",
    "deep_pink2", "deep_pink3", "deep_pink4", "deep_sky_blue1", "deep_sky_blue2",
    "deep_sky_blue3", "deep_sky_blue4", "default", "dodger_blue1", "dodger_blue2", "dodger_blue3",
    "gold1", "gold3", "green", "green1", "green3", "green4", "green_yellow", "honeydew2",
    "hot_pink", "hot_pink2", "hot_pink3", "indian_red", "indian_red1", "khaki1", "khaki3",
    "light_coral", "light_cyan1", "light_cyan3", "light_goldenrod1", "light_goldenrod2",
    "light_goldenrod3", "light_green", "light_pink1", "light_pink3", "light_pink4",
    "light_salmon1", "light_salmon3", "light_sea_green", "light_sky_blue1", "light_sky_blue3",
    "light_slate_blue", "light_slate_gray", "light_slate_grey", "light_steel_blue",
    "light_steel_blue1", "light_steel_blue3", "light_yellow3", "magenta", "magenta1", "magenta2",
    "magenta3", "medium_orchid", "medium_orchid1", "medium_orchid3", "medium_purple",
    "medium_purple1", "medium_purple2", "medium_purple3", "medium_purple4",
    "medium_spring_green", "medium_turquoise", "medium_violet_red", "misty_rose1", "misty_rose3",
    "navajo_white1", "navajo_white3", "navy_blue", "orange1", "orange3", "orange4", "orange_red1",
    "orchid", "orchid1", "orchid2", "pale_green1", "pale_green3", "pale_turquoise1",
    "pale_turquoise4", "pale_violet_red1", "pink1", "pink3", "plum1", "plum2", "plum3", "plum4",
    "purple", "purple3", "purple4", "red", "red1", "red3", "rosy_brown", "royal_blue1", "salmon1",
    "sandy_brown", "sea_green1", "sea_green2", "sea_green3", "sky_blue1", "sky_blue2",
    "sky_blue3", "slate_blue1", "slate_blue3", "spring_green1", "spring_green2", "spring_green3",
    "spring_green4", "steel_blue", "steel_blue1", "steel_blue3", "tan", "thistle1", "thistle3",
    "turquoise2", "turquoise4", "violet", "wheat1", "wheat4", "white", "yellow", "yellow1",
    "yellow2", "yellow3", "yellow4"]

/-- The shades of grey that have a name. -/
def greyShades : List Nat :=
  [0, 3, 7, 11, 15, 19, 23, 27, 30, 35, 37, 39, 42, 46, 50, 53, 54, 58, 62, 63, 66, 69, 70, 74, 78,
    82, 84, 85, 89, 93, 100]

/-- The names of colours. -/
def isColorName (word : String) : Bool :=
  colorNames.contains word ||
    greyShades.any fun n => word == "grey" ++ toString n || word == "gray" ++ toString n

/-- The text between an opening and a closing text. -/
def between? (opening closing : List Char) (cs : List Char) : Option (List Char) :=
  if opening.isPrefixOf cs && closing.isSuffixOf (cs.drop opening.length) then
    some ((cs.drop opening.length).take (cs.length - opening.length - closing.length))
  else none

/-- The pieces of a text between commas. -/
def commaPieces (cs : List Char) : List (List Char) :=
  cs.foldr (fun c ps => if c == ',' then [] :: ps else
    match ps with
    | p :: ps => (c :: p) :: ps
    | [] => [[c]]) [[]]

/-- The number of a part of a colour. -/
def component (cs : List Char) : Except StyleError Int :=
  match Radix.read 10 cs with
  | .ok n => .ok n
  | .error _ => .error .badNumber

/-- Checks a colour of three parts. -/
def checkParts (cs : List Char) : Except StyleError Unit := do
  match commaPieces cs with
  | [red, green, blue] =>
    let parts ← [red, green, blue].mapM component
    if parts.all (· ≤ 255) then .ok () else .error .unknown
  | _ => .error .unknown

/-- The name of the colour that a word stands for. -/
def colorOf (word : String) : Except StyleError String :=
  let name := Text.lower word
  let cs := name.toList
  let isHex (c : Char) : Bool := ('0' ≤ c && c ≤ '9') || ('a' ≤ c && c ≤ 'f')
  let isAscii (c : Char) : Bool := '0' ≤ c && c ≤ '9'
  if isColorName name then .ok name
  else
    match cs, between? "color(".toList [')'] cs, between? "rgb(".toList [')'] cs with
    | '#' :: ds, _, _ =>
      if ds.length == 6 && ds.all isHex then .ok name else .error .unknown
    | _, some ds, _ =>
      if 1 ≤ ds.length && ds.length ≤ 3 && ds.all isAscii && Numeral.natValue ds ≤ 255 then .ok name
      else .error .unknown
    | _, _, some ds =>
      if !ds.isEmpty && ds.all fun c => Text.isDigit c || c == ',' then
        match checkParts ds with
        | .ok () => .ok name
        | .error e => .error e
      else .error .unknown
    | _, _, _ => .error .unknown

/-! ### Reading and writing -/

/-- Reads the words of a style on top of a style. -/
def readWords (s : Style) : List String → Except StyleError Style
  | [] => .ok s
  | word :: words =>
    match Text.lower word, words with
    | "on", [] | "not", [] | "link", [] => .error .unknown
    | "on", next :: words =>
      match colorOf next with
      | .ok c => readWords { s with background := some c } words
      | .error e => .error e
    | "not", next :: words =>
      match Attribute.ofWord? next with
      | some a => readWords { s with attributes := (a, false) :: s.attributes } words
      | none => .error .unknown
    | "link", next :: words => readWords { s with link := some next } words
    | lower, words =>
      match Attribute.ofWord? lower with
      | some a => readWords { s with attributes := (a, true) :: s.attributes } words
      | none =>
        match colorOf lower with
        | .ok c => readWords { s with color := some c } words
        | .error e => .error e

/-- The words of a text. -/
def words (cs : List Char) : List String :=
  let pieces := cs.foldr (fun c ps => if Text.isBlank c then [] :: ps else
    match ps with
    | p :: ps => (c :: p) :: ps
    | [] => [[c]]) [[]]
  (pieces.filter fun p => !p.isEmpty).map String.ofList

/-- Reads a style. -/
def read (cs : List Char) : Except StyleError Style :=
  if Text.trim cs == "none".toList then .ok {} else readWords {} (words cs)

/-- A style in words. -/
def text (s : Style) : String :=
  let attributes := Attribute.all.filterMap fun a =>
    (s.attributes.lookup a).map fun on => if on then a.name else "not " ++ a.name
  let parts := attributes ++ s.color.toList ++ (s.background.map ("on " ++ ·)).toList ++
    (s.link.map ("link " ++ ·)).toList
  if parts.isEmpty then "none" else " ".intercalate parts

end Style

end LintRelay
