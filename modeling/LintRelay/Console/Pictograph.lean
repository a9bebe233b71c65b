import LintRelay.Text.Blank

/-!
# Pictographs

A console puts a pictograph in the place of its name between two colons.  No blank stands in a name.
One that ends in a hyphen and `emoji` or `text` is that of the pictograph in this variant.  A name
that is not known stays as it stands, with both of its colons, so that neither of them can belong to
another name.

Which names are known is up to the console.  Most of them are words; `Pictograph.numerals` are the
ones that are not.
-/

namespace LintRelay.Pictograph

/-- The pictographs that a console knows by name. -/
abbrev Table := List Char → Option (List Char)

/-- The pictographs whose names are numerals. -/
def numerals : Table
  | ['1', '0', '0'] => some ['💯']
  | ['1', '2', '3', '4'] => some ['🔢']
  | ['+', '1'] => some ['👍']
  | ['-', '1'] => some ['👎']
  | _ => none

/-- The variants: what they are called at the end of a name, and the character that marks them. -/
def variants : List (List Char × Char) :=
  [("-emoji".toList, '\uFE0F'), ("-text".toList, '\uFE0E')]

/-- The pictograph for a name, with the mark of its variant. -/
def find? (table : Table) (name : List Char) : Option (List Char) :=
  match variants.find? fun (ending, _) => ending.isSuffixOf name with
  | some (ending, mark) =>
    (table (name.take (name.length - ending.length))).map fun picture => picture ++ [mark]
  | none => table name

/-- What is shown of a name between two colons. -/
def ofName (table : Table) (name : List Char) : List Char :=
  (find? table name).getD (':' :: name ++ [':'])

/-- What is shown of a text, where `name` is the name begun behind a colon, backwards. -/
def showFrom (table : Table) (name : Option (List Char)) : List Char → List Char
  | [] =>
    match name with
    | some name => ':' :: name.reverse
    | none => []
  | c :: cs =>
    match name with
    | some name =>
      if c == ':' then ofName table name.reverse ++ showFrom table none cs
      else if Text.isBlank c then ':' :: name.reverse ++ c :: showFrom table none cs
      else showFrom table (some (c :: name)) cs
    | none => if c == ':' then showFrom table (some []) cs else c :: showFrom table none cs

/-- What is shown of a text. -/
def showIn (table : Table) (cs : List Char) : List Char :=
  showFrom table none cs

end LintRelay.Pictograph
