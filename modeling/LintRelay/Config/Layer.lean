import LintRelay.Value

/-!
# Layers of configuration

A configuration is put together from several mappings.  `Layer.merge` lays one over another: where
both have a mapping under a key these two are merged, and elsewhere the upper one wins.
-/

namespace LintRelay.Layer

/-- The value under a key. -/
def lookup? (key : Value) (entries : List (Value × Value)) : Option Value :=
  (entries.find? fun (k, _) => k.sameKey key).map (·.2)

mutual

/-- What comes of a value that is laid over the one that stands there. -/
def mergeValue (below : Option Value) : Value → Value
  | .map upper =>
    match below.map Value.uncover with
    | some (.map lower) => .map (merge lower upper)
    | _ => .map upper
  | .cyclic n v =>
    match below.map Value.uncover, v.uncover with
    | some (.map _), .map _ => mergeValue below v
    | _, _ => .cyclic n v
  | v => v

/-- Lays the entries of one mapping over those of another.  The keys of the lower one come first,
in their order. -/
def merge (lower : List (Value × Value)) : List (Value × Value) → List (Value × Value)
  | [] => lower
  | (k, v) :: upper => merge (Value.insertEntry k (mergeValue (lookup? k lower) v) lower) upper

end

/-! ### Collections inside themselves

Where both mappings occur inside themselves along the same keys, laying one over the other comes to
no end.
-/

/-- The collections by their numbers, as they are written out where they are met first. -/
abbrev Known := List (Nat × Value)

/-- The entries of a value that is a mapping, written out as far as they are where it was met
first. -/
def entries? (known : Known) : Value → Option (Known × List (Value × Value))
  | .map es => some (known, es)
  | .cyclic n v =>
    match (known.lookup n).getD v.uncover with
    | .map es => some ((n, .map es) :: known, es)
    | _ => none
  | _ => none

/-- Whether mappings that are nested deeper than `depth` under the same keys would be merged, where
`below` and `above` are known of the two layers. -/
def goesDeeper (below above : Known) (lower upper : List (Value × Value)) : Nat → Bool
  | 0 => true
  | depth + 1 => upper.any fun (key, v) =>
    match (lookup? key lower).bind (entries? below), entries? above v with
    | some (below, lower), some (above, upper) => goesDeeper below above lower upper depth
    | _, _ => false

/-- Whether the merge of two mappings goes deeper than it may. -/
def isTooDeep (depth : Nat) (lower upper : List (Value × Value)) : Bool :=
  goesDeeper [] [] lower upper depth

end LintRelay.Layer
