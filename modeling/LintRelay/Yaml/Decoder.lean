import LintRelay.Yaml.Literal
import LintRelay.Yaml.Merge

/-!
# Values of YAML

The dynamic value that a document stands for.  A collection is known as soon as it is met, and what
it holds is found out later: first all that the outermost one holds, then what the collections in it
hold, and so on.  The first fault in this order is the fault of the document.  Of two entries with
the same key the last one wins.

What the nodes have become is a graph again.  `Builder.value` writes it out as a value, and a
collection inside itself down to a fixed depth only.
-/

namespace LintRelay.Yaml

/-- What a node has become. -/
inductive Part where
  | atom (v : Value)
  | list (items : List NodeId)
  | set (items : List Value)
  | pairs (items : List (NodeId × NodeId))
  | map (entries : List (Value × NodeId))

/-- A key of a mapping.  The mark tells what is not a number apart. -/
structure Key where
  value : Value
  mark : Option NodeId

/-- Whether two keys are the same.  What is not a number is the same only if its marks are. -/
def Key.isSame (k l : Key) : Bool :=
  match k.value, l.value with
  | .float .nan, .float .nan => k.mark == l.mark
  | v, w => v.sameKey w

/-- The scalar that stands for a node where one is wanted: a mapping stands for its default. -/
def Graph.scalar (g : Graph) (n : NodeId) : Nat → Except Fault Scalar
  | 0 => .error .tooDeep
  | fuel + 1 =>
    match (g.node n).content with
    | .scalar s => .ok s
    | .sequence _ => .error .malformed
    | .mapping es =>
      match es.find? fun (k, _) => (g.node k).tag == .default with
      | some (_, v) => g.scalar v fuel
      | none => .error .malformed

/-- Parts of a document, and the collections whose contents are still to be found out. -/
structure Builder where
  graph : Graph
  /-- How deeply merged mappings may depend on each other. -/
  mergeLimit : Nat
  /-- How many steps the settling of merges takes at most. -/
  steps : Nat
  parts : Array (Option Part)
  now : List NodeId := []
  /-- The collections that come after those of `now`, last first. -/
  later : List NodeId := []

namespace Builder

/-- The part of a node, if the node has been met. -/
def part? (b : Builder) (n : NodeId) : Option Part :=
  (b.parts[n]?).join

/-- Notes what a node has become. -/
def note (b : Builder) (n : NodeId) (p : Part) : Builder :=
  { b with parts := b.parts.setIfInBounds n (some p) }

/-- Notes that a node is a collection, whose contents are found out later. -/
def noteLater (b : Builder) (n : NodeId) (p : Part) : Builder :=
  { b.note n p with later := n :: b.later }

/-- The value of a node under the tag of a scalar. -/
def atom (b : Builder) (n : NodeId) (tag : Tag) : Except Fault Value := do
  if !tag.isScalar then throw .malformed
  let s ← b.graph.scalar n (b.graph.size + 1)
  if tag == .timestamp && (b.graph.entries? n).isSome then throw .dateMapping
  Literal.value tag s

/-- Meets a node. -/
def meet (b : Builder) (n : NodeId) : Except Fault Builder :=
  if (b.part? n).isSome then .ok b
  else match (b.graph.node n).tag with
    | .sequence => .ok (b.noteLater n (.list []))
    | .mapping => .ok (b.noteLater n (.map []))
    | .set => .ok (b.noteLater n (.set []))
    | .pairs => .ok (b.noteLater n (.pairs []))
    | tag => (b.atom n tag).map fun v => b.note n (.atom v)

/-- Meets nodes in order. -/
def meetAll (b : Builder) : List NodeId → Except Fault Builder
  | [] => .ok b
  | n :: ns => do (← b.meet n).meetAll ns

/-- The key that a node has become.  All nodes that write out `.nan` are one key. -/
def keyOf (b : Builder) (n : NodeId) (v : Value) : Key :=
  match v, b.graph.scalar n (b.graph.size + 1) with
  | .float .nan, .ok s => { value := v, mark := if Literal.isPlainNaN s.text then none else some n }
  | _, _ => { value := v, mark := none }

/-- The entries with `key` bound to a node. -/
def bind (key : Key) (n : NodeId) : List (Key × NodeId) → List (Key × NodeId)
  | [] => [(key, n)]
  | (k, m) :: es => if k.isSame key then (k, n) :: es else (k, m) :: bind key n es

/-- The entries of a mapping behind `acc`.  A key must be a scalar. -/
def entries (b : Builder) (acc : List (Key × NodeId)) :
    List (NodeId × NodeId) → Except Fault (Builder × List (Value × NodeId))
  | [] => .ok (b, acc.map fun (k, v) => (k.value, v))
  | (k, v) :: es => do
    let b ← b.meet k
    match b.part? k with
    | some (.atom key) => (← b.meet v).entries (bind (b.keyOf k key) v acc) es
    | _ => throw .malformed

/-- The pairs of a list of mappings with one entry each, behind `acc`. -/
def pairs (b : Builder) (acc : List (NodeId × NodeId)) :
    List NodeId → Except Fault (Builder × List (NodeId × NodeId))
  | [] => .ok (b, acc.reverse)
  | n :: ns =>
    match b.graph.entries? n with
    | some [(k, v)] => do (← (← b.meet k).meet v).pairs ((k, v) :: acc) ns
    | _ => .error .malformed

/-- The entries of a node that must be a mapping, with those that are merged into it. -/
def settledEntries (b : Builder) (n : NodeId) :
    Except Fault (Builder × List (Value × NodeId)) := do
  if (b.graph.entries? n).isNone then throw .malformed
  let g ← b.graph.settle b.mergeLimit n b.steps
  { b with graph := g }.entries [] ((g.entries? n).getD [])

/-- The items of a node that must be a sequence. -/
def items (b : Builder) (n : NodeId) : Except Fault (List NodeId) :=
  match (b.graph.node n).content with
  | .sequence ns => .ok ns
  | _ => .error .malformed

/-- Finds out what a collection holds. -/
def fill (b : Builder) (n : NodeId) : Except Fault Builder := do
  match b.part? n with
  | some (.list _) =>
    let ns ← b.items n
    return (← b.meetAll ns).note n (.list ns)
  | some (.pairs _) =>
    let (b, ps) ← b.pairs [] (← b.items n)
    return b.note n (.pairs ps)
  | some (.set _) =>
    let (b, es) ← b.settledEntries n
    return b.note n (.set (es.map (·.1)))
  | some (.map _) =>
    let (b, es) ← b.settledEntries n
    return b.note n (.map es)
  | _ => return b

/-- Finds out what all collections hold. -/
def run (b : Builder) : Nat → Except Fault Builder
  | 0 => .error .malformed
  | fuel + 1 =>
    match b.now, b.later with
    | n :: ns, _ =>
      match { b with now := ns }.fill n with
      | .ok b => run b fuel
      | .error e => .error e
    | [], [] => .ok b
    | [], later => run { b with now := later.reverse, later := [] } fuel

/-- How often a collection is written out inside itself. -/
def windings : Nat := 6

/-- An empty collection of the kind of a part. -/
def emptied : Part → Value
  | .atom v => v
  | .list _ | .pairs _ => .list []
  | .set _ => .set []
  | .map _ => .map []

/-- The parts that have been written out, by their nodes. -/
abbrev Written := Array (Option Value)

/-- Writes out the part of a node inside the collections `around`.  The second part of the result
are those of them that it refers to; where there are none, the value is the same everywhere. -/
def valueInside (b : Builder) :
    Nat → List NodeId → NodeId → StateM Written (Value × List NodeId)
  | 0, _, _ => return (.null, [])
  | fuel + 1, around, n => do
    match (← get)[n]?.join, (b.part? n).getD (.atom .null) with
    | some v, _ => return (v, [])
    | none, .atom v => return (v, [])
    | none, .set vs => return (.set vs, [])
    | none, p =>
      if windings ≤ around.count n then return (.cyclic n (emptied p), [n])
      let inner := valueInside b fuel (n :: around)
      let (v, back) ← match p with
        | .list ns => do
          let vs ← ns.mapM inner
          pure (Value.list (vs.map (·.1)), vs.flatMap (·.2))
        | .pairs ps => do
          let vs ← ps.mapM fun (k, v) => do return (← inner k, ← inner v)
          pure (Value.list (vs.map fun (k, v) => .tuple [k.1, v.1]),
            vs.flatMap fun (k, v) => k.2 ++ v.2)
        | .map es => do
          let vs ← es.mapM fun (k, v) => do return (k, ← inner v)
          pure (Value.map (vs.map fun (k, v) => (k, v.1)), vs.flatMap fun (_, v) => v.2)
        | p => pure (emptied p, [])
      let v := if back.contains n then .cyclic n v else v
      let back := back.eraseDups
      let back := if around.contains n then back else back.filter (· != n)
      if back.isEmpty then modify fun w => w.setIfInBounds n (some v)
      return (v, back)

/-- The value of a node. -/
def value (b : Builder) (n : NodeId) : Value :=
  let size := b.graph.size
  ((b.valueInside (windings * size + 1) [] n).run (Array.replicate size none)).1.1

end Builder

/-- The value of a document. -/
def Graph.value (mergeLimit : Nat) (g : Graph) (n : NodeId) : Except Fault Value := do
  let b : Builder :=
    { graph := g, mergeLimit, steps := g.settlingSteps, parts := Array.replicate g.size none }
  let b ← (← b.meet n).run (2 * g.size + 2)
  return b.value n

/-- The value of a text, with nodes that are nested no deeper than `depth` and merged mappings that
depend on each other no deeper than `mergeLimit`.  A text without a document stands for nothing. -/
def decode (depth mergeLimit : Nat) (e : Excerpt) : Except Fault Value := do
  match ← document depth e with
  | some (g, n) => g.value mergeLimit n
  | none => return .null

end LintRelay.Yaml
