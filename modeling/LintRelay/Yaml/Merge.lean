import LintRelay.Yaml.Node

/-!
# Merged mappings

An entry whose key asks for it is not an entry of its mapping: its value is a mapping, or a list of
mappings, whose entries come in before all others.  A mapping is merged only once and keeps what it
has taken in, so one that is merged into several others, or into itself, is settled at the first of
them.
-/

namespace LintRelay.Yaml.Graph

/-- The value of the first entry that asks for a merge, and the other entries. -/
def takeMerge? (g : Graph) : List (NodeId × NodeId) → Option (NodeId × List (NodeId × NodeId))
  | [] => none
  | (k, v) :: es =>
    if (g.node k).tag == .merge then some (v, es)
    else (takeMerge? g es).map fun (w, es) => (w, (k, v) :: es)

/-- Whether one of the entries asks for a merge. -/
def hasMerge (g : Graph) (es : List (NodeId × NodeId)) : Bool :=
  es.any fun (k, _) => (g.node k).tag == .merge

/-- The graph in which keys of default values among those of the entries are usual texts. -/
def settleDefaults (g : Graph) (es : List (NodeId × NodeId)) : Graph :=
  es.foldl (fun g (k, _) => if (g.node k).tag == .default then g.setTag k .text else g) g

mutual

/-- Settles the merges of a mapping, before whose entries `merged` come.  Merged mappings depend on
each other no deeper than `limit`. -/
def settleFrom (limit : Nat) (g : Graph) (n : NodeId) (merged : List (NodeId × NodeId))
    (depth : Nat) : Nat → Except Fault Graph
  | 0 => .error .tooDeep
  | fuel + 1 =>
    if limit < depth then .error .tooDeep
    else
      let own := (g.entries? n).getD []
      match if g.hasMerge own then g.takeMerge? own else none with
      | none =>
        let g := g.settleDefaults own
        .ok (if merged.isEmpty then g else g.setEntries n (merged ++ own))
      | some (v, rest) =>
        let g := g.setEntries n rest
        match (g.node v).content with
        | .scalar _ => .error .malformed
        | .mapping _ =>
          match settleFrom limit g v [] (depth + 1) fuel with
          | .ok g => settleFrom limit g n (merged ++ (g.entries? v).getD []) depth fuel
          | .error e => .error e
        | .sequence ns =>
          match settleEach limit g ns [] (depth + 1) fuel with
          | .ok (g, es) => settleFrom limit g n (merged ++ es) depth fuel
          | .error e => .error e
termination_by structural fuel => fuel

/-- Settles mappings that are merged together, and gives their entries; those of the first mapping
come last.  `later` are the entries so far. -/
def settleEach (limit : Nat) (g : Graph) (ns : List NodeId) (later : List (NodeId × NodeId))
    (depth : Nat) : Nat → Except Fault (Graph × List (NodeId × NodeId))
  | 0 => .error .tooDeep
  | fuel + 1 =>
    match ns with
    | [] => .ok (g, later)
    | n :: ns =>
      if (g.entries? n).isNone then .error .malformed
      else match settleFrom limit g n [] depth fuel with
        | .ok g => settleEach limit g ns ((g.entries? n).getD [] ++ later) depth fuel
        | .error e => .error e
termination_by structural fuel => fuel

end

/-- A bound for the steps of settling: every merge is settled once, and each has as many parts as
there are nodes at most. -/
def settlingSteps (g : Graph) : Nat :=
  let size := g.foldl (fun k x => k + match x.content with
    | .scalar _ => 1
    | .sequence ns => ns.length + 2
    | .mapping es => es.length + 2) 1
  size * (size + 1)

/-- Settles the merges of a mapping within a number of steps. -/
def settle (limit : Nat) (g : Graph) (n : NodeId) (steps : Nat) : Except Fault Graph :=
  settleFrom limit g n [] 0 steps

end LintRelay.Yaml.Graph
