import LintRelay.Yaml.Lexer
import LintRelay.Yaml.Plain

/-!
# Nodes of YAML

The graph of nodes that tokens describe.  A node is known by its place in the graph; an alias is
the place of the node that it names, which may still be open, so a collection can occur inside
itself.  Every node has a tag.  `document` reads a whole text, which holds one document at most.
-/

namespace LintRelay.Yaml

/-- The place of a node in a graph. -/
abbrev NodeId := Nat

/-- What a node holds. -/
inductive Content where
  | scalar (s : Scalar)
  | sequence (items : List NodeId)
  | mapping (entries : List (NodeId × NodeId))
  deriving DecidableEq, Repr

/-- A node. -/
structure Node where
  tag : Tag
  content : Content
  deriving DecidableEq, Repr

namespace Node

/-- The empty scalar that stands where a node is left out. -/
def absent : Node :=
  { tag := .null, content := .scalar {} }

end Node

/-- The nodes of a document by their places. -/
abbrev Graph := Array Node

namespace Graph

/-- The node at a place. -/
def node (g : Graph) (n : NodeId) : Node :=
  g[n]?.getD .absent

/-- The entries of the node at a place, if it is a mapping. -/
def entries? (g : Graph) (n : NodeId) : Option (List (NodeId × NodeId)) :=
  match (g.node n).content with
  | .mapping es => some es
  | _ => none

/-- The graph with other entries in the mapping at a place. -/
def setEntries (g : Graph) (n : NodeId) (es : List (NodeId × NodeId)) : Graph :=
  g.modify n fun x => { x with content := .mapping es }

/-- The graph with another tag on the node at a place. -/
def setTag (g : Graph) (n : NodeId) (t : Tag) : Graph :=
  g.modify n fun x => { x with tag := t }

end Graph

/-- What the reading of nodes depends on: the tokens that are left, the nodes read so far, the
places of those that have a name, what the handles of tags stand for, and how deeply nodes may be
nested. -/
structure Reader where
  tokens : List Token
  graph : Graph := #[]
  anchors : List (String × NodeId) := []
  handles : List (String × String)
  depthLimit : Nat

namespace Reader

/-- The handles of tags that are always known. -/
def usualHandles : List (String × String) := [("!", "!"), ("!!", Tag.family)]

/-- The reader behind the next token. -/
def advance (r : Reader) : Reader :=
  { r with tokens := r.tokens.drop 1 }

/-- Whether the next token is one of a list. -/
def sees (r : Reader) (ts : List Token) : Bool :=
  r.tokens.head?.any ts.contains

/-- Why the next token cannot be taken: the rules forbid it, or there is none to be had. -/
def unexpected (r : Reader) : Fault :=
  match r.tokens with
  | .broken f :: _ => f
  | _ => .malformed

/-- Gives a node the next place. -/
def add (r : Reader) (n : Node) : NodeId × Reader :=
  (r.graph.size, { r with graph := r.graph.push n })

/-- Takes the next place for a node that is still to be read, and notes its name. -/
def reserve (r : Reader) (anchor : Option String) : NodeId × Reader :=
  let (n, r) := r.add .absent
  match anchor with
  | some a => (n, { r with anchors := (a, n) :: r.anchors })
  | none => (n, r)

/-- Puts a node into its place. -/
def fill (r : Reader) (n : NodeId) (tag : Tag) (content : Content) : Reader :=
  { r with graph := r.graph.setIfInBounds n { tag, content } }

/-- The full name of a tag. -/
def fullTag (r : Reader) (handle : Option String) (suffix : String) : Except Fault String :=
  match handle with
  | none => .ok suffix
  | some h => match r.handles.lookup h with
    | some p => .ok (p ++ suffix)
    | none => .error .malformed

/-- The tag and the name in front of a node, in either order. -/
def properties (r : Reader) : Except Fault (Option String × Option String × Reader) := do
  match r.tokens with
  | .anchor _ :: .broken f :: _ | .tag .. :: .broken f :: _ => throw f
  | .anchor a :: .tag h s :: _ => return (some (← r.fullTag h s), some a, r.advance.advance)
  | .anchor a :: _ => return (none, some a, r.advance)
  | .tag h s :: .anchor a :: _ => return (some (← r.fullTag h s), some a, r.advance.advance)
  | .tag h s :: _ => return (some (← r.fullTag h s), none, r.advance)
  | _ => return (none, none, r)

/-- The tag of a scalar. -/
def scalarTag (tag : Option String) (plain : Bool) (text : String) : Tag :=
  match tag with
  | none => if plain then .ofPlain text else .text
  | some "!" => .ofPlain text
  | some name => .ofName name

/-- The tag of a collection. -/
def collectionTag (tag : Option String) (usual : Tag) : Tag :=
  match tag with
  | none | some "!" => usual
  | some name => .ofName name

/-- Where a node stands: whether it may be a block, and whether it may be a sequence that is not
indented. -/
structure Context where
  block : Bool
  unindented : Bool := false

/-- Takes the end of a block off the tokens behind what was read. -/
def ended {α : Type} : Except Fault (α × Reader) → Except Fault (α × Reader)
  | .ok (a, r) => if r.sees [.blockEnd] then .ok (a, r.advance) else .error r.unexpected
  | .error e => .error e

mutual

/-- Reads a node at a depth. -/
def node (r : Reader) (ctx : Context) (depth : Nat) : Nat → Except Fault (NodeId × Reader)
  | 0 => .error .malformed
  | fuel + 1 =>
    match r.tokens with
    | .reference a :: _ =>
      match r.anchors.lookup a with
      | some n => .ok (n, r.advance)
      | none => .error .malformed
    | _ =>
      match r.properties with
      | .error e => .error e
      | .ok (tag, anchor, r) =>
        if r.depthLimit < depth then .error .tooDeep
        else if anchor.any fun a => (r.anchors.lookup a).isSome then .error .malformed
        else
          let (n, r) := r.reserve anchor
          let sequence (found : Except Fault (List NodeId × Reader)) :=
            found.map fun (ns, r) => (n, r.fill n (collectionTag tag .sequence) (.sequence ns))
          let mapping (found : Except Fault (List (NodeId × NodeId) × Reader)) :=
            found.map fun (es, r) => (n, r.fill n (collectionTag tag .mapping) (.mapping es))
          let isBlock (t : Token) := ctx.block && r.sees [t]
          match r.tokens with
          | .scalar s plain :: _ =>
            .ok (n, r.advance.fill n (scalarTag tag plain s.text) (.scalar s))
          | _ =>
            if ctx.unindented && r.sees [.blockEntry] then
              sequence (items r [.blockEntry, .key, .value, .blockEnd] [] (depth + 1) fuel)
            else if r.sees [.flowSequenceStart] then
              sequence (flowItems r.advance true [] (depth + 1) fuel)
            else if r.sees [.flowMappingStart] then
              mapping (flowEntries r.advance true [] (depth + 1) fuel)
            else if isBlock .blockSequenceStart then
              sequence (ended (items r.advance [.blockEntry, .blockEnd] [] (depth + 1) fuel))
            else if isBlock .blockMappingStart then
              mapping (ended (entries r.advance [] (depth + 1) fuel))
            else if tag.isSome || anchor.isSome then
              .ok (n, r.fill n (scalarTag tag true "") (.scalar {}))
            else .error r.unexpected
termination_by structural fuel => fuel

/-- Reads a node, or nothing if one of the tokens comes that cannot start one. -/
def nodeUnless (r : Reader) (stop : List Token) (ctx : Context) (depth : Nat) :
    Nat → Except Fault (NodeId × Reader)
  | 0 => .error .malformed
  | fuel + 1 => if r.sees stop then .ok (r.add .absent) else node r ctx depth fuel
termination_by structural fuel => fuel

/-- Reads the items of a sequence that stands on lines of its own. -/
def items (r : Reader) (stop : List Token) (acc : List NodeId) (depth : Nat) :
    Nat → Except Fault (List NodeId × Reader)
  | 0 => .error .malformed
  | fuel + 1 =>
    if r.sees [.blockEntry] then
      match nodeUnless r.advance stop { block := true } depth fuel with
      | .ok (n, r) => items r stop (n :: acc) depth fuel
      | .error e => .error e
    else .ok (acc.reverse, r)
termination_by structural fuel => fuel

/-- Reads the entries of a mapping that stands on lines of its own. -/
def entries (r : Reader) (acc : List (NodeId × NodeId)) (depth : Nat) :
    Nat → Except Fault (List (NodeId × NodeId) × Reader)
  | 0 => .error .malformed
  | fuel + 1 =>
    let stop := [Token.key, .value, .blockEnd]
    let ctx : Context := { block := true, unindented := true }
    if r.sees [.key] then
      match nodeUnless r.advance stop ctx depth fuel with
      | .error e => .error e
      | .ok (k, r) =>
        let value :=
          if r.sees [.value] then nodeUnless r.advance stop ctx depth fuel
          else .ok (r.add .absent)
        match value with
        | .error e => .error e
        | .ok (v, r) => entries r ((k, v) :: acc) depth fuel
    else .ok (acc.reverse, r)
termination_by structural fuel => fuel

/-- Reads the items of a sequence in brackets, and its end. -/
def flowItems (r : Reader) (first : Bool) (acc : List NodeId) (depth : Nat) :
    Nat → Except Fault (List NodeId × Reader)
  | 0 => .error .malformed
  | fuel + 1 =>
    if r.sees [.flowSequenceEnd] then .ok (acc.reverse, r.advance)
    else if !first && !r.sees [.flowEntry] then .error r.unexpected
    else
      let r := if first then r else r.advance
      if r.sees [.flowSequenceEnd] then .ok (acc.reverse, r.advance)
      else
        let item :=
          if r.sees [.key] then flowPair r.advance (depth + 1) fuel
          else node r { block := false } depth fuel
        match item with
        | .ok (n, r) => flowItems r false (n :: acc) depth fuel
        | .error e => .error e
termination_by structural fuel => fuel

/-- Reads the single entry of a mapping without brackets of its own. -/
def flowPair (r : Reader) (depth : Nat) : Nat → Except Fault (NodeId × Reader)
  | 0 => .error .malformed
  | fuel + 1 =>
    let ctx : Context := { block := false }
    let (n, r) := r.reserve none
    match nodeUnless r [.value, .flowEntry, .flowSequenceEnd] ctx depth fuel with
    | .error e => .error e
    | .ok (k, r) =>
      let value :=
        if r.sees [.value] then nodeUnless r.advance [.flowEntry, .flowSequenceEnd] ctx depth fuel
        else .ok (r.add .absent)
      value.map fun (v, r) => (n, r.fill n .mapping (.mapping [(k, v)]))
termination_by structural fuel => fuel

/-- Reads the entries of a mapping in brackets, and its end. -/
def flowEntries (r : Reader) (first : Bool) (acc : List (NodeId × NodeId)) (depth : Nat) :
    Nat → Except Fault (List (NodeId × NodeId) × Reader)
  | 0 => .error .malformed
  | fuel + 1 =>
    let ctx : Context := { block := false }
    if r.sees [.flowMappingEnd] then .ok (acc.reverse, r.advance)
    else if !first && !r.sees [.flowEntry] then .error r.unexpected
    else
      let r := if first then r else r.advance
      if r.sees [.flowMappingEnd] then .ok (acc.reverse, r.advance)
      else if r.sees [.key] then
        match nodeUnless r.advance [.value, .flowEntry, .flowMappingEnd] ctx depth fuel with
        | .error e => .error e
        | .ok (k, r) =>
          let value :=
            if r.sees [.value] then
              nodeUnless r.advance [.flowEntry, .flowMappingEnd] ctx depth fuel
            else .ok (r.add .absent)
          match value with
          | .ok (v, r) => flowEntries r false ((k, v) :: acc) depth fuel
          | .error e => .error e
      else
        match node r ctx depth fuel with
        | .ok (k, r) =>
          let (v, r) := r.add .absent
          flowEntries r false ((k, v) :: acc) depth fuel
        | .error e => .error e
termination_by structural fuel => fuel

end

/-- Reads the directives in front of a document. -/
def directives (r : Reader) (version : Bool) : Nat → Except Fault Reader
  | 0 => .error .malformed
  | fuel + 1 =>
    match r.tokens with
    | .versionDirective major :: _ =>
      if version || String.ofList (major.toList.dropWhile (· == '0')) != "1" then .error .malformed
      else directives r.advance true fuel
    | .tagDirective handle text :: _ =>
      if (r.handles.lookup handle).isSome then .error .malformed
      else directives { r.advance with handles := (handle, text) :: r.handles } version fuel
    | .otherDirective :: _ => directives r.advance version fuel
    | _ => .ok { r with handles := r.handles ++ usualHandles }

/-- Whether the next token is a directive. -/
def seesDirective (r : Reader) : Bool :=
  match r.tokens.head? with
  | some (.versionDirective _) | some (.tagDirective ..) | some .otherDirective => true
  | _ => false

/-- The document that starts here. -/
def content (r : Reader) (fuel : Nat) : Except Fault (NodeId × Reader) :=
  if r.tokens.isEmpty || r.seesDirective || r.sees [.documentStart, .documentEnd] then
    .ok (r.add .absent)
  else r.node { block := true } 0 fuel

/-- The document of the tokens, if there is one: its nodes, and the place of the outermost one. -/
def document (r : Reader) (fuel : Nat) : Except Fault (Option (Graph × NodeId)) := do
  if r.tokens.isEmpty then return none
  let (n, r) ←
    if r.seesDirective || r.sees [.documentStart] then do
      let r ← { r with handles := [] }.directives false fuel
      if !r.sees [.documentStart] then throw r.unexpected
      r.advance.content fuel
    else r.node { block := true } 0 fuel
  let r := { r with tokens := r.tokens.dropWhile (· == Token.documentEnd) }
  if r.tokens.isEmpty then return some (r.graph, n)
  if r.seesDirective then
    let r ← { r with handles := [] }.directives false fuel
    throw r.unexpected
  else throw r.unexpected

end Reader

/-- The document in a text, if there is one, with nodes that are nested no deeper than `depth`. -/
def document (depth : Nat) (e : Excerpt) : Except Fault (Option (Graph × NodeId)) :=
  let ts := tokens e
  let r : Reader := { tokens := ts, handles := Reader.usualHandles, depthLimit := depth }
  r.document (4 * ts.length + 8)

end LintRelay.Yaml
