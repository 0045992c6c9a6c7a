/-
**From YAML tokens to a tree.**

Tokens are read in order, and each decides what may follow.  Anchors are numbered by how many
names there are when they are met, a name that is given again moves to its new node, and a tag is
written out by means of the directives of its document.

Main definitions:

* `Cutover.Yaml.Build` — the state of the reading;
* `Cutover.Yaml.Tree.read` — the document of a text.
-/
import Cutover.Yaml.Node
import Cutover.Yaml.Token.Lexer

set_option autoImplicit false

namespace Cutover.Yaml

/-- The state of the reading.  At a malformed place there is no token left. -/
structure Build where
  tokens : List Token
  /-- Abbreviations of tags. -/
  handles : List (String × String)
  /-- The number that each name has now. -/
  names : List (String × Nat)
  anchored : List Anchored
  size : Nat

namespace Build

/-- The next token. -/
def head? (b : Build) : Option Token := b.tokens.head?

/-- The state after the next token. -/
def skip (b : Build) : Build := { b with tokens := b.tokens.drop 1 }

/-- The state at a malformed place. -/
def stop (b : Build) : Build := { b with tokens := [] }

/-- The state after one more part of the tree. -/
def count (b : Build) : Build := { b with size := b.size + 1 }

/-- Whether the next token is one of these. -/
def sees (b : Build) (ts : List Token) : Bool := b.head?.any (fun t => ts.contains t)

/-- A tag written out. -/
def tagOf? (b : Build) (handle suffix : String) : Option String :=
  if handle.isEmpty then some suffix
  else (b.handles.lookup handle).map (· ++ suffix)

/-- The number of the anchor of a node that starts here. -/
def nameAnchor (b : Build) (name : Option String) : Option Nat × Build :=
  match name with
  | none => (none, b)
  | some s =>
    let id := b.names.length
    (some id, { b with names := (s, id) :: b.names.filter (fun e => e.1 != s) })

/-- The state after the node of an anchor is read. -/
def keep (b : Build) (id : Option Nat) (position : Nat) (n : Node) : Build :=
  match id with
  | none => b
  | some id => { b with anchored := ⟨id, position, n⟩ :: b.anchored }

/-- The anchor and tag in front of a node, in either order; nothing where a tag has no meaning. -/
def properties (b : Build) : Option (Option String × Option String × Build) :=
  let anchorOf (b : Build) : Option String × Build :=
    match b.head? with
    | some (.anchor s) => (some s, b.skip)
    | _ => (none, b)
  let tagOf (b : Build) : Option (Option String × Build) :=
    match b.head? with
    | some (.tag handle suffix) => (b.tagOf? handle suffix).map (fun t => (some t, b.skip))
    | _ => some (none, b)
  -- A tag is written out after the token behind it has been seen.
  let resolved (anchor : Option String) (tag : Option String) (b : Build) :=
    if b.tokens.isEmpty then none else some (anchor, tag, b)
  match anchorOf b with
  | (some anchor, b) => do
    let (tag, b) ← tagOf b
    resolved (some anchor) tag b
  | (none, b) => do
    let (tag, b) ← tagOf b
    let (anchor, b) := if tag.isSome then anchorOf b else (none, b)
    resolved anchor tag b

/-- An empty plain scalar, which stands where a node is left out. -/
def leftOut (b : Build) : Node × Build := (.scalar none .plain "", b.count)

end Build

mutual

/-- The node that starts here.  Blocks may start only where `block` says so, and items without
indentation only where `indentless` does. -/
def Build.node : Nat → Bool → Bool → Build → Node × Build
  | 0, _, _, b => (.broken, b.stop)
  | fuel + 1, block, indentless, b =>
    match b.head? with
    | some (.alias name) =>
      match b.names.lookup name with
      | some id => (.alias id, b.skip.count)
      | none => (.broken, b.stop)
    | _ =>
      match b.properties with
      | none => (.broken, b.stop)
      | some (anchor, tag, b) =>
        let position := b.size
        -- The tag of a plain exclamation mark says only that a scalar is text as written.
        let scalarTag := if tag == some "!" then none else tag
        let opened := b.count.nameAnchor anchor
        match b.head? with
        | some (.scalar style text) =>
          let (id, b) := b.nameAnchor anchor
          let n := Node.scalar scalarTag style text
          (n, (b.skip.count).keep id position n)
        | some .flowSequenceStart =>
          let (id, b) := opened
          let (items, closed, b) := Build.flowItems fuel true b.skip
          let n := Node.sequence tag items closed
          (n, b.keep id position n)
        | some .flowMappingStart =>
          let (id, b) := opened
          let (entries, closed, b) := Build.flowEntries fuel true b.skip
          let n := Node.mapping tag entries closed
          (n, b.keep id position n)
        | some .blockEntry =>
          if indentless then
            let (id, b) := opened
            let (items, closed, b) := Build.indentlessItems fuel b
            let n := Node.sequence tag items closed
            (n, b.keep id position n)
          else Build.emptyNode anchor tag b
        | some .blockSequenceStart =>
          if block then
            let (id, b) := opened
            let (items, closed, b) := Build.blockItems fuel b.skip
            let n := Node.sequence tag items closed
            (n, b.keep id position n)
          else Build.emptyNode anchor tag b
        | some .blockMappingStart =>
          if block then
            let (id, b) := opened
            let (entries, closed, b) := Build.blockEntries fuel b.skip
            let n := Node.mapping tag entries closed
            (n, b.keep id position n)
          else Build.emptyNode anchor tag b
        | some _ => Build.emptyNode anchor tag b
        | none => (.broken, b.stop)

/-- A node of which only an anchor or a tag is written. -/
def Build.emptyNode (anchor tag : Option String) (b : Build) : Node × Build :=
  if anchor.isSome || tag.isSome then
    let position := b.size
    let (id, b) := b.nameAnchor anchor
    let n := Node.scalar tag .plain ""
    (n, (b.count).keep id position n)
  else (.broken, b.stop)

/-- The items of a block up to its end. -/
def Build.blockItems : Nat → Build → List Node × Bool × Build
  | 0, b => ([], false, b.stop)
  | fuel + 1, b =>
    match b.head? with
    | some .blockEntry =>
      let b := b.skip
      let (n, b) : Node × Build :=
        match b.head? with
        | none => (.broken, b.stop)
        | some .blockEntry => b.leftOut
        | some .blockEnd => b.leftOut
        | some _ => Build.node fuel true false b
      let (ns, closed, b) := Build.blockItems fuel b
      (n :: ns, closed, b)
    | some .blockEnd => ([], true, b.skip.count)
    | _ => ([], false, b.stop)

/-- Items that are not indented, up to something else. -/
def Build.indentlessItems : Nat → Build → List Node × Bool × Build
  | 0, b => ([], false, b.stop)
  | fuel + 1, b =>
    match b.head? with
    | some .blockEntry =>
      let b := b.skip
      let (n, b) : Node × Build :=
        if b.tokens.isEmpty then (.broken, b.stop)
        else if b.sees [.blockEntry, .key, .value, .blockEnd] then b.leftOut
        else Build.node fuel true false b
      let (ns, closed, b) := Build.indentlessItems fuel b
      (n :: ns, closed, b)
    | some _ => ([], true, b.count)
    | none => ([], false, b.stop)

/-- The entries of a block up to its end. -/
def Build.blockEntries : Nat → Build → List (Node × Node) × Bool × Build
  | 0, b => ([], false, b.stop)
  | fuel + 1, b =>
    let part (b : Build) : Node × Build :=
      if b.tokens.isEmpty then (.broken, b.stop)
      else if b.sees [.key, .value, .blockEnd] then b.leftOut
      else Build.node fuel true true b
    match b.head? with
    | some .key =>
      let (k, b) := part b.skip
      let (v, b) : Node × Build :=
        match b.head? with
        | none => (.broken, b.stop)
        | some .value => part b.skip
        | some _ => b.leftOut
      let (rest, closed, b) := Build.blockEntries fuel b
      ((k, v) :: rest, closed, b)
    | some .blockEnd => ([], true, b.skip.count)
    | _ => ([], false, b.stop)

/-- The items between brackets up to the closing one. -/
def Build.flowItems : Nat → Bool → Build → List Node × Bool × Build
  | 0, _, b => ([], false, b.stop)
  | fuel + 1, first, b =>
    match b.head? with
    | none => ([], false, b.stop)
    | some .flowSequenceEnd => ([], true, b.skip.count)
    | some t =>
      if !first && t ≠ .flowEntry then ([], false, b.stop)
      else
        let b := if first then b else b.skip
        match b.head? with
        | none => ([], false, b.stop)
        | some .flowSequenceEnd => ([], true, b.skip.count)
        | some .key =>
          let (n, b) := Build.flowPair fuel b.skip.count
          let (ns, closed, b) := Build.flowItems fuel false b
          (n :: ns, closed, b)
        | some _ =>
          let (n, b) := Build.node fuel false false b
          let (ns, closed, b) := Build.flowItems fuel false b
          (n :: ns, closed, b)

/-- A single key with its value that stands as an item between brackets. -/
def Build.flowPair : Nat → Build → Node × Build
  | 0, b => (.broken, b.stop)
  | fuel + 1, b =>
    let (k, b) : Node × Build :=
      if b.tokens.isEmpty then (.broken, b.stop)
      else if b.sees [.value, .flowEntry, .flowSequenceEnd] then b.skip.leftOut
      else Build.node fuel false false b
    let (v, b) : Node × Build :=
      match b.head? with
      | none => (.broken, b.stop)
      | some .value =>
        let b := b.skip
        if b.tokens.isEmpty then (.broken, b.stop)
        else if b.sees [.flowEntry, .flowSequenceEnd] then b.leftOut
        else Build.node fuel false false b
      | some _ => b.leftOut
    (.mapping none [(k, v)] (!b.tokens.isEmpty), b.count)

/-- The entries between braces up to the closing one. -/
def Build.flowEntries : Nat → Bool → Build → List (Node × Node) × Bool × Build
  | 0, _, b => ([], false, b.stop)
  | fuel + 1, first, b =>
    match b.head? with
    | none => ([], false, b.stop)
    | some .flowMappingEnd => ([], true, b.skip.count)
    | some t =>
      if !first && t ≠ .flowEntry then ([], false, b.stop)
      else
        let b := if first then b else b.skip
        match b.head? with
        | none => ([], false, b.stop)
        | some .flowMappingEnd => ([], true, b.skip.count)
        | some .key =>
          let b := b.skip
          let (k, b) : Node × Build :=
            if b.tokens.isEmpty then (.broken, b.stop)
            else if b.sees [.value, .flowEntry, .flowMappingEnd] then b.leftOut
            else Build.node fuel false false b
          let (v, b) : Node × Build :=
            match b.head? with
            | none => (.broken, b.stop)
            | some .value =>
              let b := b.skip
              if b.tokens.isEmpty then (.broken, b.stop)
              else if b.sees [.flowEntry, .flowMappingEnd] then b.leftOut
              else Build.node fuel false false b
            | some _ => b.leftOut
          let (rest, closed, b) := Build.flowEntries fuel false b
          ((k, v) :: rest, closed, b)
        | some _ =>
          let (k, b) := Build.node fuel false false b
          let (v, b) := if b.tokens.isEmpty then (.broken, b.stop) else b.leftOut
          let (rest, closed, b) := Build.flowEntries fuel false b
          ((k, v) :: rest, closed, b)

end

/-! ### Documents -/

/-- The abbreviations that need no directive. -/
def standardHandles : List (String × String) := [("!", "!"), ("!!", "tag:yaml.org,2002:")]

/-- The directives in front of a document: the abbreviations, or nothing where they are refused,
and the tokens after them. -/
def readDirectives : List Token → Bool → List (String × String) →
    Option (List (String × String) × List Token)
  | .versionDirective major minor :: ts, versioned, handles =>
    if versioned || major ≠ 1 || (minor ≠ 1 && minor ≠ 2) then none
    else readDirectives ts true handles
  | .tagDirective handle start :: ts, versioned, handles =>
    if (handles.lookup handle).isSome then none
    else readDirectives ts versioned (handles ++ [(handle, start)])
  | ts, _, handles => some (handles, ts)

/-- Whether only ends of documents are left of a text. -/
def endsText (ts : List Token) : Bool :=
  ts.dropWhile (· == .documentEnd) == [.streamEnd]

/-- A document that is malformed before its first node. -/
def Tree.malformed : Tree := ⟨some .broken, [], 0, false⟩

/-- The document of a text. -/
def Tree.read (cs : List Char) : Tree :=
  match (Lexer.tokens cs).1 with
  | .streamStart :: ts =>
    match ts with
    | .streamEnd :: _ => ⟨none, [], 1, true⟩
    | [] => .malformed
    | t :: _ =>
      let explicit := match t with
        | .versionDirective .. | .tagDirective .. | .documentStart => true
        | _ => false
      let build (ts : List Token) (handles : List (String × String)) : Build :=
        ⟨ts, handles ++ standardHandles, [], [], 0⟩
      let fuel := 4 * ts.length + 8
      let (root, b) :=
        if explicit then
          match readDirectives ts false [] with
          | some (handles, .documentStart :: ts) =>
            let b := build ts handles
            if b.tokens.isEmpty then (.broken, b)
            else if b.sees [.documentStart, .documentEnd, .streamEnd] ||
                b.head?.any (fun t => match t with
                  | .versionDirective .. | .tagDirective .. => true
                  | _ => false) then b.leftOut
            else b.node fuel true false
          | _ => (.broken, build [] [])
        else (build ts []).node fuel true false
      ⟨some root, b.anchored, b.size, endsText b.tokens⟩
  | _ => .malformed

end Cutover.Yaml
