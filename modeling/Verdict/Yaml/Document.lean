import Verdict.Yaml.Node
import Verdict.Yaml.Token

/-!
Documents, built from the tokens of a YAML text.
-/

namespace Verdict.Yaml

structure Document where
  root : Node
  anchored : List (Nat × Node)

namespace Document

structure Composer where
  tokens : List Token
  handles : List (String × Tag)
  anchors : List (String × Nat)
  anchored : Array (Nat × Node)

abbrev Compose := StateT Composer Option

def peek : Compose (Option Token) := do
  return (← get).tokens.head?

def drop : Compose Unit :=
  modify fun composer => { composer with tokens := composer.tokens.drop 1 }

def expect (token : Token) : Compose Unit := do
  guard ((← peek) == some token)
  drop

def anchorNumber (name : String) : Compose Nat := do
  (← get).anchors.lookup name

/-- Numbers an anchor by how many names have been written before it, and answers its position among
the anchored nodes. A name that is written again gets a new number, but still counts once; so a
later anchor may get the same one. -/
def openAnchor (name : String) : Compose Nat := do
  let composer ← get
  let number := composer.anchors.length
  let others := composer.anchors.filter (·.1 != name)
  set { composer with
    anchors := (name, number) :: others
    anchored := composer.anchored.push (number, .empty) }
  return composer.anchored.size

def closeAnchor (position : Nat) (node : Node) : Compose Unit :=
  modify fun composer =>
    { composer with
      anchored := composer.anchored.modify position fun (number, _) => (number, node) }

def defaultHandles : List (String × Tag) :=
  [("!", Tag.ofText "!"), ("!!", Tag.core "")]

def expandTag (handle : String) (suffix : Tag) : Compose Tag := do
  if handle.isEmpty then
    return suffix
  let composer ← get
  let expansion ← ((composer.handles ++ defaultHandles).lookup handle : Option Tag)
  return expansion ++ suffix

def properties : Compose (Option String × Option Tag) := do
  match ← peek with
  | some (.anchor name) =>
    drop
    match ← peek with
    | some (.tag handle suffix) =>
      drop
      return (some name, some (← expandTag handle suffix))
    | _ => return (some name, none)
  | some (.tag handle suffix) =>
    drop
    let tag ← expandTag handle suffix
    match ← peek with
    | some (.anchor name) =>
      drop
      return (some name, some tag)
    | _ => return (none, some tag)
  | _ => return (none, none)

mutual

/-- A node. Block collections are possible where `block` says so, and a sequence without indentation
of its own where `loose` does. -/
def node (block loose : Bool) : (steps : Nat) → Compose Node
  | 0 => failure
  | steps + 1 => do
    match ← peek with
    | some (.alias name) =>
      drop
      return .alias (← anchorNumber name)
    | _ =>
      let (anchor, tag) ← properties
      let position ← anchor.mapM openAnchor
      let node ← content block loose tag (anchor.isSome || tag.isSome) steps
      if let some position := position then
        closeAnchor position node
      return node

def content (block loose : Bool) (tag : Option Tag) (marked : Bool) :
    (steps : Nat) → Compose Node
  | 0 => failure
  | steps + 1 => do
    match ← peek with
    | some (.scalar plain text) =>
      drop
      return .scalar tag plain text
    | some .flowSequenceStart =>
      drop
      return .sequence (← flowItems true steps)
    | some .flowMappingStart =>
      drop
      return .mapping (← flowMembers true steps)
    | some .blockSequenceStart =>
      guard block
      drop
      return .sequence (← blockItems steps)
    | some .blockMappingStart =>
      guard block
      drop
      return .mapping (← blockMembers steps)
    | some .blockEntry =>
      if loose then return .sequence (← looseItems steps)
      guard marked
      return .scalar tag true ""
    | _ =>
      guard marked
      return .scalar tag true ""

def nodeUnless (stops : List Token) (block loose : Bool) : (steps : Nat) → Compose Node
  | 0 => failure
  | steps + 1 => do
    if (← peek).any stops.contains then return .empty else node block loose steps

def blockItems : (steps : Nat) → Compose (List Node)
  | 0 => failure
  | steps + 1 => do
    if (← peek) == some .blockEnd then
      drop
      return []
    expect .blockEntry
    let item ← nodeUnless [.blockEntry, .blockEnd] true false steps
    return item :: (← blockItems steps)

def looseItems : (steps : Nat) → Compose (List Node)
  | 0 => failure
  | steps + 1 => do
    if (← peek) == some .blockEntry then
      drop
      let item ← nodeUnless [.blockEntry, .key, .value, .blockEnd] true false steps
      return item :: (← looseItems steps)
    else
      return []

def blockMembers : (steps : Nat) → Compose (List (Node × Node))
  | 0 => failure
  | steps + 1 => do
    if (← peek) == some .blockEnd then
      drop
      return []
    expect .key
    let key ← nodeUnless [.key, .value, .blockEnd] true true steps
    let value ← memberValue [.key, .value, .blockEnd] true steps
    return (key, value) :: (← blockMembers steps)

def memberValue (stops : List Token) (block : Bool) : (steps : Nat) → Compose Node
  | 0 => failure
  | steps + 1 => do
    if (← peek) == some .value then
      drop
      nodeUnless stops block block steps
    else
      return .empty

/-- A key behind a question mark in a flow sequence. If there is none, the token in its place is
passed over. -/
def flowKey : (steps : Nat) → Compose Node
  | 0 => failure
  | steps + 1 => do
    if (← peek).any [.value, .flowEntry, .flowSequenceEnd].contains then
      drop
      return .empty
    else
      node false false steps

def flowItems (first : Bool) : (steps : Nat) → Compose (List Node)
  | 0 => failure
  | steps + 1 => do
    if (← peek) == some .flowSequenceEnd then
      drop
      return []
    unless first do
      expect .flowEntry
    if (← peek) == some .flowSequenceEnd then
      drop
      return []
    if (← peek) == some .key then
      drop
      let key ← flowKey steps
      let value ← memberValue [.flowEntry, .flowSequenceEnd] false steps
      return .mapping [(key, value)] :: (← flowItems false steps)
    else
      let item ← node false false steps
      return item :: (← flowItems false steps)

def flowMembers (first : Bool) : (steps : Nat) → Compose (List (Node × Node))
  | 0 => failure
  | steps + 1 => do
    if (← peek) == some .flowMappingEnd then
      drop
      return []
    unless first do
      expect .flowEntry
    if (← peek) == some .flowMappingEnd then
      drop
      return []
    if (← peek) == some .key then
      drop
      let key ← nodeUnless [.value, .flowEntry, .flowMappingEnd] false false steps
      let value ← memberValue [.flowEntry, .flowMappingEnd] false steps
      return (key, value) :: (← flowMembers false steps)
    else
      let key ← node false false steps
      return (key, .empty) :: (← flowMembers false steps)

end

def directives (versioned : Bool) : (steps : Nat) → Compose Unit
  | 0 => failure
  | steps + 1 => do
    match ← peek with
    | some (.versionDirective major minor) =>
      guard (!versioned && major = 1 && (minor = 1 || minor = 2))
      drop
      directives true steps
    | some (.tagDirective handle expansion) =>
      let composer ← get
      guard (!composer.handles.any (·.1 == handle))
      set { composer with handles := (handle, expansion) :: composer.handles }
      drop
      directives versioned steps
    | _ => return

def isDirective : Token → Bool
  | .versionDirective .. => true
  | .tagDirective .. => true
  | _ => false

def rootNode (steps : Nat) : Compose Node := do
  match ← peek with
  | none => return .empty
  | some token =>
    if isDirective token || token == .documentStart then
      directives false steps
      expect .documentStart
      let next ← peek
      if next.all fun token => isDirective token || token == .documentStart || token == .documentEnd
      then return .empty
      else node true false steps
    else
      node true false steps

def skipDocumentEnds : Compose Unit :=
  modify fun composer =>
    { composer with tokens := composer.tokens.dropWhile (· == .documentEnd) }

def ofText? (text : String) : Option Document := do
  let tokens ← Token.ofText? text
  let reading : Compose Node := do
    let root ← rootNode (4 * tokens.length + 4)
    skipDocumentEnds
    guard ((← peek).isNone)
    return root
  let (root, composer) ← reading.run { tokens, handles := [], anchors := [], anchored := #[] }
  return { root, anchored := composer.anchored.toList.reverse }

end Document

end Verdict.Yaml
