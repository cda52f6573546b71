import Preflight.Yaml.Node
import Preflight.Yaml.Scan

/-!
# The grammar over tokens

Documents as rows of tokens.  A node consists of properties and content; where a collection allows a
node and none is written, the empty node stands.  A collection gets its place in the graph before its
parts are read, so its parts can refer to it.
-/

namespace Preflight.Yaml

/-- What is left of a token stream, and the names that a document has given so far. -/
structure Reading where
  tokens : List Token
  /-- What is wrong where the tokens end. -/
  flaw : Flaw
  /-- The nodes of the document so far. -/
  nodes : Graph
  anchors : List (String × NodeId)
  /-- The starts of tags by handle. -/
  handles : List (String × String)
  /-- The levels of nesting that are left. -/
  room : Nat

abbrev Parse := StateT Reading (Except Flaw)

namespace Parse

def malformed {α : Type} : Parse α := throw .malformed

/-- The next token, which stays where it is. -/
def peek : Parse Token := do
  let reading ← get
  match reading.tokens with
  | [] => throw reading.flaw
  | token :: _ => return token

def skip : Parse Unit := modify fun reading => { reading with tokens := reading.tokens.drop 1 }

/-- Skips a token of a kind that has to stand here. -/
def expect (isExpected : Token → Bool) : Parse Unit := do
  if isExpected (← peek) then skip else malformed

/-! ## Kinds of tokens -/

def isKey : Token → Bool
  | .key => true
  | _ => false

def isValue : Token → Bool
  | .value => true
  | _ => false

def isBlockEntry : Token → Bool
  | .blockEntry => true
  | _ => false

def isBlockEnd : Token → Bool
  | .blockEnd => true
  | _ => false

def isFlowEntry : Token → Bool
  | .flowEntry => true
  | _ => false

def isFlowSequenceEnd : Token → Bool
  | .flowSequenceEnd => true
  | _ => false

def isFlowMappingEnd : Token → Bool
  | .flowMappingEnd => true
  | _ => false

def isDocumentStart : Token → Bool
  | .documentStart => true
  | _ => false

def isDocumentEnd : Token → Bool
  | .documentEnd => true
  | _ => false

/-- What ends the content of a document. -/
def endsDocument : Token → Bool
  | .directive _ => true
  | .documentStart => true
  | .documentEnd => true
  | .textEnd => true
  | _ => false

/-- What may follow an entry of a block sequence that is empty. -/
def endsItem (t : Token) : Bool := isBlockEntry t || isBlockEnd t

/-- What may follow a key or a value of a block mapping that is empty. -/
def endsField (t : Token) : Bool := isKey t || isValue t || isBlockEnd t

/-- The same in a list that is not indented deeper than the mapping around it. -/
def endsIndentlessItem (t : Token) : Bool := isBlockEntry t || endsField t

/-! ## Properties -/

structure Properties where
  anchor : Option String
  tag : Option WrittenTag

/-- An anchor and a tag in either order, each at most once. -/
def properties : Parse Properties := do
  match ← peek with
  | .anchor name => do
    skip
    match ← peek with
    | .tag tag => do skip; return ⟨some name, some tag⟩
    | _ => return ⟨some name, none⟩
  | .tag tag => do
    skip
    match ← peek with
    | .anchor name => do skip; return ⟨some name, some tag⟩
    | _ => return ⟨none, some tag⟩
  | _ => return ⟨none, none⟩

/-- The full name of a tag.  The tag of one mark leaves the kind open, as if there were none. -/
def fullTag (tag : WrittenTag) : Parse String := do
  match tag.handle with
  | none => return tag.suffix
  | some handle =>
    match (← get).handles.lookup handle with
    | some start => return start ++ tag.suffix
    | none => malformed

def openTag : String := "!"

/-- The tag of a node that has the fallback where its kind is left open. -/
def tagOr (fallback : Tag) : Option String → Tag
  | none => fallback
  | some name => if name = openTag then fallback else .ofName name

/-- The tag of a scalar.  An unquoted one without a tag says its kind itself. -/
def scalarTag (isPlain : Bool) (text : String) : Option String → Tag
  | none => if isPlain then .ofScalarKind (.of text) else .text
  | some name => if name = openTag then .ofScalarKind (.of text) else .ofName name

/-! ## Places -/

/-- Gives a node a place. -/
def place (node : Node) : Parse NodeId :=
  modifyGet fun reading =>
    (reading.nodes.size, { reading with nodes := reading.nodes.push node })

/-- Completes the node at a place. -/
def complete (id : NodeId) (node : Node) : Parse NodeId := do
  modify fun reading => { reading with nodes := reading.nodes.put id node }
  return id

/-- Gives a node a place and, if it has an anchor, a name. -/
def placeNamed (anchor : Option String) (node : Node) : Parse NodeId := do
  let id ← place node
  match anchor with
  | none => return id
  | some name => do
    modify fun reading => { reading with anchors := (name, id) :: reading.anchors }
    return id

/-- A name is given once in a document. -/
def requireNew (anchor : Option String) : Parse Unit := do
  match anchor with
  | none => return
  | some name => if ((← get).anchors.lookup name).isSome then malformed

/-- The node that was given a name. -/
def named (name : String) : Parse NodeId := do
  match (← get).anchors.lookup name with
  | some id => return id
  | none => malformed

/-- Reads inside a collection, one level deeper. -/
def inside {α : Type} (read : Parse α) : Parse α := do
  let room := (← get).room
  if room = 0 then throw .tooDeep
  modify fun reading => { reading with room := room - 1 }
  let found ← read
  modify fun reading => { reading with room := room }
  return found

/-! ## Nodes -/

mutual

/-- A node.  Block collections are read where they are allowed, and lists at the indentation of the
mapping around them where these are. -/
def node (inBlock indentless : Bool) : Nat → Parse NodeId
  | 0 => malformed
  | fuel + 1 => do
    match ← peek with
    | .alias name => do skip; named name
    | _ =>
      let given ← properties
      let tag ← given.tag.mapM fullTag
      let next ← peek
      requireNew given.anchor
      content inBlock indentless given.anchor tag next fuel

/-- The content of a node after its properties, which may be missing if there are properties. -/
def content (inBlock indentless : Bool) (anchor tag : Option String) (next : Token) :
    Nat → Parse NodeId
  | 0 => malformed
  | fuel + 1 => do
    match next with
    | .scalar text isPlain => do
      skip
      placeNamed anchor (.scalar (scalarTag isPlain text tag) text)
    | .flowSequenceStart => do
      skip
      let id ← placeNamed anchor (.list listTag [])
      complete id (.list listTag (← inside (flowItems true fuel)))
    | .flowMappingStart => do
      skip
      let id ← placeNamed anchor (.map mapTag [])
      complete id (.map mapTag (← inside (flowFields true fuel)))
    | .blockSequenceStart => do
      if inBlock then
        skip
        let id ← placeNamed anchor (.list listTag [])
        complete id (.list listTag (← inside (blockItems fuel)))
      else missing
    | .blockMappingStart => do
      if inBlock then
        skip
        let id ← placeNamed anchor (.map mapTag [])
        complete id (.map mapTag (← inside (blockFields fuel)))
      else missing
    | .blockEntry => do
      if indentless then
        let id ← placeNamed anchor (.list listTag [])
        complete id (.list listTag (← inside (indentlessItems fuel)))
      else missing
    | _ => missing
where
  listTag : Tag := tagOr .list tag
  mapTag : Tag := tagOr .map tag
  /-- The empty scalar after properties. -/
  missing : Parse NodeId :=
    if anchor.isSome || tag.isSome then placeNamed anchor (.scalar (scalarTag true "" tag) "")
    else malformed

/-- A node, or the empty node in front of a token that ends its place. -/
def nodeUnless (ends : Token → Bool) (inBlock indentless : Bool) : Nat → Parse NodeId
  | 0 => malformed
  | fuel + 1 => do
    if ends (← peek) then place .empty else node inBlock indentless fuel

/-- The value after a key, empty where no colon follows. -/
def fieldValue (ends : Token → Bool) (inBlock : Bool) : Nat → Parse NodeId
  | 0 => malformed
  | fuel + 1 => do
    if isValue (← peek) then
      skip
      nodeUnless ends inBlock inBlock fuel
    else place .empty

def blockItems : Nat → Parse (List NodeId)
  | 0 => malformed
  | fuel + 1 => do
    if isBlockEntry (← peek) then
      skip
      let item ← nodeUnless endsItem true false fuel
      return item :: (← blockItems fuel)
    else
      expect isBlockEnd
      return []

def indentlessItems : Nat → Parse (List NodeId)
  | 0 => malformed
  | fuel + 1 => do
    if isBlockEntry (← peek) then
      skip
      let item ← nodeUnless endsIndentlessItem true false fuel
      return item :: (← indentlessItems fuel)
    else return []

def blockFields : Nat → Parse (List (NodeId × NodeId))
  | 0 => malformed
  | fuel + 1 => do
    if isKey (← peek) then
      skip
      let key ← nodeUnless endsField true true fuel
      let value ← fieldValue endsField true fuel
      return (key, value) :: (← blockFields fuel)
    else
      expect isBlockEnd
      return []

/-- The items of a list in brackets.  An item with a key is a mapping of one entry. -/
def flowItems (isFirst : Bool) : Nat → Parse (List NodeId)
  | 0 => malformed
  | fuel + 1 => do
    if isFlowSequenceEnd (← peek) then
      skip
      return []
    else
      if !isFirst then expect isFlowEntry
      let next ← peek
      if isKey next then
        skip
        let id ← place (.map .map [])
        let entry ← inside do
          let key ← nodeUnless (fun t => isValue t || ends t) false false fuel
          return (key, ← fieldValue ends false fuel)
        let item ← complete id (.map .map [entry])
        return item :: (← flowItems false fuel)
      else if isFlowSequenceEnd next then
        skip
        return []
      else
        let item ← node false false fuel
        return item :: (← flowItems false fuel)
where
  ends (t : Token) : Bool := isFlowEntry t || isFlowSequenceEnd t

/-- The entries of a mapping in braces.  A node without a key mark is a key without a value. -/
def flowFields (isFirst : Bool) : Nat → Parse (List (NodeId × NodeId))
  | 0 => malformed
  | fuel + 1 => do
    if isFlowMappingEnd (← peek) then
      skip
      return []
    else
      if !isFirst then expect isFlowEntry
      let next ← peek
      if isKey next then
        skip
        let key ← nodeUnless (fun t => isValue t || ends t) false false fuel
        let value ← fieldValue ends false fuel
        return (key, value) :: (← flowFields false fuel)
      else if isFlowMappingEnd next then
        skip
        return []
      else
        let key ← node false false fuel
        let value ← place .empty
        return (key, value) :: (← flowFields false fuel)
where
  ends (t : Token) : Bool := isFlowEntry t || isFlowMappingEnd t

end

/-- A bound for the depth of the rules on the tokens that are left. -/
def fuel : Parse Nat := do return 3 * (← get).tokens.length + 3

/-! ## Documents -/

def defaultHandles : List (String × String) := [("!", "!"), ("!!", Tag.standardStart)]

/-- Directives in front of a document: at most one version, and each handle once. -/
def directives (hasVersion : Bool) (handles : List (String × String)) :
    List Token → Except Flaw (List (String × String) × List Token)
  | .directive (.version major) :: rest =>
    if hasVersion || major ≠ 1 then .error .malformed else directives true handles rest
  | .directive (.handle name start) :: rest =>
    if (handles.lookup name).isSome then .error .malformed
    else directives hasVersion ((name, start) :: handles) rest
  | .directive .unknown :: rest => directives hasVersion handles rest
  | rest => .ok (handles, rest)

/-- Forgets the document before and reads the directives of the next one. -/
def header : Parse Unit := do
  let reading ← get
  let (handles, rest) ← directives false [] reading.tokens
  set { reading with
    tokens := rest, nodes := #[], anchors := [], handles := handles ++ defaultHandles }
  expect isDocumentStart

/-- The end of a document: the next token has to be known, and an end marker is skipped. -/
def footer : Parse Unit := do if isDocumentEnd (← peek) then skip

/-- How deeply collections may be nested.  This stands for the recursion limit of the interpreter
that the program runs in: so many levels can be read before it gives up. -/
def deepest : Nat := 490

end Parse

/-- The nodes of a document, with the place of the outermost one. -/
structure DocumentGraph where
  nodes : Graph
  root : NodeId

namespace Parse

/-- The first document, which needs no marker in front. -/
def bareDocument : Parse DocumentGraph := do
  let root ← node true false (← fuel)
  footer
  return ⟨(← get).nodes, root⟩

/-- The document after a header. -/
def markedDocument : Parse DocumentGraph := do
  let root ← nodeUnless endsDocument true false (← fuel)
  footer
  return ⟨(← get).nodes, root⟩

/-- Whether the text is over, apart from markers that end documents. -/
def isOver : Parse Bool := do
  modify fun reading => { reading with tokens := reading.tokens.dropWhile isDocumentEnd }
  match ← peek with
  | .textEnd => return true
  | _ => return false

/-- Whether the text starts with a document that has no header. -/
def startsBare : Parse Bool := do
  let first ← peek
  return isDocumentEnd first || !endsDocument first

/-- The next document, none if the text is over. -/
def nextDocument : Parse (Option DocumentGraph) := do
  if ← isOver then return none
  header
  return some (← markedDocument)

/-- The first document, none if the text is empty. -/
def firstDocument : Parse (Option DocumentGraph) := do
  if ← startsBare then return some (← bareDocument) else nextDocument

/-- Refuses a further document, which is noticed at its header. -/
def requireOver : Parse Unit := do
  if ← isOver then return
  header
  malformed

/-- The only document of a text, none if the text is empty. -/
def onlyDocument : Parse (Option DocumentGraph) := do
  let found ← firstDocument
  if found.isSome then requireOver
  return found

end Parse

/-- The start of reading a text. -/
def Reading.ofString (s : String) : Reading :=
  let stream := TokenStream.ofString s
  ⟨stream.tokens, stream.flaw.getD .malformed, #[], [], Parse.defaultHandles, Parse.deepest⟩

/-- The documents of a text, up to its end or to a flaw. -/
structure DocumentStream where
  graphs : List DocumentGraph
  flaw : Option Flaw

namespace DocumentStream

/-- The documents that are left, of which the first one is read by the given rule. -/
def readWith (next : Parse (Option DocumentGraph)) : Nat → Reading → DocumentStream
  | 0, reading => ⟨[], some reading.flaw⟩
  | fuel + 1, reading =>
    match next.run reading with
    | .error flaw => ⟨[], some flaw⟩
    | .ok (none, _) => ⟨[], none⟩
    | .ok (some graph, reading) =>
      let later := readWith Parse.nextDocument fuel reading
      { later with graphs := graph :: later.graphs }

def ofString (s : String) : DocumentStream :=
  let reading := Reading.ofString s
  readWith Parse.firstDocument (reading.tokens.length + 1) reading

end DocumentStream

end Preflight.Yaml
