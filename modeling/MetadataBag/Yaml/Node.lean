import MetadataBag.Yaml.Token.Lexer
import MetadataBag.Yaml.Scalar

/-!
Nodes of YAML: scalars, sequences and mappings with their tags, read from the tokens of a text
that holds one document. An alias is the node of its anchor; inside that node it is a loop.
-/

namespace MetadataBag.Yaml

inductive Node where
  | scalar (tag : Tag) (text : String)
  | sequence (tag : Tag) (items : List Node)
  | mapping (tag : Tag) (entries : List (Node × Node))
  /-- A sequence or mapping that is still open. -/
  | loop (isMap : Bool)
  deriving Inhabited

namespace Node

def empty : Node := .scalar .null ""

/-- What an anchor stands for: the node, or whether a mapping is still open. -/
inductive Anchored where
  | closed (n : Node)
  | opened (isMap : Bool)

/-- The state of reading: the tokens left, the handles of tags, and the anchors so far. -/
structure State where
  tokens : List Token
  handles : List (String × String)
  anchors : List (String × Anchored)

abbrev Reading := StateT State (Except Error)

def stop {α : Type} (reason : String) : Reading α := fun _ => fault reason

def peek : Reading (Option Token) := fun s => .ok (s.tokens.head?, s)

def drop : Reading Unit := fun s => .ok ((), { s with tokens := s.tokens.tail })

/-- Whether the next token is one of several, or there is none. -/
def atAny (ts : List Token) : Reading Bool := fun s =>
  .ok ((s.tokens.head?.map ts.contains).getD false, s)

def expect (t : Token) : Reading Unit := do
  if (← peek) = some t then drop else stop "another token is missing"

def fullTag (handle : Option String) (suffix : String) : Reading String := fun s =>
  match handle with
  | none => .ok (suffix, s)
  | some h =>
    match s.handles.find? fun e => e.1 = h with
    | some (_, lead) => .ok (lead ++ suffix, s)
    | none => fault "an unknown tag handle"

structure Properties where
  anchor : Option String := none
  tag : Option String := none

def properties : Reading Properties := do
  match ← peek with
  | some (.anchor a) =>
    drop
    match ← peek with
    | some (.tag h s) => drop; pure { anchor := a, tag := ← fullTag h s }
    | _ => pure { anchor := a }
  | some (.tag h s) =>
    drop
    match ← peek with
    | some (.anchor a) => drop; pure { anchor := a, tag := ← fullTag h s }
    | _ => pure { tag := ← fullTag h s }
  | _ => pure {}

/-- The tag of a collection, whose own tag counts only if it says more than nothing. -/
def Properties.collectionTag (p : Properties) (usual : Tag) : Tag :=
  match p.tag with
  | none => usual
  | some t => if t = "!" then usual else Tag.ofName t

def Properties.scalarTag (p : Properties) (text : String) (isPlain : Bool) : Tag :=
  match p.tag with
  | none => if isPlain then Tag.ofPlain text else .str
  | some t => if t = "!" then Tag.ofPlain text else Tag.ofName t

def bind (anchor : Option String) (what : Anchored) : Reading Unit := fun s =>
  match anchor with
  | none => .ok ((), s)
  | some a => .ok ((), { s with anchors := (a, what) :: s.anchors })

def checkAnchor (anchor : Option String) : Reading Unit := fun s =>
  match anchor with
  | none => .ok ((), s)
  | some a =>
    if s.anchors.any fun e => e.1 = a then fault "an anchor is bound twice" else .ok ((), s)

def ofAlias (name : String) : Reading Node := fun s =>
  match s.anchors.find? fun e => e.1 = name with
  | some (_, .closed n) => .ok (n, s)
  | some (_, .opened isMap) => .ok (.loop isMap, s)
  | none => fault "an unknown alias"

/-- Reads a collection between opening and closing its anchor. -/
def collection (anchor : Option String) (isMap : Bool) (read : Reading Node) : Reading Node := do
  bind anchor (.opened isMap)
  let n ← read
  bind anchor (.closed n)
  pure n

mutual

/-- Reads a node. In block context it may be an indented collection; as the content of a key it
may be a sequence that is not indented. -/
def read (inBlock unindented : Bool) : Nat → Reading Node
  | 0 => stop "nesting is too deep"
  | fuel + 1 => do
    match ← peek with
    | some (.alias name) => drop; ofAlias name
    | _ =>
      let p ← properties
      checkAnchor p.anchor
      let sequence (items : Reading (List Node)) : Reading Node :=
        collection p.anchor false do
          let items ← items
          pure (.sequence (p.collectionTag .seq) items)
      let mapping (entries : Reading (List (Node × Node))) : Reading Node :=
        collection p.anchor true do
          let entries ← entries
          pure (.mapping (p.collectionTag .map) entries)
      match ← peek with
      | some (.scalar text isPlain) =>
        drop
        let n : Node := .scalar (p.scalarTag text isPlain) text
        bind p.anchor (.closed n)
        pure n
      | some .flowSequenceStart => drop; sequence (flowItems true fuel)
      | some .flowMappingStart => drop; mapping (flowEntries true fuel)
      | t =>
        if unindented && t = some .blockEntry then sequence (unindentedItems fuel)
        else if inBlock && t = some .blockSequenceStart then drop; sequence (blockItems fuel)
        else if inBlock && t = some .blockMappingStart then drop; mapping (blockEntries fuel)
        -- an anchor or a tag alone stands for an empty scalar
        else if p.anchor.isSome || p.tag.isSome then
          let n : Node := .scalar (p.scalarTag "" p.tag.isNone) ""
          bind p.anchor (.closed n)
          pure n
        else stop "a node without content"

/-- Reads a node unless one of several tokens comes next, which leave it empty. -/
def readUnless (ends : List Token) (inBlock unindented : Bool) : Nat → Reading Node
  | 0 => stop "nesting is too deep"
  | fuel + 1 => do
    if ← atAny ends then pure empty else read inBlock unindented fuel

def blockItems : Nat → Reading (List Node)
  | 0 => stop "nesting is too deep"
  | fuel + 1 => do
    if (← peek) = some .blockEntry then
      drop
      let n ← readUnless [.blockEntry, .blockEnd] true false fuel
      let ns ← blockItems fuel
      pure (n :: ns)
    else
      expect .blockEnd
      pure []

/-- Reads the items of a sequence at the indentation of its key. -/
def unindentedItems : Nat → Reading (List Node)
  | 0 => stop "nesting is too deep"
  | fuel + 1 => do
    if (← peek) = some .blockEntry then
      drop
      let n ← readUnless [.blockEntry, .key, .value, .blockEnd] true false fuel
      let ns ← unindentedItems fuel
      pure (n :: ns)
    else pure []

def blockEntries : Nat → Reading (List (Node × Node))
  | 0 => stop "nesting is too deep"
  | fuel + 1 => do
    if (← peek) = some .key then
      drop
      let k ← readUnless [.key, .value, .blockEnd] true true fuel
      let v ←
        if (← peek) = some .value then
          drop
          readUnless [.key, .value, .blockEnd] true true fuel
        else pure empty
      let rest ← blockEntries fuel
      pure ((k, v) :: rest)
    else
      expect .blockEnd
      pure []

/-- Reads the items between brackets; every one but the first follows a comma. A key among them
is a mapping of one entry. -/
def flowItems (isFirst : Bool) : Nat → Reading (List Node)
  | 0 => stop "nesting is too deep"
  | fuel + 1 => do
    if (← peek) = some .flowSequenceEnd then
      drop
      pure []
    else
      if !isFirst then expect .flowEntry
      match ← peek with
      | some .flowSequenceEnd => drop; pure []
      | some .key =>
        drop
        let k ← readUnless [.value, .flowEntry, .flowSequenceEnd] false false fuel
        let v ←
          if (← peek) = some .value then
            drop
            readUnless [.flowEntry, .flowSequenceEnd] false false fuel
          else pure empty
        let rest ← flowItems false fuel
        pure (.mapping .map [(k, v)] :: rest)
      | _ =>
        let n ← read false false fuel
        let rest ← flowItems false fuel
        pure (n :: rest)

/-- Reads the entries between braces. One without a key sign is a key without value. -/
def flowEntries (isFirst : Bool) : Nat → Reading (List (Node × Node))
  | 0 => stop "nesting is too deep"
  | fuel + 1 => do
    if (← peek) = some .flowMappingEnd then
      drop
      pure []
    else
      if !isFirst then expect .flowEntry
      match ← peek with
      | some .flowMappingEnd => drop; pure []
      | some .key =>
        drop
        let k ← readUnless [.value, .flowEntry, .flowMappingEnd] false false fuel
        let v ←
          if (← peek) = some .value then
            drop
            readUnless [.flowEntry, .flowMappingEnd] false false fuel
          else pure empty
        let rest ← flowEntries false fuel
        pure ((k, v) :: rest)
      | _ =>
        let k ← read false false fuel
        let rest ← flowEntries false fuel
        pure ((k, empty) :: rest)

end

/-- The handles that every document knows. -/
def usualHandles : List (String × String) := [("!", "!"), ("!!", Tag.lead)]

/-- Reads the directives before a document: one version, and a handle at most once. -/
def directives (versioned : Bool) (own : List (String × String)) :
    List Token → Except Error (List (String × String) × List Token)
  | .version major :: rest =>
    if versioned then fault "two versions"
    else if major ≠ 1 then fault "an unknown version"
    else directives true own rest
  | .tagDirective handle lead :: rest =>
    if own.any fun e => e.1 = handle then fault "a tag handle is declared twice"
    else directives versioned (own ++ [(handle, lead)]) rest
  | .otherDirective :: rest => directives versioned own rest
  | rest => .ok (own ++ usualHandles, rest)

/-- Reads the content of a document and the marks of its end; nothing may follow. -/
def document (start : Reading Node) (handles : List (String × String)) (ts : List Token) :
    Except Error Node :=
  match start.run ⟨ts, handles, []⟩ with
  | .error e => .error e
  | .ok (n, s) => if s.tokens.all (· = .documentEnd) then .ok n else fault "more than one document"

/-- The node of the tokens of a text; a text without tokens has none. -/
def ofTokens (ts : List Token) : Except Error (Option Node) :=
  let fuel := 4 * ts.length + 8
  let isHead (t : Token) : Bool := match t with
    | .version _ | .tagDirective .. | .otherDirective | .documentStart => true
    | _ => false
  match ts with
  | [] => .ok none
  | t :: _ =>
    if isHead t then
      (directives false [] ts).bind fun r =>
        match r.2 with
        | .documentStart :: rest =>
          let leavesEmpty : Bool := match rest with
            | [] => true
            | t :: _ => isHead t || t = .documentEnd
          (document (if leavesEmpty then pure empty else read true false fuel) r.1 rest).map some
        | _ => fault "directives without a document"
    else (document (read true false fuel) usualHandles ts).map some

end Node

end MetadataBag.Yaml
