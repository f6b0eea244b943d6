import MetadataBag.Yaml.Cursor

/-!
Tokens of YAML. The ends of indented collections and the starts of keys have tokens of their own,
although nothing in the text marks them.
-/

namespace MetadataBag.Yaml

inductive Token where
  /-- The version of the language, by its major number. -/
  | version (major : Nat)
  | tagDirective (handle lead : String)
  | otherDirective
  | documentStart
  | documentEnd
  | blockSequenceStart
  | blockMappingStart
  | blockEnd
  | flowSequenceStart
  | flowSequenceEnd
  | flowMappingStart
  | flowMappingEnd
  | flowEntry
  | blockEntry
  | key
  | value
  | alias (name : String)
  | anchor (name : String)
  | tag (handle : Option String) (suffix : String)
  | scalar (text : String) (isPlain : Bool)
  deriving DecidableEq, Repr

def isWordChar (c : Char) : Bool := c.isAlphanum || c = '-' || c = '_'

/-- Characters of a tag. -/
def isTagChar (c : Char) : Bool :=
  c.isAlphanum || c ∈ "-;/?:@&=+$,_.!~*'()[]%".toList

def hexDigit? (c : Char) : Option Nat :=
  if c.isDigit then some (c.toNat - 48)
  else if 'a' ≤ c ∧ c ≤ 'f' then some (c.toNat - 87)
  else if 'A' ≤ c ∧ c ≤ 'F' then some (c.toNat - 55)
  else none

/-- The number of some hexadecimal digits, if there are that many. -/
def hexNumber? : Nat → List Char → Option Nat
  | 0, _ => some 0
  | _ + 1, [] => none
  | n + 1, c :: rest => do
    let d ← hexDigit? c
    let low ← hexNumber? n rest
    some (d * Nat.pow 16 n + low)

/-- The bytes that percent signs encode, and how many characters they take. -/
def encodedBytes? : List Char → Option (List UInt8 × Nat)
  | '%' :: a :: b :: rest => do
    let byte ← hexNumber? 2 [a, b]
    let (bytes, n) ← encodedBytes? rest
    some (UInt8.ofNat byte :: bytes, n + 3)
  | '%' :: _ => none
  | _ => some ([], 0)

/-- The text of a tag with its encoded characters decoded. -/
def decodeTag : Nat → List Char → Except Error (List Char)
  | 0, _ => .ok []
  | _ + 1, [] => .ok []
  | fuel + 1, '%' :: rest =>
    match encodedBytes? ('%' :: rest) with
    | none => fault "incomplete escape in a tag"
    | some (bytes, n) =>
      match String.fromUTF8? (ByteArray.mk bytes.toArray) with
      | none => fault "escape in a tag is no text"
      | some s => (decodeTag fuel (('%' :: rest).drop n)).map (s.toList ++ ·)
  | fuel + 1, c :: rest => (decodeTag fuel rest).map (c :: ·)

def tagText (c : Cursor) : Except Error (String × Cursor) :=
  match c.span isTagChar with
  | ([], _) => fault "a tag without text"
  | (cs, c) => (decodeTag (cs.length + 1) cs).map fun t => (String.ofList t, c)

/-- Reads a handle between exclamation marks, or a single exclamation mark before a space. -/
def tagHandle (c : Cursor) : Except Error (String × Cursor) :=
  if c.peek ≠ '!' then fault "a tag handle without exclamation mark"
  else if c.peek 1 = ' ' then .ok ("!", c.step)
  else
    let (word, after) := c.step.span isWordChar
    if after.peek = '!' then .ok (String.ofList ('!' :: word ++ ['!']), after.step)
    else fault "a tag handle without end"

def tagToken (c : Cursor) : Except Error (Token × Cursor) := do
  let (token, c) ←
    if c.peek 1 = '<' then do
      let (suffix, c) ← tagText (c.skip 2)
      if c.peek = '>' then pure (Token.tag none suffix, c.step) else fault "a tag without end"
    else if endsWord (c.peek 1) then pure (Token.tag none "!", c.step)
    else
      let word := c.step.rest.takeWhile fun ch => !endsLine ch && ch ≠ ' '
      if word.contains '!' then do
        let (handle, c) ← tagHandle c
        let (suffix, c) ← tagText c
        pure (Token.tag (some handle) suffix, c)
      else do
        let (suffix, c) ← tagText c.step
        pure (Token.tag (some "!") suffix, c)
  if endsLine c.peek || c.peek = ' ' then pure (token, c) else fault "a tag is followed by text"

/-- Reads the name of an anchor or an alias behind its indicator. -/
def anchorName (c : Cursor) : Except Error (String × Cursor) :=
  match c.step.span isWordChar with
  | ([], _) => fault "an anchor without name"
  | (word, c) =>
    if endsWord c.peek || c.peek ∈ ['?', ':', ',', ']', '\x7d', '%', '@', '\x60'] then
      .ok (String.ofList word, c)
    else fault "an anchor is followed by text"

/-- Moves to the next line, over spaces and a comment. -/
def skipLine (c : Cursor) : Except Error Cursor :=
  let c := (c.skipWhile isSpace).skipComment
  if endsLine c.peek then .ok c.lineBreak.2 else fault "text at the end of a line"

def decimalNumber (cs : List Char) : Nat := cs.foldl (fun n c => 10 * n + (c.toNat - 48)) 0

def versionNumber (c : Cursor) : Except Error (Nat × Cursor) :=
  match c.span Char.isDigit with
  | ([], _) => fault "a version without number"
  | (digits, c) => .ok (decimalNumber digits, c)

def directive (c : Cursor) : Except Error (Token × Cursor) := do
  let (name, c) := c.step.span isWordChar
  if name = [] || !(endsLine c.peek || c.peek = ' ') then fault "a directive without name"
  else
    let (token, c) ←
      if name = "YAML".toList then do
        let (major, c) ← versionNumber (c.skipWhile isSpace)
        if c.peek ≠ '.' then fault "a version without minor number"
        else
          let (_, c) ← versionNumber c.step
          if endsLine c.peek || c.peek = ' ' then pure (Token.version major, c)
          else fault "a version is followed by text"
      else if name = "TAG".toList then do
        let (handle, c) ← tagHandle (c.skipWhile isSpace)
        if c.peek ≠ ' ' then fault "a tag directive without text"
        else
          let (lead, c) ← tagText (c.skipWhile isSpace)
          if endsLine c.peek || c.peek = ' ' then pure (Token.tagDirective handle lead, c)
          else fault "a tag directive is followed by text"
      else pure (Token.otherDirective, c.skipWhile fun ch => !endsLine ch)
    let c ← skipLine c
    pure (token, c)

end MetadataBag.Yaml
