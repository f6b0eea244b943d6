import MetadataBag.Yaml.Token.Scalar

/-!
The tokens of a text. Outside brackets the indentation decides where collections begin and end.
That something was a key shows only at the colon after it, so the places where a key may have
begun are remembered, one for each level of brackets.
-/

namespace MetadataBag.Yaml

structure KeyPlace where
  /-- How many tokens stand before it. -/
  position : Nat
  /-- Whether nothing but a key may stand there. -/
  required : Bool
  index : Nat
  line : Nat
  column : Nat

structure Lexer where
  cursor : Cursor
  tokens : Array Token := #[]
  /-- How many brackets are open. -/
  level : Nat := 0
  /-- The indentation of the innermost collection, -1 outside of all. -/
  indent : Int := -1
  /-- The indentations around it. -/
  outer : List Int := []
  /-- Whether a key may begin at the cursor. -/
  keyAllowed : Bool := true
  /-- The places of possible keys by level. -/
  keys : List (Nat × KeyPlace) := []

namespace Lexer

def emit (s : Lexer) (t : Token) : Lexer := { s with tokens := s.tokens.push t }

def inBlock (s : Lexer) : Bool := s.level = 0

def keyPlace? (s : Lexer) : Option KeyPlace :=
  (s.keys.find? fun k => k.1 = s.level).map (·.2)

def forget (s : Lexer) : Except Error Lexer :=
  match s.keyPlace? with
  | none => .ok s
  | some k =>
    if k.required then fault "a key without colon"
    else .ok { s with keys := s.keys.filter fun k => k.1 ≠ s.level }

/-- Keys end on the line where they begin and have at most 1024 characters. -/
def isStale (s : Lexer) (k : KeyPlace) : Bool :=
  k.line ≠ s.cursor.line || k.index + 1024 < s.cursor.index

def forgetStale (s : Lexer) : Except Error Lexer :=
  if s.keys.any fun k => s.isStale k.2 && k.2.required then fault "a key without colon"
  else .ok { s with keys := s.keys.filter fun k => !s.isStale k.2 }

/-- Remembers that a key may begin at the cursor. -/
def remember (s : Lexer) : Except Error Lexer :=
  if s.keyAllowed then do
    let s ← s.forget
    let c := s.cursor
    let place : KeyPlace :=
      { position := s.tokens.size, required := s.inBlock && s.indent = c.column,
        index := c.index, line := c.line, column := c.column }
    pure { s with keys := (s.level, place) :: s.keys }
  else .ok s

/-- Ends the collections that are indented by more than a column. -/
def unwindFrom (column : Int) (s : Lexer) : List Int → Lexer
  | [] => s
  | around :: rest =>
    if column < s.indent then
      unwindFrom column { s.emit .blockEnd with indent := around, outer := rest } rest
    else s

def unwind (s : Lexer) (column : Int) : Lexer :=
  if s.inBlock then unwindFrom column s s.outer else s

/-- Begins a collection at a column, if it is further in. -/
def indentTo (s : Lexer) (column : Nat) : Option Lexer :=
  if s.indent < column then some { s with indent := column, outer := s.indent :: s.outer }
  else none

/-- Begins a collection at the cursor, if it is further in. -/
def openBlock (s : Lexer) (t : Token) : Lexer :=
  match s.indentTo s.cursor.column with
  | some s => s.emit t
  | none => s

def advance (s : Lexer) (n : Nat) : Lexer := { s with cursor := s.cursor.skip n }

def skipBlanks : Nat → Lexer → Lexer
  | 0, s => s
  | fuel + 1, s =>
    let c := (s.cursor.skipWhile isSpace).skipComment
    if isBreak c.peek then
      skipBlanks fuel { s with cursor := c.lineBreak.2, keyAllowed := s.keyAllowed || s.inBlock }
    else { s with cursor := c }

/-- Ends every collection, before a directive and at the bounds of a document. -/
def closeAll (s : Lexer) : Except Error Lexer :=
  ((s.unwind (-1)).forget).map fun s => { s with keyAllowed := false }

def documentToken (s : Lexer) (t : Token) : Except Error Lexer :=
  s.closeAll.map fun s => (s.emit t).advance 3

def openFlow (s : Lexer) (t : Token) : Except Error Lexer :=
  s.remember.map fun s => { (s.emit t).advance 1 with level := s.level + 1, keyAllowed := true }

def closeFlow (s : Lexer) (t : Token) : Except Error Lexer :=
  if s.inBlock then fault "a closing bracket without an opening one"
  else s.forget.map fun s =>
    { (s.emit t).advance 1 with level := s.level - 1, keyAllowed := false }

def flowEntry (s : Lexer) : Except Error Lexer :=
  s.forget.map fun s => { (s.emit .flowEntry).advance 1 with keyAllowed := true }

def blockEntry (s : Lexer) : Except Error Lexer :=
  if s.inBlock && !s.keyAllowed then fault "a sequence entry is not possible here"
  else
    let s := if s.inBlock then s.openBlock .blockSequenceStart else s
    s.forget.map fun s => { (s.emit .blockEntry).advance 1 with keyAllowed := true }

def explicitKey (s : Lexer) : Except Error Lexer :=
  if s.inBlock && !s.keyAllowed then fault "a key is not possible here"
  else
    let s := if s.inBlock then s.openBlock .blockMappingStart else s
    s.forget.map fun s => { (s.emit .key).advance 1 with keyAllowed := s.inBlock }

def insertAt (s : Lexer) (position : Nat) (t : Token) : Lexer :=
  { s with tokens := s.tokens.insertIdxIfInBounds position t }

/-- A colon after a remembered place makes a key of what began there. -/
def simpleKey (s : Lexer) (k : KeyPlace) : Lexer :=
  let s := { s with keys := s.keys.filter fun e => e.1 ≠ s.level }
  let s := s.insertAt k.position .key
  let s :=
    if s.inBlock then
      match s.indentTo k.column with
      | some s => s.insertAt k.position .blockMappingStart
      | none => s
    else s
  { (s.emit .value).advance 1 with keyAllowed := false }

def valueSign (s : Lexer) : Except Error Lexer :=
  match s.keyPlace? with
  | some k => .ok (s.simpleKey k)
  | none =>
    if s.inBlock && !s.keyAllowed then fault "a value is not possible here"
    else
      let s := if s.inBlock then s.openBlock .blockMappingStart else s
      let s := { s with keyAllowed := s.inBlock }
      s.forget.map fun s => (s.emit .value).advance 1

def keyToken (s : Lexer) (read : Cursor → Except Error (Token × Cursor)) : Except Error Lexer := do
  let s ← s.remember
  let (t, c) ← read s.cursor
  pure { s.emit t with cursor := c, keyAllowed := false }

def blockScalar (s : Lexer) : Except Error Lexer := do
  let s ← s.forget
  let (t, c) ← block s.indent s.cursor
  pure { s.emit t with cursor := c, keyAllowed := true }

def plainScalar (s : Lexer) : Except Error Lexer := do
  let s ← s.remember
  let (t, newLine, c) := plain (!s.inBlock) s.indent s.cursor
  pure { s.emit t with cursor := c, keyAllowed := newLine }

/-- Whether a plain scalar may begin at the cursor. -/
def atPlain (s : Lexer) : Bool :=
  let ch := s.cursor.peek
  !(endsWord ch || ch ∈ "-?:,[]\x7b\x7d#&*!|>'\"%@\x60".toList) ||
    (!endsWord (s.cursor.peek 1) && (ch = '-' || s.inBlock && (ch = '?' || ch = ':')))

/-- Adds the next token; the cursor stands on its first character. -/
def next (s : Lexer) : Except Error Lexer :=
  let c := s.cursor
  let ch := c.peek
  let alone : Bool := endsWord (c.peek 1)
  if ch = '%' && c.column = 0 then do
    let s ← s.closeAll
    let (t, c) ← directive s.cursor
    pure { s.emit t with cursor := c }
  else if c.column = 0 && c.atMarker '-' then s.documentToken .documentStart
  else if c.column = 0 && c.atMarker '.' then s.documentToken .documentEnd
  else if ch = '[' then s.openFlow .flowSequenceStart
  else if ch = '\x7b' then s.openFlow .flowMappingStart
  else if ch = ']' then s.closeFlow .flowSequenceEnd
  else if ch = '\x7d' then s.closeFlow .flowMappingEnd
  else if ch = ',' then s.flowEntry
  else if ch = '-' && alone then s.blockEntry
  else if ch = '?' && (alone || !s.inBlock) then s.explicitKey
  else if ch = ':' && (alone || !s.inBlock) then s.valueSign
  else if ch = '*' then s.keyToken fun c => (anchorName c).map fun r => (.alias r.1, r.2)
  else if ch = '&' then s.keyToken fun c => (anchorName c).map fun r => (.anchor r.1, r.2)
  else if ch = '!' then s.keyToken tagToken
  else if (ch = '|' || ch = '>') && s.inBlock then s.blockScalar
  else if ch = '\'' || ch = '"' then s.keyToken quoted
  else if s.atPlain then s.plainScalar
  else fault "a character that begins nothing"

/-- Adds all tokens. Every one but the last takes a character. -/
def run : Nat → Lexer → Except Error Lexer
  | 0, s => .ok s
  | fuel + 1, s => do
    let s := skipBlanks (s.cursor.rest.length + 1) s
    let s ← s.forgetStale
    let s := s.unwind s.cursor.column
    if s.cursor.rest = [] then s.closeAll
    else
      let s ← s.next
      run fuel s

end Lexer

def isAllowed (c : Char) : Bool :=
  c = '\t' || c = '\n' || c = '\r' || decide (' ' ≤ c ∧ c ≤ '~') || c = '\u0085' ||
    (decide ('\u00a0' ≤ c) && c ≠ '\ufffe' && c ≠ '\uffff')

/-- The tokens of a text. A mark of byte order at its start is no part of it. -/
def tokens (cs : List Char) : Except Error (List Token) :=
  if cs.all isAllowed then
    let start : Cursor := ⟨cs, 0, 0, 0⟩
    let start := if start.peek = orderMark then start.step else start
    (Lexer.run (cs.length + 1) { cursor := start }).map fun s => s.tokens.toList
  else fault "a control character"

end MetadataBag.Yaml
