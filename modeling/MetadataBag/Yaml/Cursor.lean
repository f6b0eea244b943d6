import MetadataBag.Error

/-!
A place in a YAML text: what is still to be read, and how far it is from the start of the text
and of its line.
-/

namespace MetadataBag.Yaml

/-- What a text that is no document is answered with. -/
def fault {α : Type} (reason : String) : Except Error α := .error (.yaml reason)

/-- What is read behind the end of a text. No text holds it. -/
def endMark : Char := '\x00'

/-- A mark of byte order, which takes up no column. -/
def orderMark : Char := '\ufeff'

def isBreak (c : Char) : Bool :=
  c = '\n' || c = '\r' || c = '\u0085' || c = '\u2028' || c = '\u2029'

def endsLine (c : Char) : Bool := isBreak c || c = endMark

def endsWord (c : Char) : Bool := endsLine c || c = ' ' || c = '\t'

def isSpace (c : Char) : Bool := c = ' '

def isSpaceOrTab (c : Char) : Bool := c = ' ' || c = '\t'

structure Cursor where
  rest : List Char
  index : Nat := 0
  line : Nat := 0
  column : Nat := 0
  deriving Inhabited

namespace Cursor

def peek (c : Cursor) (k : Nat := 0) : Char := (c.rest[k]?).getD endMark

def step (c : Cursor) : Cursor :=
  match c.rest with
  | [] => c
  | ch :: rest =>
    if isBreak ch && !(ch = '\r' && rest.head? = some '\n') then
      ⟨rest, c.index + 1, c.line + 1, 0⟩
    else if ch = orderMark then ⟨rest, c.index + 1, c.line, c.column⟩
    else ⟨rest, c.index + 1, c.line, c.column + 1⟩

def skip (c : Cursor) : Nat → Cursor
  | 0 => c
  | n + 1 => c.step.skip n

def skipWhile (p : Char → Bool) (c : Cursor) : Cursor := c.skip (c.rest.takeWhile p).length

/-- The characters of a class at the cursor, and the place after them. -/
def span (p : Char → Bool) (c : Cursor) : List Char × Cursor :=
  (c.rest.takeWhile p, c.skipWhile p)

/-- Moves over the rest of a line that is a comment. -/
def skipComment (c : Cursor) : Cursor :=
  if c.peek = '#' then c.skipWhile fun ch => !endsLine ch else c

/-- The line break at the cursor, as it counts in a text, and the place after it. -/
def lineBreak (c : Cursor) : List Char × Cursor :=
  let ch := c.peek
  if ch = '\r' && c.peek 1 = '\n' then (['\n'], c.skip 2)
  else if ch = '\r' || ch = '\n' || ch = '\u0085' then (['\n'], c.step)
  else if isBreak ch then ([ch], c.step)
  else ([], c)

/-- Whether three characters that mark a document stand at the cursor. -/
def atMarker (mark : Char) (c : Cursor) : Bool :=
  c.peek = mark && c.peek 1 = mark && c.peek 2 = mark && endsWord (c.peek 3)

def atSeparator (c : Cursor) : Bool := c.atMarker '-' || c.atMarker '.'

end Cursor

end MetadataBag.Yaml
