import MetadataBag.Yaml.Token

/-!
The texts of scalars: in quotes, in an indented block, and plain. A line break inside a quoted or
plain scalar becomes a space; further empty lines become line breaks.
-/

namespace MetadataBag.Yaml

/-- What a line break and the empty lines after it become. -/
def folded (first more : List Char) : List Char :=
  if first ≠ ['\n'] then first ++ more else if more = [] then [' '] else more

/-! ### Quoted scalars -/

/-- The characters that a letter behind a backslash stands for. -/
def escapes : List (Char × Char) :=
  [ ('0', '\x00'), ('a', '\x07'), ('b', '\x08'), ('t', '\t'), ('\t', '\t'), ('n', '\n'),
    ('v', '\x0b'), ('f', '\x0c'), ('r', '\r'), ('e', '\x1b'), (' ', ' '), ('"', '"'),
    ('\\', '\\'), ('/', '/'), ('N', '\u0085'), ('_', '\u00a0'), ('L', '\u2028'), ('P', '\u2029') ]

/-- How many hexadecimal digits follow a letter behind a backslash. -/
def escapeWidth? (c : Char) : Option Nat :=
  if c = 'x' then some 2 else if c = 'u' then some 4 else if c = 'U' then some 8 else none

/-- The second half of a character that is written as two escapes. -/
def lowHalf? (c : Cursor) : Option Nat :=
  if c.peek = '\\' && c.peek 1 = 'u' then
    (hexNumber? 4 (c.rest.drop 2)).filter fun n => decide (0xdc00 ≤ n ∧ n < 0xe000)
  else none

/-- The character of an escape by number. Two escapes may be the halves of one character. -/
def numbered (width : Nat) (c : Cursor) : Except Error (Char × Cursor) :=
  match hexNumber? width c.rest with
  | none => fault "an escape without number"
  | some n =>
    let after := c.skip width
    if 0x110000 ≤ n then .error (.scalar "an escape beyond all characters")
    else if 0xd800 ≤ n ∧ n < 0xdc00 then
      match lowHalf? after with
      | some low => .ok (Char.ofNat (0x10000 + (n - 0xd800) * 0x400 + (low - 0xdc00)), after.skip 6)
      | none => .ok ('\ufffd', after)
    else if 0xdc00 ≤ n ∧ n < 0xe000 then .ok ('\ufffd', after)
    else .ok (Char.ofNat n, after)

/-- The empty lines inside a quoted scalar. A line that separates documents ends the text. -/
def emptyLines : Nat → Cursor → Except Error (List Char × Cursor)
  | 0, c => .ok ([], c)
  | fuel + 1, c =>
    if c.atSeparator then fault "a document ends inside quotes"
    else
      let c := c.skipWhile isSpaceOrTab
      if isBreak c.peek then do
        let (more, after) ← emptyLines fuel c.lineBreak.2
        pure (c.lineBreak.1 ++ more, after)
      else .ok ([], c)

def escape (c : Cursor) : Except Error (List Char × Cursor) :=
  let letter := c.peek 1
  let after := c.skip 2
  match escapes.find? fun e => e.1 = letter with
  | some (_, image) => .ok ([image], after)
  | none =>
    match escapeWidth? letter with
    | some width => (numbered width after).map fun r => ([r.1], r.2)
    | none =>
      if isBreak letter then
        let next := c.step.lineBreak.2
        emptyLines (next.rest.length + 1) next
      else fault "an unknown escape"

/-- Reads blanks inside quotes: a line break is folded, other blanks are kept. -/
def quotedBlanks (c : Cursor) : Except Error (List Char × Cursor) :=
  let (blanks, c) := c.span isSpaceOrTab
  if isBreak c.peek then do
    let (first, c) := c.lineBreak
    let (more, c) ← emptyLines (c.rest.length + 1) c
    pure (folded first more, c)
  else .ok (blanks, c)

/-- Reads up to the closing quote; `done` is what has been read, backwards. -/
def quotedFrom (isDouble : Bool) (done : List Char) : Nat → Cursor → Except Error (String × Cursor)
  | 0, _ => fault "quotes are not closed"
  | fuel + 1, c =>
    let ch := c.peek
    if c.rest = [] then fault "quotes are not closed"
    else if isSpaceOrTab ch || isBreak ch then do
      let (cs, c) ← quotedBlanks c
      quotedFrom isDouble (cs.reverse ++ done) fuel c
    else if !isDouble && ch = '\'' && c.peek 1 = '\'' then
      quotedFrom isDouble ('\'' :: done) fuel (c.skip 2)
    else if ch = (if isDouble then '"' else '\'') then .ok (String.ofList done.reverse, c.step)
    else if isDouble && ch = '\\' then do
      let (cs, c) ← escape c
      quotedFrom isDouble (cs.reverse ++ done) fuel c
    else quotedFrom isDouble (ch :: done) fuel c.step

def quoted (c : Cursor) : Except Error (Token × Cursor) :=
  (quotedFrom (c.peek = '"') [] (c.rest.length + 1) c.step).map fun r => (.scalar r.1 false, r.2)

/-! ### Block scalars -/

/-- What becomes of the line breaks at the end of a block. -/
inductive Chomping where
  | strip
  | clip
  | keep
  deriving DecidableEq

def chomping? (c : Char) : Option Chomping :=
  if c = '+' then some .keep else if c = '-' then some .strip else none

/-- Reads the signs behind the indicator of a block: chomping and indentation in either order. -/
def blockHeader (c : Cursor) : Except Error (Chomping × Option Nat × Cursor) := do
  let digit (c : Cursor) : Except Error (Option Nat × Cursor) :=
    if c.peek.isDigit then
      if c.peek = '0' then fault "an indentation of nothing"
      else .ok (some (c.peek.toNat - 48), c.step)
    else .ok (none, c)
  let (mode, width, c) ← match chomping? c.peek with
    | some mode => do
      let (width, c) ← digit c.step
      pure (mode, width, c)
    | none => do
      let (width, c) ← digit c
      match width, chomping? c.peek with
      | some _, some mode => pure (mode, width, c.step)
      | _, _ => pure (.clip, width, c)
  if endsLine c.peek || c.peek = ' ' then pure (mode, width, c)
  else fault "text behind a block sign"

def skipIndent (indent : Nat) (c : Cursor) : Cursor :=
  c.skip (Nat.min (indent - c.column) (c.rest.takeWhile isSpace).length)

def blockBreaks (indent : Nat) : Nat → Cursor → List Char × Cursor
  | 0, c => ([], c)
  | fuel + 1, c =>
    let c := skipIndent indent c
    if isBreak c.peek then
      let (more, after) := blockBreaks indent fuel c.lineBreak.2
      (c.lineBreak.1 ++ more, after)
    else ([], c)

/-- The empty lines before the first line of a block, and the widest indentation up to it. -/
def blockIndent (widest : Nat) : Nat → Cursor → List Char × Nat × Cursor
  | 0, c => ([], widest, c)
  | fuel + 1, c =>
    if c.peek = ' ' then blockIndent (Nat.max widest c.step.column) fuel c.step
    else if isBreak c.peek then
      let (more, widest, after) := blockIndent widest fuel c.lineBreak.2
      (c.lineBreak.1 ++ more, widest, after)
    else ([], widest, c)

/-- The lines of a block: the text so far backwards, the last line break, and the empty lines
after it. -/
def blockLines (isFolded : Bool) (indent : Nat) (done : List Char) (breaks : List Char) :
    Nat → Cursor → List Char × List Char × List Char × Cursor
  | 0, c => (done, [], breaks, c)
  | fuel + 1, c =>
    if c.column = indent ∧ c.rest ≠ [] then
      let isText := !isSpaceOrTab c.peek
      let (line, c) := c.span fun ch => !endsLine ch
      let done := line.reverse ++ breaks.reverse ++ done
      let (last, c) := c.lineBreak
      let (breaks, c) := blockBreaks indent (c.rest.length + 1) c
      if c.column = indent ∧ c.rest ≠ [] then
        if isFolded && last = ['\n'] && isText && !isSpaceOrTab c.peek then
          blockLines isFolded indent (if breaks = [] then ' ' :: done else done) breaks fuel c
        else blockLines isFolded indent (last.reverse ++ done) breaks fuel c
      else (done, last, breaks, c)
    else (done, [], breaks, c)

/-- Reads a block scalar inside a collection of an indentation. -/
def block (outer : Int) (c : Cursor) : Except Error (Token × Cursor) := do
  let isFolded : Bool := c.peek = '>'
  let (mode, width, c) ← blockHeader c.step
  let c ← skipLine c
  let least := Nat.max 1 (outer + 1).toNat
  let fuel := c.rest.length + 1
  let (breaks, indent, c) := match width with
    | some w =>
      let (breaks, c) := blockBreaks (least + w - 1) fuel c
      (breaks, least + w - 1, c)
    | none =>
      let (breaks, widest, c) := blockIndent 0 fuel c
      (breaks, Nat.max least widest, c)
  let (done, last, breaks, c) := blockLines isFolded indent [] breaks fuel c
  let tail := match mode with
    | .strip => []
    | .clip => last
    | .keep => last ++ breaks
  pure (.scalar (String.ofList (done.reverse ++ tail)) false, c)

/-! ### Plain scalars -/

/-- Whether a plain scalar ends before a character; inside brackets it ends before their signs. -/
def endsPlain (inFlow : Bool) (ch next : Char) : Bool :=
  endsWord ch ||
    (ch = ':' && (endsWord next || inFlow && next ∈ [',', '[', ']', '\x7b', '\x7d'])) ||
    (inFlow && ch ∈ [',', '?', '[', ']', '\x7b', '\x7d'])

/-- The length of the run of a plain scalar without blanks. -/
def plainRun (inFlow : Bool) : List Char → Nat
  | [] => 0
  | ch :: rest =>
    if endsPlain inFlow ch (rest.head?.getD endMark) then 0 else plainRun inFlow rest + 1

/-- The empty lines and spaces before the next line of a plain scalar; none where a document
ends. -/
def plainBreaks : Nat → Cursor → Option (List Char) × Cursor
  | 0, c => (some [], c)
  | fuel + 1, c =>
    if c.peek = ' ' then plainBreaks fuel c.step
    else if isBreak c.peek then
      let (first, c) := c.lineBreak
      if c.atSeparator then (none, c)
      else
        let (more, c) := plainBreaks fuel c
        (more.map (first ++ ·), c)
    else (some [], c)

/-- The blanks after a run: what they become, and whether a line ends in them. Nothing is given
where the scalar ends. -/
def plainBlanks (c : Cursor) : List Char × Bool × Cursor :=
  let (spaces, c) := c.span isSpace
  if isBreak c.peek then
    let (first, c) := c.lineBreak
    if c.atSeparator then ([], true, c)
    else
      match plainBreaks (c.rest.length + 1) c with
      | (none, c) => ([], true, c)
      | (some more, c) => (folded first more, true, c)
  else (spaces, false, c)

/-- The runs of a plain scalar; `blanks` stand before the next one. -/
def plainFrom (inFlow : Bool) (indent : Int) (done blanks : List Char) (newLine : Bool) :
    Nat → Cursor → List Char × Bool × Cursor
  | 0, c => (done, newLine, c)
  | fuel + 1, c =>
    let n := if c.peek = '#' then 0 else plainRun inFlow c.rest
    if n = 0 then (done, newLine, c)
    else
      let done := (c.rest.take n).reverse ++ blanks.reverse ++ done
      let (blanks, newLine, c) := plainBlanks (c.skip n)
      if blanks = [] || c.peek = '#' || (!inFlow && (c.column : Int) < indent) then
        (done, newLine, c)
      else plainFrom inFlow indent done blanks newLine fuel c

/-- Reads a plain scalar; also tells whether a line ended behind it. -/
def plain (inFlow : Bool) (outer : Int) (c : Cursor) : Token × Bool × Cursor :=
  let (done, newLine, c) := plainFrom inFlow (outer + 1) [] [] false (c.rest.length + 1) c
  (.scalar (String.ofList done.reverse) true, newLine, c)

end MetadataBag.Yaml
