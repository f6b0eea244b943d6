import MetadataBag.Toml.Scalar
import MetadataBag.Toml.Table

/-!
TOML documents: statements, each on a line of its own, that open tables and give keys values.
-/

namespace MetadataBag.Toml

/-! ### Values -/

/-- Moves over blanks, line breaks and comments; each comment costs one of `fuel`. -/
def skipLines : Nat → List Char → Except Error (List Char)
  | 0, cs => .ok cs
  | fuel + 1, cs =>
    match cs.dropWhile isBlankOrBreak with
    | '#' :: rest => (skipComment ('#' :: rest)).bind (skipLines fuel)
    | rest => .ok rest

mutual

/-- A value and the rest of a text. Every call behind a character costs one of `fuel`. -/
def value : Nat → List Char → Except Error (Value × List Char)
  | 0, _ => fault "no value"
  | fuel + 1, cs =>
    match cs with
    | '"' :: _ | '\'' :: _ => (text cs).map fun r => (.text r.1, r.2)
    | '[' :: rest => do
      let rest ← skipLines rest.length rest
      let (vs, rest) ← items fuel [] rest
      pure (.list vs, rest)
    | '\x7b' :: rest =>
      match skip rest with
      | '\x7d' :: rest => .ok (.map [], rest)
      | rest => do
        let (es, rest) ← inlineEntries fuel [] rest
        pure (.map (entryValues es), rest)
    | _ => scalar cs

/-- The members of a list behind those in `done`, the last first. -/
def items : Nat → List Value → List Char → Except Error (List Value × List Char)
  | 0, _, _ => fault "a list without end"
  | fuel + 1, done, cs =>
    match cs with
    | ']' :: rest => .ok (done.reverse, rest)
    | _ => do
      let (v, rest) ← value fuel cs
      let rest ← skipLines rest.length rest
      match rest with
      | ',' :: rest => do
        let rest ← skipLines rest.length rest
        items fuel (v :: done) rest
      | ']' :: rest => pure ((v :: done).reverse, rest)
      | _ => fault "a list without end"

/-- The entries of a table on one line, behind the given ones. -/
def inlineEntries : Nat → Entries → List Char → Except Error (Entries × List Char)
  | 0, _, _ => fault "a table without end"
  | fuel + 1, es, cs => do
    let ((path, v), rest) ← keyValue fuel cs
    let es ← es.assign 0 v path
    match skip rest with
    | '\x7d' :: rest => pure (es, rest)
    | ',' :: rest => inlineEntries fuel es (skip rest)
    | _ => fault "a table without end"

def keyValue : Nat → List Char → Except Error ((List String × Value) × List Char)
  | 0, _ => fault "no key"
  | fuel + 1, cs => do
    let (path, rest) ← key cs.length cs
    match rest with
    | '=' :: rest => do
      let (v, rest) ← value fuel (skip rest)
      pure ((path, v), rest)
    | _ => fault "a key without a value"

end

/-! ### Statements -/

/-- What has been read of a document: the entries so far, and the table of the current section. -/
structure Reading where
  entries : Entries := []
  current : Nat := 0
  header : List String := []

/-- Enters the section of a header. The path of a header is not empty. -/
def Reading.enter (r : Reading) (path : List String)
    (f : Nat → String → Entries → Except Error Entries) : Except Error Reading := do
  match path.getLast? with
  | none => fault "no key"
  | some name =>
    let current := r.current + 1
    let entries ← r.entries.alter (f current name) path.dropLast
    pure { entries, current, header := path }

def closing (brackets : Nat) (cs : List Char) : Except Error (List Char) :=
  match brackets, cs with
  | 0, _ => .ok cs
  | n + 1, ']' :: rest => closing n rest
  | _ + 1, _ => fault "a header without end"

/-- Reads a statement: a header, or a key with its value. Comments and blank lines are none. -/
def Reading.statement (r : Reading) (cs : List Char) : Except Error (Reading × List Char) :=
  match cs with
  | '[' :: '[' :: rest => do
    let (path, rest) ← key rest.length (skip rest)
    let r ← r.enter path fun _ name es => es.addTable name
    -- a table that cannot be opened is a fault before a header without end is one
    let rest ← closing 2 rest
    pure (r, skip rest)
  | '[' :: rest => do
    let (path, rest) ← key rest.length (skip rest)
    let r ← r.enter path fun current name es => es.openTable current name
    let rest ← closing 1 rest
    pure (r, skip rest)
  | c :: _ =>
    if startsKey c then do
      let ((path, v), rest) ← keyValue (2 * cs.length) cs
      let entries ← r.entries.alter (fun es => es.assign r.current v path) r.header
      pure ({ r with entries }, skip rest)
    else if c = '#' ∨ c = '\n' then .ok (r, cs)
    else fault "Invalid statement"
  | [] => .ok (r, [])

/-- Reads the lines of a document; each line costs one of `fuel`. -/
def Reading.lines : Nat → Reading → List Char → Except Error Reading
  | 0, r, _ => .ok r
  | fuel + 1, r, cs =>
    match skip cs with
    | [] => .ok r
    | c :: rest => do
      let (r, rest) ← r.statement (c :: rest)
      let rest ← skipComment rest
      match rest with
      | [] => pure r
      | '\n' :: rest => r.lines fuel rest
      | _ => fault "more behind a statement"

/-- Line breaks of two characters as one. -/
def unifyBreaks : List Char → List Char
  | '\r' :: '\n' :: rest => '\n' :: unifyBreaks rest
  | c :: rest => c :: unifyBreaks rest
  | [] => []

def read (s : String) : Except Error (List (Value × Value)) := do
  let cs := unifyBreaks s.toList
  let r ← Reading.lines (cs.length + 1) {} cs
  pure (entryValues r.entries)

end MetadataBag.Toml
