import MetadataBag.Error

/-!
Texts and keys of a TOML document. A basic text has escapes and a literal one has none; either
may run over several lines between three quotes.
-/

namespace MetadataBag.Toml

/-- What a text that is no document is answered with. -/
def fault {α : Type} (reason : String) : Except Error α := .error (.toml reason)

def isBlank (c : Char) : Bool := c = ' ' || c = '\t'

def isBlankOrBreak (c : Char) : Bool := isBlank c || c = '\n'

def skip (cs : List Char) : List Char := cs.dropWhile isBlank

/-- Control characters, which may stand nowhere but for tabs, and breaks in longer texts. -/
def isControl (c : Char) : Bool := (c.toNat < 0x20 && c ≠ '\t') || c = '\x7f'

/-- Whether a text may hold a character as it is. -/
def isAdmitted (multi : Bool) (c : Char) : Bool := !isControl c || (multi && c = '\n')

def skipComment (cs : List Char) : Except Error (List Char) :=
  match cs with
  | '#' :: rest =>
    if (rest.takeWhile (· ≠ '\n')).all (!isControl ·) then .ok (rest.dropWhile (· ≠ '\n'))
    else fault "a control character in a comment"
  | _ => .ok cs

/-! ### Literal texts -/

/-- A literal text on one line, behind its quote. -/
def literal (cs : List Char) : Except Error (String × List Char) :=
  let body := cs.takeWhile (· ≠ '\'')
  match cs.dropWhile (· ≠ '\'') with
  | [] => fault "a text without end"
  | _ :: rest =>
    if body.all (isAdmitted false) then .ok (String.ofList body, rest)
    else fault "a control character in a text"

/-- Up to two quotes before the three that close a text belong to it. -/
def closed (quote : Char) (done : List Char) (cs : List Char) : String × List Char :=
  match cs with
  | c :: d :: rest =>
    if c = quote ∧ d = quote then (String.ofList (d :: c :: done).reverse, rest)
    else if c = quote then (String.ofList (c :: done).reverse, d :: rest)
    else (String.ofList done.reverse, cs)
  | [c] =>
    if c = quote then (String.ofList (c :: done).reverse, []) else (String.ofList done.reverse, cs)
  | [] => (String.ofList done.reverse, [])

/-- A literal text on several lines; `done` is what was read of it, the last first. -/
def longLiteral (done : List Char) : List Char → Except Error (String × List Char)
  | '\'' :: '\'' :: '\'' :: rest => .ok (closed '\'' done rest)
  | c :: rest =>
    if isAdmitted true c then longLiteral (c :: done) rest
    else fault "a control character in a text"
  | [] => fault "a text without end"

/-! ### Basic texts -/

def hexDigit? (c : Char) : Option Nat :=
  if c.isDigit then some (c.toNat - 0x30)
  else if 'a' ≤ c ∧ c ≤ 'f' then some (c.toNat - 0x57)
  else if 'A' ≤ c ∧ c ≤ 'F' then some (c.toNat - 0x37)
  else none

def hexNumber? (cs : List Char) : Option Nat :=
  cs.foldlM (fun n c => (hexDigit? c).map (16 * n + ·)) 0

/-- The character with a code point; surrogates are none. -/
def character (digits : List Char) : Except Error Char :=
  match hexNumber? digits with
  | none => fault "an escape without digits"
  | some n =>
    if h : n.isValidChar then .ok (Char.ofNatAux n h) else fault "an escape of no character"

/-- What the letter behind a backslash stands for. -/
def escapes : List (Char × Char) :=
  [ ('b', '\x08'), ('t', '\t'), ('n', '\n'), ('f', '\x0c'), ('r', '\r'), ('"', '"'),
    ('\\', '\\') ]

/-- Blanks and line breaks behind a backslash at the end of a line are no part of a text. -/
inductive Gap where
  | none
  /-- Before the end of the line: there may only be blanks. -/
  | before
  | behind
  deriving DecidableEq

/-- A basic text; `done` is what was read of it, the last first. -/
def basic (multi : Bool) : Gap → List Char → List Char → Except Error (String × List Char)
  | _, _, [] => fault "a text without end"
  | .before, done, c :: rest =>
    if isBlank c then basic multi .before done rest
    else if c = '\n' then basic multi .behind done rest
    else fault "a backslash that escapes nothing"
  | _, done, '"' :: rest =>
    if !multi then .ok (String.ofList done.reverse, rest)
    else
      match rest with
      | '"' :: '"' :: rest => .ok (closed '"' done rest)
      | _ => basic multi .none ('"' :: done) rest
  | _, done, '\\' :: 'u' :: a :: b :: c :: d :: rest => do
    let ch ← character [a, b, c, d]
    basic multi .none (ch :: done) rest
  | _, done, '\\' :: 'U' :: a :: b :: c :: d :: e :: f :: g :: h :: rest => do
    let ch ← character [a, b, c, d, e, f, g, h]
    basic multi .none (ch :: done) rest
  | _, done, '\\' :: c :: rest =>
    match escapes.find? fun e => e.1 = c with
    | some (_, image) => basic multi .none (image :: done) rest
    | none =>
      if multi && isBlank c then basic multi .before done rest
      else if multi && c = '\n' then basic multi .behind done rest
      else fault "a backslash that escapes nothing"
  | gap, done, c :: rest =>
    if gap = .behind && isBlankOrBreak c then basic multi .behind done rest
    else if isAdmitted multi c then basic multi .none (c :: done) rest
    else fault "a control character in a text"

/-- A line break right behind the opening quotes does not count. -/
def dropBreak (cs : List Char) : List Char :=
  match cs with
  | '\n' :: rest => rest
  | _ => cs

def text (cs : List Char) : Except Error (String × List Char) :=
  match cs with
  | '"' :: '"' :: '"' :: rest => basic true .none [] (dropBreak rest)
  | '"' :: rest => basic false .none [] rest
  | '\'' :: '\'' :: '\'' :: rest => longLiteral [] (dropBreak rest)
  | '\'' :: rest => literal rest
  | _ => fault "no text"

/-! ### Keys -/

def isBare (c : Char) : Bool := c.isAlphanum || c = '-' || c = '_'

def startsKey (c : Char) : Bool := isBare c || c = '"' || c = '\''

/-- A part of a key: a bare word or a text on one line. -/
def keyPart (cs : List Char) : Except Error (String × List Char) :=
  match cs with
  | '"' :: rest => basic false .none [] rest
  | '\'' :: rest => literal rest
  | _ =>
    let word := cs.takeWhile isBare
    if word = [] then fault "no key" else .ok (String.ofList word, cs.dropWhile isBare)

/-- A key in front of blanks: parts with points between, each point costs one of `fuel`. -/
def key : Nat → List Char → Except Error (List String × List Char)
  | 0, _ => fault "no key"
  | fuel + 1, cs => do
    let (part, rest) ← keyPart cs
    match skip rest with
    | '.' :: rest => do
      let (parts, rest) ← key fuel (skip rest)
      pure (part :: parts, rest)
    | rest => pure ([part], rest)

end MetadataBag.Toml
