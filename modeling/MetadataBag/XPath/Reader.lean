import MetadataBag.XPath.Syntax
import MetadataBag.XPath.Number
import MetadataBag.Markup.Char

/-!
Expressions from text. Operators that are words need no blanks around them, and an argument list
may stay open at the end of the text behind `(` or a comma.

What is read comes with the rest of the text. Every recursive function takes fuel that it passes
on less one. Between two characters that are read there are fewer calls than `callsPerChar`, so
that the fuel of `Expr.read` is never used up.
-/

namespace MetadataBag.XPath

open Markup (isLetter isNameChar)

namespace Reader

def skip (cs : List Char) : List Char := cs.dropWhile isBlank

/-! ### Names and literals -/

def name? : List Char → Option (String × List Char)
  | [] => none
  | c :: rest =>
    if isLetter c then
      some (String.ofList (c :: rest.takeWhile isNameChar), rest.dropWhile isNameChar)
    else none

def name (cs : List Char) : Except Fault (String × List Char) :=
  match name? cs with
  | some r => .ok r
  | none => .error .malformed

def prefixedName (cs : List Char) : Except Fault ((Option String × String) × List Char) := do
  let (n, rest) ← name cs
  match rest with
  | ':' :: rest =>
    let (l, rest) ← name rest
    pure ((some n, l), rest)
  | _ => pure ((none, n), rest)

/-- A literal: the text up to the quote that it began with. -/
def literal : List Char → Except Fault (String × List Char)
  | [] => .error .malformed
  | q :: rest =>
    if q = '"' ∨ q = '\'' then
      match rest.dropWhile (· ≠ q) with
      | [] => .error .malformed
      | _ :: after => .ok (String.ofList (rest.takeWhile (· ≠ q)), after)
    else .error .malformed

/-- Expects a character and skips blanks behind it. -/
def closing (c : Char) : List Char → Except Fault (List Char)
  | [] => .error .malformed
  | d :: rest => if d = c then .ok (skip rest) else .error .malformed

/-! ### Operators -/

/-- The binary operators by level, the loosest first. -/
def levels : List (List (String × Operator)) :=
  [ [("or", .or)],
    [("and", .and)],
    [("=", .equal), ("!=", .unequal)],
    [("<=", .lessEqual), ("<", .less), (">=", .greaterEqual), (">", .greater)],
    [("+", .plus), ("-", .minus)],
    [("*", .times), ("div", .divide), ("mod", .modulo)] ]

def unions : List (String × Operator) := [("|", .union)]

def after? : List Char → List Char → Option (List Char)
  | [], cs => some cs
  | _ :: _, [] => none
  | w :: ws, c :: cs => if w = c then after? ws cs else none

def operator? (ops : List (String × Operator)) (cs : List Char) : Option (Operator × List Char) :=
  ops.findSome? fun e => (after? e.1.toList cs).map fun rest => (e.2, rest)

/-- Minus signs: none, or whether their number is odd. -/
def signs (sign : Option Bool) : List Char → Option Bool × List Char
  | [] => (sign, [])
  | c :: rest =>
    if c = '-' then signs (some (!sign.getD false)) rest
    else if isBlank c then signs sign rest
    else (sign, c :: rest)

/-! ### Steps -/

/-- What a text begins with where an operand is expected. -/
inductive Start where
  | value
  | path
  deriving DecidableEq

/-- Whether a word before a parenthesis calls a function; the kinds of nodes do not. -/
def isCall (word rest : List Char) : Bool :=
  (NodeKind.ofName? (String.ofList word)).isNone && (skip rest).head? = some '('

/-- Whether a word holds the two colons behind an axis. -/
def hasAxis : List Char → Bool
  | ':' :: ':' :: _ => true
  | _ :: rest => hasAxis rest
  | [] => false

def start? (cs : List Char) : Option Start :=
  match cs with
  | [] => none
  | '.' :: d :: _ => if d.isDigit then some .value else some .path
  | c :: _ =>
    if c ∈ ['$', '(', '\'', '"'] || c.isDigit then some .value
    else if c ∈ ['*', '/', '@', '.'] then some .path
    else if isLetter c || c = ':' then
      let word := cs.takeWhile fun d => isNameChar d || d = ':'
      if !hasAxis word && isCall word (cs.drop word.length) then some .value else some .path
    else none

/-- The axis of a step, and a name that was read and is no axis. -/
def axis (cs : List Char) : (Axis × Option String) × List Char :=
  match cs with
  | '@' :: rest => ((.attributes, none), rest)
  | _ =>
    match name? cs with
    | none => ((.child, none), cs)
    | some (n, rest) =>
      match Axis.ofName? n with
      | none => ((.child, some n), rest)
      | some a =>
        match skip rest with
        | ':' :: ':' :: rest => ((a, none), rest)
        | rest => ((.child, some n), rest)

/-- A test by kind, behind its parenthesis. An instruction may be named by a literal. -/
def kindTest (word : String) (cs : List Char) : Except Fault (NodeTest × List Char) :=
  match NodeKind.ofName? word with
  | none => .error .malformed
  | some k => do
    let rest ← if k = .instruction && cs.head? ≠ some ')' then
        (literal cs).map fun r => skip r.2
      else .ok cs
    match rest with
    | ')' :: rest => .ok (.kind k, rest)
    | _ => .error .malformed

/-- A test by name or kind, behind its first name. No blank stands before a colon. -/
def testFrom (word : String) (cs : List Char) : Except Fault (NodeTest × List Char) :=
  match skip cs, cs with
  | '(' :: rest, _ => kindTest word (skip rest)
  | _, ':' :: '*' :: rest => .ok (.named (some word) none, rest)
  | _, ':' :: rest => (name rest).map fun r => (.named (some word) (some r.1), r.2)
  | rest, _ => .ok (.named none (some word), rest)

def nodeTest (word : Option String) (cs : List Char) : Except Fault (NodeTest × List Char) :=
  match word, skip cs with
  | some w, _ => testFrom w cs
  | none, '*' :: rest => .ok (.named none none, rest)
  | none, rest => (name rest).bind fun r => testFrom r.1 r.2

/-- Whether a step follows the slash of the document. -/
def startsStep (cs : List Char) : Bool :=
  match cs with
  | [] => false
  | c :: _ => c.isAlpha || c ∈ ['_', '.', '@', '*']

/-! ### Expressions -/

mutual

def expression : Nat → List Char → Except Fault (Expr × List Char)
  | 0, _ => .error .malformed
  | fuel + 1, cs => chain fuel levels cs

/-- Operands of the tighter levels, joined to the left by the operators of the first. -/
def chain : Nat → List (List (String × Operator)) → List Char → Except Fault (Expr × List Char)
  | 0, _, _ => .error .malformed
  | fuel + 1, [], cs => signedExpr fuel cs
  | fuel + 1, ops :: tighter, cs => do
    let (e, rest) ← chain fuel tighter cs
    chainFrom fuel ops tighter e (skip rest)

def chainFrom : Nat → List (String × Operator) → List (List (String × Operator)) → Expr →
    List Char → Except Fault (Expr × List Char)
  | 0, _, _, _, _ => .error .malformed
  | fuel + 1, ops, tighter, e, cs =>
    match operator? ops cs with
    | none => .ok (e, cs)
    | some (op, rest) => do
      let (e', rest) ← chain fuel tighter (skip rest)
      chainFrom fuel ops tighter (.binary op e e') (skip rest)

def signedExpr : Nat → List Char → Except Fault (Expr × List Char)
  | 0, _ => .error .malformed
  | fuel + 1, cs => do
    let (sign, cs) := signs none cs
    let (e, rest) ← path fuel cs
    let (e, rest) ← unionFrom fuel e (skip rest)
    match sign with
    | none => pure (e, rest)
    | some negative => pure (.signed negative e, rest)

def unionFrom : Nat → Expr → List Char → Except Fault (Expr × List Char)
  | 0, _, _ => .error .malformed
  | fuel + 1, e, cs =>
    match operator? unions cs with
    | none => .ok (e, cs)
    | some (op, rest) => do
      let (e', rest) ← path fuel (skip rest)
      unionFrom fuel (.binary op e e') (skip rest)

/-- A path, or a value with the path that begins at it. -/
def path : Nat → List Char → Except Fault (Expr × List Char)
  | 0, _ => .error .malformed
  | fuel + 1, cs =>
    let cs := skip cs
    match start? cs, cs with
    | none, _ => .error .malformed
    | some .path, '/' :: _ => absolute fuel .document cs
    | some .path, _ => relative fuel .here cs
    | some .value, _ => do
      let (e, rest) ← primary fuel cs
      let (e, rest) ← filterFrom fuel e (skip rest)
      match rest with
      | '/' :: '/' :: rest => relative fuel e.deep (skip rest)
      | '/' :: _ => relative fuel e rest
      | _ => pure (e, rest)

def primary : Nat → List Char → Except Fault (Expr × List Char)
  | 0, _ => .error .malformed
  | fuel + 1, cs =>
    match cs with
    | [] => .error .malformed
    | '$' :: rest => (prefixedName rest).map fun r => (.variable r.1.2, r.2)
    | '(' :: rest => do
      let (e, rest) ← expression fuel (skip rest)
      let rest ← closing ')' rest
      pure (e, rest)
    | c :: _ =>
      if c = '\'' ∨ c = '"' then (literal cs).map fun r => (.literal r.1, r.2)
      else if c = '.' || c.isDigit then
        match Number.read? cs with
        | some (x, rest) => .ok (.number x, rest)
        | none => .error .malformed
      else do
        let ((pre, n), rest) ← prefixedName cs
        let rest ← closing '(' (skip rest)
        let (args, rest) ← match rest with
          | ')' :: rest => .ok ([], rest)
          | _ => arguments fuel [] rest
        pure (.call pre n args, rest)

/-- Arguments behind those already read, last first. The end of the text ends them too. -/
def arguments : Nat → List Expr → List Char → Except Fault (List Expr × List Char)
  | 0, _, _ => .error .malformed
  | _ + 1, done, [] => .ok (done.reverse, [])
  | fuel + 1, done, cs => do
    let (e, rest) ← expression fuel cs
    match rest with
    | ')' :: rest => pure ((e :: done).reverse, rest)
    | ',' :: rest => arguments fuel (e :: done) (skip rest)
    | _ => .error .malformed

def filterFrom : Nat → Expr → List Char → Except Fault (Expr × List Char)
  | 0, _, _ => .error .malformed
  | fuel + 1, e, cs =>
    match cs with
    | '[' :: rest => do
      let (p, rest) ← expression fuel (skip rest)
      let rest ← closing ']' rest
      filterFrom fuel (.filter e p) rest
    | _ => .ok (e, cs)

def conditions : Nat → List Expr → List Char → Except Fault (List Expr × List Char)
  | 0, _, _ => .error .malformed
  | fuel + 1, done, cs =>
    match cs with
    | '[' :: rest => do
      let (p, rest) ← expression fuel (skip rest)
      let rest ← closing ']' rest
      conditions fuel (p :: done) rest
    | _ => .ok (done.reverse, cs)

/-- Paths that begin with slashes. A single slash may stand alone. -/
def absolute : Nat → Expr → List Char → Except Fault (Expr × List Char)
  | 0, _, _ => .error .malformed
  | fuel + 1, e, cs =>
    match cs with
    | '/' :: '/' :: rest => do
      let (e, rest) ← relative fuel e.deep (skip rest)
      absolute fuel e rest
    | '/' :: rest => do
      let (e, rest) ← if startsStep (skip rest) then relative fuel e (skip rest)
        else .ok (e, skip rest)
      absolute fuel e rest
    | _ => .ok (e, cs)

/-- Steps with slashes between, and perhaps one before the first. -/
def relative : Nat → Expr → List Char → Except Fault (Expr × List Char)
  | 0, _, _ => .error .malformed
  | fuel + 1, e, cs => do
    let (e, rest) ← match skip cs with
      | '/' :: '/' :: rest => step fuel e.deep (skip rest)
      | '/' :: rest => step fuel e (skip rest)
      | rest => step fuel e rest
    stepsFrom fuel e (skip rest)

def stepsFrom : Nat → Expr → List Char → Except Fault (Expr × List Char)
  | 0, _, _ => .error .malformed
  | fuel + 1, e, cs =>
    match cs with
    | '/' :: '/' :: rest => do
      let (e, rest) ← step fuel e.deep (skip rest)
      stepsFrom fuel e (skip rest)
    | '/' :: rest => do
      let (e, rest) ← step fuel e (skip rest)
      stepsFrom fuel e (skip rest)
    | _ => .ok (e, cs)

def step : Nat → Expr → List Char → Except Fault (Expr × List Char)
  | 0, _, _ => .error .malformed
  | fuel + 1, e, cs =>
    match cs with
    | '.' :: '.' :: rest => .ok (.step e .parent (.kind .any) [], rest)
    | '.' :: rest => .ok (e, rest)
    | _ => do
      let ((a, word), rest) := axis cs
      let (test, rest) ← nodeTest word rest
      let (ps, rest) ← conditions fuel [] (skip rest)
      pure (.step e a test ps, rest)

end

/-- The most calls that are made before a character is read. -/
def callsPerChar : Nat := 20

end Reader

def Expr.read (s : String) : Except Fault Expr := do
  let cs := s.toList
  let (e, rest) ← Reader.expression (Reader.callsPerChar * (cs.length + 1)) cs
  if rest = [] then pure e else .error .malformed

end MetadataBag.XPath
