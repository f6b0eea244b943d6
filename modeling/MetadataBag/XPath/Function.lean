import MetadataBag.XPath.Node
import MetadataBag.XPath.Number

/-!
Values of expressions, their conversions, and the functions on them.
-/

namespace MetadataBag.XPath

open Markup

inductive Result where
  | nodes (ns : List Node)
  | bool (b : Bool)
  | number (x : Float)
  | text (s : String)

/-- What an expression is evaluated for: a node of a tree, under bound prefixes. In a condition
the node has a place among others; outside it there is none. -/
structure Scope where
  tree : Tree
  bindings : List Declaration
  node : Node
  place : Option (Nat × Nat) := none

namespace Result

/-- The text of a set is that of its first node. -/
def toText (t : Tree) : Result → String
  | nodes ns => (ns.head?.map (Node.value t)).getD ""
  | bool b => if b then "true" else "false"
  | number x => Number.text x
  | text s => s

def toNumber (t : Tree) : Result → Float
  | nodes ns => Number.ofText ((nodes ns).toText t)
  | bool b => Number.ofBool b
  | number x => x
  | text s => Number.ofText s

def toBool : Result → Bool
  | nodes ns => !ns.isEmpty
  | bool b => b
  | number x => !x.isNaN && x != 0
  | text s => s ≠ ""

def toNodes : Result → Except Fault (List Node)
  | nodes ns => .ok ns
  | _ => .error .notNodes

/-- Whether a condition's value selects the node at a position: a number is the position itself. -/
def selects (r : Result) (position : Nat) : Bool :=
  match r with
  | number x => x == Float.ofNat position
  | r => r.toBool

end Result

/-! ### Comparisons -/

def somePair {α β : Type} (r : α → β → Bool) (as : List α) (bs : List β) : Bool :=
  as.any fun a => bs.any (r a)

/-- Equality or its negation. A set has it where one of its nodes has; against a truth value the
set as a whole counts. -/
def equality (t : Tree) (negated : Bool) (a b : Result) : Bool :=
  let onText (x y : String) : Bool := (x == y) != negated
  let onNumber (x y : Float) : Bool := (x == y) != negated
  let texts (ns : List Node) : List String := ns.map (Node.value t)
  let numbers (ns : List Node) : List Float := (texts ns).map Number.ofText
  match a, b with
  | .nodes ms, .nodes ns => somePair onText (texts ms) (texts ns)
  | .bool x, y | y, .bool x => (x == y.toBool) != negated
  | .nodes ns, .number x | .number x, .nodes ns => somePair onNumber (numbers ns) [x]
  | .nodes ns, .text s | .text s, .nodes ns => somePair onText (texts ns) [s]
  | .text x, .text y => onText x y
  | x, y => onNumber (x.toNumber t) (y.toNumber t)

/-- An order of numbers, on all kinds of values. -/
def ordering (t : Tree) (r : Float → Float → Bool) (a b : Result) : Bool :=
  let numbers (x : Result) : List Float :=
    match x with
    | .nodes ns => ns.map fun n => Number.ofText (n.value t)
    | x => [x.toNumber t]
  -- against a truth value a set counts as a whole, else where one of its nodes does
  match a, b with
  | .nodes ns, .bool y => r (Number.ofBool !ns.isEmpty) (Number.ofBool y)
  | .bool x, .nodes ns => r (Number.ofBool x) (Number.ofBool !ns.isEmpty)
  | a, b => somePair r (numbers a) (numbers b)

/-- The value of an operator that needs both operands. -/
def Operator.apply (t : Tree) (op : Operator) (a b : Result) : Except Fault Result :=
  let arithmetic (f : Float → Float → Float) : Except Fault Result :=
    .ok (.number (f (a.toNumber t) (b.toNumber t)))
  match op with
  | .or => .ok (.bool (a.toBool || b.toBool))
  | .and => .ok (.bool (a.toBool && b.toBool))
  | .equal => .ok (.bool (equality t false a b))
  | .unequal => .ok (.bool (equality t true a b))
  | .less => .ok (.bool (ordering t (fun x y => x < y) a b))
  | .lessEqual => .ok (.bool (ordering t (fun x y => x ≤ y) a b))
  | .greater => .ok (.bool (ordering t (fun x y => y < x) a b))
  | .greaterEqual => .ok (.bool (ordering t (fun x y => y ≤ x) a b))
  | .plus => arithmetic (· + ·)
  | .minus => arithmetic (· - ·)
  | .times => arithmetic (· * ·)
  | .divide => arithmetic (· / ·)
  | .modulo => arithmetic Number.remainder
  | .union => do
    let ms ← a.toNodes
    let ns ← b.toNodes
    pure (.nodes (Node.ordered (ms ++ ns)))

/-! ### Functions on texts -/

/-- The text before a part and the text behind it, at the first place where it stands. -/
def splitAt? (part : List Char) : List Char → Option (List Char × List Char)
  | [] => if part = [] then some ([], []) else none
  | c :: rest =>
    if part.isPrefixOf (c :: rest) then some ([], (c :: rest).drop part.length)
    else (splitAt? part rest).map fun r => (c :: r.1, r.2)

/-- The first character after the blanks, and so on, with one blank between words. -/
def normalized (s : String) : String :=
  let words := s.toList.splitBy fun a b => isBlank a == isBlank b
  String.ofList (List.intercalate [' '] (words.filter fun w => !w.any isBlank))

/-- Replaces the characters of one list by those of another; those without a partner go. -/
def translated (source target s : List Char) : List Char :=
  s.flatMap fun c =>
    match source.idxOf? c with
    | none => [c]
    | some i => target[i]?.toList

/-- Whole numbers end here. -/
def greatest : Float := 2147483647

/-- The nearest whole number, a half up. -/
def rounded (x : Float) : Float := if 0.5 ≤ x - x.floor then x.floor + 1 else x.floor

/-- The first character of a part, counted from one. Behind all characters where there is no
such number. -/
def firstIndex (start : Float) : Nat :=
  if !(start < greatest) then greatest.toUInt64.toNat
  else if start < 1 then 1
  else (rounded start).toUInt64.toNat

def endIndex (start size : Float) : Nat :=
  let stop := rounded start + rounded size
  if !(1 ≤ stop) then 1
  else if stop < greatest then stop.toUInt64.toNat
  else greatest.toUInt64.toNat

def part (s : String) (start : Float) (size : Option Float) : String :=
  let first := firstIndex start
  let stop := (size.map (endIndex start)).getD greatest.toUInt64.toNat
  String.ofList ((s.toList.drop (first - 1)).take (stop - first))

/-! ### Functions -/

inductive Function where
  | boolean
  | ceiling
  | concat
  | contains
  | count
  | falsity
  | floor
  | id
  | lang
  | last
  | localName
  | name
  | namespaceUri
  | normalizeSpace
  | not
  | number
  | position
  | round
  | startsWith
  | string
  | stringLength
  | substring
  | substringAfter
  | substringBefore
  | sum
  | translate
  | truth
  deriving DecidableEq, Repr

def Function.spellings : List (String × Function) :=
  [ ("boolean", .boolean), ("ceiling", .ceiling), ("concat", .concat), ("contains", .contains),
    ("count", .count), ("false", .falsity), ("floor", .floor), ("id", .id), ("lang", .lang),
    ("last", .last), ("local-name", .localName), ("name", .name),
    ("namespace-uri", .namespaceUri), ("normalize-space", .normalizeSpace), ("not", .not),
    ("number", .number), ("position", .position), ("round", .round),
    ("starts-with", .startsWith), ("string", .string), ("string-length", .stringLength),
    ("substring", .substring), ("substring-after", .substringAfter),
    ("substring-before", .substringBefore), ("sum", .sum), ("translate", .translate),
    ("true", .truth) ]

def Function.ofName? (name : String) : Option Function :=
  (spellings.find? fun e => e.1 = name).map (·.2)

/-- A part of the name of the first node of a set, or nothing. -/
def ofFirst (t : Tree) (f : Name → String) (ns : List Node) : Result :=
  .text (((ns.head?.bind (Node.name? t)).map f).getD "")

namespace Scope

/-- The argument that a function takes where none is given: the node itself. -/
def itself (s : Scope) : Result := .nodes [s.node]

def places (s : Scope) : Except Fault (Nat × Nat) :=
  match s.place with
  | some p => .ok p
  | none => .error .noPosition

end Scope

/-- A function whose only argument may be left out. -/
def Function.ofOne (t : Tree) (f : Function) (a : Result) : Except Fault Result :=
  let text := a.toText t
  match f with
  | .localName => a.toNodes.map (ofFirst t (·.localName))
  | .name => a.toNodes.map (ofFirst t (·.qualified))
  | .namespaceUri => a.toNodes.map (ofFirst t fun n => n.uri.getD "")
  | .string => .ok (.text text)
  | .stringLength => .ok (.number (Float.ofNat text.length))
  | .normalizeSpace => .ok (.text (normalized text))
  | .number => .ok (.number (a.toNumber t))
  | _ => .error .argumentCount

/-- A function of texts; the two parts at the second text, if it stands in the first. -/
def Function.ofTwo (t : Tree) (f : Function) (a b : Result) : Except Fault Result :=
  let text := (a.toText t).toList
  let inner := (b.toText t).toList
  let halves := splitAt? inner text
  match f with
  | .contains => .ok (.bool halves.isSome)
  | .startsWith => .ok (.bool (inner.isPrefixOf text))
  | .substringBefore => .ok (.text (String.ofList ((halves.map (·.1)).getD [])))
  | .substringAfter => .ok (.text (String.ofList ((halves.map (·.2)).getD [])))
  | .substring => .ok (.text (part (a.toText t) (b.toNumber t) none))
  | .concat => .ok (.text (a.toText t ++ b.toText t))
  | _ => .error .argumentCount

def Function.ofThree (t : Tree) (f : Function) (a b c : Result) : Except Fault Result :=
  match f with
  | .substring => .ok (.text (part (a.toText t) (b.toNumber t) (some (c.toNumber t))))
  | .translate =>
    .ok (.text (String.ofList
      (translated (b.toText t).toList (c.toText t).toList (a.toText t).toList)))
  | .concat => .ok (.text (a.toText t ++ b.toText t ++ c.toText t))
  | _ => .error .argumentCount

/-- The value of a function. No node has an identifier or a language. -/
def Function.apply (s : Scope) (f : Function) (args : List Result) : Except Fault Result :=
  let t := s.tree
  match f, args with
  | .truth, [] => .ok (.bool true)
  | .falsity, [] => .ok (.bool false)
  | .last, [] => s.places.map fun p => .number (Float.ofNat p.2)
  | .position, [] => s.places.map fun p => .number (Float.ofNat p.1)
  | .boolean, [a] => .ok (.bool a.toBool)
  | .not, [a] => .ok (.bool !a.toBool)
  | .ceiling, [a] => .ok (.number (a.toNumber t).ceil)
  | .floor, [a] => .ok (.number (a.toNumber t).floor)
  | .round, [a] => .ok (.number (Number.round (a.toNumber t)))
  | .count, [a] => a.toNodes.map fun ns => .number (Float.ofNat ns.length)
  | .sum, [a] => a.toNodes.map fun ns =>
    .number (ns.foldl (fun x n => x + Number.ofText (n.value t)) 0)
  | .id, [_] => .ok (.nodes [])
  | .lang, [_] => .ok (.bool false)
  | f, [] => f.ofOne t s.itself
  | f, [a] => f.ofOne t a
  | f, [a, b] => f.ofTwo t a b
  | f, [a, b, c] => f.ofThree t a b c
  | .concat, args => .ok (.text (String.join (args.map (Result.toText t))))
  | _, _ => .error .argumentCount

end MetadataBag.XPath
