import MetadataBag.XPath.Function
import MetadataBag.XPath.Reader
import MetadataBag.Decimal.Shortest

/-!
Evaluation of expressions, for the root of a store's tree.
-/

namespace MetadataBag.XPath

open Markup

namespace Scope

/-- The namespace of a prefix. The prefix `xml` is always bound. -/
def uri (s : Scope) (pre : String) : Except Fault String :=
  if pre = xmlPrefix then .ok xmlUri
  else
    match s.bindings.find? fun d => d.1 = pre with
    | some d => .ok d.2
    | none => .error .undefinedPrefix

/-- The nodes of an axis that pass a test. The prefix of the test must be bound. -/
def reached (s : Scope) (a : Axis) (test : NodeTest) : Except Fault (Node → List Node) :=
  match test with
  | .kind k => .ok fun n => (n.along s.tree a).filter (Node.isKind k)
  | .named pre localName => do
    let uri ← match pre with
      | none => pure none
      | some p => (s.uri p).map some
    pure fun n => (n.along s.tree a).filter fun m =>
      m.isPrincipal a && m.hasName s.tree uri localName

def call (s : Scope) (pre : Option String) (name : String) (args : List Result) :
    Except Fault Result :=
  match pre, Function.ofName? name with
  | some p, _ => do
    let _ ← s.uri p
    .error .unknownFunction
  | none, none => .error .unknownFunction
  | none, some f => f.apply s args

end Scope

mutual

def eval (s : Scope) : Expr → Except Fault Result
  | .binary .or a b => do
    let x ← eval s a
    if x.toBool then pure (.bool true) else (eval s b).map fun y => .bool y.toBool
  | .binary .and a b => do
    let x ← eval s a
    if x.toBool then (eval s b).map fun y => .bool y.toBool else pure (.bool false)
  | .binary op a b => do
    let x ← eval s a
    let y ← eval s b
    op.apply s.tree x y
  | .signed negative e => do
    let x ← eval s e
    let y := x.toNumber s.tree
    pure (.number (if negative then -y else y))
  | .literal t => .ok (.text t)
  | .number x => .ok (.number x)
  | .variable _ => .error .undefinedVariable
  | .call pre name args => do
    let xs ← evalAll s args
    s.call pre name xs
  | .document => .ok (.nodes [.document])
  | .here => .ok (.nodes [s.node])
  | .filter base condition => do
    let x ← eval s base
    let ns ← x.toNodes
    let kept ← ns.zipIdx.filterM fun p => do
      let r ← eval { s with node := p.1, place := some (p.2 + 1, ns.length) } condition
      pure (r.selects (p.2 + 1))
    pure (.nodes (kept.map (·.1)))
  | .step base axis test conditions => do
    let x ← eval s base
    let ns ← x.toNodes
    let reach ← s.reached axis test
    let found ← ns.mapM fun n => select s conditions (reach n)
    pure (.nodes (Node.ordered found.flatten))

def evalAll (s : Scope) : List Expr → Except Fault (List Result)
  | [] => .ok []
  | e :: rest => do
    let x ← eval s e
    let xs ← evalAll s rest
    pure (x :: xs)

/-- The nodes that meet every condition; each condition counts those that met the ones before. -/
def select (s : Scope) : List Expr → List Node → Except Fault (List Node)
  | [], ns => .ok ns
  | e :: rest, ns => do
    let kept ← ns.zipIdx.filterM fun p => do
      let r ← eval { s with node := p.1, place := some (p.2 + 1, ns.length) } e
      pure (r.selects (p.2 + 1))
    select s rest (kept.map (·.1))

end

/-! ### Answers -/

/-- A number as callers see it: a whole one without a point. -/
def numberShown (x : Float) : String :=
  match Decimal.Binary.ofFloat x with
  | .finite negative m q =>
    let r := Decimal.Ratio.binary m q
    if r.num % r.den = 0 then
      let n := r.num / r.den
      if n = 0 then "0" else (if negative then "-" else "") ++ toString n
    else Decimal.realText x
  | _ => Decimal.realText x

def nodeShown (t : Tree) (n : Node) : String :=
  match n.declaration? t with
  | some d => "(" ++ Text.quoted d.1 ++ ", " ++ Text.quoted d.2 ++ ")"
  | none => n.value t

/-- The answer of a query. Of a set it is the first node; the document has no text of its own. -/
def Result.shown (t : Tree) : Result → String
  | nodes ns => ((ns.find? (· ≠ .document)).map (nodeShown t)).getD ""
  | bool b => if b then "true" else "false"
  | number x => numberShown x
  | text s => s

/-- What an expression has for a value on a store, as text. -/
def query (s : Store) (expression : String) : Except Error String := do
  let tree ← Tree.ofStore s
  checkText expression
  let scope : Scope := { tree, bindings := s.namespaces.toList, node := .root }
  match (Expr.read expression).bind (eval scope) with
  | .ok r => pure (r.shown tree)
  | .error f => .error (.query f.describe)

end MetadataBag.XPath
