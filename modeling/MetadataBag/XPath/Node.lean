import MetadataBag.XPath.Syntax
import MetadataBag.Markup.Tree

/-!
The nodes of a tree and the axes along which they are reached. An axis lists its nodes from the
nearest to the farthest: the axes that look back run against the order of the document.
-/

namespace MetadataBag.XPath

open Markup

/-- A place in a tree. Each child of the root holds one text and nothing else. -/
inductive Node where
  | document
  | root
  | child (i : Nat)
  | text (i : Nat)
  | attr (i j : Nat)
  /-- A prefix in scope at the root, or at a child. -/
  | scope (i : Option Nat) (j : Nat)
  deriving DecidableEq, Repr

namespace Node

/-- Where a node stands. The order of the document is the order of these lists. -/
def place : Node → List Nat
  | document => []
  | root => [0]
  | scope none j => [0, 0, j]
  | child i => [0, 1, i]
  | scope (some i) j => [0, 1, i, 0, j]
  | attr i j => [0, 1, i, 1, j]
  | text i => [0, 1, i, 2]

def before (a b : Node) : Bool := !decide (b.place < a.place)

/-- Drops each node that equals the one in front of it. -/
def distinct : List Node → List Node
  | [] => []
  | [n] => [n]
  | n :: m :: rest => if n = m then distinct (m :: rest) else n :: distinct (m :: rest)

/-- Nodes as a set: in the order of the document, each of them once. -/
def ordered (ns : List Node) : List Node := distinct (ns.mergeSort before)

/-- The child of the root to which a node belongs. -/
def owner? : Node → Option Nat
  | child i | text i | attr i _ | scope (some i) _ => some i
  | document | root | scope none _ => none

/-! ### Contents -/

def element? (t : Tree) (i : Nat) : Option Element := t.children[i]?

/-- The prefixes in scope: the bound one, then those declared, the last declared first. -/
def scopeAt (t : Tree) (i : Option Nat) : List Declaration :=
  let own := ((i.bind (element? t)).map (·.declarations)).getD []
  let above := t.declarations.filter fun d => !own.any fun o => o.1 = d.1
  (xmlPrefix, xmlUri) :: (own ++ above).reverse

def declaration? (t : Tree) (n : Node) : Option Declaration :=
  match n with
  | scope i j => (scopeAt t i)[j]?
  | _ => none

def attr? (t : Tree) (n : Node) : Option Attribute :=
  match n with
  | attr i j => (element? t i).bind fun e => e.attributes[j]?
  | _ => none

/-- The text of a node; above the children, the texts of all of them. -/
def value (t : Tree) (n : Node) : String :=
  match n with
  | document | root => String.join (t.children.map (·.text))
  | child i | text i => ((element? t i).map (·.text)).getD ""
  | attr .. => ((n.attr? t).map (·.value)).getD ""
  | scope .. => ((n.declaration? t).map (·.2)).getD ""

/-- Namespace, prefix and local part of a node that has a name. -/
def name? (t : Tree) (n : Node) : Option Name :=
  match n with
  | root => some ⟨t.name, some t.pre⟩
  | child i => (element? t i).map fun e => ⟨e.name, e.pre⟩
  | attr .. => (n.attr? t).map fun a => ⟨a.name, some a.pre⟩
  | scope .. => (n.declaration? t).map fun d => ⟨⟨d.1, none⟩, none⟩
  | document | text _ => none

def isElement : Node → Bool
  | root | child _ => true
  | _ => false

/-! ### Axes -/

def childrenFrom (t : Tree) (i : Nat) : List Nat :=
  (List.range (t.children.length - i)).map (· + i)

def parent? : Node → Option Node
  | document => none
  | root => some document
  | child _ | scope none _ => some root
  | text i | attr i _ | scope (some i) _ => some (child i)

def ancestors : Node → List Node
  | document => []
  | root => [document]
  | child _ | scope none _ => [root, document]
  | text i | attr i _ | scope (some i) _ => [child i, root, document]

def children (t : Tree) : Node → List Node
  | document => [root]
  | root => (childrenFrom t 0).map child
  | child i => [text i]
  | _ => []

/-- Children of the root from a place on, each with its text. -/
def contents (t : Tree) (i : Nat) : List Node :=
  (childrenFrom t i).flatMap fun j => [child j, text j]

def descendants (t : Tree) : Node → List Node
  | document => root :: contents t 0
  | root => contents t 0
  | child i => [text i]
  | _ => []

def along (t : Tree) (a : Axis) (n : Node) : List Node :=
  match a with
  | .itself => [n]
  | .parent => n.parent?.toList
  | .ancestor => n.ancestors
  | .ancestorOrSelf => n :: n.ancestors
  | .child => n.children t
  | .descendant => n.descendants t
  | .descendantOrSelf => n :: n.descendants t
  | .following =>
    match n.owner? with
    | none => []
    | some i => contents t (i + 1)
  | .preceding =>
    match n.owner? with
    | none => []
    | some i => (List.range i).reverse.flatMap fun j => [text j, child j]
  | .followingSibling =>
    match n with
    | child i => (childrenFrom t (i + 1)).map child
    | _ => []
  | .precedingSibling =>
    match n with
    | child i => (List.range i).reverse.map child
    | _ => []
  | .attributes =>
    match n with
    | child i =>
      (List.range (((element? t i).map (·.attributes.length)).getD 0)).map (attr i)
    | _ => []
  | .scope =>
    match n with
    | root => (List.range (scopeAt t none).length).map (scope none)
    | child i => (List.range (scopeAt t (some i)).length).map (scope (some i))
    | _ => []

/-! ### Tests -/

/-- Whether a node is of the kind that names on an axis speak of. -/
def isPrincipal (a : Axis) (n : Node) : Bool :=
  match a, n with
  | .attributes, attr .. => true
  | .scope, scope .. => true
  | .attributes, _ | .scope, _ => false
  | _, n => n.isElement

def isKind (k : NodeKind) (n : Node) : Bool :=
  match k, n with
  | .any, _ => true
  | .text, text _ => true
  | _, _ => false

/-- Whether a name is the one asked for; `uri` is the namespace of the prefix asked for. Names of
prefixes in scope have no namespace and match with any prefix. -/
def hasName (t : Tree) (uri : Option String) (localName : Option String) (n : Node) : Bool :=
  match n.name? t with
  | none => false
  | some m =>
    let rightPart := match localName with
      | none => true
      | some l => m.localName = l
    let rightSpace := match n, uri, localName with
      | scope .., _, _ => true
      | _, none, none => true
      | attr .., none, some _ => (m.pre.isNone || m.uri.isNone)
      | _, none, some _ => m.uri.isNone
      | _, some u, _ => m.uri = some u
    rightPart && rightSpace

end Node

end MetadataBag.XPath
