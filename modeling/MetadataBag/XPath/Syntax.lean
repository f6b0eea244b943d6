/-!
Expressions that select nodes of a tree or compute a value from them.
-/

namespace MetadataBag.XPath

inductive Axis where
  | ancestor
  | ancestorOrSelf
  | attributes
  | child
  | descendant
  | descendantOrSelf
  | following
  | followingSibling
  /-- The prefixes in scope. -/
  | scope
  | parent
  | preceding
  | precedingSibling
  | itself
  deriving DecidableEq, Repr

def Axis.spellings : List (String × Axis) :=
  [ ("ancestor", .ancestor), ("ancestor-or-self", .ancestorOrSelf), ("attribute", .attributes),
    ("child", .child), ("descendant", .descendant), ("descendant-or-self", .descendantOrSelf),
    ("following", .following), ("following-sibling", .followingSibling), ("namespace", .scope),
    ("parent", .parent), ("preceding", .preceding), ("preceding-sibling", .precedingSibling),
    ("self", .itself) ]

def Axis.ofName? (name : String) : Option Axis :=
  (spellings.find? fun e => e.1 = name).map (·.2)

/-- A kind of node. Trees of metadata have neither comments nor instructions. -/
inductive NodeKind where
  | any
  | text
  | comment
  | instruction
  deriving DecidableEq, Repr

def NodeKind.spellings : List (String × NodeKind) :=
  [("node", .any), ("text", .text), ("comment", .comment), ("processing-instruction", .instruction)]

def NodeKind.ofName? (name : String) : Option NodeKind :=
  (spellings.find? fun e => e.1 = name).map (·.2)

/-- Which nodes of an axis a step takes: those of a kind, or those with a name. A name without
local part stands for all names, or for all names of its prefix. -/
inductive NodeTest where
  | kind (k : NodeKind)
  | named (pre : Option String) (localName : Option String)
  deriving DecidableEq, Repr

inductive Operator where
  | or
  | and
  | equal
  | unequal
  | less
  | lessEqual
  | greater
  | greaterEqual
  | plus
  | minus
  | times
  | divide
  | modulo
  | union
  deriving DecidableEq, Repr

inductive Expr where
  | binary (op : Operator) (a b : Expr)
  /-- Minus signs in front, an odd number of them if `negative`. -/
  | signed (negative : Bool) (e : Expr)
  | literal (s : String)
  | number (x : Float)
  | variable (name : String)
  | call (pre : Option String) (name : String) (args : List Expr)
  /-- The document, above the root. -/
  | document
  /-- The node that the expression is evaluated for. -/
  | here
  | filter (base condition : Expr)
  | step (base : Expr) (axis : Axis) (test : NodeTest) (conditions : List Expr)

instance : Inhabited Expr := ⟨.here⟩

/-- The nodes of a set with all that is below them. -/
def Expr.deep (e : Expr) : Expr := .step e .descendantOrSelf (.kind .any) []

inductive Fault where
  | malformed
  | undefinedPrefix
  | unknownFunction
  | argumentCount
  /-- A set of nodes is needed where there is another value. -/
  | notNodes
  | undefinedVariable
  /-- A position is asked for outside a condition. -/
  | noPosition
  deriving DecidableEq, Repr

def Fault.describe : Fault → String
  | .malformed => "Invalid expression"
  | .undefinedPrefix => "Undefined namespace prefix"
  | .unknownFunction => "Unregistered function"
  | .argumentCount => "Invalid number of arguments"
  | .notNodes => "Invalid type"
  | .undefinedVariable => "Undefined variable"
  | .noPosition => "Invalid context position"

end MetadataBag.XPath
