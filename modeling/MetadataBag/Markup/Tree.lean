import MetadataBag.Error
import MetadataBag.Store
import MetadataBag.Markup.Char
import MetadataBag.Markup.Uri

/-!
The tree of a store: a root with one child per value, in the order of the slots.

A name in a namespace becomes the child's own tag. An entry becomes a child tagged `entry` that
has the key itself as an attribute. The root declares every bound prefix; a namespace that is
still without a prefix is declared where it is used. Which prefix it gets is left open; by default
it is a well-known one or a numbered one.
-/

namespace MetadataBag.Markup

structure Attribute where
  name : ExpandedName
  pre : String
  value : String
  deriving DecidableEq, Repr

/-- A prefix and the namespace that it is declared for. -/
abbrev Declaration := String × String

structure Element where
  name : ExpandedName
  pre : Option String
  declarations : List Declaration
  attributes : List Attribute
  text : String
  deriving DecidableEq, Repr

structure Tree where
  name : ExpandedName
  pre : String
  declarations : List Declaration
  children : List Element
  deriving DecidableEq, Repr

/-! ### Checks -/

def checkText (s : String) : Except Error Unit :=
  if s.toList.all isWritable then .ok () else .error .unwritableText

def checkUri (uri : String) : Except Error Unit :=
  if Uri.isReference uri.toList then .ok () else .error (.invalidUri uri)

def checkPrefix (pre : String) : Except Error Unit :=
  if isName pre.toList then .ok () else .error (.invalidPrefix pre)

def checkName (name : String) : Except Error Unit :=
  if isName name.toList then .ok () else .error (.invalidTag name)

/-- A tag as one text: the namespace in braces, if there is one, and the local part. -/
def tagText (n : ExpandedName) : String :=
  match n.uri with
  | none => n.localName
  | some u => if u = "" then n.localName else "\x7b" ++ u ++ "\x7d" ++ n.localName

/-- The name that a tag's text stands for. The namespace ends at the first closing brace. -/
def readTag (tag : String) : Except Error ExpandedName :=
  match tag.toList with
  | [] => .error .emptyTag
  | '\x7b' :: rest =>
    match rest.dropWhile (· ≠ '\x7d') with
    | [] => .error .openTag
    | [_] => .error .emptyTag
    | _ :: name =>
      let uri := String.ofList (rest.takeWhile (· ≠ '\x7d'))
      .ok { localName := String.ofList name, uri := if uri = "" then none else some uri }
  | _ => .ok { localName := tag, uri := none }

def tagOf (n : ExpandedName) : Except Error ExpandedName := do
  checkText (tagText n)
  -- a brace in the namespace ends it early, so the tag need not be the name
  let tag ← readTag (tagText n)
  checkName tag.localName
  match tag.uri with
  | none => pure ()
  | some u => checkUri u
  pure tag

/-! ### Prefixes -/

/-- The scheme that the well-known namespaces begin with. -/
def scheme : String := "http:" ++ "//"

/-- The namespace to which the prefix `xml` is bound from the start, and no other prefix. -/
def xmlUri : String := scheme ++ "www.w3.org/XML/1998/namespace"

def xmlPrefix : String := "xml"

/-- Prefixes that are chosen for their namespaces, here after the scheme, where none is
declared. -/
def wellKnown : List (String × String) :=
  [ ("www.w3.org/1999/xhtml", "html"),
    ("www.w3.org/1999/XSL/Transform", "xsl"),
    ("www.w3.org/1999/02/22-rdf-syntax-ns#", "rdf"),
    ("schemas.xmlsoap.org/wsdl/", "wsdl"),
    ("www.w3.org/2001/XMLSchema", "xs"),
    ("www.w3.org/2001/XMLSchema-instance", "xsi"),
    ("purl.org/dc/elements/1.1/", "dc"),
    ("codespeak.net/lxml/objectify/pytype", "py") ]

def declared? (ds : List Declaration) (uri : String) : Option String :=
  if uri = xmlUri then some xmlPrefix
  else (ds.find? fun d => d.2 = uri && d.1 ≠ xmlPrefix).map (·.1)

def inUse (ds : List Declaration) (pre : String) : Bool :=
  pre = xmlPrefix || ds.any fun d => d.1 = pre

def numbered (n : Nat) : String := "ns" ++ toString n

/-- The first number from `n` on whose prefix is not in use; `tries` bounds the search. -/
def freeNumber (ds : List Declaration) (n : Nat) : Nat → Nat
  | 0 => n
  | tries + 1 => if inUse ds (numbered n) then freeNumber ds (n + 1) tries else n

/-- A choice of a prefix for a namespace that none is declared for. It comes with a number that is
handed on to the next choice. -/
abbrev Prefixing := List Declaration → Nat → String → String × Nat

/-- A well-known prefix, or the next number that is free. Among more numbers than declarations one
is free. -/
def newPrefix : Prefixing := fun ds next uri =>
  let number : String × Nat :=
    let n := freeNumber ds next ds.length
    (numbered n, n + 1)
  match wellKnown.find? fun e => scheme ++ e.1 = uri with
  | none => number
  | some (_, pre) => if inUse ds pre then number else (pre, next)

/-! ### Construction -/

/-- What the root declares, in the order of the bindings. The prefix `xml` is never declared, not
even for another namespace. -/
def rootDeclarations : List (String × String) → Except Error (List Declaration)
  | [] => .ok []
  | (pre, uri) :: rest => do
    checkText uri
    checkUri uri
    checkText pre
    checkPrefix pre
    let ds ← rootDeclarations rest
    pure (if pre = xmlPrefix then ds else (pre, uri) :: ds)

def rootName : ExpandedName := ⟨"metadata", some entryNamespace⟩
def entryName : ExpandedName := ⟨"entry", some entryNamespace⟩
def keyName : ExpandedName := ⟨"name", some entryNamespace⟩

/-- The root without children. The entry namespace gets a new prefix where its own is taken. -/
def root (choose : Prefixing) (bindings : List (String × String)) : Except Error (Tree × Nat) := do
  let ds ← rootDeclarations bindings
  match declared? ds entryNamespace with
  | some pre => pure (⟨rootName, pre, ds, []⟩, 0)
  | none =>
    let (pre, next) := choose ds 0 entryNamespace
    pure (⟨rootName, pre, ds ++ [(pre, entryNamespace)], []⟩, next)

/-- The child of an entry. The entry namespace is declared on the root. -/
def entryElement (pre key value : String) : Except Error Element := do
  checkText key
  checkText value
  pure ⟨entryName, some pre, [], [⟨keyName, pre, key⟩], value⟩

/-- The child of any other name, and the next number to use. -/
def ownElement (choose : Prefixing) (ds : List Declaration) (next : Nat) (n : ExpandedName)
    (value : String) : Except Error (Element × Nat) := do
  let tag ← tagOf n
  checkText value
  match tag.uri with
  | none => pure (⟨tag, none, [], [], value⟩, next)
  | some uri =>
    match declared? ds uri with
    | some pre => pure (⟨tag, some pre, [], [], value⟩, next)
    | none =>
      let (pre, next) := choose ds next uri
      pure (⟨tag, some pre, [(pre, uri)], [], value⟩, next)

def element (choose : Prefixing) (t : Tree) (next : Nat) (n : Name) (value : String) :
    Except Error (Element × Nat) :=
  if n.isEntry then (entryElement t.pre n.localName value).map fun e => (e, next)
  else ownElement choose t.declarations next n.toExpandedName value

/-- The children for names and values, with the next number threaded through. -/
def elements (choose : Prefixing) (t : Tree) :
    Nat → List (Name × String) → Except Error (List Element)
  | _, [] => .ok []
  | next, (n, value) :: rest => do
    let (e, next) ← element choose t next n value
    let es ← elements choose t next rest
    pure (e :: es)

/-- One name and value for every value, in order. -/
def records {ν : Type} (items : List (Name ν × List String)) : List (Name ν × String) :=
  items.flatMap fun i => i.2.map fun v => (i.1, v)

/-- The tree of a store; a name or a value that markup cannot hold is an error. -/
def Tree.ofStore (s : Store) (choose : Prefixing := newPrefix) : Except Error Tree := do
  let (t, next) ← root choose s.namespaces.toList
  let children ← elements choose t next (records s.items)
  pure { t with children }

end MetadataBag.Markup
