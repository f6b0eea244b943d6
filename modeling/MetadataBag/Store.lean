import MetadataBag.Codec
import MetadataBag.Namespaces
import MetadataBag.Text.Quoted

/-!
The store behind a bag: texts under names, in the order of writing. A slot holds one value or
more, so a name without values is not there. Values are kept in their escaped form.
-/

namespace MetadataBag

/-- The values under one name, and the prefix that the name had when the slot came to be. -/
structure Slot where
  pre : Option String
  first : String
  more : List String
  deriving DecidableEq, Repr

namespace Slot

def values (s : Slot) : List String := s.first :: s.more

def count (s : Slot) : Nat := s.more.length + 1

def append (s : Slot) (value : String) : Slot := { s with more := s.more ++ [value] }

end Slot

structure Store (ν : Type := String) where
  codec : Codec
  namespaces : Namespaces ν
  slots : OrderedMap (ExpandedName ν) Slot
  deriving DecidableEq

namespace Store

variable {ν : Type} [Space ν]

def empty (codec : Codec := .markup) : Store ν := ⟨codec, .initial, .empty⟩

instance : Inhabited (Store ν) := ⟨empty⟩

def slot? (s : Store ν) (n : Name ν) : Option Slot := s.slots.get? n.toExpandedName

def grown (s : Store ν) (n : Name ν) (escaped : String) : Slot :=
  match s.slot? n with
  | none => ⟨n.pre, escaped, []⟩
  | some slot => slot.append escaped

def put (s : Store ν) (n : Name ν) (value : String) : Store ν :=
  { s with
    namespaces := s.namespaces.record n
    slots := s.slots.insert n.toExpandedName (s.grown n (s.codec.escape value)) }

def add (s : Store ν) (n : Name ν) : Option String → Store ν
  | none => s
  | some value => s.put n value

def remove (s : Store ν) (n : Name ν) : Store ν :=
  { s with slots := s.slots.erase n.toExpandedName }

def set (s : Store ν) (n : Name ν) (value : Option String) : Store ν :=
  (s.remove n).add n value

def assign (s : Store ν) (n : Name ν) (values : List String) : Store ν :=
  values.foldl (fun s v => s.put n v) (s.remove n)

def get? (s : Store ν) (n : Name ν) : Option String :=
  (s.slot? n).map fun slot => s.codec.unescape slot.first

def getAll (s : Store ν) (n : Name ν) : List String :=
  match s.slot? n with
  | none => []
  | some slot => slot.values.map s.codec.unescape

def count (s : Store ν) (n : Name ν) : Nat :=
  match s.slot? n with
  | none => 0
  | some slot => slot.count

def slotName (e : ExpandedName ν × Slot) : Name ν := { toExpandedName := e.1, pre := e.2.pre }

/-- The names with values, in the order in which their slots came to be. -/
def slotNames (s : Store ν) : List (Name ν) := s.slots.entries.map slotName

def items (s : Store ν) : List (Name ν × List String) :=
  s.slots.entries.map fun e => (slotName e, e.2.values.map s.codec.unescape)

/-- Every text once, at its first place. -/
def distinct (l : List String) : List String :=
  l.foldl (fun seen s => if s ∈ seen then seen else seen ++ [s]) []

def names (s : Store ν) : List String := distinct (s.slotNames.map Name.display)

def size (s : Store ν) : Nat := s.slots.size

/-- Whether two stores have the same names with the same values; the order of the names, their
prefixes, the bound prefixes and the codecs take no part in it. -/
def same (a b : Store ν) : Bool :=
  a.slots.keys.all (fun k => b.slots.contains k) &&
    b.slots.keys.all (fun k => a.slots.contains k) &&
    a.slotNames.all fun n => decide (a.getAll n = b.getAll n)

def listText (values : List String) : String :=
  "[" ++ ", ".intercalate (values.map Text.quoted) ++ "]"

def optionText : Option String → String
  | none => "None"
  | some s => Text.quoted s

def nameText (n : Name) : String :=
  "QualifiedName(local_name=" ++ Text.quoted n.localName ++ ", namespace_uri=" ++
    optionText n.uri ++ ", prefix=" ++ optionText n.pre ++ ")"

def text (s : Store) : String :=
  "AttributeStore(\x7b" ++
    ", ".intercalate (s.items.map fun e => nameText e.1 ++ ": " ++ listText e.2) ++ "\x7d)"

end Store

end MetadataBag
