import MetadataBag.Text.Fields

/-!
Names of metadata. The expanded name, namespace and local part, is what a name is; the prefix is
only for display. A key with exactly one colon reads as prefix and local part, any other key is
a local part as a whole.

Namespaces are texts, but a catalog may give any value in their place. So what is said of names
is said over a type of namespaces that has the texts in it.
-/

namespace MetadataBag

/-- A type of namespaces that can be told apart: texts are some of them, and some count as none. -/
class Space (ν : Type) where
  decEq : DecidableEq ν
  text : String → ν
  filled : ν → Bool
  filled_text : ∀ s, filled (text s) = decide (s ≠ "")

instance (priority := low) {ν : Type} [Space ν] : DecidableEq ν := Space.decEq

instance : Space String := ⟨inferInstance, id, fun s => s ≠ "", fun _ => rfl⟩

@[simp] theorem Space.text_eq (s : String) : Space.text s = s := rfl

@[simp] theorem Space.filled_eq (s : String) : Space.filled s = decide (s ≠ "") := rfl

/-- The namespace of entries: names that no namespaced definition stands for. -/
def entryNamespace : String := "urn:docmeta:metadata"

def entryPrefix : String := "docmeta"

structure ExpandedName (ν : Type := String) where
  localName : String
  uri : Option ν
  deriving DecidableEq, Repr, Inhabited

structure Name (ν : Type := String) extends ExpandedName ν where
  pre : Option String := none
  deriving DecidableEq, Repr, Inhabited

variable {ν : Type}

/-- A namespace that is there and does not count as none. -/
def filled [Space ν] : Option ν → Bool
  | none => false
  | some u => Space.filled u

namespace Name

/-- Whether two names are the same but for the prefix. -/
def same [Space ν] (a b : Name ν) : Bool := decide (a.toExpandedName = b.toExpandedName)

/-- Reads a key. An empty prefix counts as none. -/
def parse (key : String) (uri : Option ν := none) : Name ν :=
  match Text.fields ':' key.toList with
  | [p, l] =>
    { localName := String.ofList l, uri, pre := if p = [] then none else some (String.ofList p) }
  | _ => { localName := key, uri }

def isNamespaced [Space ν] (n : Name ν) : Bool := filled n.uri

def isEntry [Space ν] (n : Name ν) : Bool :=
  n.uri = some (Space.text entryNamespace)

/-- Prefix, colon and local part, or the local part alone where the prefix is missing or empty. -/
def qualified (n : Name ν) : String :=
  match n.pre with
  | none => n.localName
  | some p => if p = "" then n.localName else p ++ ":" ++ n.localName

/-- How callers see the name: entries by the key as it was given. -/
def display [Space ν] (n : Name ν) : String :=
  if n.isEntry then n.localName else n.qualified

/-- The name under which a text that stands for no namespaced definition is stored. -/
def entry [Space ν] (key : String) : Name ν :=
  { localName := key, uri := some (Space.text entryNamespace), pre := some entryPrefix }

@[simp] theorem display_entry [Space ν] (key : String) :
    (entry key : Name ν).display = key := by
  simp [display, isEntry, entry]

end Name

end MetadataBag
