import MetadataBag.Registry

/-!
Keys of slots: texts and properties. A text that names a namespaced definition is the same key
as the definition; every other text is an entry.
-/

namespace MetadataBag

inductive Key (ν : Type := String) where
  | text (s : String)
  | property (p : Property ν)

namespace Key

variable {ν : Type}

instance : Inhabited (Key ν) := ⟨text ""⟩

/-- What is known of a key: of a text what is registered, of a property itself. -/
def definition? (r : Registry ν) : Key ν → Option (Property ν)
  | .text s => r.get? s
  | .property p => some p

/-- The definition of a key, where an unregistered text has the laxest one. -/
def definition (r : Registry ν) : Key ν → Property ν
  | .text s => (r.get? s).getD (.unregistered s)
  | .property p => p

def resolveText [Space ν] (r : Registry ν) (s : String) : Name ν :=
  match r.get? s with
  | none => .entry s
  | some p => if p.name.isNamespaced then p.name else .entry s

def resolve [Space ν] (r : Registry ν) : Key ν → Name ν
  | .text s => resolveText r s
  | .property p => if p.name.isNamespaced then p.name else resolveText r p.displayName

/-- The keys of the slots that a write to a key reaches. -/
def targets (r : Registry ν) (k : Key ν) : List (Key ν) :=
  match k.definition? r with
  | none => [k]
  | some p => if p.isComposite then p.members.map .property else [k]

end Key

end MetadataBag
