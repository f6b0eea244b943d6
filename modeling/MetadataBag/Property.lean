import MetadataBag.Name
import MetadataBag.Kind
import MetadataBag.Error

/-!
Definitions of properties. A simple property stands for one slot. A composite stands for a
primary and any number of secondaries, all of them simple, and shares the primary's name.
-/

namespace MetadataBag

structure Property (ν : Type := String) where
  name : Name ν
  shape : Shape := .simple
  valueType : ValueType := .text
  /-- Whether the slot may hold more than one value. -/
  multi : Bool := false
  /-- Whether the property is set in processing and not taken from a document. -/
  internal : Bool := false
  primary : Option (Property ν) := none
  secondaries : List (Property ν) := []

namespace Property

variable {ν : Type}

instance : Inhabited (Property ν) := ⟨{ name := default }⟩

/-- The name under which a property is registered and shown. -/
def displayName (p : Property ν) : String := p.name.qualified

def isComposite (p : Property ν) : Bool := p.shape = .composite

/-- The property whose type decides which values are accepted. -/
def target (p : Property ν) : Property ν := p.primary.getD p

/-- The properties whose slots a write to a property reaches. -/
def members (p : Property ν) : List (Property ν) :=
  if p.isComposite then p.target :: p.secondaries else [p]

mutual

/-- Whether two definitions are equal. Prefixes of names take no part in it. -/
def same [Space ν] : Property ν → Property ν → Bool
  | ⟨n, s, t, m, i, p, ps⟩, ⟨n', s', t', m', i', p', ps'⟩ =>
    n.same n' && decide (s = s') && decide (t = t') && m == m' && i == i' &&
      sameOptional p p' && sameAll ps ps'

def sameOptional [Space ν] : Option (Property ν) → Option (Property ν) → Bool
  | none, none => true
  | some p, some q => same p q
  | _, _ => false

def sameAll [Space ν] : List (Property ν) → List (Property ν) → Bool
  | [], [] => true
  | p :: ps, q :: qs => same p q && sameAll ps qs
  | _, _ => false

end

/-- The composite of a primary and secondaries. It takes all but the shape from the primary. -/
def composite (primary : Property ν) (secondaries : List (Property ν)) : Property ν :=
  { name := primary.name, shape := .composite, valueType := primary.valueType,
    multi := primary.multi, internal := primary.internal, primary := some primary, secondaries }

/-- The simple property of a key and a namespace. -/
def ofKey (key : String) (uri : Option ν) (valueType : ValueType) (internal multi : Bool) :
    Property ν :=
  { name := Name.parse key uri, valueType, internal, multi }

/-- A key that is not registered holds any number of texts. -/
def unregistered (key : String) : Property ν := ofKey key none .text false true

def overflow (p : Property ν) : Error :=
  .mismatch { expected := .shape p.shape, property := some p.displayName }

/-- The refusal of a composite among the members of another one. -/
def nested (p : Property ν) : Error :=
  .mismatch { expected := .shape .simple, actual := some (.shape p.shape),
              property := some p.displayName }

end Property

/-- A primary and any number of secondaries, all of them simple. -/
structure Composite (ν : Type := String) where
  primary : Property ν
  secondaries : List (Property ν)
  simple : ∀ m ∈ primary :: secondaries, m.isComposite = false

namespace Composite

variable {ν : Type}

def property (c : Composite ν) : Property ν := .composite c.primary c.secondaries

def ofMembers (primary : Property ν) (secondaries : List (Property ν)) :
    Except Error (Composite ν) :=
  match h : (primary :: secondaries).find? Property.isComposite with
  | none => .ok ⟨primary, secondaries, by simpa using h⟩
  | some m => .error m.nested

end Composite

namespace Property

variable {ν : Type}

/-- Admits a definition: a composite has a primary, and its members are simple. -/
def checked (p : Property ν) : Except Error (Property ν) :=
  match p.shape, p.primary with
  | .simple, _ => .ok p
  | .composite, none => .error .noPrimary
  | .composite, some q => (Composite.ofMembers q p.secondaries).map fun _ => p

/-- The composite of a primary and secondaries, if all of them are simple. -/
def compose (primary : Property ν) (secondaries : List (Property ν)) :
    Except Error (Property ν) :=
  (Composite.ofMembers primary secondaries).map Composite.property

theorem compose_eq {primary c : Property ν} {secondaries : List (Property ν)}
    (h : compose primary secondaries = .ok c) : c = composite primary secondaries := by
  unfold compose Composite.ofMembers at h
  split at h
  · exact (Except.ok.inj h).symm
  · cases h

end Property

end MetadataBag
