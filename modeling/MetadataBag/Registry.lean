import MetadataBag.Property
import MetadataBag.OrderedMap

/-!
Registries of simple properties, each under its own display name. A name that is taken keeps its
definition unless it is replaced on purpose.
-/

namespace MetadataBag

structure Registry (ν : Type := String) where
  definitions : OrderedMap String (Property ν)
  simple : ∀ e ∈ definitions.entries, e.2.isComposite = false
  own : ∀ e ∈ definitions.entries, e.2.displayName = e.1

namespace Registry

variable {ν : Type}

@[ext] theorem ext {r r' : Registry ν} (h : r.definitions = r'.definitions) : r = r' := by
  cases r
  cases r'
  cases h
  rfl

def empty : Registry ν := ⟨.empty, nofun, nofun⟩

instance : Inhabited (Registry ν) := ⟨empty⟩

def get? (r : Registry ν) (name : String) : Option (Property ν) := r.definitions.get? name

def contains (r : Registry ν) (name : String) : Bool := r.definitions.contains name

/-- Puts a simple definition under its name, in the place of another one if need be. -/
def insert (r : Registry ν) (p : Property ν) (hp : p.isComposite = false) : Registry ν where
  definitions := r.definitions.insert p.displayName p
  simple e he := by
    rcases OrderedMap.mem_entries_insert he with rfl | he
    · exact hp
    · exact r.simple e he
  own e he := by
    rcases OrderedMap.mem_entries_insert he with rfl | he
    · rfl
    · exact r.own e he

def erase (r : Registry ν) (name : String) : Registry ν where
  definitions := r.definitions.erase name
  simple e he := r.simple e (List.mem_filter.mp he).1
  own e he := r.own e (List.mem_filter.mp he).1

/-- Whether a definition differs from what is registered under its name. -/
def isNew [Space ν] (r : Registry ν) (p : Property ν) : Bool :=
  match r.get? p.displayName with
  | none => true
  | some q => !q.same p

def register [Space ν] (r : Registry ν) (p : Property ν) (replace : Bool := false) :
    Except Error (Registry ν) :=
  if hp : p.isComposite = true then .error (.compositeRegistered p.displayName)
  else if r.contains p.displayName && r.isNew p && !replace then
    .error (.conflict p.displayName)
  else .ok (r.insert p (by simpa using hp))

def sorted (r : Registry ν) : List (String × Property ν) :=
  r.definitions.entries.mergeSort fun a b => !decide (b.1 < a.1)

def toList (r : Registry ν) : List (Property ν) := r.sorted.map (·.2)

theorem contains_eq_isSome (r : Registry ν) (name : String) :
    r.contains name = (r.get? name).isSome := rfl

@[simp] theorem get?_empty (name : String) : (empty : Registry ν).get? name = none := rfl

theorem get?_insert (r : Registry ν) (p : Property ν) (hp : p.isComposite = false)
    (name : String) :
    (r.insert p hp).get? name = if p.displayName = name then some p else r.get? name :=
  OrderedMap.get?_insert _ _ _ _

@[simp] theorem get?_erase (r : Registry ν) (name name' : String) :
    (r.erase name).get? name' = if name = name' then none else r.get? name' := by
  simp [erase, get?]

theorem get?_of_register [Space ν] {r r' : Registry ν} {p : Property ν} {replace : Bool}
    (h : r.register p replace = .ok r') (name : String) :
    r'.get? name = if p.displayName = name then some p else r.get? name := by
  unfold register at h
  split at h
  · cases h
  · split at h
    · cases h
    · cases h
      exact r.get?_insert p _ name

theorem isComposite_of_get? {r : Registry ν} {name : String} {p : Property ν}
    (h : r.get? name = some p) : p.isComposite = false :=
  r.simple _ (OrderedMap.mem_entries_of_get? h)

theorem displayName_of_get? {r : Registry ν} {name : String} {p : Property ν}
    (h : r.get? name = some p) : p.displayName = name :=
  r.own _ (OrderedMap.mem_entries_of_get? h)

end Registry

structure Factory where
  valueType : ValueType
  internal : Bool
  multi : Bool := false
  deriving DecidableEq, Repr

namespace Factory

variable {ν : Type}

/-- The kinds by name. -/
def named : List (String × Factory) :=
  [ ("internal_text", ⟨.text, true, false⟩), ("internal_text_bag", ⟨.text, true, true⟩),
    ("internal_integer", ⟨.integer, true, false⟩), ("internal_real", ⟨.real, true, false⟩),
    ("internal_rational", ⟨.rational, true, false⟩), ("internal_date", ⟨.date, true, false⟩),
    ("internal_boolean", ⟨.boolean, true, false⟩), ("internal_uri", ⟨.uri, true, false⟩),
    ("external_text", ⟨.text, false, false⟩), ("external_text_bag", ⟨.text, false, true⟩),
    ("external_integer", ⟨.integer, false, false⟩), ("external_real", ⟨.real, false, false⟩),
    ("external_date", ⟨.date, false, false⟩), ("external_boolean", ⟨.boolean, false, false⟩) ]

def ofName? (name : String) : Option Factory :=
  (named.find? fun e => e.1 = name).map (·.2)

def property (f : Factory) (key : String) (uri : Option ν) : Property ν :=
  .ofKey key uri f.valueType f.internal f.multi

/-- Makes a property and registers it. -/
def define [Space ν] (f : Factory) (r : Registry ν) (key : String) (uri : Option ν) :
    Except Error (Registry ν × Property ν) :=
  let p := f.property key uri
  (r.register p).map fun r' => (r', p)

end Factory

end MetadataBag
