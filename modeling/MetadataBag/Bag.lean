import MetadataBag.Date.Normalizer
import MetadataBag.Decimal.Integer
import MetadataBag.Key
import MetadataBag.Store
import MetadataBag.Value

/-!
Bags of metadata: a store, the zone in which its dates without an offset are told, and the rules
that definitions put on reads and writes. A write gives the bag after it and what refused it, if
anything did.
-/

namespace MetadataBag

structure Bag (ν : Type := String) where
  store : Store ν
  zone : LocalZone

structure Outcome (ν : Type := String) where
  bag : Bag ν
  failure : Option Error := none

/-- A number as it is given for a property of real numbers. -/
inductive Quantity where
  | whole (n : Int)
  | real (x : Float)

/-- The nearest real number; a whole number may be beyond them. -/
def Quantity.real? : Quantity → Except Error Float
  | .real x => .ok x
  | .whole n =>
    let size := Decimal.nearest n.natAbs 0
    if size.isInf then .error .realRange else .ok (if n < 0 then -size else size)

def wholeText (n : Int) : Except Error String :=
  match Decimal.integerText? n with
  | some s => .ok s
  | none => .error .digitsWritten

namespace Bag

variable {ν : Type} [Space ν]

def empty (codec : Codec) (zone : LocalZone) : Bag ν := ⟨.empty codec, zone⟩

instance : Inhabited (Bag ν) := ⟨empty .markup .universal⟩

/-! ### Reads -/

def get? (b : Bag ν) (r : Registry ν) : Option (Key ν) → Option String
  | none => none
  | some k => b.store.get? (k.resolve r)

def getAll (b : Bag ν) (r : Registry ν) : Option (Key ν) → List String
  | none => []
  | some k => b.store.getAll (k.resolve r)

def contains (b : Bag ν) (r : Registry ν) (k : Option (Key ν)) : Bool := (b.get? r k).isSome

def isMultiValued (b : Bag ν) (r : Registry ν) : Option (Key ν) → Bool
  | none => false
  | some k => decide (1 < b.store.count (k.resolve r))

/-- Whether a property's values are read and written as a type. -/
def accepts (p : Property ν) (types : List ValueType) : Bool :=
  decide (p.target.shape = .simple) && decide (p.target.valueType ∈ types)

def leastInt : Int := -2147483648
def greatestInt : Int := 2147483647

/-- A text as a whole number of 32 bits. More digits than `digitLimit` are an error. -/
def readInt (s : String) : Except Error (Option Int) :=
  match Decimal.signed? s.toList with
  | none => .ok none
  | some n =>
    if Decimal.digitLimit < n.digits.length then .error (.digitsRead n.digits.length)
    else if leastInt ≤ n.value ∧ n.value ≤ greatestInt then .ok (some n.value)
    else .ok none

/-- The whole number that a property of whole numbers holds. -/
def getInt (b : Bag ν) (r : Registry ν) (p : Property ν) : Except Error (Option Int) :=
  if accepts p [.integer] then
    match b.get? r (some (.property p)) with
    | none => .ok none
    | some s => readInt s
  else .ok none

def getDate (b : Bag ν) (r : Registry ν) (p : Property ν) : Except Error (Option Instant) :=
  if accepts p [.date] then
    match b.get? r (some (.property p)) with
    | none => .ok none
    | some s => Instant.parse b.zone s
  else .ok none

def names (b : Bag ν) : List String := b.store.names

def size (b : Bag ν) : Nat := b.names.length

def items (b : Bag ν) : List (String × List String) :=
  b.store.items.map fun e => (e.1.display, e.2)

def namespaces (b : Bag ν) : List (String × ν) := b.store.namespaces.toList

def same (a b : Bag ν) : Bool := a.store.same b.store

/-- The values by display name. Of slots with one display name the last one is shown, at the
place of the first. -/
def text (b : Bag ν) : String :=
  "Metadata(\x7b" ++
    ", ".intercalate ((OrderedMap.ofList b.items).entries.map fun e =>
      Text.quoted e.1 ++ ": " ++ Store.listText e.2) ++ "\x7d)"

/-! ### Writes -/

def done (b : Bag ν) : Outcome ν := { bag := b }

def refuse (b : Bag ν) (e : Error) : Outcome ν := { bag := b, failure := some e }

/-- Appends a value to the slot of a simple property, unless it is full. -/
def addMember (b : Bag ν) (r : Registry ν) (p : Property ν) (value : String) : Outcome ν :=
  let n := (Key.property p).resolve r
  if !p.multi && (b.store.get? n).isSome then b.refuse p.overflow
  else done { b with store := b.store.put n value }

/-- Appends a value to the slot of a secondary; a full slot takes the value instead of its own. -/
def addSecondary (r : Registry ν) (value : String) (b : Bag ν) (p : Property ν) : Bag ν :=
  let o := b.addMember r p value
  match o.failure with
  | none => o.bag
  | some _ => { b with store := b.store.set ((Key.property p).resolve r) (some value) }

/-- Appends a value under a definition: to one slot, or to the primary's and then to each
secondary's. -/
def addTo (b : Bag ν) (r : Registry ν) (p : Property ν) (value : String) : Outcome ν :=
  if p.isComposite then
    -- only the primary can refuse a value; then nothing has been written yet
    let o := b.addMember r p.target value
    match o.failure with
    | none => done (p.secondaries.foldl (addSecondary r value) o.bag)
    | some _ => o
  else b.addMember r p value

/-- Appends a value to a key; no key or no value is no write. -/
def add (b : Bag ν) (r : Registry ν) (k : Option (Key ν)) (value : Option String) : Outcome ν :=
  match k, value with
  | some k, some value =>
    match k.definition? r with
    | none => done { b with store := b.store.put (k.resolve r) value }
    | some p => b.addTo r p value
  | _, _ => done b

/-- The first target of a write that does not permit several values. -/
def singleTarget (r : Registry ν) (targets : List (Key ν)) : Option (Property ν) :=
  (targets.filterMap fun t => t.definition? r).find? fun p => !p.multi

/-- Replaces the values of every target of a key. Several values are refused before any slot
is touched if one of the targets permits one only. -/
def assign (b : Bag ν) (r : Registry ν) (k : Key ν) (values : List String) : Outcome ν :=
  let targets := k.targets r
  match (if 1 < values.length then singleTarget r targets else none) with
  | some p => b.refuse p.overflow
  | none =>
    done { b with store := targets.foldl (fun s t => s.assign (t.resolve r) values) b.store }

/-- Refuses a property that does not take values of a type; messages name the first type. -/
def checkType (p : Property ν) (first : ValueType) (others : List ValueType) : Option Error :=
  let t := p.target
  if t.shape ≠ .simple then
    some (.mismatch { expected := .shape .simple, actual := some (.shape t.shape),
                      property := some p.displayName })
  else if t.valueType ∈ first :: others then none
  else
    some (.mismatch { expected := .valueType first, actual := some (.valueType t.valueType),
                      property := some p.displayName })

/-- Replaces the values under a property of a type by the text of one value, or by none. -/
def assignTyped (b : Bag ν) (r : Registry ν) (p : Property ν) (first : ValueType)
    (others : List ValueType) (text : Option (Except Error String)) : Outcome ν :=
  match checkType p first others with
  | some e => b.refuse e
  | none =>
    match text with
    | none => b.assign r (.property p) []
    | some (.ok s) => b.assign r (.property p) [s]
    | some (.error e) => b.refuse e

def setInt (b : Bag ν) (r : Registry ν) (p : Property ν) (value : Option Int) : Outcome ν :=
  b.assignTyped r p .integer [] (value.map wholeText)

def setReal (b : Bag ν) (r : Registry ν) (p : Property ν) (value : Option Quantity) : Outcome ν :=
  b.assignTyped r p .real [.rational] (value.map fun q => q.real?.map Decimal.realText)

def setDate (b : Bag ν) (r : Registry ν) (p : Property ν) (value : Option When) : Outcome ν :=
  b.assignTyped r p .date [] (value.map (When.text b.zone))

/-- The texts of the members of a sequence that are not null. -/
def memberTexts : List Value → Except Error (List String)
  | [] => .ok []
  | .null :: rest => memberTexts rest
  | v :: rest =>
    match v.plain? with
    | none => .error .digitsWritten
    | some s => (memberTexts rest).map (s :: ·)

def assignMembers (b : Bag ν) (r : Registry ν) (k : Key ν) (members : List Value) : Outcome ν :=
  match memberTexts members with
  | .ok texts => b.assign r k texts
  | .error e => b.refuse e

/-- Replaces all values of a key: by none, one text, the texts of a sequence, or a number or
date for a property of that type. -/
def set (b : Bag ν) (r : Registry ν) (k : Option (Key ν)) (value : Value) : Outcome ν :=
  match k with
  | none => b.refuse .noKey
  | some k =>
    match value with
    | .bool _ => b.refuse .booleanValue
    | .integer n => b.setInt r (k.definition r) (some n)
    | .real x => b.setReal r (k.definition r) (some (.real x))
    | .date d => b.setDate r (k.definition r) (some (.date d))
    | .timestamp t => b.setDate r (k.definition r) (some (.time t))
    | .null => b.assign r k []
    | .text s => b.assign r k [s]
    | .list members | .tuple members => b.assignMembers r k members
    | .bytes bs => b.assignMembers r k (bs.map fun n => .integer n.toNat)
    | .time _ | .set _ | .map _ | .loop _ => b.refuse (.unsupportedValue value.kind)

/-- Sets one pair after the other and stops at the first that is refused. -/
def setPairs (r : Registry ν) : Bag ν → List (String × Value) → Outcome ν
  | b, [] => done b
  | b, (name, value) :: rest =>
    let o := b.set r (some (.text name)) value
    match o.failure with
    | none => setPairs r o.bag rest
    | some _ => o

def setAll (b : Bag ν) (r : Registry ν) (values : OrderedMap String Value) : Outcome ν :=
  setPairs r b values.entries

def remove (b : Bag ν) (r : Registry ν) : Option (Key ν) → Outcome ν
  | none => done b
  | some k => done { b with store := b.store.remove (k.resolve r) }

end Bag

inductive Write (ν : Type := String) where
  | add (key : Option (Key ν)) (value : Option String)
  | set (key : Option (Key ν)) (value : Value)
  | setInt (property : Property ν) (value : Option Int)
  | setReal (property : Property ν) (value : Option Quantity)
  | setDate (property : Property ν) (value : Option When)
  | setAll (values : OrderedMap String Value)
  | remove (key : Option (Key ν))

namespace Bag

variable {ν : Type} [Space ν]

def write (r : Registry ν) (b : Bag ν) : Write ν → Outcome ν
  | .add k v => b.add r k v
  | .set k v => b.set r k v
  | .setInt p v => b.setInt r p v
  | .setReal p v => b.setReal r p v
  | .setDate p v => b.setDate r p v
  | .setAll vs => b.setAll r vs
  | .remove k => b.remove r k

/-- The bag after several writes; what a refused write leaves is what the next one finds. -/
def run (r : Registry ν) (b : Bag ν) (ws : List (Write ν)) : Bag ν :=
  ws.foldl (fun b w => (b.write r w).bag) b

@[simp] theorem run_cons (r : Registry ν) (b : Bag ν) (w : Write ν) (ws : List (Write ν)) :
    b.run r (w :: ws) = ((b.write r w).bag).run r ws := rfl

@[simp] theorem run_append (r : Registry ν) (b : Bag ν) (ws ws' : List (Write ν)) :
    b.run r (ws ++ ws') = (b.run r ws).run r ws' := List.foldl_append

end Bag

end MetadataBag
