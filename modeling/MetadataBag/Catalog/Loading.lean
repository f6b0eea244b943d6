import MetadataBag.Catalog.BuiltIn
import MetadataBag.Catalog.Namespace
import MetadataBag.Folder
import MetadataBag.Text.Case

/-!
Catalogs: files of further definitions. A catalog declares prefixes, properties, which are
registered one after the other, and composites of registered properties. What is registered
before a failure stays registered. How files are read as values is not known here.
-/

namespace MetadataBag.Catalog

structure Loading where
  registry : Registry Namespace
  /-- Every definition of the file, in its order. -/
  loaded : List (Property Namespace) := []
  /-- The definitions that were new to the registry. -/
  added : List (Property Namespace) := []
  failure : Option Error := none

/-- A reason why the file at a path is no catalog. -/
def malformed (path reason : String) : Error := .catalog path reason true

def refuse {α : Type} (path before : String) (v : Value) (after : String) : Except Error α := do
  let s ← v.literal
  .error (malformed path (before ++ s ++ after))

/-- The entry under a name, unless it counts as missing. -/
def given? (name : String) (entries : List (Value × Value)) : Option Value :=
  (Value.entry? name entries).filter Value.truthy

/-- The members of a list under a name; none where it is missing. A reference to the mapping
itself has the mapping's keys. -/
def membersOf (name : String) (entries : List (Value × Value)) : Except Error (List Value) :=
  match given? name entries with
  | none => .ok []
  | some (.loop _) => .ok (entries.map (·.1))
  | some v =>
    match v.members? with
    | some members => .ok members
    | none => .error (.wrongKind (Text.quoted v.kind ++ " has no members"))

/-- The declared prefixes. A reference to the mapping itself declares all of its entries. -/
def declaredOf (entries : List (Value × Value)) : Except Error (List (Value × Value)) :=
  match given? "namespaces" entries with
  | none => .ok []
  | some (.map declared) => .ok declared
  | some (.loop _) => .ok entries
  | some v => .error (.wrongKind (Text.quoted v.kind ++ " declares no prefixes"))

/-- The namespace of a prefix: as declared, else as it is known. -/
def namespaceOf (declared : List (Value × Value)) (pre : String) : Value :=
  match Value.entry? pre declared with
  | some v => v
  | none => ((namespaces.find? fun e => e.1 = pre).map fun e => .text e.2).getD .null

/-- The namespace of a property, as it was read: its own, or that of the text before the first
colon. -/
def uriOf (declared entry : List (Value × Value)) (name : String) : Value :=
  match (Value.entry? "namespace" entry).getD .null with
  | .null =>
    if name.toList.contains ':' then
      namespaceOf declared (String.ofList (name.toList.takeWhile (· ≠ ':')))
    else .null
  | v => v

def flag (name : String) (entry : List (Value × Value)) : Bool := (given? name entry).isSome

def propertyOf (path : String) (declared : List (Value × Value)) (v : Value) :
    Except Error (Property Namespace) :=
  match v with
  | .map entry =>
    match given? "name" entry with
    | none => refuse path "property entry needs a name: " v ""
    | some name => do
      let name ← name.plain
      let typeName ← ((Value.entry? "type" entry).getD (.text "text")).plain
      let typeName := Text.lower typeName
      match ValueType.ofName? typeName with
      | none => .error (malformed path
          ("unknown value type " ++ Text.quoted typeName ++ " for " ++ name))
      | some valueType =>
        pure (.ofKey name (Namespace.ofValue? (uriOf declared entry name)) valueType
          (flag "internal" entry) (flag "multi_valued" entry))
  | _ => refuse path "property entry needs a name: " v ""

/-- The registered property that a composite refers to. -/
def memberOf (path : String) (r : Registry Namespace) (v : Value) :
    Except Error (Property Namespace) := do
  let name ← v.plain
  match r.get? name with
  | some p => pure p
  | none => refuse path "unknown property " v " in composite"

def secondariesOf (path : String) (r : Registry Namespace) :
    List Value → Except Error (List (Property Namespace))
  | [] => .ok []
  | v :: rest => do
    let p ← memberOf path r v
    let ps ← secondariesOf path r rest
    pure (p :: ps)

def compositeOf (path : String) (r : Registry Namespace) (v : Value) :
    Except Error (Composite Namespace) :=
  match v with
  | .map entry =>
    match Value.entry? "primary" entry with
    | none => refuse path "composite entry needs a primary: " v ""
    | some primary => do
      let p ← memberOf path r primary
      let members ← membersOf "secondaries" entry
      let ps ← secondariesOf path r members
      Composite.ofMembers p ps
  | _ => refuse path "composite entry needs a primary: " v ""

namespace Loading

def fail (l : Loading) (e : Error) : Loading := { l with failure := some e }

/-- Continues loading unless it has failed, with what is read next. -/
def andThen {α : Type} (l : Loading) (read : Except Error α) (go : Loading → α → Loading) :
    Loading :=
  match l.failure, read with
  | some _, _ => l
  | none, .error e => l.fail e
  | none, .ok a => go l a

def register (l : Loading) (p : Property Namespace) : Loading :=
  match l.registry.register p with
  | .error e => l.fail e
  | .ok registry =>
    { l with registry, loaded := l.loaded ++ [p],
             added := if l.registry.isNew p then l.added ++ [p] else l.added }

/-- Adds a composite, which is not registered. -/
def keep (l : Loading) (c : Composite Namespace) : Loading :=
  { l with loaded := l.loaded ++ [c.property] }

def loadProperties (path : String) (declared : List (Value × Value)) (l : Loading)
    (entries : List Value) : Loading :=
  entries.foldl (fun l v => l.andThen (propertyOf path declared v) register) l

def loadComposites (path : String) (l : Loading) (entries : List Value) : Loading :=
  entries.foldl (fun l v => l.andThen (compositeOf path l.registry v) keep) l

end Loading

/-- Loads the definitions of a document. A document without content defines nothing. -/
def loadValue (path : String) (r : Registry Namespace) (v : Value) : Loading :=
  let start : Loading := { registry := r }
  match v with
  | .null => start
  | .map entries =>
    start.andThen (declaredOf entries) fun l declared =>
      (l.andThen (membersOf "properties" entries) (Loading.loadProperties path declared)).andThen
        (membersOf "composites" entries) (Loading.loadComposites path)
  | _ => start.fail (malformed path "top level must be a mapping")

/-- What is reported of a file that cannot be read: only its absence is a fault of the catalog. -/
def readingError (path : String) : Error → Error
  | .file fault p => .catalog path (Error.fileMessage fault p) false
  | e => e

def document (read : Reader) (folder : Folder) (path : String) : Except Error Value :=
  match folder.read path with
  | .error e => .error (readingError path e)
  | .ok contents =>
    match read contents with
    | .value v => .ok v
    | .fault reason => .error (.catalog path reason false)
    | .failure e => .error e

def load (read : Reader) (folder : Folder) (path : String) (r : Registry Namespace) : Loading :=
  let path := Path.normalize path
  match document read folder path with
  | .error e => { registry := r, failure := some e }
  | .ok v => loadValue path r v

/-! ### Spellings

Equal namespaces need not look alike: `1` and `true` are equal. How one is shown is told by the
definition that was registered last under a name.
-/

/-- Names of properties, and their namespaces as they were read. -/
abbrev Spellings := List (String × Value)

def spelling? (declared : List (Value × Value)) : Value → Option (String × Value)
  | .map entry =>
    ((given? "name" entry).bind Value.plain?).map fun name =>
      ((Name.parse name : Name).qualified, uriOf declared entry name)
  | _ => none

/-- The spellings in a document, that of a later property first. -/
def spellings : Value → Spellings
  | .map entries =>
    match declaredOf entries, membersOf "properties" entries with
    | .ok declared, .ok members => (members.filterMap (spelling? declared)).reverse
    | _, _ => []
  | _ => []

def Namespace.spelled (s : Spellings) (name : String) : Namespace → Except Error String
  | .text u => .ok u
  | .value m =>
    match s.find? fun e => e.1 = name with
    | some (_, v) => v.plain
    | none => .ok m.sign

end MetadataBag.Catalog
