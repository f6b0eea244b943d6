import MetadataBag.Bag
import MetadataBag.Catalog.Loading
import MetadataBag.Command.Invocation
import MetadataBag.Command.Log
import MetadataBag.Configuration
import MetadataBag.Markup.Print

/-!
Files of metadata: mappings of names to scalars or lists of scalars. They are added to a bag one
by one, and the bag is shown. What surrounds a run, readers and clocks among it, is given.
-/

namespace MetadataBag.Command

open Catalog (Namespace Spellings)

/-- What a run finds: files and a reader of documents, variables, and the zones that there are. -/
structure Host where
  folder : Folder
  read : Reader
  environment : Environment := []
  system : SystemZone := .universal
  zones : ZoneTable := .ofRegions

structure Filling where
  bag : Bag Namespace
  reports : List Report := []
  failure : Option Error := none

namespace Filling

def fail (f : Filling) (e : Error) : Filling := { f with failure := some e }

def bound (spelled : Spellings) (name : String) (before after : Bag Namespace) : List Report :=
  (after.namespaces.filter fun b => before.store.namespaces.uri? b.1 ≠ some b.2).map fun b =>
    let shown := (b.2.spelled spelled name).toOption.getD ""
    ⟨.debug, "Namespace registered: " ++ b.1 ++ " -> " ++ shown⟩

/-- Adds a text under a name, unless there is an obstacle in the namespace. -/
def add (r : Registry Namespace) (spelled : Spellings) (f : Filling) (name value : String) :
    Filling :=
  match Catalog.obstacle? ((Key.text name).resolve r) with
  | some e => f.fail e
  | none =>
    let o := f.bag.add r (some (.text name)) (some value)
    { bag := o.bag, reports := f.reports ++ bound spelled name f.bag o.bag, failure := o.failure }

/-- Lists and mappings are no scalars. -/
def isNested : Value → Bool
  | .list _ | .map _ | .loop _ => true
  | _ => false

def texts (name item : Value) : Except Error (String × String) := do
  let n ← name.plain
  let v ← item.plain
  pure (n, v)

def nested (path : String) (name : Value) : Error :=
  match name.literal with
  | .ok n => .metadataFile (path ++ ": nested value for " ++ n ++ " is not supported")
  | .error e => e

/-- Adds an item; null is none, and behind a failure nothing is added. -/
def addItem (path : String) (r : Registry Namespace) (spelled : Spellings) (f : Filling)
    (e : Value × Value) : Filling :=
  match f.failure, e.2 with
  | some _, _ => f
  | none, .null => f
  | none, item =>
    if isNested item then f.fail (nested path e.1)
    else
      match texts e.1 item with
      | .ok (n, v) => f.add r spelled n v
      | .error e => f.fail e

end Filling

/-- The items of a value: those of a list, or the value itself. -/
def itemsOf : Value → List Value
  | .list items => items
  | v => [v]

/-- Names and items, one pair for each item. -/
def pairsOf (entries : List (Value × Value)) : List (Value × Value) :=
  entries.flatMap fun e => (itemsOf e.2).map fun item => (e.1, item)

def fill (path : String) (r : Registry Namespace) (spelled : Spellings) (b : Bag Namespace)
    (entries : List (Value × Value)) : Filling :=
  (pairsOf entries).foldl (Filling.addItem path r spelled) { bag := b }

/-! ### Settings -/

/-- What is reported of a zone that is not known. -/
def zoneReports (zones : ZoneTable) (c : Configuration) : List Report :=
  match c.zone with
  | none => []
  | some name =>
    match zones name with
    | .ok none =>
      [⟨.warning, "Unknown time zone " ++ Text.quoted name ++ ", using the system local zone"⟩]
    | _ => []

def codecReports (c : Configuration) : List Report :=
  if (Codec.ofName? c.codec).isSome then []
  else [⟨.warning, "Unknown value codec " ++ Text.quoted c.codec ++ ", using 'xml'"⟩]

def Host.zone (host : Host) (c : Configuration) : Except Error LocalZone :=
  LocalZone.load host.zones host.system c.zone

/-! ### Files -/

def ofDocument (host : Host) (path : String) (r : Registry Namespace) (spelled : Spellings)
    (c : Configuration) (v : Value) : Filling :=
  match v with
  | .map entries =>
    match host.zone c with
    | .error e => { bag := default, reports := codecReports c, failure := some e }
    | .ok zone =>
      let f := fill path r spelled (.empty (.ofName c.codec) zone) entries
      let loaded : List Report :=
        if f.failure.isNone then
          [⟨.debug, "Loaded " ++ toString f.bag.size ++ " names from " ++ path⟩]
        else []
      { f with reports := codecReports c ++ zoneReports host.zones c ++ f.reports ++ loaded }
  | _ =>
    Filling.fail { bag := default }
      (.metadataFile (path ++ ": expected a mapping of names to values"))

def Host.document (host : Host) (path : String) : Except Error Value :=
  (host.folder.read path).bind fun contents =>
    match host.read contents with
    | .value v => .ok v
    | .fault reason => .error (.yaml reason)
    | .failure e => .error e

def loadFile (host : Host) (path : String) (r : Registry Namespace) (spelled : Spellings)
    (c : Configuration) : Filling :=
  let path := Path.normalize path
  match host.document path with
  | .ok v => ofDocument host path r spelled c v
  | .error e => Filling.fail { bag := default } e

/-! ### Output -/

def itemLines (b : Bag Namespace) : List String :=
  b.items.flatMap fun e => e.2.map fun v => e.1 ++ ": " ++ v

/-- The results for the members of a list as far as there are any, and why there are no more. -/
def asFar {α β : Type} (f : α → Except Error β) : List α → List β × Except Error Unit
  | [] => ([], .ok ())
  | a :: rest =>
    match f a with
    | .error e => ([], .error e)
    | .ok b => (b :: (asFar f rest).1, (asFar f rest).2)

/-- Markup declares prefixes for texts only. -/
def declaration (b : String × Namespace) : Except Error Markup.Declaration :=
  match b.2 with
  | .text u => .ok (b.1, u)
  | .value _ => .error (.wrongKind "Argument must be bytes or unicode")

/-- A name and a value with the namespace as it is spelled. -/
def record (spelled : Spellings) (w : Name Namespace × String) : Except Error (Name × String) :=
  match w.1.uri with
  | none => .ok (⟨⟨w.1.localName, none⟩, w.1.pre⟩, w.2)
  | some u =>
    (u.spelled spelled w.1.qualified).map fun u => (⟨⟨w.1.localName, some u⟩, w.1.pre⟩, w.2)

/-- The tree of a store. What comes first of all that stands in its way is told. -/
def treeOf (spelled : Spellings) (s : Store Namespace) : Except Error Markup.Tree := do
  let (bindings, bound) := asFar declaration s.namespaces.toList
  -- the root may fail on a binding before the one that cannot be declared
  let (root, next) ← Markup.root Markup.newPrefix bindings
  bound
  let (records, named) := asFar (record spelled) (Markup.records s.items)
  let children ← Markup.elements Markup.newPrefix root next records
  named
  pure { root with children }

/-- The text of a store's tree. Where markup cannot hold a text, that is told in its place. -/
def markupOf (spelled : Spellings) (s : Store Namespace) : Except Error String :=
  match treeOf spelled s with
  | .ok t => .ok t.written
  | .error (.wrongKind reason) => .error (.wrongKind reason)
  | .error e => .ok ("Error serializing metadata: " ++ e.message)

def Format.render (f : Format) (spelled : Spellings) (b : Bag Namespace) : Except Error String :=
  match f with
  | .text => .ok (lines (itemLines b))
  | .xml => markupOf spelled b.store
  | .names => .ok (lines b.names)

end MetadataBag.Command
