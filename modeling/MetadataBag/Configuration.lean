import MetadataBag.Folder
import MetadataBag.Text.Case
import MetadataBag.Toml.Document

/-!
Settings of a run: codec, zone, catalogs and log level. A file sets some of them, and the
environment has the last word. A setting that is empty, zero or false counts as not given.
-/

namespace MetadataBag

structure Configuration where
  codec : String := "xml"
  /-- The zone of dates without an offset; none is the system's zone. -/
  zone : Option String := none
  catalogs : List String := []
  logLevel : String := "WARNING"
  deriving DecidableEq, Repr, Inhabited

abbrev Environment := List (String × String)

/-- The value of a variable, unless it is empty. -/
def Environment.given? (env : Environment) (name : String) : Option String :=
  ((env.find? fun e => e.1 = name).map (·.2)).filter (· ≠ "")

namespace Configuration

/-! ### From a file -/

/-- The entry under a name, unless it counts as not given. -/
def given? (name : String) (entries : List (Value × Value)) : Option Value :=
  (Value.entry? name entries).filter Value.truthy

/-- The text of a setting, or what stands for it where it is not given. -/
def textOf (name : String) (entries : List (Value × Value)) (default : String) :
    Except Error String :=
  match given? name entries with
  | none => .ok default
  | some v => v.plain

def pathOf (v : Value) : Except Error String :=
  match v with
  | .text s => .ok (Path.normalize s)
  | v => .error (.wrongKind ("expected str, bytes or os.PathLike object, not " ++ v.kind))

/-- The catalogs of a file: the members of a list, or the characters of a text. -/
def catalogsOf (entries : List (Value × Value)) : Except Error (List String) :=
  match given? "catalog_paths" entries with
  | none => .ok []
  | some v =>
    match v.members? with
    | some members => members.mapM pathOf
    | none => .error (.wrongKind (Text.quoted v.kind ++ " object is not iterable"))

/-- The zone of a file, which has a table of its own. -/
def zoneOf (entries : List (Value × Value)) : Except Error (Option String) :=
  match (Value.entry? "dates" entries).getD (.map []) with
  | .map dates =>
    match given? "default_timezone" dates with
    | none => .ok none
    | some v => v.plain.map some
  | v => .error (.noMember (Text.quoted v.kind ++ " object has no attribute 'get'"))

def ofEntries (entries : List (Value × Value)) : Except Error Configuration := do
  let codec ← textOf "codec" entries "xml"
  let logLevel ← textOf "log_level" entries "warning"
  let catalogs ← catalogsOf entries
  let zone ← zoneOf entries
  pure { codec, zone, catalogs, logLevel := Text.upper logLevel }

/-! ### From the environment -/

def pathsOf (s : String) : List String :=
  ((Text.fields ':' s.toList).filter (· ≠ [])).map fun p => Path.normalize (String.ofList p)

/-- The settings with those of the environment in their place. -/
def override (c : Configuration) (env : Environment) : Configuration where
  codec := (env.given? "DOCMETA_CODEC").getD c.codec
  zone := (env.given? "DOCMETA_TIMEZONE").or c.zone
  catalogs := ((env.given? "DOCMETA_CATALOG").map pathsOf).getD c.catalogs
  logLevel := ((env.given? "DOCMETA_LOG_LEVEL").map Text.upper).getD c.logLevel

def ofEnvironment (env : Environment) : Configuration := override {} env

/-- The settings of the file at a path and of the environment. -/
def ofFile (folder : Folder) (env : Environment) (path : String) : Except Error Configuration := do
  let text ← folder.readText path
  let entries ← Toml.read text
  let c ← ofEntries entries
  pure (c.override env)

/-- The file that is read: the one that is asked for, or the one that the environment names. -/
def source? (env : Environment) (path : Option String) : Option String :=
  path.or (env.given? "DOCMETA_CONFIG")

def load (folder : Folder) (env : Environment) (path : Option String) :
    Except Error Configuration :=
  match source? env path with
  | some path => ofFile folder env path
  | none => .ok (ofEnvironment env)

end Configuration

end MetadataBag
