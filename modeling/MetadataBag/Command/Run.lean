import MetadataBag.Command.Show

/-!
Runs of the command: settings, then log level, then catalogs, then the task. What has been printed
and reported before a failure stays.
-/

namespace MetadataBag.Command

open Catalog (Namespace Spellings)

structure Answer where
  status : Nat
  output : String
  errors : String
  deriving DecidableEq, Repr

/-- What a part of a run has printed and reported. -/
structure Progress where
  output : String := ""
  reports : List Report := []
  /-- Whether something could not be done, though nothing stands in the way of the rest. -/
  flawed : Bool := false
  failure : Option Error := none

namespace Progress

def fail (p : Progress) (e : Error) : Progress := { p with failure := some e }

def andThen (p : Progress) (next : Progress) : Progress :=
  match p.failure with
  | some _ => p
  | none =>
    { output := p.output ++ next.output
      reports := p.reports ++ next.reports
      flawed := p.flawed || next.flawed
      failure := next.failure }

end Progress

/-! ### Catalogs -/

def catalogReports (path : String) (l : Catalog.Loading) : List Report :=
  (l.added.map fun p =>
    ⟨.debug, "Property registered: " ++ p.displayName ++ " (" ++ p.valueType.label ++ ")"⟩) ++
    (if l.failure.isNone then
      [⟨.info, "Loaded " ++ toString l.loaded.length ++ " properties from catalog " ++ path⟩]
    else [])

def loadCatalogs (host : Host) :
    Registry Namespace → List String → Registry Namespace × Progress
  | r, [] => (r, {})
  | r, path :: rest =>
    let l := Catalog.load host.read host.folder path r
    let p : Progress := { reports := catalogReports path l, failure := l.failure }
    match l.failure with
    | some _ => (l.registry, p)
    | none =>
      let (r, q) := loadCatalogs host l.registry rest
      (r, p.andThen q)

/-- How catalogs spell the namespaces of properties, later ones first. -/
def spellings (host : Host) (paths : List String) : Spellings :=
  paths.reverse.flatMap fun path =>
    match Catalog.document host.read host.folder (Path.normalize path) with
    | .ok v => Catalog.spellings v
    | .error _ => []

/-! ### Tasks -/

/-- The definitions that a task has, and how their namespaces are spelled. -/
structure Definitions where
  registry : Registry Namespace
  spelled : Spellings

def showFile (host : Host) (d : Definitions) (c : Configuration) (path : String)
    (format : Format) : Progress :=
  let f := loadFile host path d.registry d.spelled c
  match f.failure with
  | some e => { reports := f.reports, failure := some e }
  | none =>
    match format.render d.spelled f.bag with
    | .error e => { reports := f.reports, failure := some e }
    | .ok output => { output, reports := f.reports }

/-- A date in its normal form, or the report that it is none. -/
def showDate (zone : LocalZone) (s : String) : Progress :=
  match Instant.parse zone s with
  | .error e => { failure := some e }
  | .ok (some i) => { output := i.text ++ "\n" }
  | .ok none =>
    let quoted := Text.quoted s
    let unread : List Report :=
      if s = "" then [] else [⟨.debug, "Unparseable date value: " ++ quoted⟩]
    { reports := unread ++ [⟨.error, "Unparseable date: " ++ quoted⟩], flawed := true }

def showDates (host : Host) (c : Configuration) (texts : List String) : Progress :=
  match host.zone c with
  | .error e => { failure := some e }
  | .ok zone =>
    texts.foldl (fun p s => p.andThen (showDate zone s)) { reports := zoneReports host.zones c }

def namespaceText (spelled : Spellings) (p : Property Namespace) : Except Error String :=
  match p.name.uri with
  | none => .ok "-"
  | some u => if Space.filled u then u.spelled spelled p.displayName else .ok "-"

def showProperty (spelled : Spellings) (p : Property Namespace) : Progress :=
  match namespaceText spelled p with
  | .error e => { failure := some e }
  | .ok uri =>
    let fields := [p.displayName, p.valueType.name, if p.multi then "multi" else "single", uri]
    { output := "\t".intercalate fields ++ "\n" }

def Task.run (host : Host) (d : Definitions) (c : Configuration) : Task → Progress
  | .help => { output := Command.help }
  | .showFile path format => Command.showFile host d c path format
  | .dates texts => showDates host c texts
  | .properties => d.registry.toList.foldl (fun p q => p.andThen (showProperty d.spelled q)) {}

/-! ### Runs -/

def levelOf (i : Invocation) (c : Configuration) : Except Error Level :=
  if i.verbose then .ok .debug
  else
    let name := Text.upper ((i.logLevel.filter (· ≠ "")).getD c.logLevel)
    match Level.ofName? name with
    | some l => .ok l
    | none => .error (.logLevel name)

def failureText (e : Error) : String := "Error: " ++ e.message ++ "\n"

/-- The answer of a run that has got so far; only failures make the status differ from zero. -/
def Progress.answer (p : Progress) (least : Level) : Answer where
  status := if p.flawed || p.failure.isSome then 1 else 0
  output := p.output
  errors := Report.log least p.reports ++ ((p.failure.map failureText).getD "")

def Invocation.perform (i : Invocation) (host : Host) (c : Configuration) : Progress :=
  let (registry, p) := loadCatalogs host Catalog.defaultRegistry c.catalogs
  p.andThen (i.task.run host ⟨registry, spellings host c.catalogs⟩ c)

def Invocation.run (i : Invocation) (host : Host) : Answer :=
  let settings := do
    let c ← Configuration.load host.folder host.environment i.config
    let least ← levelOf i c
    pure (c, least)
  match settings with
  | .error e => ⟨1, "", failureText e⟩
  | .ok (c, least) => (i.perform host c).answer least

def run (arguments : List String) (host : Host) : Answer :=
  match Invocation.read arguments with
  | .error (.told text) => ⟨0, text, ""⟩
  | .error (.refused usage program message) =>
    ⟨2, "", usage ++ program ++ ": error: " ++ message ++ "\n"⟩
  | .ok i => i.run host

/-! ### Files -/

/-- The paths of the files that a run reads, as far as they can be told from the files known. -/
def wanted (arguments : List String) (folder : Folder) (env : Environment) : List String :=
  match Invocation.read arguments with
  | .error _ => []
  | .ok i =>
    let task := match i.task with
      | .showFile path _ => [Path.normalize path]
      | _ => []
    let catalogs := match Configuration.load folder env i.config with
      | .ok c => c.catalogs
      | .error _ => []
    (Configuration.source? env i.config).toList ++ catalogs ++ task

end MetadataBag.Command
