import MetadataBag.Text.Fields
import MetadataBag.Value

/-!
Paths, a folder of files that they are looked up in, and readers of what the files contain.

A path is shown without empty and `.` segments; `..` stays. It is looked up segment by segment,
as it was given, and every segment but the last must be a directory.
-/

namespace MetadataBag

namespace Path

def segments (cs : List Char) : List (List Char) := Text.fields '/' cs

/-- The slashes that a path starts from: exactly two stay two, more count as one. -/
def root (cs : List Char) : List Char :=
  match (cs.takeWhile (· = '/')).length with
  | 0 => []
  | 2 => ['/', '/']
  | _ => ['/']

def isStep (segment : List Char) : Bool := segment ≠ [] && segment ≠ ['.']

/-- The shortest text of a path that keeps its steps. -/
def normalize (path : String) : String :=
  let cs := path.toList
  let steps := (segments cs).filter isStep
  let shown := root cs ++ ['/'].intercalate steps
  if shown = [] then "." else String.ofList shown

end Path

/-- Files by path, as lists of steps from the folder; and what else is known of paths as they
are given. -/
structure Folder where
  files : List (List (List Char) × ByteArray)
  known : List (String × Except FileFault ByteArray) := []

namespace Folder

def empty : Folder := { files := [] }

instance : Inhabited Folder := ⟨empty⟩

def ofList (files : List (String × ByteArray)) : Folder :=
  { files := files.map fun f => ((Path.segments f.1.toList).filter Path.isStep, f.2) }

def file? (folder : Folder) (steps : List (List Char)) : Option ByteArray :=
  (folder.files.find? fun f => f.1 = steps).map (·.2)

/-- Whether steps lead to a directory: the folder itself, or one above a file. -/
def isDirectory (folder : Folder) (steps : List (List Char)) : Bool :=
  steps.isEmpty || folder.files.any fun f => steps.isPrefixOf f.1 && steps.length < f.1.length

/-- Walks along the segments from a directory. Nothing is known of what lies above the folder. -/
def walk (folder : Folder) (place : List (List Char)) :
    List (List Char) → Except FileFault ByteArray
  | [] => .error .directory
  | s :: rest =>
    if !Path.isStep s then folder.walk place rest
    else if s = "..".toList then
      if place.isEmpty then .error .missing else folder.walk place.dropLast rest
    else if 255 < (String.ofList s).utf8ByteSize then .error .tooLong
    else if folder.isDirectory (place ++ [s]) then folder.walk (place ++ [s]) rest
    else
      match folder.file? (place ++ [s]) with
      | none => .error .missing
      | some contents => if rest = [] then .ok contents else .error .notDirectory

/-- What is at a path that no fact is known of. An empty path leads nowhere, and from the root
nothing is reached but the root. -/
def look (folder : Folder) (path : String) : Except FileFault ByteArray :=
  match path.toList with
  | [] => .error .missing
  | c :: rest =>
    let segments := Path.segments (c :: rest)
    if 4095 < path.utf8ByteSize then .error .tooLong
    else if c = '/' then .error (if segments.all (!Path.isStep ·) then .directory else .missing)
    else folder.walk [] segments

def read (folder : Folder) (path : String) : Except Error ByteArray :=
  if path.toList.contains '\x00' then .error .nulInPath
  else
    match ((folder.known.find? fun k => k.1 = path).map (·.2)).getD (folder.look path) with
    | .ok contents => .ok contents
    | .error f => .error (.file f path)

def readText (folder : Folder) (path : String) : Except Error String :=
  (folder.read path).bind fun bytes =>
    match String.fromUTF8? bytes with
    | some s => .ok s
    | none => .error (.encoding bytes.size)

end Folder

/-- What becomes of contents that are read as a document: a value, a fault for which they are
none, or another failure. -/
inductive Reading where
  | value (v : Value)
  | fault (reason : String)
  | failure (e : Error)

abbrev Reader := ByteArray → Reading

end MetadataBag
