import MetadataBag.Kind
import MetadataBag.Text.Quoted
import MetadataBag.Decimal.Integer

/-!
What can go wrong, as causes. The wording is in `Error.message`.
-/

namespace MetadataBag

inductive TypeLabel where
  | shape (s : Shape)
  | valueType (t : ValueType)
  | text (s : String)
  deriving DecidableEq, Repr

def TypeLabel.render : TypeLabel → String
  | .shape s => s.label
  | .valueType t => t.label
  | .text s => s

/-- An operation that a property's definition does not permit. -/
structure TypeMismatch where
  expected : TypeLabel
  /-- What the property is; none where the operation itself is not permitted. -/
  actual : Option TypeLabel := none
  property : Option String := none
  deriving DecidableEq, Repr

def TypeMismatch.message (m : TypeMismatch) : String :=
  let target := match m.property with
    | none => ""
    | some p => if p = "" then "" else " for property '" ++ p ++ "'"
  match m.actual with
  | none =>
    "Property type mismatch" ++ target ++ ": " ++ m.expected.render ++
      " does not permit this operation"
  | some a =>
    "Property type mismatch" ++ target ++ ": expected " ++ m.expected.render ++
      ", got " ++ a.render

inductive FileFault where
  | missing
  | directory
  /-- A part of the path that should be a directory is a file. -/
  | notDirectory
  | denied
  | tooLong
  deriving DecidableEq, Repr

def FileFault.code : FileFault → Nat
  | .missing => 2
  | .denied => 13
  | .notDirectory => 20
  | .directory => 21
  | .tooLong => 36

def FileFault.describe : FileFault → String
  | .missing => "No such file or directory"
  | .denied => "Permission denied"
  | .notDirectory => "Not a directory"
  | .directory => "Is a directory"
  | .tooLong => "File name too long"

inductive Error where
  | mismatch (m : TypeMismatch)
  /-- A composite property without a primary. -/
  | noPrimary
  | compositeRegistered (name : String)
  /-- Another definition is registered under the name. -/
  | conflict (name : String)
  /-- A catalog that is not one; the reason is none where it is another format's own message. -/
  | catalog (path : String) (reason : String) (shown : Bool)
  /-- A file of metadata that is no mapping of names to values. -/
  | metadataFile (message : String)
  | noKey
  | booleanValue
  | unsupportedValue (kind : String)
  /-- A whole number with too many digits to be written. -/
  | digitsWritten
  /-- A text with too many digits to be read as a whole number. -/
  | digitsRead (count : Nat)
  /-- A whole number beyond the real numbers. -/
  | realRange
  /-- An instant outside the years 1 to 9999. -/
  | instantRange
  /-- The system zone has no rule for the year that it looks into. -/
  | yearRange (year : Nat)
  | emptyTag
  | invalidTag (tag : String)
  /-- A tag whose opening brace is never closed. -/
  | openTag
  | invalidUri (uri : String)
  | invalidPrefix (pre : String)
  /-- A text with characters that markup cannot hold. -/
  | unwritableText
  | file (fault : FileFault) (path : String)
  | nulInPath
  /-- Bytes that are no text. -/
  | encoding (position : Nat)
  | yaml (reason : String)
  | toml (reason : String)
  /-- A scalar of a document whose text does not denote a value of its type. -/
  | scalar (reason : String)
  /-- A scalar tagged as a number that has no characters. -/
  | emptyScalar
  /-- A scalar tagged as a truth value that is none. -/
  | notTruth (text : String)
  /-- A value of a kind that the place does not admit. -/
  | wrongKind (reason : String)
  | noMember (reason : String)
  | logLevel (name : String)
  /-- A query that has no value. -/
  | query (reason : String)
  deriving DecidableEq, Repr

namespace Error

def fileMessage (fault : FileFault) (path : String) : String :=
  "[Errno " ++ toString fault.code ++ "] " ++ fault.describe ++ ": " ++ Text.quoted path

def message : Error → String
  | mismatch m => m.message
  | noPrimary => "composite property requires a primary property"
  | compositeRegistered name => "Composite property '" ++ name ++ "' cannot be registered"
  | conflict name =>
    "Property '" ++ name ++ "' is already registered with a different definition. " ++
      "Use override=True to replace."
  | catalog path reason _ => "Invalid property catalog " ++ path ++ ": " ++ reason
  | metadataFile m => m
  | noKey => "property must not be None"
  | booleanValue => "boolean values must be set as text"
  | unsupportedValue kind => "unsupported value type: " ++ kind
  | digitsWritten =>
    "Exceeds the limit (4300 digits) for integer string conversion; " ++
      "use sys.set_int_max_str_digits() to increase the limit"
  | digitsRead count =>
    "Exceeds the limit (4300 digits) for integer string conversion: value has " ++
      toString count ++ " digits; use sys.set_int_max_str_digits() to increase the limit"
  | realRange => "int too large to convert to float"
  | instantRange => "date value out of range"
  | yearRange year => "year " ++ toString year ++ " is out of range"
  | emptyTag => "Empty tag name"
  | invalidTag tag => "Invalid tag name " ++ Text.quoted tag
  | openTag => "Invalid tag name"
  | invalidUri uri => "Invalid namespace URI " ++ Text.quoted uri
  | invalidPrefix pre => "Invalid namespace prefix " ++ Text.quoted pre
  | unwritableText =>
    "All strings must be XML compatible: Unicode or ASCII, no NULL bytes or control characters"
  | file fault path => fileMessage fault path
  | nulInPath => "embedded null byte"
  | encoding position => "'utf-8' codec can't decode byte in position " ++ toString position
  | yaml reason => reason
  | toml reason => reason
  | scalar reason => reason
  | emptyScalar => "string index out of range"
  | notTruth text => Text.quoted text
  | wrongKind reason => reason
  | noMember reason => reason
  | query reason => reason
  | logLevel name => "Level " ++ Text.quoted name ++ " does not exist"

end Error

/-! ### Computations that can fail -/

section

variable {α β : Type} {x : Except Error α} {f : α → Except Error β}

/-- The value behind the first of two steps that both give one. -/
theorem bind_ok {b : β} (h : x >>= f = .ok b) : ∃ a, x = .ok a ∧ f a = .ok b := by
  cases x with
  | error e => cases h
  | ok a => exact ⟨a, rfl, h⟩

/-- Of two steps that fail together, the first fails or the second fails on its value. -/
theorem map_ok {f : α → β} {b : β} (h : x.map f = .ok b) : ∃ a, x = .ok a ∧ f a = b := by
  cases x with
  | error e => cases h
  | ok a => exact ⟨a, rfl, Except.ok.inj h⟩

theorem bind_eq_error_iff {e : Error} :
    x >>= f = .error e ↔ x = .error e ∨ ∃ a, x = .ok a ∧ f a = .error e := by
  cases x with
  | error e' =>
    have hbind : (Except.error e' : Except Error α) >>= f = .error e' := rfl
    simp [hbind]
  | ok a =>
    have hbind : (Except.ok a : Except Error α) >>= f = f a := rfl
    simp [hbind]

end

end MetadataBag
