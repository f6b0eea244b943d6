import MetadataBag.Namespaces
import MetadataBag.Value

/-!
Namespaces as a catalog gives them: texts, or any other values. Of a value that is no text only
what tells it from others is kept, and what becomes of it when something is stored under it.
-/

namespace MetadataBag

namespace Value

/-- The text of a number by its value, so that equal numbers have one. -/
def numberSign (v : Value) (x : Float) : String :=
  match v.ratio? with
  | some (n, d) => if n % (d : Int) = 0 then toString (n / (d : Int)) else Decimal.realText x
  | none => Decimal.realText x

/-- The text of a timestamp: one with an offset by its instant, any other without its fold. -/
def timestampSign (t : Timestamp) : String :=
  match t.offset? with
  | some offset => "instant " ++ toString ((t.civil.micros : Int) - offset)
  | none => timestampLiteral { t with fold := false }

mutual

/-- A text that equal values have in common, and no others. The order of a set or a mapping does
not count. -/
def sign : Value → String
  | .null => "None"
  | .bool b => if b then "1" else "0"
  | .integer n => toString n
  | .real x => numberSign (.real x) x
  | .text s => Text.quoted s
  | .bytes bs => Text.quotedBytes bs
  | .date d => dateLiteral d
  | .time t => timeLiteral t
  | .timestamp t => timestampSign t
  | .list members => "[" ++ commas (signs members) ++ "]"
  | .tuple members => "(" ++ commas (signs members) ++ ")"
  | .set members => "set\x7b" ++ commas ((signs members).mergeSort (· ≤ ·)) ++ "\x7d"
  | .map entries => "\x7b" ++ commas ((entrySigns entries).mergeSort (· ≤ ·)) ++ "\x7d"
  | .loop _ => "..."

def signs : List Value → List String
  | [] => []
  | v :: vs => sign v :: signs vs

def entrySigns : List (Value × Value) → List String
  | [] => []
  | (k, v) :: rest => (sign k ++ ": " ++ sign v) :: entrySigns rest

/-- The kind of a value within that nothing can be stored under. -/
def unkeyed? : Value → Option String
  | .list _ => some "list"
  | .set _ => some "set"
  | .map _ => some "dict"
  | .loop isMap => some (if isMap then "dict" else "list")
  | .tuple members => unkeyedAmong? members
  | _ => none

def unkeyedAmong? : List Value → Option String
  | [] => none
  | v :: vs => (unkeyed? v).or (unkeyedAmong? vs)

end

end Value

namespace Catalog

/-- What counts of a value that serves as a namespace. -/
structure Mark where
  sign : String
  /-- Whether the value counts as one that is there. -/
  counts : Bool
  unkeyed : Option String
  /-- Whether the value has a text. -/
  writable : Bool
  deriving DecidableEq, Repr

/-- A namespace in a catalog. -/
inductive Namespace where
  | text (s : String)
  | value (m : Mark)
  deriving DecidableEq, Repr

instance : Space Namespace where
  decEq := inferInstance
  text := .text
  filled
    | .text s => s ≠ ""
    | .value m => m.counts
  filled_text _ := rfl

def Namespace.ofValue? : Value → Option Namespace
  | .null => none
  | .text s => some (.text s)
  | v => some (.value ⟨v.sign, v.truthy, v.unkeyed?, v.plain?.isSome⟩)

/-- What keeps values from being stored under a name: its namespace cannot be looked up, or it has
no text and a prefix is to be bound to it. -/
def obstacle? (n : Name Namespace) : Option Error :=
  match n.uri with
  | some (.value m) =>
    match m.unkeyed with
    | some kind => some (.wrongKind ("unhashable type: " ++ Text.quoted kind))
    | none =>
      if (Namespaces.bindingOf n).isSome && !m.writable then some .digitsWritten else none
  | _ => none

end Catalog

end MetadataBag
