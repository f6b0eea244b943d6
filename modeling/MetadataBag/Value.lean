import MetadataBag.Date.Zone
import MetadataBag.Decimal.Shortest
import MetadataBag.Error

/-!
Values of documents and of callers, before they become text. Scalars, sequences and mappings;
a `loop` stands where a sequence or mapping would contain itself. The members of a set are in the
order in which it gives them, which need not be that of a document.

`plain?` is the text that a value is stored as, `literal?` the text that messages show and that
members of sequences and mappings have. Both fail only where a whole number has too many digits.
-/

namespace MetadataBag

inductive Value where
  | null
  | bool (b : Bool)
  | integer (n : Int)
  | real (x : Float)
  | text (s : String)
  | bytes (bs : List UInt8)
  | date (d : Date)
  | time (t : TimeOfDay)
  | timestamp (t : Timestamp)
  | list (members : List Value)
  | tuple (members : List Value)
  | set (members : List Value)
  | map (entries : List (Value × Value))
  | loop (isMap : Bool)

namespace Value

instance : Inhabited Value := ⟨null⟩

def padded (width n : Nat) : String :=
  let ds := Nat.toDigits 10 n
  String.ofList (List.replicate (width - ds.length) '0' ++ ds)

def dateText (d : Date) : String :=
  padded 4 d.year ++ "-" ++ padded 2 d.month ++ "-" ++ padded 2 d.day

def timeText (t : TimeOfDay) : String :=
  padded 2 t.hour ++ ":" ++ padded 2 t.minute ++ ":" ++ padded 2 t.second ++
    (if t.micro = 0 then "" else "." ++ padded 6 t.micro)

/-- Sign, hours and minutes of an offset, and what of seconds and microseconds is not zero. -/
def offsetText (micros : Int) : String :=
  let n := micros.natAbs
  let seconds := n / 1000000 % 60
  (if micros < 0 then "-" else "+") ++ padded 2 (n / 3600000000) ++ ":" ++
    padded 2 (n / 60000000 % 60) ++
    (if seconds = 0 ∧ n % 1000000 = 0 then "" else ":" ++ padded 2 seconds) ++
    (if n % 1000000 = 0 then "" else "." ++ padded 6 (n % 1000000))

def timestampText (t : Timestamp) : String :=
  dateText t.civil.date ++ " " ++ timeText t.civil.time ++
    ((t.offset?.map offsetText).getD "")

def commas (parts : List String) : String := ", ".intercalate parts

def dateLiteral (d : Date) : String :=
  "datetime.date(" ++ commas [toString d.year, toString d.month, toString d.day] ++ ")"

/-- The parts of a time of day: seconds and microseconds only where they are not zero. -/
def timeParts (t : TimeOfDay) : List String :=
  [toString t.hour, toString t.minute] ++
    (if t.micro ≠ 0 then [toString t.second, toString t.micro]
      else if t.second ≠ 0 then [toString t.second] else [])

def timeLiteral (t : TimeOfDay) : String := "datetime.time(" ++ commas (timeParts t) ++ ")"

def durationLiteral (micros : Int) : String :=
  let days := micros.fdiv 86400000000
  let rest := micros - days * 86400000000
  let part (name : String) (n : Int) : List String :=
    if n = 0 then [] else [name ++ "=" ++ toString n]
  let parts := part "days" days ++ part "seconds" (rest / 1000000) ++
    part "microseconds" (rest % 1000000)
  "datetime.timedelta(" ++ (if parts = [] then "0" else commas parts) ++ ")"

def zoneLiteral : Zone → String
  | .fixed micros =>
    if micros = 0 then "datetime.timezone.utc"
    else "datetime.timezone(" ++ durationLiteral micros ++ ")"
  | .named name _ => "zoneinfo.ZoneInfo(key=" ++ Text.quoted name ++ ")"

def timestampLiteral (t : Timestamp) : String :=
  let d := t.civil.date
  "datetime.datetime(" ++
    commas ([toString d.year, toString d.month, toString d.day] ++ timeParts t.civil.time ++
      (if t.fold then ["fold=1"] else []) ++
      (match t.zone with
        | none => []
        | some z => ["tzinfo=" ++ zoneLiteral z])) ++ ")"

mutual

def literal? : Value → Option String
  | .null => some "None"
  | .bool b => some (if b then "True" else "False")
  | .integer n => Decimal.integerText? n
  | .real x => some (Decimal.realText x)
  | .text s => some (Text.quoted s)
  | .bytes bs => some (Text.quotedBytes bs)
  | .date d => some (dateLiteral d)
  | .time t => some (timeLiteral t)
  | .timestamp t => some (timestampLiteral t)
  | .list members => (literals? members).map fun ts => "[" ++ commas ts ++ "]"
  | .tuple members => (literals? members).map fun ts =>
    match ts with
    | [t] => "(" ++ t ++ ",)"
    | ts => "(" ++ commas ts ++ ")"
  | .set members => (literals? members).map fun ts =>
    if ts = [] then "set()" else "\x7b" ++ commas ts ++ "\x7d"
  | .map entries => (entryLiterals? entries).map fun ts => "\x7b" ++ commas ts ++ "\x7d"
  | .loop isMap => some (if isMap then "\x7b...\x7d" else "[...]")

def literals? : List Value → Option (List String)
  | [] => some []
  | v :: vs => do
    let t ← literal? v
    let ts ← literals? vs
    some (t :: ts)

def entryLiterals? : List (Value × Value) → Option (List String)
  | [] => some []
  | (k, v) :: rest => do
    let kt ← literal? k
    let vt ← literal? v
    let ts ← entryLiterals? rest
    some ((kt ++ ": " ++ vt) :: ts)

end

/-- The text of a value: texts as they are, dates and times in their usual form, the rest as its
literal. -/
def plain? : Value → Option String
  | .text s => some s
  | .date d => some (dateText d)
  | .time t => some (timeText t)
  | .timestamp t => some (timestampText t)
  | v => v.literal?

/-- `plain?`, with the error where there is no text. -/
def plain (v : Value) : Except Error String :=
  match v.plain? with
  | some s => .ok s
  | none => .error .digitsWritten

/-- `literal?`, with the error where there is no text. -/
def literal (v : Value) : Except Error String :=
  match v.literal? with
  | some s => .ok s
  | none => .error .digitsWritten

/-- Whether a value counts as given: not null, false, zero or empty. -/
def truthy : Value → Bool
  | .null => false
  | .bool b => b
  | .integer n => n ≠ 0
  | .real x => x != 0
  | .text s => s ≠ ""
  | .bytes bs => !bs.isEmpty
  | .date _ | .time _ | .timestamp _ | .loop _ => true
  | .list members | .tuple members | .set members => !members.isEmpty
  | .map entries => !entries.isEmpty

def isNull : Value → Bool
  | .null => true
  | _ => false

def kind : Value → String
  | .null => "NoneType"
  | .bool _ => "bool"
  | .integer _ => "int"
  | .real _ => "float"
  | .text _ => "str"
  | .bytes _ => "bytes"
  | .date _ => "date"
  | .time _ => "time"
  | .timestamp _ => "datetime"
  | .list _ => "list"
  | .tuple _ => "tuple"
  | .set _ => "set"
  | .map _ => "dict"
  | .loop isMap => if isMap then "dict" else "list"

def isScalar : Value → Bool
  | .list _ | .tuple _ | .set _ | .map _ | .loop _ => false
  | _ => true

/-- The value of a number as a fraction; truth values count as 0 and 1. -/
def ratio? : Value → Option (Int × Nat)
  | .bool b => some (if b then 1 else 0, 1)
  | .integer n => some (n, 1)
  | .real x =>
    match Decimal.Binary.ofFloat x with
    | .finite negative m q =>
      let r := Decimal.Ratio.binary m q
      some (if negative then -(r.num : Int) else r.num, r.den)
    | _ => none
  | _ => none

/-- Whether two scalars are one key: numbers by value, times with an offset by their instant. There
is one NaN. -/
def sameKey (a b : Value) : Bool :=
  match a.ratio?, b.ratio? with
  | some (n, d), some (n', d') => n * d' = n' * d
  | some _, none | none, some _ => false
  | none, none =>
    match a, b with
    | .null, .null => true
    | .real x, .real y => x == y || x.isNaN && y.isNaN
    | .text s, .text t => s = t
    | .bytes s, .bytes t => s = t
    | .date s, .date t => s = t
    | .time s, .time t => s = t
    | .timestamp s, .timestamp t =>
      match s.offset?, t.offset? with
      | none, none => s.civil = t.civil
      | some o, some o' => (s.civil.micros : Int) - o = t.civil.micros - o'
      | _, _ => false
    | _, _ => false

def entry? (key : String) : List (Value × Value) → Option Value
  | [] => none
  | (.text k, v) :: rest => if k = key then some v else entry? key rest
  | _ :: rest => entry? key rest

/-- Gives a key a value: a known key keeps its place and takes the value, a new one is appended. -/
def putEntry (key value : Value) : List (Value × Value) → List (Value × Value)
  | [] => [(key, value)]
  | (k, v) :: rest =>
    if k.sameKey key then (k, value) :: rest else (k, v) :: putEntry key value rest

/-- The entries of a list by key, later values replacing earlier ones in place. -/
def unique (entries : List (Value × Value)) : List (Value × Value) :=
  entries.foldl (fun m e => putEntry e.1 e.2 m) []

/-- The members that a place for several values takes from a value: those of a sequence or set,
the keys of a mapping, the characters of a text, the numbers of a byte sequence. -/
def members? : Value → Option (List Value)
  | .list members | .tuple members | .set members => some members
  | .map entries => some (entries.map (·.1))
  | .text s => some (s.toList.map fun c => .text c.toString)
  | .bytes bs => some (bs.map fun b => .integer b.toNat)
  | _ => none

end Value

end MetadataBag
