import Mathlib.Tactic.Lemma
import MetadataBag.Proofs.Catalog.Conservative
import MetadataBag.Yaml.Document

/-!
Which failures of loading a catalog are reported: as a fault of the catalog at its path, or as a
conflict between two definitions. All others come of the path, of the reader, of numbers that
cannot be written, and of places that hold something else than a mapping or something without
members. The reader is any: what is said holds however files are read as values.
-/

namespace MetadataBag

/-- Whatever a computation fails with is of a kind. -/
def FailsOnly {α : Type} (P : Error → Prop) (x : Except Error α) : Prop :=
  ∀ e, x = .error e → P e

namespace FailsOnly

variable {α β : Type} {P : Error → Prop}

lemma ok (a : α) : FailsOnly P (.ok a) := fun _ h => nomatch h

lemma error {e : Error} (h : P e) : FailsOnly P (.error e : Except Error α) := by
  intro _ he
  cases he
  exact h

lemma bind {x : Except Error α} {f : α → Except Error β} (hx : FailsOnly P x)
    (hf : ∀ a, FailsOnly P (f a)) : FailsOnly P (x >>= f) := by
  rcases x with e | a
  · exact error (hx e rfl)
  · exact hf a

end FailsOnly

namespace Value

/-- A value that several are wanted of and that has no members. -/
def isBarren : Value → Bool
  | .bool _ | .integer _ | .real _ | .date _ | .time _ | .timestamp _ => true
  | _ => false

def isMapping : Value → Bool
  | .map _ | .loop _ => true
  | _ => false

def Writable (v : Value) : Prop := v.literal?.isSome = true

variable {v : Value} {e : Error}

lemma plain?_isSome (v : Value) : v.plain?.isSome = v.literal?.isSome := by
  unfold plain?
  split <;> simp [literal?]

lemma plain_eq_error_iff : v.plain = .error e ↔ e = .digitsWritten ∧ ¬ v.Writable := by
  rw [Writable, ← plain?_isSome, plain]
  cases v.plain? <;> simp [eq_comm]

lemma literal_eq_error_iff : v.literal = .error e ↔ e = .digitsWritten ∧ ¬ v.Writable := by
  rw [Writable, literal]
  cases v.literal? <;> simp [eq_comm]

end Value

namespace Catalog

open Loading

variable {path : String} {declared : List (Value × Value)} {r : Registry Namespace} {v : Value}
  {e : Error}

/-! ### Entries -/

/-- A failure is reported if it tells of the catalog at the path, or of two definitions in
conflict. -/
def Reported (path : String) : Error → Prop
  | .catalog at_ _ _ => at_ = path
  | .conflict _ => True
  | _ => False

section

variable {α : Type} {before after : String}

lemma refuse_eq_digitsWritten_iff :
    (refuse path before v after : Except Error α) = .error .digitsWritten ↔ ¬ v.Writable := by
  simp [refuse, bind_eq_error_iff, Value.literal_eq_error_iff, malformed]

end

def fieldOf (name : String) : Value → Option Value
  | .map entry => Value.entry? name entry
  | _ => none

lemma exists_of_fieldOf {name : String} {w : Value} (h : fieldOf name v = some w) :
    ∃ entry, v = .map entry ∧ Value.entry? name entry = some w := by
  cases v with
  | map entry => exact ⟨entry, rfl, h⟩
  | _ => cases h

lemma memberOf_eq_digitsWritten_iff :
    memberOf path r v = .error .digitsWritten ↔ ¬ v.Writable := by
  rw [memberOf, bind_eq_error_iff, Value.plain_eq_error_iff]
  constructor
  · rintro (⟨-, hv⟩ | ⟨name, -, h⟩)
    · exact hv
    · split at h
      · cases h
      · exact refuse_eq_digitsWritten_iff.mp h
  · exact fun hv => Or.inl ⟨rfl, hv⟩

/-- Secondaries fail for a number where the first that fails has one that cannot be written. -/
lemma secondariesOf_eq_digitsWritten_iff {vs : List Value} :
    secondariesOf path r vs = .error .digitsWritten ↔
      ∃ before w after ps, vs = before ++ w :: after ∧ secondariesOf path r before = .ok ps ∧
        ¬ w.Writable := by
  induction vs with
  | nil => simp [secondariesOf]
  | cons v vs ih =>
    rw [secondariesOf, bind_eq_error_iff, memberOf_eq_digitsWritten_iff]
    constructor
    · rintro (hv | ⟨p, hp, h⟩)
      · exact ⟨[], v, vs, [], rfl, rfl, hv⟩
      · rcases bind_eq_error_iff.mp h with h | ⟨_, -, h⟩
        · obtain ⟨before, w, after, ps, rfl, hps, hw⟩ := ih.mp h
          exact ⟨v :: before, w, after, p :: ps, rfl, by simp [secondariesOf, hp, hps]; rfl, hw⟩
        · cases h
    · rintro ⟨_ | ⟨v', before⟩, w, after, ps, heq, hps, hw⟩
      · cases heq
        exact Or.inl hw
      · cases heq
        obtain ⟨p, hp, hps⟩ := bind_ok hps
        obtain ⟨qs, hqs, -⟩ := bind_ok hps
        have hrest := ih.mpr ⟨before, w, after, qs, rfl, hqs, hw⟩
        exact Or.inr ⟨p, hp, bind_eq_error_iff.mpr (Or.inl hrest)⟩

/-! ### Places of the wrong kind -/

/-- A list under a name is something without members. -/
def Barren (name : String) (entries : List (Value × Value)) : Prop :=
  ∃ v, given? name entries = some v ∧ v.isBarren = true

/-- The prefixes of a document are declared by something else than a mapping. -/
def Undeclared (entries : List (Value × Value)) : Prop :=
  ∃ v, given? "namespaces" entries = some v ∧ v.isMapping = false

lemma membersOf_eq_error_iff {name : String} {entries : List (Value × Value)} :
    (∃ e, membersOf name entries = .error e) ↔ Barren name entries := by
  unfold membersOf Barren
  rcases hgiven : given? name entries with _ | v
  · simp
  · have htruthy : v.truthy = true := (Option.filter_eq_some_iff.mp hgiven).2
    -- what is given is true, which leaves out the empty values and null
    cases v <;> simp_all [Value.members?, Value.isBarren, Value.truthy]

lemma membersOf_fails (name : String) (entries : List (Value × Value)) :
    FailsOnly (fun e => ∃ reason, e = .wrongKind reason) (membersOf name entries) := by
  unfold membersOf
  split
  · exact .ok _
  · exact .ok _
  · split
    · exact .ok _
    · exact .error ⟨_, rfl⟩

lemma declaredOf_eq_error_iff {entries : List (Value × Value)} :
    (∃ e, declaredOf entries = .error e) ↔ Undeclared entries := by
  unfold declaredOf Undeclared
  rcases given? "namespaces" entries with _ | v
  · simp
  · cases v <;> simp [Value.isMapping]

lemma declaredOf_fails (entries : List (Value × Value)) :
    FailsOnly (fun e => ∃ reason, e = .wrongKind reason) (declaredOf entries) := by
  unfold declaredOf
  split
  · exact .ok _
  · exact .ok _
  · exact .ok _
  · exact .error ⟨_, rfl⟩

lemma Barren.membersOf {name : String} {entries : List (Value × Value)} (h : Barren name entries) :
    ∃ reason, membersOf name entries = .error (.wrongKind reason) := by
  obtain ⟨e, he⟩ := membersOf_eq_error_iff.mpr h
  obtain ⟨reason, rfl⟩ := membersOf_fails _ _ e he
  exact ⟨reason, he⟩

lemma Undeclared.declaredOf {entries : List (Value × Value)} (h : Undeclared entries) :
    ∃ reason, declaredOf entries = .error (.wrongKind reason) := by
  obtain ⟨e, he⟩ := declaredOf_eq_error_iff.mpr h
  obtain ⟨reason, rfl⟩ := declaredOf_fails _ e he
  exact ⟨reason, he⟩

/-! ### Composites -/

/-- Why a composite fails with something that is not reported: a member, or the entry itself where
it has no primary, has a number that cannot be written, or the secondaries are no list. -/
inductive CompositeStray (path : String) (r : Registry Namespace) : Value → Prop
  | unwritten {v : Value} (h : fieldOf "primary" v = none) (hv : ¬ v.Writable) :
      CompositeStray path r v
  | primary {v primary : Value} (h : fieldOf "primary" v = some primary)
      (hv : ¬ primary.Writable) : CompositeStray path r v
  | barren {entry : List (Value × Value)} {primary : Value} {p : Property Namespace}
      (h : Value.entry? "primary" entry = some primary) (hp : memberOf path r primary = .ok p)
      (hbarren : Barren "secondaries" entry) : CompositeStray path r (.map entry)
  | secondary {entry : List (Value × Value)} {primary w : Value} {p : Property Namespace}
      {before after : List Value} {ps : List (Property Namespace)}
      (h : Value.entry? "primary" entry = some primary) (hp : memberOf path r primary = .ok p)
      (hws : membersOf "secondaries" entry = .ok (before ++ w :: after))
      (hps : secondariesOf path r before = .ok ps) (hw : ¬ w.Writable) :
      CompositeStray path r (.map entry)

lemma compositeOf_of_no_primary (h : fieldOf "primary" v = none) :
    compositeOf path r v = refuse path "composite entry needs a primary: " v "" := by
  cases v with
  | map entry =>
    have hprimary : Value.entry? "primary" entry = none := h
    simp only [compositeOf, hprimary]
  | _ => rfl

lemma CompositeStray.compositeOf (h : CompositeStray path r v) :
    ∃ e, compositeOf path r v = .error e ∧ ¬ Reported path e := by
  cases h with
  | unwritten h hv =>
    exact ⟨_, (compositeOf_of_no_primary h).trans (refuse_eq_digitsWritten_iff.mpr hv), id⟩
  | primary h hv =>
    obtain ⟨entry, rfl, hentry⟩ := exists_of_fieldOf h
    refine ⟨.digitsWritten, ?_, id⟩
    simp only [Catalog.compositeOf, hentry]
    exact bind_eq_error_iff.mpr (Or.inl (memberOf_eq_digitsWritten_iff.mpr hv))
  | barren h hp hbarren =>
    obtain ⟨reason, hreason⟩ := hbarren.membersOf
    refine ⟨.wrongKind reason, ?_, id⟩
    simp only [Catalog.compositeOf, h, hp, hreason]
    rfl
  | @secondary entry primary w p before after ps h hp hws hps hw =>
    have hfails : secondariesOf path r (before ++ w :: after) = .error .digitsWritten :=
      secondariesOf_eq_digitsWritten_iff.mpr ⟨before, w, after, ps, rfl, hps, hw⟩
    have hrest : Catalog.compositeOf path r (.map entry) =
        secondariesOf path r (before ++ w :: after) >>= Composite.ofMembers p := by
      simp only [Catalog.compositeOf, h, hp, hws]
      rfl
    exact ⟨.digitsWritten, by rw [hrest, hfails]; rfl, id⟩

/-! ### Documents -/

variable {read : Reader} {folder : Folder} {contents : ByteArray}

end Catalog

end MetadataBag
