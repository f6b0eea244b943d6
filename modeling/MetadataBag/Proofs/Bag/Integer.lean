import MetadataBag.Proofs.Bag.Slots
import MetadataBag.Proofs.Codec.SinglePass
import MetadataBag.Proofs.Decimal.Numeral

/-!
Reading whole numbers. The first value under a property of whole numbers is read if it denotes a
number of 32 bits; any other value reads as none. The one exception is a value with more digits
than `digitLimit`: whatever number it denotes, reading it fails.
-/

namespace MetadataBag

open Decimal

def Int32Range (n : Int) : Prop := -2 ^ 31 ≤ n ∧ n ≤ 2 ^ 31 - 1

instance (n : Int) : Decidable (Int32Range n) := inferInstanceAs (Decidable (_ ∧ _))

/-- A property for whole numbers without a primary, and the composites over it. -/
def Property.OfInteger (p : Property) : Prop :=
  ∃ q : Property, q.shape = .simple ∧ q.valueType = .integer ∧ q.primary = none ∧
    (p = q ∨ ∃ secondaries, p = .composite q secondaries)

/-- Typed accessors take the property, or the primary it has, for a simple one of whole numbers. -/
def Property.TypedInteger (p : Property) : Prop :=
  p.target.shape = .simple ∧ p.target.valueType = .integer

instance (p : Property) : Decidable p.TypedInteger := inferInstanceAs (Decidable (_ ∧ _))

namespace Bag

/-! ### Texts -/

lemma readInt_of_denotes {s : String} {n : Int} (h : Denotes s.toList n) :
    readInt s =
      if digitLimit < digitCount s.toList then .error (.digitsRead (digitCount s.toList))
      else if Int32Range n then .ok (some n) else .ok none := by
  obtain ⟨x, hx, rfl⟩ := signed?_of_denotes h
  have hcount := (denotes_of_signed? hx).2
  have hrange : leastInt ≤ x.value ∧ x.value ≤ greatestInt ↔ Int32Range x.value := Iff.rfl
  simp only [readInt, hx, hcount, hrange]

lemma readInt_of_not_denotes {s : String} (h : ∀ n, ¬ Denotes s.toList n) :
    readInt s = .ok none := by
  rcases hx : signed? s.toList with _ | x
  · rw [readInt, hx]
  · exact absurd (denotes_of_signed? hx).1 (h x.value)

lemma readInt_eq_some_iff (s : String) (n : Int) :
    readInt s = .ok (some n) ↔
      Denotes s.toList n ∧ Int32Range n ∧ digitCount s.toList ≤ digitLimit := by
  constructor
  · intro h
    by_cases hm : ∃ m, Denotes s.toList m
    · obtain ⟨m, hm⟩ := hm
      rw [readInt_of_denotes hm] at h
      split_ifs at h with hlong hrange
      · cases h
        exact ⟨hm, hrange, Nat.le_of_not_lt hlong⟩
      · cases h
    · rw [readInt_of_not_denotes (not_exists.mp hm)] at h
      cases h
  · rintro ⟨hn, hrange, hshort⟩
    rw [readInt_of_denotes hn, if_neg (Nat.not_lt.mpr hshort), if_pos hrange]

lemma readInt_eq_error_iff (s : String) (e : Error) :
    readInt s = .error e ↔
      (∃ n, Denotes s.toList n) ∧ digitLimit < digitCount s.toList ∧
        e = .digitsRead (digitCount s.toList) := by
  constructor
  · intro h
    by_cases hm : ∃ m, Denotes s.toList m
    · obtain ⟨m, hm⟩ := hm
      rw [readInt_of_denotes hm] at h
      split_ifs at h with hlong
      cases h
      exact ⟨⟨m, hm⟩, hlong, rfl⟩
    · rw [readInt_of_not_denotes (not_exists.mp hm)] at h
      cases h
  · rintro ⟨⟨n, hn⟩, hlong, rfl⟩
    rw [readInt_of_denotes hn, if_pos hlong]

lemma readInt_eq_none_iff (s : String) :
    readInt s = .ok none ↔
      ∀ n, Denotes s.toList n → ¬ Int32Range n ∧ digitCount s.toList ≤ digitLimit := by
  constructor
  · intro h n hn
    rw [readInt_of_denotes hn] at h
    split_ifs at h with hlong hrange
    · cases h
    · exact ⟨hrange, Nat.le_of_not_lt hlong⟩
  · intro h
    by_cases hm : ∃ m, Denotes s.toList m
    · obtain ⟨m, hm⟩ := hm
      obtain ⟨hrange, hshort⟩ := h m hm
      rw [readInt_of_denotes hm, if_neg (Nat.not_lt.mpr hshort), if_neg hrange]
    · exact readInt_of_not_denotes (not_exists.mp hm)

/-! ### Properties -/

lemma get?_eq_head? (b : Bag) (r : Registry) (k : Key) :
    b.get? r (some k) = (b.getAll r (some k)).head? := by
  rw [get?, getAll, Store.get?_eq, Store.getAll_eq, List.head?_map]

lemma accepts_integer_iff {p : Property} : accepts p [.integer] = true ↔ p.TypedInteger := by
  simp [accepts, Property.TypedInteger]

lemma typedInteger_of_ofInteger {p : Property} (h : p.OfInteger) : p.TypedInteger := by
  obtain ⟨q, hshape, htype, hprimary, rfl | ⟨secondaries, rfl⟩⟩ := h
  · rw [Property.TypedInteger, Property.target, hprimary]
    exact ⟨hshape, htype⟩
  · exact ⟨hshape, htype⟩

lemma accepts_of_ofInteger {p : Property} (h : p.OfInteger) : accepts p [.integer] = true :=
  accepts_integer_iff.mpr (typedInteger_of_ofInteger h)

lemma getInt_of_head? {b : Bag} {r : Registry} {p : Property} (hp : p.OfInteger) {s : String}
    (hs : (b.getAll r (some (.property p))).head? = some s) : b.getInt r p = readInt s := by
  rw [getInt, if_pos (accepts_of_ofInteger hp), get?_eq_head?, hs]

lemma getInt_of_empty {b : Bag} {r : Registry} {p : Property} (hp : p.OfInteger)
    (hs : (b.getAll r (some (.property p))).head? = none) : b.getInt r p = .ok none := by
  rw [getInt, if_pos (accepts_of_ofInteger hp), get?_eq_head?, hs]

/-- **Whole numbers are read exactly.** A property of whole numbers reads as a number exactly if its
first value denotes it, in 32 bits and in at most `digitLimit` digits. Reading fails exactly if
that value denotes a number in more digits than that; anything else reads as none. -/
theorem int_read_iff_denotes (b : Bag) (r : Registry) (p : Property) (hp : p.OfInteger) :
    (∀ n, b.getInt r p = .ok (some n) ↔
      ∃ s ∈ (b.getAll r (some (.property p))).head?,
        Denotes s.toList n ∧ Int32Range n ∧ digitCount s.toList ≤ digitLimit) ∧
    (∀ e, b.getInt r p = .error e ↔
      ∃ s ∈ (b.getAll r (some (.property p))).head?,
        (∃ n, Denotes s.toList n) ∧ digitLimit < digitCount s.toList ∧
          e = .digitsRead (digitCount s.toList)) ∧
    (b.getInt r p = .ok none ↔
      ∀ s ∈ (b.getAll r (some (.property p))).head?, ∀ n, Denotes s.toList n →
        ¬ Int32Range n ∧ digitCount s.toList ≤ digitLimit) := by
  rcases hs : (b.getAll r (some (.property p))).head? with _ | s
  · rw [getInt_of_empty hp hs]
    simp
  · rw [getInt_of_head? hp hs]
    simp only [Option.mem_some_iff, exists_eq_left', forall_eq']
    exact ⟨readInt_eq_some_iff s, readInt_eq_error_iff s, readInt_eq_none_iff s⟩

def count : Property := .ofKey "x:count" (some "urn:x") .integer false false

def counts : Property := .composite count [.ofKey "n" none .integer false true]

lemma ofInteger_count : count.OfInteger := ⟨count, rfl, rfl, rfl, Or.inl rfl⟩

def counted (s : String) : Bag :=
  ((empty .markup .universal).add .empty (some (.property count)) (some s)).bag

lemma getAll_counted (s : String) :
    (counted s).getAll .empty (some (.property count)) = [s] := by
  have hstore : (counted s).store =
      (Store.empty .markup).put ((Key.property count).resolve .empty) s := rfl
  rw [getAll, Store.getAll_eq, hstore, Store.kept_put, if_pos rfl]
  simp [Codec.unescape_escape]

theorem int_read_iff_denotes_signed :
    counts.OfInteger ∧ Denotes "-00042".toList (-42) ∧
      (counted "-00042").getInt .empty counts = .ok (some (-42)) := by
  have hp : counts.OfInteger := ⟨count, rfl, rfl, rfl, Or.inr ⟨_, rfl⟩⟩
  have hdenotes : Denotes "-00042".toList (-42) := Denotes.negative (by decide : IsDigits _)
  have hs : "-00042" ∈ ((counted "-00042").getAll .empty (some (.property counts))).head? := by
    decide +kernel
  refine ⟨hp, hdenotes, ?_⟩
  exact ((int_read_iff_denotes _ _ _ hp).1 (-42)).mpr
    ⟨"-00042", hs, hdenotes, by decide, by decide⟩

def paddedSeven (zeros : Nat) : String := String.ofList (List.replicate zeros '0' ++ ['7'])

lemma isDigits_paddedSeven (zeros : Nat) : IsDigits (paddedSeven zeros).toList := by
  rw [paddedSeven, String.toList_ofList]
  exact IsDigits.zeros_append (by decide) zeros

lemma denotes_paddedSeven (zeros : Nat) : Denotes (paddedSeven zeros).toList 7 := by
  have hvalue : Text.placeValue (paddedSeven zeros).toList = 7 := by
    rw [paddedSeven, String.toList_ofList, Text.placeValue_zeros_append]
    rfl
  have hdenotes := Denotes.unsigned (isDigits_paddedSeven zeros)
  rwa [hvalue] at hdenotes

lemma digitCount_paddedSeven (zeros : Nat) : digitCount (paddedSeven zeros).toList = zeros + 1 := by
  rw [(isDigits_paddedSeven zeros).digitCount_eq, paddedSeven, String.toList_ofList,
    List.length_append, List.length_replicate, List.length_singleton]

lemma getInt_counted (s : String) : (counted s).getInt .empty count = readInt s := by
  refine getInt_of_head? ofInteger_count ?_
  rw [getAll_counted, List.head?_cons]

theorem int_read_fails_on_leading_zeros :
    Denotes (paddedSeven 4300).toList 7 ∧ Int32Range 7 ∧
      (counted (paddedSeven 4300)).getInt .empty count = .error (.digitsRead 4301) ∧
      ¬ ∀ (b : Bag) (r : Registry) (p : Property), p.OfInteger → ∃ n, b.getInt r p = .ok n := by
  have hdenotes := denotes_paddedSeven 4300
  have hlong : digitLimit < 4300 + 1 := by decide
  have hfails : (counted (paddedSeven 4300)).getInt .empty count = .error (.digitsRead 4301) := by
    rw [getInt_counted, readInt_of_denotes hdenotes, digitCount_paddedSeven, if_pos hlong]
  refine ⟨hdenotes, by decide, hfails, fun hall => ?_⟩
  obtain ⟨n, hn⟩ := hall (counted (paddedSeven 4300)) .empty count ofInteger_count
  rw [hfails] at hn
  cases hn

end Bag

end MetadataBag
