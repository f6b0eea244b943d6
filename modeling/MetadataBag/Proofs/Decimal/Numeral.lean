import Mathlib.Data.List.Basic
import Mathlib.Data.List.Induction
import Mathlib.Data.Nat.Digits.Defs
import Mathlib.Tactic.Lemma
import MetadataBag.Decimal.Integer

/-!
Which texts denote whole numbers: a sign or none, and then decimal digits of any script, at least
one. The reader accepts exactly these, and the number is given by the place of each digit. The
text that a whole number is written as is one of them and denotes the number.
-/

namespace MetadataBag

namespace Text

/-- The value of a run of digits, the last of them standing for ones. -/
def placeValue (ds : List Char) : Nat :=
  Nat.ofDigits 10 (ds.reverse.map fun c => (digit? c).getD 0)

lemma number_eq_placeValue (ds : List Char) : number ds = placeValue ds := by
  induction ds using List.reverseRecOn with
  | nil => rfl
  | append_singleton ds c ih =>
    rw [number_concat, ih, placeValue, placeValue, List.reverse_concat, List.map_cons,
      Nat.ofDigits_cons, Nat.add_comm]

lemma placeValue_zero_cons (ds : List Char) : placeValue ('0' :: ds) = placeValue ds := by
  have hzero : (digit? '0').getD 0 = 0 := rfl
  rw [placeValue, List.reverse_cons, List.map_append, Nat.ofDigits_append, List.map_singleton,
    hzero, Nat.ofDigits_singleton, Nat.mul_zero, Nat.add_zero, placeValue]

lemma placeValue_zeros_append (k : Nat) (ds : List Char) :
    placeValue (List.replicate k '0' ++ ds) = placeValue ds := by
  induction k with
  | zero => rfl
  | succ k ih => rw [List.replicate_succ, List.cons_append, placeValue_zero_cons, ih]

lemma number_of_ascii {ds : List Char} (h : ∀ c ∈ ds, c.isDigit) :
    number ds = Nat.ofDigitChars 10 ds 0 := by
  refine List.foldl_ext _ _ 0 fun n c hc => ?_
  rw [digit?_of_ascii (h c hc), Option.getD_some]
  rfl

end Text

namespace Decimal

def IsDigits (ds : List Char) : Prop := ds ≠ [] ∧ ∀ c ∈ ds, Text.isDigit c

lemma isDigits_iff (ds : List Char) :
    IsDigits ds ↔ (!ds.isEmpty && ds.all Text.isDigit) = true := by
  simp [IsDigits]

instance (ds : List Char) : Decidable (IsDigits ds) := decidable_of_iff _ (isDigits_iff ds).symm

inductive Denotes : List Char → Int → Prop where
  | unsigned {ds : List Char} (h : IsDigits ds) : Denotes ds (Text.placeValue ds)
  | positive {ds : List Char} (h : IsDigits ds) : Denotes ('+' :: ds) (Text.placeValue ds)
  | negative {ds : List Char} (h : IsDigits ds) : Denotes ('-' :: ds) (-(Text.placeValue ds : Int))

/-- How many digits a text has; leading zeros count. -/
def digitCount (cs : List Char) : Nat := cs.countP Text.isDigit

lemma IsDigits.digitCount_eq {ds : List Char} (h : IsDigits ds) : digitCount ds = ds.length :=
  List.countP_eq_length.mpr h.2

/-- Zeros in front of digits are digits too. -/
lemma IsDigits.zeros_append {ds : List Char} (h : IsDigits ds) (k : Nat) :
    IsDigits (List.replicate k '0' ++ ds) := by
  refine ⟨List.append_ne_nil_of_right_ne_nil _ h.1, fun c hc => ?_⟩
  rcases List.mem_append.mp hc with hc | hc
  · rw [List.eq_of_mem_replicate hc]
    rfl
  · exact h.2 c hc

lemma digitCount_cons {c : Char} (h : Text.isDigit c = false) (cs : List Char) :
    digitCount (c :: cs) = digitCount cs :=
  List.countP_cons_of_neg (by simp [h])

lemma Signed.value_negative (ds : List Char) :
    (⟨true, ds⟩ : Signed).value = -(Text.placeValue ds : Int) := by
  rw [Signed.value, if_pos rfl, Text.number_eq_placeValue]

lemma Signed.value_unsigned (ds : List Char) :
    (⟨false, ds⟩ : Signed).value = Text.placeValue ds := by
  rw [Signed.value, if_neg Bool.false_ne_true, Text.number_eq_placeValue]

lemma signed?_negative (ds : List Char) :
    signed? ('-' :: ds) = if IsDigits ds then some ⟨true, ds⟩ else none := by
  simp only [signed?, isDigits_iff]

lemma signed?_positive (ds : List Char) :
    signed? ('+' :: ds) = if IsDigits ds then some ⟨false, ds⟩ else none := by
  simp only [signed?, isDigits_iff]

lemma signed?_unsigned {cs : List Char} (hneg : ∀ ds, cs ≠ '-' :: ds)
    (hpos : ∀ ds, cs ≠ '+' :: ds) :
    signed? cs = if IsDigits cs then some ⟨false, cs⟩ else none := by
  unfold signed?
  split
  · rename_i ds
    exact absurd rfl (hneg ds)
  · rename_i ds
    exact absurd rfl (hpos ds)
  · simp only [isDigits_iff]

lemma not_isDigits_cons {c : Char} (h : Text.isDigit c = false) (ds : List Char) :
    ¬ IsDigits (c :: ds) := by
  intro hds
  rw [hds.2 c List.mem_cons_self] at h
  cases h

/-- What the reader splits off is the sign, and the digits it leaves give the number. -/
lemma denotes_of_signed? {cs : List Char} {s : Signed} (h : signed? cs = some s) :
    Denotes cs s.value ∧ s.digits.length = digitCount cs := by
  -- a minus, a plus, or no sign
  by_cases hneg : ∃ ds, cs = '-' :: ds
  · obtain ⟨ds, rfl⟩ := hneg
    rw [signed?_negative] at h
    split_ifs at h with hds
    cases h
    rw [digitCount_cons rfl, hds.digitCount_eq, Signed.value_negative]
    exact ⟨.negative hds, rfl⟩
  by_cases hpos : ∃ ds, cs = '+' :: ds
  · obtain ⟨ds, rfl⟩ := hpos
    rw [signed?_positive] at h
    split_ifs at h with hds
    cases h
    rw [digitCount_cons rfl, hds.digitCount_eq, Signed.value_unsigned]
    exact ⟨.positive hds, rfl⟩
  · push Not at hneg hpos
    rw [signed?_unsigned hneg hpos] at h
    split_ifs at h with hds
    cases h
    rw [hds.digitCount_eq, Signed.value_unsigned]
    exact ⟨.unsigned hds, rfl⟩

lemma signed?_of_denotes {cs : List Char} {n : Int} (h : Denotes cs n) :
    ∃ s, signed? cs = some s ∧ s.value = n := by
  cases h with
  | unsigned hds =>
    -- a sign is no digit
    have hneg : ∀ rest, cs ≠ '-' :: rest := by
      rintro rest rfl
      exact not_isDigits_cons rfl rest hds
    have hpos : ∀ rest, cs ≠ '+' :: rest := by
      rintro rest rfl
      exact not_isDigits_cons rfl rest hds
    exact ⟨_, (signed?_unsigned hneg hpos).trans (if_pos hds), Signed.value_unsigned _⟩
  | positive hds =>
    exact ⟨_, (signed?_positive _).trans (if_pos hds), Signed.value_unsigned _⟩
  | negative hds =>
    exact ⟨_, (signed?_negative _).trans (if_pos hds), Signed.value_negative _⟩

/-! ### Canonical texts -/

lemma isDigits_toDigits (n : Nat) : IsDigits (Nat.toDigits 10 n) :=
  ⟨Nat.toDigits_ne_nil, fun _ hc => Text.isDigit_of_ascii
    (Nat.isDigit_of_mem_toDigits (by decide) (by decide) hc)⟩

lemma placeValue_toDigits (n : Nat) : Text.placeValue (Nat.toDigits 10 n) = n := by
  have hascii : ∀ c ∈ Nat.toDigits 10 n, c.isDigit := fun _ =>
    Nat.isDigit_of_mem_toDigits (by decide) (by decide)
  rw [← Text.number_eq_placeValue, Text.number_of_ascii hascii, Nat.ofDigitChars_ten_toDigits]

lemma toList_toString_of_neg {n : Int} (h : n < 0) :
    (toString n).toList = '-' :: Nat.toDigits 10 n.natAbs := by
  have habs : (-n).toNat = n.natAbs := by omega
  rw [Int.toString_eq_repr, Int.repr_eq_if, if_neg (Int.not_le.mpr h), habs, String.toList_append,
    Nat.toList_repr]
  rfl

lemma toList_toString_of_nonneg {n : Int} (h : 0 ≤ n) :
    (toString n).toList = Nat.toDigits 10 n.natAbs := by
  have habs : n.toNat = n.natAbs := by omega
  rw [Int.toString_eq_repr, Int.repr_eq_if, if_pos h, habs, Nat.toList_repr]

/-- The text of a whole number denotes it. -/
lemma denotes_toString (n : Int) : Denotes (toString n).toList n := by
  have hvalue := placeValue_toDigits n.natAbs
  rcases Int.lt_or_le n 0 with hneg | hpos
  · rw [toList_toString_of_neg hneg]
    have hdenotes := Denotes.negative (isDigits_toDigits n.natAbs)
    rwa [hvalue, show -(n.natAbs : Int) = n by omega] at hdenotes
  · rw [toList_toString_of_nonneg hpos]
    have hdenotes := Denotes.unsigned (isDigits_toDigits n.natAbs)
    rwa [hvalue, show (n.natAbs : Int) = n by omega] at hdenotes

lemma digitCount_toString (n : Int) :
    digitCount (toString n).toList = (Nat.toDigits 10 n.natAbs).length := by
  have hdigits := (isDigits_toDigits n.natAbs).digitCount_eq
  rcases Int.lt_or_le n 0 with hneg | hpos
  · rw [toList_toString_of_neg hneg, digitCount_cons rfl, hdigits]
  · rw [toList_toString_of_nonneg hpos, hdigits]

lemma digitCount_toString_le_iff (n : Int) {k : Nat} (hk : 0 < k) :
    digitCount (toString n).toList ≤ k ↔ n.natAbs < 10 ^ k := by
  rw [digitCount_toString]
  exact Nat.length_toDigits_le_iff (by decide) hk

/-- A whole number is written exactly if its text is not too long to be read. -/
lemma integerText?_eq (n : Int) : integerText? n =
    if digitCount (toString n).toList ≤ digitLimit then some (toString n) else none := by
  have hshort := digitCount_toString_le_iff n (show 0 < digitLimit by decide)
  rw [integerText?, Nat.pow_eq, if_congr hshort rfl rfl]

end Decimal

end MetadataBag
