import MetadataBag.Proofs.Bag.Assignment
import MetadataBag.Proofs.Bag.Integer

/-!
Whole numbers written under a definition and read back. A number is written as its decimal text,
the text goes to the slot of every member, and each member that is typed for whole numbers reads
it as the number, if that is one of 32 bits. The type of a member is that of its own primary, if
it has one.
-/

namespace MetadataBag

open Decimal

namespace Bag

variable {r : Registry} {b : Bag} {p P : Property} {n : Int}

/-! ### Types -/

lemma checkType_integer (hP : P.TypedInteger) : checkType P .integer [] = none := by
  simp [checkType, hP.1, hP.2]

lemma wholeText_eq (hn : digitCount (toString n).toList ≤ digitLimit) :
    wholeText n = .ok (toString n) := by
  have htext : integerText? n = some (toString n) := (integerText?_eq n).trans (if_pos hn)
  unfold wholeText
  simp only [htext]

/-- A number that can be written is set as its decimal text. -/
lemma setInt_eq (b : Bag) (hP : P.TypedInteger) (hn : digitCount (toString n).toList ≤ digitLimit) :
    b.setInt r P (some n) = b.assign r (.property P) [toString n] := by
  simp only [setInt, assignTyped, checkType_integer hP, Option.map_some, wholeText_eq hn]

/-- The decimal text of a number is read as the number, within 32 bits. -/
lemma getInt_of_getAll (hall : b.getAll r (some (.property p)) = [toString n])
    (hn : digitCount (toString n).toList ≤ digitLimit) :
    b.getInt r p =
      .ok (if p.TypedInteger then if Int32Range n then some n else none else none) := by
  have hget : b.get? r (some (.property p)) = some (toString n) := by
    rw [get?_eq_head?, hall, List.head?_cons]
  rw [getInt]
  by_cases hp : p.TypedInteger
  · rw [if_pos (accepts_integer_iff.mpr hp), if_pos hp, hget]
    change readInt (toString n) = _
    rw [readInt_of_denotes (denotes_toString n), if_neg (Nat.not_lt.mpr hn)]
    split <;> rfl
  · rw [if_neg (accepts_integer_iff.not.mpr hp), if_neg hp]

/-! ### Slots -/

/-- One text fits under every key. -/
lemma assign_one (b : Bag) (k : Key) (s : String) : b.assign r k [s] =
    done { b with store := b.store.assignAll r [s] (k.targets r) } :=
  assign_of_fits b fun h => absurd h.1 (Nat.lt_irrefl 1)

/-- Whatever has the slot of a target reads the text that was assigned. -/
lemma getAll_assign_one {k k' : Key} {s : String} (hk : k'.slot r ∈ (k.targets r).map (·.slot r)) :
    (b.assign r k [s]).bag.getAll r (some k') = [s] := by
  rw [assign_one, done_bag, getAll, Store.getAll_eq_reading, Key.toExpandedName_resolve,
    Store.reading_assignAll, if_pos hk]

lemma slot_mem_targets {m : Property} (hm : m ∈ P.members) :
    (Key.property m).slot r ∈ ((Key.property P).targets r).map (·.slot r) := by
  rw [Key.targets_property, List.map_map]
  exact List.mem_map_of_mem hm

/-- **Whole numbers are read back.** A number of at most `digitLimit` digits is set, without
failure, under a property of whole numbers or a composite over one, in whatever state the bag
is. Every member then holds its decimal text and nothing else, also where members share a slot.
The property and its primary read it as the number if that is one of 32 bits, else as none, and
so does every member that is typed for whole numbers; the other members have no number to read.
To set the number as a value does the same. -/
theorem int_write_reads_back (r : Registry) (b : Bag) {p P : Property} {secondaries : List Property}
    (hshape : p.shape = .simple) (htype : p.valueType = .integer) (hprimary : p.primary = none)
    (hP : P = p ∨ P = .composite p secondaries) {n : Int}
    (hn : digitCount (toString n).toList ≤ digitLimit) :
    let o := b.setInt r P (some n)
    let read := if Int32Range n then some n else none
    o.failure = none ∧
    o.bag.getInt r P = .ok read ∧
    o.bag.getInt r p = .ok read ∧
    (∀ m ∈ P.members,
      o.bag.getAll r (some (.property m)) = [toString n] ∧
      o.bag.get? r (some (.property m)) = some (toString n) ∧
      o.bag.getInt r m = .ok (if m.TypedInteger then read else none)) ∧
    b.set r (some (.property P)) (.integer n) = o := by
  have htyped : p.TypedInteger :=
    typedInteger_of_ofInteger ⟨p, hshape, htype, hprimary, .inl rfl⟩
  have htyped' : P.TypedInteger :=
    typedInteger_of_ofInteger ⟨p, hshape, htype, hprimary, hP.imp_right fun h => ⟨_, h⟩⟩
  have hmember : p ∈ P.members := by
    rcases hP with rfl | rfl
    · simp [Property.members, Property.isComposite, hshape]
    · exact List.mem_cons_self
  -- a composite has the name of its primary, so it reads the slot of a member
  have hslot : P.slot r = p.slot r := by
    rcases hP with rfl | rfl <;> rfl
  intro o read
  have ho : o = b.assign r (.property P) [toString n] := setInt_eq b htyped' hn
  have hheld : ∀ m ∈ P.members, o.bag.getAll r (some (.property m)) = [toString n] := by
    intro m hm
    rw [ho]
    exact getAll_assign_one (slot_mem_targets hm)
  have hown : o.bag.getAll r (some (.property P)) = [toString n] := by
    rw [ho]
    refine getAll_assign_one ?_
    rw [Key.slot_property, hslot]
    exact slot_mem_targets hmember
  refine ⟨?_, ?_, ?_, fun m hm => ⟨hheld m hm, ?_, getInt_of_getAll (hheld m hm) hn⟩, rfl⟩
  · rw [ho, assign_one, done_failure]
  · rw [getInt_of_getAll hown hn, if_pos htyped']
  · rw [getInt_of_getAll (hheld p hmember) hn, if_pos htyped]
  · rw [get?_eq_head?, hheld m hm, List.head?_cons]

def tally : Property :=
  .composite (.ofKey "n" none .integer false false) [.ofKey "n" none .text false true, count]

/-- The least number of 32 bits, where the third slot holds a five. -/
theorem int_write_reads_back_least :
    digitCount (toString leastInt).toList ≤ digitLimit ∧
    let o := (counted "5").setInt .empty tally (some leastInt)
    o.failure = none ∧
      o.bag.getInt .empty tally = .ok (some leastInt) ∧
      (∀ m ∈ tally.members, o.bag.get? .empty (some (.property m)) = some "-2147483648") ∧
      o.bag.getInt .empty count = .ok (some leastInt) := by
  have hshort : digitCount (toString leastInt).toList ≤ digitLimit := by decide +kernel
  obtain ⟨hdone, hread, -, hmembers, -⟩ :=
    int_write_reads_back .empty (counted "5") (P := tally) rfl rfl rfl (Or.inr rfl) hshort
  have hmember : count ∈ tally.members :=
    List.mem_cons_of_mem _ (List.mem_cons_of_mem _ List.mem_cons_self)
  exact ⟨hshort, hdone, hread, fun m hm => (hmembers m hm).2.1, (hmembers count hmember).2.2⟩

def label : Property := .ofKey "x:label" (some "urn:x") .text false false

/-- A property of whole numbers with a primary of its own, which is for texts. -/
def relabelled : Property :=
  { Property.ofKey "x:copy" (some "urn:x") .integer false false with primary := some label }

theorem int_write_unread_through_own_primary :
    relabelled.shape = .simple ∧ relabelled.valueType = .integer ∧
    Property.compose count [relabelled] = .ok (.composite count [relabelled]) ∧
    (¬ ∀ (r : Registry) (b : Bag) (p P : Property) (secondaries : List Property) (n : Int),
      p.shape = .simple → p.valueType = .integer → p.primary = none →
      Property.compose p secondaries = .ok P → digitCount (toString n).toList ≤ digitLimit →
      ∀ s ∈ secondaries, s.shape = .simple → s.valueType = .integer →
        (b.setInt r P (some n)).bag.getInt r s = .ok (if Int32Range n then some n else none)) ∧
    let o := (empty .markup .universal).setInt .empty (.composite count [relabelled]) (some 7)
    o.failure = none ∧
      o.bag.get? .empty (some (.property relabelled)) = some "7" ∧
      o.bag.getInt .empty (.composite count [relabelled]) = .ok (some 7) ∧
      o.bag.getInt .empty relabelled = .ok none := by
  have hunread : ((empty .markup .universal).setInt .empty (.composite count [relabelled])
      (some 7)).bag.getInt .empty relabelled = .ok none := rfl
  refine ⟨rfl, rfl, rfl, fun hall => ?_, by decide +kernel, by decide +kernel, by decide +kernel,
    hunread⟩
  have hread := hall .empty (empty .markup .universal) count
    (.composite count [relabelled]) [relabelled] 7 rfl rfl rfl rfl
    (by decide +kernel) relabelled List.mem_cons_self rfl rfl
  rw [hunread] at hread
  cases hread

end Bag

end MetadataBag
