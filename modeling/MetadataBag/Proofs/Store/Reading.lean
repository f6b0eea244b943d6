import Mathlib.Tactic.Lemma
import MetadataBag.Proofs.Codec.SinglePass
import MetadataBag.Proofs.Store.Kept

/-!
What a store reads as: for every name the list of its values as they were written. Codec, order,
prefixes and bindings have no part in it, and two stores are the same exactly if they read alike.
-/

namespace MetadataBag.Store

variable {ν : Type} [Space ν]

/-- The values under every name as callers see them. -/
def reading (s : Store ν) (k : ExpandedName ν) : List String := (s.kept k).map s.codec.unescape

variable (s : Store ν) (n : Name ν) (k : ExpandedName ν)

lemma reading_eq_nil_iff : s.reading k = [] ↔ s.kept k = [] := List.map_eq_nil_iff

lemma getAll_eq_reading : s.getAll n = s.reading n.toExpandedName := getAll_eq s n

lemma get?_eq_reading : s.get? n = (s.reading n.toExpandedName).head? := by
  rw [get?_eq, reading, List.head?_map]

lemma count_eq_reading : s.count n = (s.reading n.toExpandedName).length := by
  rw [count_eq, reading, List.length_map]

lemma reading_put (value : String) : (s.put n value).reading k =
    if n.toExpandedName = k then s.reading k ++ [value] else s.reading k := by
  rw [reading, kept_put, codec_put]
  split
  · rw [List.map_append, List.map_singleton, Codec.unescape_escape]
    rfl
  · rfl

lemma reading_remove : (s.remove n).reading k =
    if n.toExpandedName = k then [] else s.reading k := by
  rw [reading, kept_remove, codec_remove]
  split <;> rfl

lemma reading_assign (values : List String) : (s.assign n values).reading k =
    if n.toExpandedName = k then values else s.reading k := by
  rw [reading, kept_assign, codec_assign]
  split
  · simp [Function.comp_def]
  · rfl

/-- Items are the slots' names, each with what it reads as. -/
lemma items_eq : s.items = s.slotNames.map fun n => (n, s.getAll n) := by
  rw [items, slotNames, List.map_map]
  refine List.map_congr_left fun e he => ?_
  have hslot : s.slot? (slotName e) = some e.2 := OrderedMap.get?_of_mem_entries he
  simp only [Function.comp_apply, getAll, hslot]

/-! ### Sameness -/

variable {a b : Store ν}

lemma contains_slots : s.slots.contains k = true ↔ s.reading k ≠ [] := by
  rw [OrderedMap.contains, ← OrderedMap.mem_keys_iff]
  exact (mem_keys_iff s k).trans (s.reading_eq_nil_iff k).not.symm

lemma all_keys_contains :
    (a.slots.keys.all fun k => b.slots.contains k) = true ↔
      ∀ k, a.reading k ≠ [] → b.reading k ≠ [] := by
  rw [List.all_eq_true]
  constructor
  · intro h k hk
    refine (b.contains_slots k).mp (h k ?_)
    exact OrderedMap.mem_keys_iff.mpr ((a.contains_slots k).mpr hk)
  · intro h k hk
    exact (b.contains_slots k).mpr
      (h k ((a.contains_slots k).mp (OrderedMap.mem_keys_iff.mp hk)))

/-- **Sameness is extensional.** -/
lemma same_iff : a.same b = true ↔ a.reading = b.reading := by
  rw [same, Bool.and_eq_true, Bool.and_eq_true, all_keys_contains, all_keys_contains,
    List.all_eq_true]
  simp only [decide_eq_true_eq]
  constructor
  · rintro ⟨⟨-, hba⟩, hvalues⟩
    funext k
    by_cases hk : a.reading k = []
    · rw [hk]
      by_contra hne
      exact hba k (Ne.symm hne) hk
    · -- a name that holds values is listed, with whatever prefix
      have hmem : k ∈ a.slotNames.map Name.toExpandedName := by
        rw [map_slotNames, mem_keys_iff]
        exact (a.reading_eq_nil_iff k).not.mp hk
      obtain ⟨n, hn, rfl⟩ := List.mem_map.mp hmem
      rw [← getAll_eq_reading, ← getAll_eq_reading]
      exact hvalues n hn
  · intro h
    rw [h]
    refine ⟨⟨fun k hk => hk, fun k hk => hk⟩, fun n _ => ?_⟩
    rw [getAll_eq_reading, getAll_eq_reading, h]

end MetadataBag.Store
