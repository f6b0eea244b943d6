import Mathlib.Data.List.Basic
import Mathlib.Tactic.Lemma
import MetadataBag.Store

/-!
What a store keeps under a name, and in which order it names its slots. Every operation has one
equation for each of the two; nothing else has to be known of it later.
-/

namespace MetadataBag.Store

variable {ν : Type}

/-- The values under a name in the form in which they are kept. -/
def kept [Space ν] (s : Store ν) (k : ExpandedName ν) : List String :=
  ((s.slots.get? k).map Slot.values).getD []

def keys (s : Store ν) : List (ExpandedName ν) := s.slots.keys

lemma nodup_keys (s : Store ν) : s.keys.Nodup := s.slots.nodup_keys

lemma map_slotNames (s : Store ν) : s.slotNames.map Name.toExpandedName = s.keys := by
  rw [slotNames, List.map_map]
  rfl

variable [Space ν] (s : Store ν) (n : Name ν) (k : ExpandedName ν)

@[simp] lemma kept_empty (codec : Codec) : (empty codec).kept k = [] := rfl

@[simp] lemma codec_put (value : String) : (s.put n value).codec = s.codec := rfl

@[simp] lemma codec_remove : (s.remove n).codec = s.codec := rfl

@[simp] lemma codec_set (value : Option String) : (s.set n value).codec = s.codec := by
  cases value <;> rfl

@[simp] lemma codec_assign (values : List String) : (s.assign n values).codec = s.codec := by
  rw [assign, ← codec_remove s n]
  generalize s.remove n = s
  induction values generalizing s with
  | nil => rfl
  | cons v rest ih => rw [List.foldl_cons, ih, codec_put]

lemma kept_eq_nil_iff : s.kept k = [] ↔ s.slots.get? k = none := by
  unfold kept
  cases s.slots.get? k with
  | none => simp
  | some slot => simp [Slot.values]

/-- The removal of a name without values changes nothing. -/
lemma remove_eq_self (h : s.kept n.toExpandedName = []) : s.remove n = s := by
  rw [remove, OrderedMap.erase_eq_self ((kept_eq_nil_iff s _).mp h)]

/-! ### Reads -/

lemma getAll_eq : s.getAll n = (s.kept n.toExpandedName).map s.codec.unescape := by
  unfold getAll kept slot?
  cases s.slots.get? n.toExpandedName <;> rfl

lemma get?_eq : s.get? n = (s.kept n.toExpandedName).head?.map s.codec.unescape := by
  unfold get? kept slot?
  cases s.slots.get? n.toExpandedName <;> rfl

lemma count_eq : s.count n = (s.kept n.toExpandedName).length := by
  unfold count kept slot?
  cases s.slots.get? n.toExpandedName with
  | none => rfl
  | some slot => simp [Slot.count, Slot.values]

lemma isSome_get?_iff : (s.get? n).isSome ↔ s.kept n.toExpandedName ≠ [] := by
  rw [get?_eq]
  cases s.kept n.toExpandedName <;> simp

lemma mem_keys_iff : k ∈ s.keys ↔ s.kept k ≠ [] := by
  rw [keys, OrderedMap.mem_keys_iff, Ne, kept_eq_nil_iff, Option.isSome_iff_ne_none]

lemma mem_slotNames_kept {m : Name ν} (h : m ∈ s.slotNames) : s.kept m.toExpandedName ≠ [] := by
  rw [← mem_keys_iff, ← map_slotNames]
  exact List.mem_map_of_mem h

/-! ### Values -/

lemma kept_put (value : String) : (s.put n value).kept k =
    if n.toExpandedName = k then s.kept k ++ [s.codec.escape value] else s.kept k := by
  unfold put kept
  rw [OrderedMap.get?_insert]
  split
  · rename_i h
    subst h
    unfold grown slot?
    cases s.slots.get? n.toExpandedName <;> simp [Slot.values, Slot.append]
  · rfl

lemma kept_remove : (s.remove n).kept k = if n.toExpandedName = k then [] else s.kept k := by
  unfold remove kept
  rw [OrderedMap.get?_erase]
  split <;> rfl

lemma kept_add (value : Option String) : (s.add n value).kept k =
    if n.toExpandedName = k then s.kept k ++ (value.map s.codec.escape).toList else s.kept k := by
  cases value with
  | none => simp [add]
  | some value => simp [add, kept_put]

lemma kept_set (value : Option String) : (s.set n value).kept k =
    if n.toExpandedName = k then (value.map s.codec.escape).toList else s.kept k := by
  rw [set, kept_add, kept_remove]
  split <;> simp

lemma kept_foldl_put (values : List String) :
    (values.foldl (fun s v => s.put n v) s).kept k =
      if n.toExpandedName = k then s.kept k ++ values.map s.codec.escape else s.kept k := by
  induction values generalizing s with
  | nil => simp
  | cons v rest ih =>
    rw [List.foldl_cons, ih, kept_put]
    split <;> simp

lemma kept_assign (values : List String) : (s.assign n values).kept k =
    if n.toExpandedName = k then values.map s.codec.escape else s.kept k := by
  rw [assign, kept_foldl_put, kept_remove]
  split <;> simp

/-! ### Order -/

/-- A name without values goes to the end; one with values stays where it is, as it is. -/
lemma slotNames_put (value : String) : (s.put n value).slotNames =
    if s.kept n.toExpandedName = [] then s.slotNames ++ [n] else s.slotNames := by
  unfold slotNames put
  simp only
  rcases hs : s.slots.get? n.toExpandedName with _ | slot
  · rw [if_pos ((kept_eq_nil_iff s _).mpr hs),
      OrderedMap.entries_insert_of_get?_eq_none hs, List.map_append]
    simp [grown, slot?, hs, slotName]
  · rw [if_neg (by simp [kept_eq_nil_iff, hs])]
    exact OrderedMap.map_put slotName hs (by simp [grown, slot?, hs, slotName, Slot.append])

lemma slotNames_remove : (s.remove n).slotNames =
    s.slotNames.filter fun m => !decide (m.toExpandedName = n.toExpandedName) := by
  unfold slotNames remove OrderedMap.erase
  rw [List.filter_map]
  rfl

variable {s n}

lemma slotNames_foldl_put (h : s.kept n.toExpandedName ≠ []) (values : List String) :
    (values.foldl (fun s v => s.put n v) s).slotNames = s.slotNames := by
  induction values generalizing s with
  | nil => rfl
  | cons v rest ih =>
    -- after the first value the slot is open and stays where it is
    have hput : (s.put n v).kept n.toExpandedName ≠ [] := by
      rw [kept_put, if_pos rfl]
      exact List.append_ne_nil_of_right_ne_nil _ (List.cons_ne_nil _ _)
    rw [List.foldl_cons, ih hput, slotNames_put, if_neg h]

/-- A slot that is assigned values goes to the end. -/
lemma slotNames_assign {values : List String} (h : values ≠ []) :
    (s.assign n values).slotNames = (s.remove n).slotNames ++ [n] := by
  obtain ⟨v, rest, rfl⟩ := List.exists_cons_of_ne_nil h
  have hnone : (s.remove n).kept n.toExpandedName = [] := by rw [kept_remove, if_pos rfl]
  have hput : ((s.remove n).put n v).kept n.toExpandedName ≠ [] := by
    rw [kept_put, if_pos rfl, hnone]
    exact List.cons_ne_nil _ _
  rw [assign, List.foldl_cons, slotNames_foldl_put hput, slotNames_put, if_pos hnone]

end MetadataBag.Store
