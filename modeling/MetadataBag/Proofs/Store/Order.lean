import MetadataBag.Proofs.Store.Kept

/-!
The order of slots. A slot that comes to be goes to the end, also where it gives up its values for
others, and all other slots stay as they are. After many such steps the slots that took none of
them stand first, and behind them the others in the order of the last step that each of them took.
Names, in their order, and values are all that there is to slots.
-/

namespace MetadataBag

variable {ν : Type} [Space ν]

namespace Name

def toEnd (names : List (Name ν)) (n : Name ν) : List (Name ν) :=
  names.filter (fun m => m.toExpandedName ≠ n.toExpandedName) ++ [n]

/-- Of names that are the same but for prefixes the last one. -/
def lasts : List (Name ν) → List (Name ν)
  | [] => []
  | n :: rest => if n.toExpandedName ∈ rest.map toExpandedName then lasts rest else n :: lasts rest

variable {n : Name ν} {l names : List (Name ν)}

lemma lasts_of_nodup (h : (l.map toExpandedName).Nodup) : lasts l = l := by
  induction l with
  | nil => rfl
  | cons n rest ih =>
    rw [List.map_cons, List.nodup_cons] at h
    rw [lasts, if_neg h.1, ih h.2]

lemma toEnd_of_not_mem (h : n.toExpandedName ∉ names.map toExpandedName) :
    toEnd names n = names ++ [n] := by
  have hothers : ∀ m ∈ names, decide (m.toExpandedName ≠ n.toExpandedName) = true := by
    intro m hm
    have hne : m.toExpandedName ≠ n.toExpandedName := fun e => h (e ▸ List.mem_map_of_mem hm)
    exact decide_eq_true hne
  rw [toEnd, List.filter_eq_self.mpr hothers]

/-- **Many steps**: a name that goes to the end again leaves no trace of having been there. -/
lemma foldl_toEnd (l names : List (Name ν)) : l.foldl toEnd names =
    names.filter (fun m => m.toExpandedName ∉ l.map toExpandedName) ++ lasts l := by
  induction l generalizing names with
  | nil => simp [lasts]
  | cons n rest ih =>
    have hlast : [n].filter (fun m => m.toExpandedName ∉ rest.map toExpandedName) ++ lasts rest =
        lasts (n :: rest) := by
      rw [lasts]
      by_cases hn : n.toExpandedName ∈ rest.map toExpandedName
      · rw [if_pos hn, List.filter_cons_of_neg (by simpa using hn)]
        rfl
      · rw [if_neg hn, List.filter_cons_of_pos (by simpa using hn)]
        rfl
    have hfirst : (names.filter fun m => m.toExpandedName ≠ n.toExpandedName).filter
          (fun m => m.toExpandedName ∉ rest.map toExpandedName) =
        names.filter fun m => m.toExpandedName ∉ (n :: rest).map toExpandedName := by
      rw [List.filter_filter]
      refine List.filter_congr fun m _ => ?_
      rw [Bool.eq_iff_iff]
      simp [and_comm]
    rw [List.foldl_cons, ih, toEnd, List.filter_append, List.append_assoc, hlast, hfirst]

end Name

namespace Store

variable {s a b : Store ν} {n : Name ν}

lemma slotNames_put_of_empty (h : s.kept n.toExpandedName = []) (value : String) :
    (s.put n value).slotNames = Name.toEnd s.slotNames n := by
  have hnew : n.toExpandedName ∉ s.slotNames.map Name.toExpandedName := by
    rw [map_slotNames, mem_keys_iff]
    exact not_not.mpr h
  rw [slotNames_put, if_pos h, Name.toEnd_of_not_mem hnew]

lemma slotNames_assign_toEnd {values : List String} (h : values ≠ []) :
    (s.assign n values).slotNames = Name.toEnd s.slotNames n := by
  rw [slotNames_assign h, slotNames_remove, Name.toEnd]
  simp

/-- Every slot's name with its values in their kept form. -/
lemma map_entries_eq (s : Store ν) : s.slots.entries.map (fun e => (slotName e, e.2.values)) =
    s.slotNames.map fun n => (n, s.kept n.toExpandedName) := by
  rw [slotNames, List.map_map]
  refine List.map_congr_left fun e he => ?_
  have hslot : s.slots.get? e.1 = some e.2 := OrderedMap.get?_of_mem_entries he
  simp [slotName, kept, hslot]

/-- **Names and values make the slots.** -/
lemma slots_ext (hnames : a.slotNames = b.slotNames) (hkept : a.kept = b.kept) :
    a.slots = b.slots := by
  have hinj : Function.Injective fun e : ExpandedName ν × Slot => (slotName e, e.2.values) := by
    rintro ⟨k, pre, first, more⟩ ⟨k', pre', first', more'⟩ h
    simp only [slotName, Slot.values, Prod.mk.injEq, Name.mk.injEq, List.cons.injEq] at h
    obtain ⟨⟨rfl, rfl⟩, rfl, rfl⟩ := h
    rfl
  have hentries := a.map_entries_eq
  rw [hnames, hkept, ← b.map_entries_eq] at hentries
  exact OrderedMap.ext (hinj.list_map hentries)

end Store

end MetadataBag
