import Mathlib.Tactic.Lemma
import MetadataBag.Proofs.Bag.Effect
import MetadataBag.Proofs.Store.Kept

/-!
The slots that a write reaches, and what it leaves in each of them. The values are those that the
store keeps, in their escaped form.
-/

namespace MetadataBag

variable {ν : Type} [Space ν]

/-- Where the values of a key are kept. -/
def Key.slot (r : Registry ν) (k : Key ν) : ExpandedName ν := (k.resolve r).toExpandedName

def Property.slot (r : Registry ν) (p : Property ν) : ExpandedName ν := (Key.property p).slot r

@[simp] lemma Key.toExpandedName_resolve (r : Registry ν) (k : Key ν) :
    (k.resolve r).toExpandedName = k.slot r := rfl

@[simp] lemma Key.slot_property (r : Registry ν) (p : Property ν) :
    (Key.property p).slot r = p.slot r := rfl

lemma Key.map_toExpandedName_resolve (r : Registry ν) (ts : List (Key ν)) :
    (ts.map (·.resolve r)).map Name.toExpandedName = ts.map (·.slot r) := by
  rw [List.map_map]
  rfl

/-- The values of a secondary after an added one: a slot for one value gives up its own. -/
def Property.take (p : Property ν) (held : List String) (value : String) : List String :=
  if p.multi then held ++ [value] else [value]

namespace Bag

variable {r : Registry ν} {b : Bag ν} {p : Property ν} {value : String} {k : ExpandedName ν}

/-! ### Added values -/

lemma addMember_eq : b.addMember r p value =
    if p.multi = false ∧ b.store.kept (p.slot r) ≠ [] then b.refuse p.overflow
    else done { b with store := b.store.put ((Key.property p).resolve r) value } := by
  simp only [addMember, Bool.and_eq_true, Bool.not_eq_true', Store.isSome_get?_iff]
  rfl

lemma addSecondary_store : (addSecondary r value b p).store =
    if p.multi = false ∧ b.store.kept (p.slot r) ≠ []
    then b.store.set ((Key.property p).resolve r) (some value)
    else b.store.put ((Key.property p).resolve r) value := by
  rw [addSecondary, addMember_eq]
  by_cases h : p.multi = false ∧ b.store.kept (p.slot r) ≠ []
  · simp only [if_pos h, refuse_failure]
  · simp only [if_neg h, done_failure, done_bag]

@[simp] lemma codec_addSecondary : (addSecondary r value b p).store.codec = b.store.codec := by
  rw [addSecondary_store]
  split <;> simp

lemma kept_addSecondary : (addSecondary r value b p).store.kept k =
    if p.slot r = k then p.take (b.store.kept k) (b.store.codec.escape value)
    else b.store.kept k := by
  rw [addSecondary_store, Property.take]
  by_cases hk : p.slot r = k
  · subst hk
    -- whether it is put or set makes no difference to an empty slot
    cases hm : p.multi with
    | true => simp [Store.kept_put]
    | false =>
      by_cases hempty : b.store.kept (p.slot r) = []
      · simp [Store.kept_put, hempty]
      · simp [Store.kept_set, hempty]
  · rw [if_neg hk]
    split
    · rw [Store.kept_set, Key.toExpandedName_resolve, Key.slot_property, if_neg hk]
    · rw [Store.kept_put, Key.toExpandedName_resolve, Key.slot_property, if_neg hk]

lemma kept_foldl_addSecondary_of_not_mem {ps : List (Property ν)} (h : k ∉ ps.map (·.slot r)) :
    (ps.foldl (addSecondary r value) b).store.kept k = b.store.kept k := by
  induction ps generalizing b with
  | nil => rfl
  | cons p rest ih =>
    simp only [List.map_cons, List.mem_cons, not_or] at h
    rw [List.foldl_cons, ih h.2, kept_addSecondary, if_neg (Ne.symm h.1)]

lemma kept_foldl_addSecondary_of_mem {ps : List (Property ν)} (hps : (ps.map (·.slot r)).Nodup)
    (hp : p ∈ ps) : (ps.foldl (addSecondary r value) b).store.kept (p.slot r) =
      p.take (b.store.kept (p.slot r)) (b.store.codec.escape value) := by
  induction ps generalizing b with
  | nil => cases hp
  | cons q rest ih =>
    rw [List.map_cons, List.nodup_cons] at hps
    obtain ⟨hq, hrest⟩ := hps
    rw [List.foldl_cons]
    -- the members after it do not reach its slot, nor do those before it
    rcases List.mem_cons.mp hp with rfl | hp
    · rw [kept_foldl_addSecondary_of_not_mem hq, kept_addSecondary, if_pos rfl]
    · have hne : q.slot r ≠ p.slot r := fun e => hq (e ▸ List.mem_map_of_mem hp)
      rw [ih hrest hp, kept_addSecondary, if_neg hne, codec_addSecondary]

/-- A composite refuses a value for its primary's sake only. -/
lemma addTo_composite (primary : Property ν) (secondaries : List (Property ν)) :
    b.addTo r (.composite primary secondaries) value =
      if primary.multi = false ∧ b.store.kept (primary.slot r) ≠ [] then b.refuse primary.overflow
      else done (secondaries.foldl (addSecondary r value)
        { b with store := b.store.put ((Key.property primary).resolve r) value }) := by
  have hcomp : (Property.composite primary secondaries).isComposite = true := rfl
  have htarget : (Property.composite primary secondaries).target = primary := rfl
  rw [addTo, if_pos hcomp, htarget, addMember_eq]
  by_cases hfull : primary.multi = false ∧ b.store.kept (primary.slot r) ≠ []
  · simp only [if_pos hfull, refuse_failure]
  · simp only [if_neg hfull, done_failure, done_bag]
    rfl

/-! ### Assigned values -/

lemma kept_foldl_assign (ts : List (Key ν)) (values : List String) (s : Store ν) :
    (ts.foldl (fun s t => s.assign (t.resolve r) values) s).kept k =
      if k ∈ ts.map (·.slot r) then values.map s.codec.escape else s.kept k := by
  induction ts generalizing s with
  | nil => simp
  | cons t rest ih =>
    rw [List.foldl_cons, ih, Store.kept_assign, Store.codec_assign, Key.toExpandedName_resolve]
    by_cases hk : t.slot r = k
    · simp [hk]
    · simp [hk, Ne.symm hk]

omit [Space ν] in
lemma singleTarget_eq_none_iff {ts : List (Key ν)} : singleTarget r ts = none ↔
    ∀ t ∈ ts, ∀ p, t.definition? r = some p → p.multi = true := by
  simp only [singleTarget, List.find?_eq_none, List.mem_filterMap, Bool.not_eq_true,
    Bool.not_eq_false', forall_exists_index, and_imp]
  exact ⟨fun h t ht p hp => h p t ht hp, fun h p t ht hp => h t ht p hp⟩

omit [Space ν] in
lemma of_singleTarget_eq_some {ts : List (Key ν)} (h : singleTarget r ts = some p) :
    ∃ t ∈ ts, t.definition? r = some p ∧ p.multi = false := by
  obtain ⟨t, ht, hp⟩ := List.mem_filterMap.mp (List.mem_of_find?_eq_some h)
  have hsingle := List.find?_some h
  exact ⟨t, ht, hp, by simpa using hsingle⟩

lemma assign_of_multi (b : Bag ν) {key : Key ν} {values : List String}
    (h : 1 < values.length → ∀ t ∈ key.targets r, ∀ p, t.definition? r = some p → p.multi = true) :
    b.assign r key values = done { b with
      store := (key.targets r).foldl (fun s t => s.assign (t.resolve r) values) b.store } := by
  have hnone : (if 1 < values.length then singleTarget r (key.targets r) else none) = none := by
    split
    · rename_i hlen
      exact singleTarget_eq_none_iff.mpr (h hlen)
    · rfl
  simp only [assign, hnone]

/-- An assignment is refused, or it fits: several values go to targets for several values only. -/
lemma assign_cases (b : Bag ν) (r : Registry ν) (key : Key ν) (values : List String) :
    (b.assign r key values).bag = b ∨
    ((1 < values.length → ∀ t ∈ key.targets r, ∀ p, t.definition? r = some p → p.multi = true) ∧
      ∀ k, (b.assign r key values).bag.store.kept k =
        if k ∈ (key.targets r).map (·.slot r) then values.map b.store.codec.escape
        else b.store.kept k) := by
  rcases h : (if 1 < values.length then singleTarget r (key.targets r) else none) with _ | p
  · refine Or.inr ⟨fun hlen => ?_, fun k => ?_⟩
    · rw [if_pos hlen] at h
      exact singleTarget_eq_none_iff.mp h
    · simp only [assign, h, done_bag, kept_foldl_assign]
  · exact Or.inl (by simp only [assign, h, refuse_bag])

lemma memberTexts_cons_text (s : String) (rest : List Value) :
    memberTexts (.text s :: rest) = (memberTexts rest).map (s :: ·) := rfl

end Bag

end MetadataBag
