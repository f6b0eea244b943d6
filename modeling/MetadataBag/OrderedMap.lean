/-!
Maps that remember insertion order. A new key goes to the end, a known key keeps its place
and takes the new value, and an erased key that is inserted again goes to the end.
-/

namespace MetadataBag

/-- Key and value pairs in insertion order, each key once. -/
structure OrderedMap (κ υ : Type) where
  entries : List (κ × υ)
  nodup : (entries.map Prod.fst).Nodup

namespace OrderedMap

variable {κ υ : Type}

@[ext] theorem ext {m m' : OrderedMap κ υ} (h : m.entries = m'.entries) : m = m' := by
  cases m; cases m'; cases h; rfl

instance [DecidableEq κ] [DecidableEq υ] : DecidableEq (OrderedMap κ υ) := fun m m' =>
  if h : m.entries = m'.entries then isTrue (ext h)
  else isFalse fun e => h (congrArg entries e)

def empty : OrderedMap κ υ := ⟨[], by simp⟩

instance : Inhabited (OrderedMap κ υ) := ⟨empty⟩

def keys (m : OrderedMap κ υ) : List κ := m.entries.map Prod.fst

def size (m : OrderedMap κ υ) : Nat := m.entries.length

theorem nodup_keys (m : OrderedMap κ υ) : m.keys.Nodup := m.nodup

variable [DecidableEq κ]

def lookup (k : κ) : List (κ × υ) → Option υ
  | [] => none
  | (k', v) :: rest => if k' = k then some v else lookup k rest

/-- Replaces the value of a known key in place and appends an unknown one. -/
def put (k : κ) (v : υ) : List (κ × υ) → List (κ × υ)
  | [] => [(k, v)]
  | (k', v') :: rest => if k' = k then (k', v) :: rest else (k', v') :: put k v rest

def get? (m : OrderedMap κ υ) (k : κ) : Option υ := lookup k m.entries

def contains (m : OrderedMap κ υ) (k : κ) : Bool := (m.get? k).isSome

theorem keys_put (k : κ) (v : υ) (l : List (κ × υ)) :
    (put k v l).map Prod.fst =
      if k ∈ l.map Prod.fst then l.map Prod.fst else l.map Prod.fst ++ [k] := by
  induction l with
  | nil => simp [put]
  | cons p rest ih =>
    obtain ⟨k', v'⟩ := p
    by_cases h : k' = k
    · simp [put, h]
    · have h' : ¬ k = k' := fun e => h e.symm
      simp only [put, h, if_false, List.map_cons, ih, List.mem_cons, h', false_or]
      split <;> simp

def insert (m : OrderedMap κ υ) (k : κ) (v : υ) : OrderedMap κ υ where
  entries := put k v m.entries
  nodup := by
    rw [keys_put]
    split
    · exact m.nodup
    · rename_i h
      exact List.nodup_append.2
        ⟨m.nodup, by simp, fun a ha b hb e => h (by simp at hb; rwa [← hb, ← e])⟩

def erase (m : OrderedMap κ υ) (k : κ) : OrderedMap κ υ where
  entries := m.entries.filter fun e => !decide (e.1 = k)
  nodup := List.Nodup.sublist (List.filter_sublist.map _) m.nodup

/-- The keys and values of a list, later values replacing earlier ones in place. -/
def ofList (l : List (κ × υ)) : OrderedMap κ υ :=
  l.foldl (fun m e => m.insert e.1 e.2) empty

@[simp] theorem get?_empty (k : κ) : (empty : OrderedMap κ υ).get? k = none := rfl

theorem lookup_put (k k' : κ) (v : υ) (l : List (κ × υ)) :
    lookup k' (put k v l) = if k = k' then some v else lookup k' l := by
  induction l with
  | nil => simp [put, lookup]
  | cons p rest ih =>
    obtain ⟨k₀, v₀⟩ := p
    by_cases h : k₀ = k
    · subst h
      by_cases h' : k₀ = k' <;> simp [put, lookup, h']
    · by_cases h' : k₀ = k'
      · subst h'
        have : ¬ k = k₀ := fun e => h e.symm
        simp [put, lookup, h, this]
      · simp [put, lookup, h, h', ih]

theorem lookup_filter_ne (k k' : κ) (l : List (κ × υ)) :
    lookup k' (l.filter fun e => !decide (e.1 = k)) = if k = k' then none else lookup k' l := by
  induction l with
  | nil => simp [lookup]
  | cons p rest ih =>
    obtain ⟨k₀, v₀⟩ := p
    by_cases h : k₀ = k
    · subst h
      by_cases h' : k₀ = k' <;> simp_all [lookup]
    · by_cases h' : k₀ = k'
      · subst h'
        have : ¬ k = k₀ := fun e => h e.symm
        simp [lookup, h, this]
      · simp [lookup, h, h', ih]

@[simp] theorem get?_insert (m : OrderedMap κ υ) (k k' : κ) (v : υ) :
    (m.insert k v).get? k' = if k = k' then some v else m.get? k' :=
  lookup_put k k' v m.entries

@[simp] theorem get?_erase (m : OrderedMap κ υ) (k k' : κ) :
    (m.erase k).get? k' = if k = k' then none else m.get? k' :=
  lookup_filter_ne k k' m.entries

theorem put_put (k : κ) (v v' : υ) (l : List (κ × υ)) : put k v' (put k v l) = put k v' l := by
  induction l with
  | nil => simp [put]
  | cons p rest ih => by_cases h : p.1 = k <;> simp [put, h, ih]

@[simp] theorem insert_insert (m : OrderedMap κ υ) (k : κ) (v v' : υ) :
    (m.insert k v).insert k v' = m.insert k v' := ext (put_put k v v' m.entries)

theorem keys_insert (m : OrderedMap κ υ) (k : κ) (v : υ) :
    (m.insert k v).keys = if k ∈ m.keys then m.keys else m.keys ++ [k] :=
  keys_put k v m.entries

theorem mem_keys_iff {m : OrderedMap κ υ} {k : κ} : k ∈ m.keys ↔ (m.get? k).isSome := by
  obtain ⟨l, h⟩ := m
  simp only [keys, get?]
  clear h
  induction l with
  | nil => simp [lookup]
  | cons p rest ih =>
    obtain ⟨k', v⟩ := p
    by_cases h : k' = k
    · simp [lookup, h]
    · have : ¬ k = k' := fun e => h e.symm
      simp [lookup, h, this, ih]

theorem put_of_not_mem {k : κ} {l : List (κ × υ)} (h : k ∉ l.map Prod.fst) (v : υ) :
    put k v l = l ++ [(k, v)] := by
  induction l with
  | nil => rfl
  | cons p rest ih =>
    obtain ⟨k', v'⟩ := p
    simp only [List.map_cons, List.mem_cons, not_or] at h
    rw [put, if_neg fun e => h.1 e.symm, ih h.2, List.cons_append]

/-- What does not tell a new value from the old one sees no change. -/
theorem map_put {α : Type} (f : κ × υ → α) {k : κ} {v v' : υ} {l : List (κ × υ)}
    (h : lookup k l = some v') (hf : f (k, v) = f (k, v')) : (put k v l).map f = l.map f := by
  induction l with
  | nil => cases h
  | cons p rest ih =>
    obtain ⟨k', w⟩ := p
    rw [lookup] at h
    rw [put]
    split at h
    · rename_i e
      subst e
      cases h
      rw [if_pos rfl, List.map_cons, List.map_cons, hf]
    · rename_i e
      rw [if_neg e, List.map_cons, List.map_cons, ih h]

theorem entries_insert_of_get?_eq_none {m : OrderedMap κ υ} {k : κ} (h : m.get? k = none) (v : υ) :
    (m.insert k v).entries = m.entries ++ [(k, v)] :=
  put_of_not_mem (fun hk => by
    have hsome : (m.get? k).isSome := mem_keys_iff.mp hk
    rw [h] at hsome
    cases hsome) v

theorem mem_of_lookup {k : κ} {v : υ} {l : List (κ × υ)} (h : lookup k l = some v) :
    (k, v) ∈ l := by
  induction l with
  | nil => cases h
  | cons p rest ih =>
    obtain ⟨k', v'⟩ := p
    rw [lookup] at h
    split at h
    · rename_i e
      cases h
      subst e
      exact List.mem_cons_self
    · exact List.mem_cons_of_mem _ (ih h)

theorem mem_entries_of_get? {m : OrderedMap κ υ} {k : κ} {v : υ} (h : m.get? k = some v) :
    (k, v) ∈ m.entries := mem_of_lookup h

theorem mem_put {k : κ} {v : υ} {l : List (κ × υ)} {e : κ × υ} (h : e ∈ put k v l) :
    e = (k, v) ∨ e ∈ l := by
  induction l with
  | nil => exact Or.inl (List.mem_singleton.mp h)
  | cons p rest ih =>
    obtain ⟨k', v'⟩ := p
    rw [put] at h
    split at h
    · rename_i hk
      subst hk
      exact (List.mem_cons.mp h).imp_right (List.mem_cons_of_mem _)
    · rcases List.mem_cons.mp h with rfl | h
      · exact Or.inr List.mem_cons_self
      · exact (ih h).imp_right (List.mem_cons_of_mem _)

theorem mem_entries_insert {m : OrderedMap κ υ} {k : κ} {v : υ} {e : κ × υ}
    (h : e ∈ (m.insert k v).entries) : e = (k, v) ∨ e ∈ m.entries := mem_put h

theorem get?_of_mem_entries {m : OrderedMap κ υ} {k : κ} {v : υ} (h : (k, v) ∈ m.entries) :
    m.get? k = some v := by
  obtain ⟨l, hl⟩ := m
  simp only [get?] at h ⊢
  induction l with
  | nil => cases h
  | cons p rest ih =>
    rw [List.map_cons, List.nodup_cons] at hl
    rcases List.mem_cons.mp h with rfl | h
    · rw [lookup, if_pos rfl]
    · have hne : p.1 ≠ k := fun e => hl.1 (e ▸ List.mem_map_of_mem h)
      rw [lookup, if_neg hne, ih hl.2 h]

/-- To erase a key that is not there changes nothing. -/
theorem erase_eq_self {m : OrderedMap κ υ} {k : κ} (h : m.get? k = none) : m.erase k = m := by
  refine ext (List.filter_eq_self.mpr fun e he => ?_)
  have hne : e.1 ≠ k := by
    rintro rfl
    rw [get?_of_mem_entries he] at h
    cases h
  simp [hne]

theorem entries_foldl_insert {l : List (κ × υ)} (h : (l.map Prod.fst).Nodup) {m : OrderedMap κ υ}
    (hm : ∀ e ∈ l, m.get? e.1 = none) :
    (l.foldl (fun m e => m.insert e.1 e.2) m).entries = m.entries ++ l := by
  induction l generalizing m with
  | nil => simp
  | cons e rest ih =>
    rw [List.map_cons, List.nodup_cons] at h
    obtain ⟨hfresh, hrest⟩ := h
    have hnone : m.get? e.1 = none := hm e List.mem_cons_self
    have hm' : ∀ e' ∈ rest, (m.insert e.1 e.2).get? e'.1 = none := by
      intro e' he'
      have hne : e.1 ≠ e'.1 := fun heq => hfresh (heq ▸ List.mem_map_of_mem he')
      rw [get?_insert, if_neg hne]
      exact hm e' (List.mem_cons_of_mem e he')
    rw [List.foldl_cons, ih hrest hm', entries_insert_of_get?_eq_none hnone, List.append_assoc,
      List.singleton_append]

theorem keys_foldl_insert (l : List (κ × υ)) (m : OrderedMap κ υ) :
    (l.foldl (fun m e => m.insert e.1 e.2) m).keys =
      (l.map Prod.fst).foldl (fun seen k => if k ∈ seen then seen else seen ++ [k]) m.keys := by
  induction l generalizing m with
  | nil => rfl
  | cons e rest ih => rw [List.foldl_cons, ih, keys_insert, List.map_cons, List.foldl_cons]

/-- Of several insertions under a key the last one counts. -/
theorem get?_foldl_insert (l : List (κ × υ)) (m : OrderedMap κ υ) (k : κ) :
    (l.foldl (fun m e => m.insert e.1 e.2) m).get? k =
      ((l.reverse.find? fun e => e.1 = k).map Prod.snd).or (m.get? k) := by
  induction l generalizing m with
  | nil => rfl
  | cons e rest ih =>
    rw [List.foldl_cons, ih, get?_insert, List.reverse_cons, List.find?_append]
    cases rest.reverse.find? fun e => e.1 = k with
    | some a => rfl
    | none => by_cases h : e.1 = k <;> simp [h]

theorem get?_ofList (l : List (κ × υ)) (k : κ) :
    (ofList l).get? k = (l.reverse.find? fun e => e.1 = k).map Prod.snd := by
  rw [ofList, get?_foldl_insert, get?_empty, Option.or_none]

theorem mem_keys_ofList {l : List (κ × υ)} {k : κ} :
    k ∈ (ofList l).keys ↔ k ∈ l.map Prod.fst := by
  rw [mem_keys_iff, get?_ofList, Option.isSome_map, List.find?_isSome]
  simp

/-- What a list leaves under a key is what it has for the key last. -/
theorem mem_entries_ofList {l : List (κ × υ)} {k : κ} {v : υ} :
    (k, v) ∈ (ofList l).entries ↔
      ∃ earlier later, l = earlier ++ (k, v) :: later ∧ k ∉ later.map Prod.fst := by
  have hget : (k, v) ∈ (ofList l).entries ↔ (ofList l).get? k = some v :=
    ⟨get?_of_mem_entries, mem_entries_of_get?⟩
  rw [hget, get?_ofList, Option.map_eq_some_iff]
  constructor
  · rintro ⟨⟨k', v'⟩, hfind, rfl⟩
    obtain ⟨hk, later, earlier, hl, hlater⟩ := List.find?_eq_some_iff_append.mp hfind
    obtain rfl : k' = k := by simpa using hk
    refine ⟨earlier.reverse, later.reverse, ?_, ?_⟩
    · rw [← List.reverse_reverse l, hl]
      simp
    · intro hmem
      obtain ⟨e, he, rfl⟩ := List.mem_map.mp hmem
      simpa using hlater e (List.mem_reverse.mp he)
  · rintro ⟨earlier, later, rfl, hlater⟩
    refine ⟨(k, v), List.find?_eq_some_iff_append.mpr
      ⟨by simp, later.reverse, earlier.reverse, by simp, fun e he => ?_⟩, rfl⟩
    have hne : e.1 ≠ k := fun h => hlater (h ▸ List.mem_map_of_mem (List.mem_reverse.mp he))
    simpa using hne

/-- Keys in their order and the values under them are all that there is to a map. -/
theorem ext_get? {m m' : OrderedMap κ υ} (hkeys : m.keys = m'.keys)
    (hget : ∀ k, m.get? k = m'.get? k) : m = m' := by
  have hentries : ∀ m : OrderedMap κ υ,
      m.entries.map (fun e => (e.1, some e.2)) = m.keys.map fun k => (k, m.get? k) := by
    intro m
    rw [keys, List.map_map]
    refine List.map_congr_left fun e he => ?_
    rw [Function.comp_apply, get?_of_mem_entries (k := e.1) (v := e.2) he]
  have hsame : m.entries.map (fun e => (e.1, some e.2)) =
      m'.entries.map fun e => (e.1, some e.2) := by
    rw [hentries, hentries, hkeys]
    exact List.map_congr_left fun k _ => by rw [hget]
  refine ext ((List.map_inj_right fun e e' h => ?_).mp hsame)
  obtain ⟨k, v⟩ := e
  obtain ⟨k', v'⟩ := e'
  cases h
  rfl

/-- To insert a list again changes nothing. -/
theorem foldl_insert_again (l : List (κ × υ)) (m : OrderedMap κ υ) :
    l.foldl (fun m e => m.insert e.1 e.2) (l.foldl (fun m e => m.insert e.1 e.2) m) =
      l.foldl (fun m e => m.insert e.1 e.2) m := by
  have hthere : ∀ k ∈ l.map Prod.fst, k ∈ (l.foldl (fun m e => m.insert e.1 e.2) m).keys := by
    intro k hk
    rw [mem_keys_iff, get?_foldl_insert]
    have hfound : (l.reverse.find? fun e => e.1 = k).isSome := by
      rw [List.find?_isSome]
      simpa using hk
    simp [hfound]
  have hstay : ∀ (ks seen : List κ), (∀ k ∈ ks, k ∈ seen) →
      ks.foldl (fun seen k => if k ∈ seen then seen else seen ++ [k]) seen = seen := by
    intro ks
    induction ks with
    | nil => exact fun _ _ => rfl
    | cons k ks ih =>
      intro seen h
      rw [List.foldl_cons, if_pos (h k List.mem_cons_self)]
      exact ih seen fun k' hk' => h k' (List.mem_cons_of_mem k hk')
  refine ext_get? ?_ fun k => ?_
  · rw [keys_foldl_insert]
    exact hstay _ _ hthere
  · rw [get?_foldl_insert, get?_foldl_insert, ← Option.or_assoc, Option.or_self]

/-- A list that has every key once is the map's own list. -/
theorem entries_ofList {l : List (κ × υ)} (h : (l.map Prod.fst).Nodup) :
    (ofList l).entries = l :=
  (entries_foldl_insert h fun _ _ => get?_empty _).trans (List.nil_append l)

end OrderedMap

end MetadataBag
