import Mathlib.Data.List.Induction
import Mathlib.Data.List.Nodup
import MetadataBag.Proofs.Store.Reading

/-!
What values make of a store that are appended one after the other. The slots stand in the order of
their first values, each with its values in their order: the values are gathered by slot, and none
is lost, doubled or invented.
-/

namespace MetadataBag

variable {ν : Type} [Space ν]

namespace Name

/-- Of names that are the same but for prefixes the first one. -/
def firsts : List (Name ν) → List (Name ν)
  | [] => []
  | n :: rest => n :: (firsts rest).filter fun m => m.toExpandedName ≠ n.toExpandedName

variable {n : Name ν} {l : List (Name ν)}

lemma firsts_concat (l : List (Name ν)) (n : Name ν) : firsts (l ++ [n]) =
    if n.toExpandedName ∈ l.map toExpandedName then firsts l else firsts l ++ [n] := by
  induction l with
  | nil => rfl
  | cons m rest ih =>
    rw [List.cons_append, firsts, ih, firsts, List.map_cons]
    by_cases hrest : n.toExpandedName ∈ rest.map toExpandedName
    · rw [if_pos hrest, if_pos (List.mem_cons_of_mem _ hrest)]
    rw [if_neg hrest, List.filter_append, List.filter_singleton]
    by_cases hm : n.toExpandedName = m.toExpandedName
    · simp [hm]
    · simp [hm, hrest]

lemma mem_map_firsts {k : ExpandedName ν} :
    k ∈ (firsts l).map toExpandedName ↔ k ∈ l.map toExpandedName := by
  induction l using List.reverseRecOn with
  | nil => rfl
  | append_singleton l n ih =>
    rw [firsts_concat, List.map_append, List.mem_append, ← ih]
    split
    · rename_i hn
      have hkey : k ∈ [n].map toExpandedName → k ∈ (firsts l).map toExpandedName := by
        intro hk
        obtain rfl : k = n.toExpandedName := by simpa using hk
        exact ih.mpr hn
      exact ⟨Or.inl, fun h => h.elim id hkey⟩
    · rw [List.map_append, List.mem_append]

lemma nodup_map_firsts (l : List (Name ν)) : ((firsts l).map toExpandedName).Nodup := by
  induction l using List.reverseRecOn with
  | nil => exact List.nodup_nil
  | append_singleton l n ih =>
    rw [firsts_concat]
    split
    · exact ih
    · rename_i hn
      rw [← mem_map_firsts] at hn
      rw [List.map_append, List.map_singleton, ← List.concat_eq_append]
      exact ih.concat hn

end Name

/-! ### Values to append -/

abbrev Put (ν : Type := String) := Name ν × String

namespace Put

def slotted (w : Put ν) : ExpandedName ν × String := (w.1.toExpandedName, w.2)

def valuesOf (k : ExpandedName ν) (ws : List (Put ν)) : List String :=
  (ws.filter fun w => w.1.toExpandedName = k).map Prod.snd

/-- The values, those of one slot together under the name that the slot got from the first. -/
def gathered (ws : List (Put ν)) : List (Put ν) :=
  (Name.firsts (ws.map Prod.fst)).flatMap fun n =>
    (valuesOf n.toExpandedName ws).map fun v => (n, v)

variable {k : ExpandedName ν} {ws : List (Put ν)} {w : Put ν}

lemma valuesOf_concat : valuesOf k (ws ++ [w]) =
    if w.1.toExpandedName = k then valuesOf k ws ++ [w.2] else valuesOf k ws := by
  rw [valuesOf, List.filter_append, List.filter_singleton, List.map_append]
  by_cases hk : w.1.toExpandedName = k
  · simp [valuesOf, hk]
  · simp [valuesOf, hk]

lemma valuesOf_eq_nil_iff : valuesOf k ws = [] ↔ ∀ w ∈ ws, w.1.toExpandedName ≠ k := by
  rw [valuesOf, List.map_eq_nil_iff, List.filter_eq_nil_iff]
  simp

/-- What is taken out by keys that are all different comes apart into what each of them takes. -/
lemma flatMap_filter_perm {α κ : Type} [DecidableEq κ] (key : α → κ) {ks : List κ}
    (hks : ks.Nodup) (l : List α) :
    (ks.flatMap fun k => l.filter fun a => key a = k).Perm (l.filter fun a => key a ∈ ks) := by
  induction ks with
  | nil => simp
  | cons k ks ih =>
    rw [List.nodup_cons] at hks
    -- the first key takes its own, and the others see nothing of it
    have hone : (l.filter fun a => key a ∈ k :: ks).filter (fun a => key a = k) =
        l.filter fun a => key a = k := by
      rw [List.filter_filter]
      refine List.filter_congr fun a _ => ?_
      simp +contextual
    have hothers : (l.filter fun a => key a ∈ k :: ks).filter (fun a => !decide (key a = k)) =
        l.filter fun a => key a ∈ ks := by
      rw [List.filter_filter]
      refine List.filter_congr fun a _ => ?_
      by_cases ha : key a = k
      · simp [ha, hks.1]
      · simp [ha]
    have hsplit := List.filter_append_perm (fun a => decide (key a = k))
      (l.filter fun a => key a ∈ k :: ks)
    rw [hone, hothers] at hsplit
    rw [List.flatMap_cons]
    exact ((ih hks.2).append_left _).trans hsplit

/-- **Gathering moves values and does nothing else to them.** -/
lemma gathered_perm (ws : List (Put ν)) :
    ((gathered ws).map slotted).Perm (ws.map slotted) := by
  have hone : ∀ k, (valuesOf k ws).map (fun v => (k, v)) =
      (ws.map slotted).filter fun e => e.1 = k := by
    intro k
    rw [valuesOf, List.map_map, List.filter_map]
    refine List.map_congr_left fun w hw => ?_
    have hk : w.1.toExpandedName = k := by simpa using (List.mem_filter.mp hw).2
    rw [Function.comp_apply, slotted, hk]
  have hall : (ws.map slotted).filter
      (fun e => e.1 ∈ (Name.firsts (ws.map Prod.fst)).map Name.toExpandedName) =
        ws.map slotted := by
    refine List.filter_eq_self.mpr fun e he => ?_
    obtain ⟨w, hw, rfl⟩ := List.mem_map.mp he
    have hmem : w.1.toExpandedName ∈ (ws.map Prod.fst).map Name.toExpandedName :=
      List.mem_map_of_mem (List.mem_map_of_mem hw)
    exact decide_eq_true (Name.mem_map_firsts.mpr hmem)
  have hgathered : (gathered ws).map slotted =
      ((Name.firsts (ws.map Prod.fst)).map Name.toExpandedName).flatMap fun k =>
        (ws.map slotted).filter fun e => e.1 = k := by
    rw [gathered, List.map_flatMap, List.flatMap_map]
    refine congrArg List.flatten (List.map_congr_left fun n _ => ?_)
    rw [← hone, List.map_map]
    rfl
  have hperm := flatMap_filter_perm (fun e : ExpandedName ν × String => e.1)
    (Name.nodup_map_firsts (ws.map Prod.fst)) (ws.map slotted)
  rwa [hall, ← hgathered] at hperm

end Put

/-! ### Stores -/

namespace Store

open Put

variable {s : Store ν} {codec : Codec} {ws : List (Put ν)}

def putAll (s : Store ν) (ws : List (Put ν)) : Store ν := ws.foldl (fun s w => s.put w.1 w.2) s

lemma putAll_concat (s : Store ν) (ws : List (Put ν)) (w : Put ν) :
    s.putAll (ws ++ [w]) = (s.putAll ws).put w.1 w.2 :=
  List.foldl_concat _ _ _ _

lemma reading_putAll (codec : Codec) (ws : List (Put ν)) (k : ExpandedName ν) :
    ((empty codec).putAll ws).reading k = valuesOf k ws := by
  induction ws using List.reverseRecOn with
  | nil => rfl
  | append_singleton ws w ih => rw [putAll_concat, reading_put, ih, valuesOf_concat]

lemma slotNames_putAll (codec : Codec) (ws : List (Put ν)) :
    ((empty codec).putAll ws).slotNames = Name.firsts (ws.map Prod.fst) := by
  induction ws using List.reverseRecOn with
  | nil => rfl
  | append_singleton ws w ih =>
    have hheld : ((empty codec).putAll ws).kept w.1.toExpandedName = [] ↔
        w.1.toExpandedName ∉ (ws.map Prod.fst).map Name.toExpandedName := by
      rw [← reading_eq_nil_iff, reading_putAll, valuesOf_eq_nil_iff]
      simp
    rw [putAll_concat, slotNames_put, if_congr hheld rfl rfl, ite_not, ih, List.map_append,
      List.map_singleton, Name.firsts_concat]

/-- **Items are the values gathered by slot.** -/
lemma items_putAll (codec : Codec) (ws : List (Put ν)) :
    ((empty codec).putAll ws).items =
      (Name.firsts (ws.map Prod.fst)).map fun n => (n, valuesOf n.toExpandedName ws) := by
  rw [items_eq, slotNames_putAll]
  refine List.map_congr_left fun n _ => ?_
  rw [getAll_eq_reading, reading_putAll]

end Store

end MetadataBag
