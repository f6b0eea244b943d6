import MetadataBag.Proofs.Bag.Display
import MetadataBag.Proofs.Bag.Equality

/-!
Writes to different slots. A write asks for its own slots only and leaves all others as they are,
so two writes that share no slot can change places: each of them is refused for the same reason
as before or not at all, and the bags after them are the same. A run can be put in any order in
which no two writes that share a slot have changed places.
-/

namespace MetadataBag

/-- The slots that a write may touch: those of the targets of its keys, or the one that it
removes. -/
def Write.slots (r : Registry) : Write → List ExpandedName
  | .remove (some k) => [k.slot r]
  | w => w.keys.flatMap fun k => (k.targets r).map (·.slot r)

def Write.Apart (r : Registry) (w w' : Write) : Prop := ∀ k ∈ w.slots r, k ∉ w'.slots r

instance (r : Registry) (w w' : Write) : Decidable (w.Apart r w') :=
  inferInstanceAs (Decidable (∀ k ∈ w.slots r, k ∉ w'.slots r))

/-- The second list has the writes of the first one, where no two that share a slot have changed
places. Writes are told apart by their places in the first list. -/
def Reorders (r : Registry) (ws ws' : List Write) : Prop :=
  ∃ l : List (Write × Nat), l.Perm ws.zipIdx ∧ l.map Prod.fst = ws' ∧
    l.Pairwise fun e e' => e'.2 < e.2 → e.1.Apart r e'.1

structure Bag.AgreeOn (S : ExpandedName → Prop) (a b : Bag) : Prop where
  reading : ∀ k, S k → a.store.reading k = b.store.reading k
  zone : a.zone = b.zone

variable {r : Registry}

namespace Write

variable {w w' : Write}

lemma Apart.symm (h : w.Apart r w') : w'.Apart r w := fun k hk hk' => h k hk' hk

lemma mem_slots_of_key (hw : ∀ k, w ≠ .remove (some k)) {k t : Key} (hk : k ∈ w.keys)
    (ht : t ∈ k.targets r) : t.slot r ∈ w.slots r := by
  have hslots : w.slots r = w.keys.flatMap fun k => (k.targets r).map (·.slot r) := by
    unfold slots
    split
    · exact absurd rfl (hw _)
    · rfl
  rw [hslots]
  exact List.mem_flatMap.mpr ⟨k, hk, List.mem_map_of_mem ht⟩

/-- A write under a text fills the slot of the text, also where it goes by the definition. -/
lemma within_slots (w : Write) :
    w.Within r fun n => n.toExpandedName ∈ w.slots r := by
  constructor
  · intro k hk k' hk' t ht
    -- a removal has no key to fill
    have hw : ∀ k, w ≠ .remove (some k) := by
      rintro k rfl
      cases hk
    rcases k with s | p
    · have hself : Key.text s ∈ (Key.text s).targets r := by rw [Key.targets_text]; simp
      rw [Key.resolve_of_names_text hk' ht]
      exact mem_slots_of_key hw hk hself
    · obtain rfl := Key.eq_of_names_property hk'
      exact mem_slots_of_key hw hk ht
  · rintro k rfl
    exact List.mem_singleton_self _

end Write

namespace Bag

variable {a b : Bag} {S S' : ExpandedName → Prop} {w w' : Write}

lemma AgreeOn.refl (S : ExpandedName → Prop) (b : Bag) : b.AgreeOn S b := ⟨fun _ _ => rfl, rfl⟩

lemma AgreeOn.mono (h : a.AgreeOn S b) (hS : ∀ k, S' k → S k) : a.AgreeOn S' b :=
  ⟨fun k hk => h.reading k (hS k hk), h.zone⟩

/-- Bags that agree on some slots cannot be told apart by writes to these. -/
lemma congruence_agreeOn : Congruence (fun n => S n.toExpandedName) (AgreeOn S) where
  zone h := h.zone
  filled h hn := by rw [Store.get?_eq_reading, Store.get?_eq_reading, h.reading _ hn]
  put h _ value := by
    refine ⟨fun k hk => ?_, h.zone⟩
    rw [Store.reading_put, Store.reading_put, h.reading k hk]
  remove h _ := by
    refine ⟨fun k hk => ?_, h.zone⟩
    rw [Store.reading_remove, Store.reading_remove, h.reading k hk]

/-- A bag that is still what another one was, but for some slots. -/
lemma congruence_elsewhere (b : Bag) :
    Congruence (fun n => S n.toExpandedName) fun a a' => a = a' ∧ a.AgreeOn (fun k => ¬ S k) b where
  zone h := by rw [h.1]
  filled h _ := by rw [h.1]
  put {a a' n} h hn value := by
    refine ⟨by rw [h.1], fun k hk => ?_, h.2.zone⟩
    have hne : n.toExpandedName ≠ k := fun e => hk (e ▸ hn)
    rw [Store.reading_put, if_neg hne]
    exact h.2.reading k hk
  remove {a a' n} h hn := by
    refine ⟨by rw [h.1], fun k hk => ?_, h.2.zone⟩
    have hne : n.toExpandedName ≠ k := fun e => hk (e ▸ hn)
    rw [Store.reading_remove, if_neg hne]
    exact h.2.reading k hk

/-- **A write leaves the slots of others alone.** -/
lemma write_elsewhere (r : Registry) (b : Bag) (w : Write) :
    (b.write r w).bag.AgreeOn (fun k => k ∉ w.slots r) b :=
  ((congruence_elsewhere b).write ⟨rfl, .refl _ b⟩ (w.within_slots)).bag.2

/-- **A write asks for its own slots only**, so it does not see a write apart from it. -/
lemma write_after_apart (b : Bag) (h : w.Apart r w') :
    ((b.write r w').bag.write r w).Related (AgreeOn fun k => k ∈ w.slots r) (b.write r w) := by
  have hbefore : (b.write r w').bag.AgreeOn (fun k => k ∈ w.slots r) b :=
    (write_elsewhere r b w').mono h
  exact congruence_agreeOn.write hbefore (w.within_slots)

lemma write_comm (b : Bag) (h : w.Apart r w') :
    ((b.write r w).bag.write r w').bag.Alike ((b.write r w').bag.write r w).bag := by
  have hw := write_elsewhere r b w
  have hw' := write_elsewhere r b w'
  have hlast := write_elsewhere r (b.write r w').bag w
  have hlast' := write_elsewhere r (b.write r w).bag w'
  have hafter := (write_after_apart b h).bag
  have hafter' := (write_after_apart b h.symm).bag
  refine ⟨funext fun k => ?_, ?_⟩
  · -- a slot of the first write, of the second, or of neither
    by_cases hk : k ∈ w.slots r
    · calc ((b.write r w).bag.write r w').bag.store.reading k
          = (b.write r w).bag.store.reading k := hlast'.reading k (h k hk)
        _ = ((b.write r w').bag.write r w).bag.store.reading k := (hafter.reading k hk).symm
    by_cases hk' : k ∈ w'.slots r
    · calc ((b.write r w).bag.write r w').bag.store.reading k
          = (b.write r w').bag.store.reading k := hafter'.reading k hk'
        _ = ((b.write r w').bag.write r w).bag.store.reading k := (hlast.reading k hk).symm
    · calc ((b.write r w).bag.write r w').bag.store.reading k
          = b.store.reading k := (hlast'.reading k hk').trans (hw.reading k hk)
        _ = ((b.write r w').bag.write r w).bag.store.reading k :=
          ((hlast.reading k hk).trans (hw'.reading k hk')).symm
  · calc ((b.write r w).bag.write r w').bag.zone
        = b.zone := hlast'.zone.trans hw.zone
      _ = ((b.write r w').bag.write r w).bag.zone := (hlast.zone.trans hw'.zone).symm

/-! ### Runs -/

/-- A write can be made before all that it is apart from. -/
lemma run_front {before : List Write} (h : ∀ v ∈ before, v.Apart r w)
    (rest : List Write) (b : Bag) :
    (b.run r (before ++ w :: rest)).Alike (b.run r (w :: (before ++ rest))) := by
  induction before generalizing b with
  | nil => exact .refl _
  | cons v before ih =>
    have hmoved := ih (fun u hu => h u (List.mem_cons_of_mem v hu)) (b.write r v).bag
    -- it first passes all that stand behind the first of them, then that one
    have hswapped := write_comm b (h v List.mem_cons_self)
    exact hmoved.trans (hswapped.run (before ++ rest)).2

/-- The first write of the one order is apart from all that stand before it in the other. -/
lemma run_reordered {l m : List (Write × Nat)}
    (hm : m.Pairwise fun e e' => e.2 < e'.2) (hperm : l.Perm m)
    (hl : l.Pairwise fun e e' => e'.2 < e.2 → e.1.Apart r e'.1) (b : Bag) :
    (b.run r (l.map Prod.fst)).Alike (b.run r (m.map Prod.fst)) := by
  induction m generalizing l b with
  | nil =>
    rw [hperm.eq_nil]
    exact .refl _
  | cons e m ih =>
    obtain ⟨hfirst, hrest⟩ := List.pairwise_cons.mp hm
    obtain ⟨before, after, rfl⟩ := List.append_of_mem (hperm.mem_iff.mpr List.mem_cons_self)
    have hperm' : (before ++ after).Perm m := (List.perm_middle.symm.trans hperm).cons_inv
    -- what stands before the first write in the other order came after it in this one
    have hapart : ∀ v ∈ before.map Prod.fst, v.Apart r e.1 := by
      intro v hv
      obtain ⟨d, hd, rfl⟩ := List.mem_map.mp hv
      have hlt : e.2 < d.2 := hfirst d (hperm'.subset (List.mem_append_left after hd))
      exact hl.rel_of_mem_append hd List.mem_cons_self hlt
    have hl' := hl.sublist (List.Sublist.append_left (List.sublist_cons_self e after) before)
    have hfront := run_front hapart (after.map Prod.fst) b
    have hothers := ih hrest hperm' hl' (b.write r e.1).bag
    rw [List.map_append] at hothers
    rw [List.map_append]
    exact hfront.trans hothers

lemma pairwise_zipIdx (ws : List Write) : ws.zipIdx.Pairwise fun e e' => e.2 < e'.2 := by
  rw [← List.pairwise_map (f := Prod.snd) (R := (· < ·)), List.zipIdx_map_snd]
  exact List.pairwise_lt_range' 1

/-- **Writes to different slots commute.** Of two writes that share no slot each is refused for
the same reason, or accepted, whether it is made first or second, and both orders end in the same
bag; so does every order of a run in which no two writes that share a slot have changed places. -/
theorem writes_to_different_slots_commute (calls : List Registry.Call) (b : Bag) :
    let r := Registry.after calls
    (∀ w w' : Write, w.Apart r w' →
      ((b.write r w').bag.write r w).failure = (b.write r w).failure ∧
      ((b.write r w).bag.write r w').failure = (b.write r w').failure ∧
      ((b.write r w).bag.write r w').bag.same ((b.write r w').bag.write r w).bag = true) ∧
    ∀ ws ws' : List Write, Reorders r ws ws' → (b.run r ws').same (b.run r ws) = true := by
  intro r
  constructor
  · intro w w' h
    exact ⟨(write_after_apart b h).failure, (write_after_apart b h.symm).failure,
      same_iff.mpr (write_comm b h).reading⟩
  · rintro ws _ ⟨l, hperm, rfl, hl⟩
    have halike := run_reordered (pairwise_zipIdx ws) hperm hl b
    rw [List.zipIdx_map_fst] at halike
    exact same_iff.mpr halike.reading

def titleCalls : List Registry.Call := [.register title false]

def copyTitle : Write := .add (some (.property (.composite remark [title]))) (some "a")

def secondCaption : Write := .add (some (.property (captionAs "b"))) (some "d")

def titleFirst : List Write :=
  [copyTitle, .add (some (.text "x")) (some "b"), .add (some (.text "dc:title")) (some "c")]

def titleLast : List Write :=
  [.add (some (.text "x")) (some "b"), copyTitle, .add (some (.text "dc:title")) (some "c")]

theorem writes_to_different_slots_commute_title :
    let r := Registry.after titleCalls
    copyTitle.Apart r secondCaption ∧ Reorders r titleFirst titleLast ∧
    ((captioned.write r secondCaption).bag.write r copyTitle).failure =
      (captioned.write r copyTitle).failure ∧
    ((captioned.write r copyTitle).bag.write r secondCaption).failure =
      (captioned.write r secondCaption).failure ∧
    ((captioned.write r copyTitle).bag.write r secondCaption).bag.same
      ((captioned.write r secondCaption).bag.write r copyTitle).bag = true ∧
    (captioned.run r titleLast).same (captioned.run r titleFirst) = true := by
  intro r
  have hapart : copyTitle.Apart r secondCaption := by decide +kernel
  have horder : Reorders r titleFirst titleLast := by
    refine ⟨[(.add (some (.text "x")) (some "b"), 1), (copyTitle, 0),
      (.add (some (.text "dc:title")) (some "c"), 2)], List.Perm.swap _ _ _, rfl, ?_⟩
    decide +kernel
  obtain ⟨hpairs, hruns⟩ := writes_to_different_slots_commute titleCalls captioned
  obtain ⟨hfirst, hsecond, hsame⟩ := hpairs copyTitle secondCaption hapart
  exact ⟨hapart, horder, hfirst, hsecond, hsame, hruns titleFirst titleLast horder⟩

end Bag

end MetadataBag
