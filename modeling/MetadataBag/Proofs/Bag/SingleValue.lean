import MetadataBag.Proofs.Bag.Run
import MetadataBag.Proofs.Bag.Slots
import MetadataBag.Proofs.Registry.History

/-!
Slots for one value. As long as whatever is written to a slot has a definition for one value
only, the slot holds at most one: a full slot refuses another value or gives up its own.
-/

namespace MetadataBag

variable {r : Registry} {q : ExpandedName}

namespace Key

/-- The targets of a key that share a slot all have a definition, and it permits one value. -/
def Single (r : Registry) (q : ExpandedName) (k : Key) : Prop :=
  ∀ t ∈ k.targets r, t.slot r = q → (t.definition? r).map Property.multi = some false

instance (k : Key) : Decidable (k.Single r q) :=
  inferInstanceAs (Decidable (∀ t ∈ k.targets r, _ → _))

lemma targets_property (p : Property) :
    (Key.property p).targets r = p.members.map .property := by
  simp only [targets, definition?, Property.members]
  split <;> rfl

lemma slot_property_of_definition? {k : Key} {p : Property}
    (h : k.definition? r = some p) : (Key.property p).slot r = k.slot r := by
  rcases k with s | p'
  · rw [slot, slot, resolve_property_of_get? h]
  · cases h
    rfl

lemma Single.names {k k' : Key} (h : k.Single r q) (hk : k.Names r k') :
    k'.Single r q := by
  rcases hk with rfl | ⟨p, hp, rfl⟩
  · exact h
  intro t ht hslot
  have htargets : (Key.property p).targets r =
      if p.isComposite then p.members.map .property else [.property p] := rfl
  rw [htargets] at ht
  rw [Single, targets, hp] at h
  by_cases hcomp : p.isComposite = true
  · rw [if_pos hcomp] at ht
    simp only [if_pos hcomp] at h
    exact h t ht hslot
  · -- a text and the definition that it names have one slot and one definition
    rw [if_neg hcomp] at ht
    simp only [if_neg hcomp, List.mem_singleton, forall_eq] at h
    obtain rfl := List.mem_singleton.mp ht
    rw [slot_property_of_definition? hp] at hslot
    rw [← h hslot, hp]
    rfl

lemma Single.member {p m : Property} (h : (Key.property p).Single r q) (hm : m ∈ p.members)
    (hslot : m.slot r = q) : m.multi = false := by
  have ht : Key.property m ∈ (Key.property p).targets r := by
    rw [targets_property]
    exact List.mem_map_of_mem hm
  exact Option.some.inj (h _ ht hslot)

end Key

namespace Bag

def AtMostOne (q : ExpandedName) (b : Bag) : Prop := (b.store.kept q).length ≤ 1

variable {b : Bag} {p : Property} {value : String}

lemma addMember_atMostOne (hp : p.slot r = q → p.multi = false) (hb : b.AtMostOne q) :
    (b.addMember r p value).bag.AtMostOne q := by
  rw [addMember_eq]
  by_cases hfull : p.multi = false ∧ b.store.kept (p.slot r) ≠ []
  · rw [if_pos hfull]
    exact hb
  · rw [if_neg hfull, done_bag, AtMostOne, Store.kept_put, Key.toExpandedName_resolve,
      Key.slot_property]
    by_cases hslot : p.slot r = q
    · -- there was room, so the slot was empty
      have hempty : b.store.kept q = [] := by
        by_contra hne
        exact hfull ⟨hp hslot, hslot.symm ▸ hne⟩
      rw [if_pos hslot, hempty]
      exact Nat.le_refl 1
    · rw [if_neg hslot]
      exact hb

lemma addSecondary_atMostOne (hp : p.slot r = q → p.multi = false) (hb : b.AtMostOne q) :
    (addSecondary r value b p).AtMostOne q := by
  rw [AtMostOne, kept_addSecondary]
  by_cases hslot : p.slot r = q
  · rw [if_pos hslot, Property.take, hp hslot]
    exact Nat.le_refl 1
  · rw [if_neg hslot]
    exact hb

lemma foldl_addSecondary_atMostOne {ps : List Property}
    (hps : ∀ m ∈ ps, m.slot r = q → m.multi = false) (hb : b.AtMostOne q) :
    (ps.foldl (addSecondary r value) b).AtMostOne q := by
  induction ps generalizing b with
  | nil => exact hb
  | cons p rest ih =>
    rw [List.foldl_cons]
    exact ih (fun m hm => hps m (List.mem_cons_of_mem p hm))
      (addSecondary_atMostOne (hps p List.mem_cons_self) hb)

lemma addTo_atMostOne (hp : (Key.property p).Single r q) (hb : b.AtMostOne q) :
    (b.addTo r p value).bag.AtMostOne q := by
  have hmember : ∀ m ∈ p.members, m.slot r = q → m.multi = false := fun m => hp.member
  unfold Property.members at hmember
  unfold addTo
  by_cases hcomp : p.isComposite = true
  · rw [if_pos hcomp] at hmember ⊢
    have hprimary : (b.addMember r p.target value).bag.AtMostOne q :=
      addMember_atMostOne (hmember _ List.mem_cons_self) hb
    rcases ho : (b.addMember r p.target value).failure with _ | e
    · simp only [ho, done_bag]
      exact foldl_addSecondary_atMostOne
        (fun m hm => hmember m (List.mem_cons_of_mem _ hm)) hprimary
    · simp only [ho]
      exact hprimary
  · rw [if_neg hcomp] at hmember ⊢
    exact addMember_atMostOne (hmember p List.mem_cons_self) hb

lemma assign_atMostOne {k : Key} (hk : k.Single r q) (values : List String)
    (hb : b.AtMostOne q) : (b.assign r k values).bag.AtMostOne q := by
  rcases assign_cases b r k values with heq | ⟨hfits, hkept⟩
  · rw [heq]
    exact hb
  rw [AtMostOne, hkept]
  by_cases hmem : q ∈ (k.targets r).map (·.slot r)
  · rw [if_pos hmem, List.length_map]
    obtain ⟨t, ht, hslot⟩ := List.mem_map.mp hmem
    obtain ⟨p, hp, hsingle⟩ := Option.map_eq_some_iff.mp (hk t ht hslot)
    -- several values would have been refused by this target
    by_contra hlen
    rw [hfits (by omega) t ht p hp] at hsingle
    cases hsingle
  · rw [if_neg hmem]
    exact hb

lemma write_atMostOne {w : Write} (hw : w.isBulk = false)
    (hkeys : ∀ k ∈ w.keys, k.Single r q) (hb : b.AtMostOne q) :
    (b.write r w).bag.AtMostOne q := by
  have he : Effect r b w (b.write r w) := write_effect hw
  generalize b.write r w = o at he
  cases he with
  | ignored => exact hb
  | refused e => exact hb
  | @entered k value hk =>
    -- a key without a definition is for several values, so its slot is another one
    have hslot : k.slot r ≠ q := by
      intro hslot
      have hdef := hkeys k List.mem_cons_self k (by simp [Key.targets, hk]) hslot
      rw [hk] at hdef
      cases hdef
    rw [done_bag, AtMostOne, Store.kept_put, Key.toExpandedName_resolve, if_neg hslot]
    exact hb
  | @added k p value hk =>
    exact addTo_atMostOne ((hkeys k List.mem_cons_self).names (Or.inr ⟨p, hk, rfl⟩)) hb
  | @assigned _ k k' hwk hk values =>
    exact assign_atMostOne ((hkeys k (by simp [hwk])).names hk) values hb
  | removed k =>
    rw [done_bag, AtMostOne, Store.kept_remove]
    split
    · exact Nat.zero_le 1
    · exact hb

/-- **A slot for one value holds at most one**, whatever is written, in whatever order and under
whatever keys: texts, definitions, or composites that reach the slot once or many times. -/
theorem single_slot_holds_at_most_one (calls : List Registry.Call) (codec : Codec)
    (zone : LocalZone) (q : Name) (ws : List Write)
    (hws : ∀ w ∈ ws, ∀ k ∈ w.keys, k.Single (Registry.after calls) q.toExpandedName) :
    (((empty codec zone).run (Registry.after calls) ws).store.getAll q).length ≤ 1 := by
  rw [Store.getAll_eq, List.length_map]
  have hempty : (empty codec zone).AtMostOne q.toExpandedName := Nat.zero_le 1
  refine run_preserves (fun values hkeys e he k hk => ?_)
    (fun b w hw hkeys hb => write_atMostOne hw hkeys hb)
    hempty hws
  -- the key of a pair is one of the keys of the write of all pairs
  obtain rfl := List.mem_singleton.mp hk
  exact hkeys _ (List.mem_map_of_mem (List.mem_map_of_mem he))

def title : Property :=
  .ofKey "dc:title" (some "http://purl.org/dc/elements/1.1/") .text false false

def titleWrites : List Write :=
  [ .add (some (.text "dc:title")) (some "a & b"), .add (some (.property title)) (some "c"),
    .set (some (.text "dc:title")) (.list [.text "d", .text "e"]),
    .add (some (.property (.composite (.unregistered "x") [title, title]))) (some "f"),
    .setAll ⟨[("dc:title", .tuple [.text "g"]), ("y", .bool true)], by decide⟩,
    .add (some (.property (.composite title [title]))) (some "h") ]

theorem single_slot_holds_at_most_one_title :
    (∀ w ∈ titleWrites, ∀ k ∈ w.keys,
      k.Single (Registry.after [.register title false]) title.name.toExpandedName) ∧
    (((empty .markup .universal).run (Registry.after [.register title false])
      titleWrites).store.getAll title.name).length ≤ 1 := by
  have hkeys : ∀ w ∈ titleWrites, ∀ k ∈ w.keys,
      k.Single (Registry.after [.register title false]) title.name.toExpandedName := by
    decide +kernel
  exact ⟨hkeys, single_slot_holds_at_most_one _ _ _ _ _ hkeys⟩

end Bag

end MetadataBag
