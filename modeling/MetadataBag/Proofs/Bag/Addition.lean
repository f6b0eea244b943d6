import MetadataBag.Proofs.Bag.Composite
import MetadataBag.Proofs.Store.Order
import MetadataBag.Proofs.Store.Reading

/-!
A value added through a composite whose members have slots of their own. A full primary refuses it
and nothing changes. Otherwise the members take it one after the other, the primary first: behind
what they hold, or in its place where a secondary for one value is full. Slots that are opened or
overwritten go to the end in the order of the members, and nothing else moves.
-/

namespace MetadataBag

namespace Property

variable {r : Registry} {s : Store} {p : Property}

/-- An added value puts the slot at the end: the slot was empty, or its one value is given up. -/
def moves (r : Registry) (s : Store) (p : Property) : Bool :=
  s.reading (p.slot r) = [] || !p.multi

lemma moves_iff : p.moves r s = true ↔ s.kept (p.slot r) = [] ∨ p.multi = false := by
  rw [moves, Bool.or_eq_true, decide_eq_true_eq, Store.reading_eq_nil_iff, Bool.not_eq_true']

lemma map_take (f : String → String) (held : List String) (value : String) :
    (p.take held value).map f = p.take (held.map f) (f value) := by
  unfold take
  split <;> simp

/-- Behind the values of a slot with room, or in the place of the value of a full one. -/
lemma take_eq (held : List String) (value : String) :
    p.take held value = if p.multi = true ∨ held = [] then held ++ [value] else [value] := by
  unfold take
  by_cases hheld : held = []
  · simp [hheld]
  · simp [hheld]

end Property

namespace Bag

variable {r : Registry} {b : Bag} {p primary : Property} {secondaries ps : List Property}
  {value : String} {k : ExpandedName}

@[simp] lemma codec_foldl_addSecondary :
    (ps.foldl (addSecondary r value) b).store.codec = b.store.codec := by
  induction ps generalizing b with
  | nil => rfl
  | cons p rest ih => rw [List.foldl_cons, ih, codec_addSecondary]

lemma reading_foldl_addSecondary_of_mem (hps : (ps.map (·.slot r)).Nodup) (hp : p ∈ ps) :
    (ps.foldl (addSecondary r value) b).store.reading (p.slot r) =
      p.take (b.store.reading (p.slot r)) value := by
  rw [Store.reading, kept_foldl_addSecondary_of_mem hps hp, codec_foldl_addSecondary,
    Property.map_take, Codec.unescape_escape]
  rfl

lemma reading_foldl_addSecondary_of_not_mem (hk : k ∉ ps.map (·.slot r)) :
    (ps.foldl (addSecondary r value) b).store.reading k = b.store.reading k := by
  rw [Store.reading, kept_foldl_addSecondary_of_not_mem hk, codec_foldl_addSecondary]
  rfl

lemma slotNames_addSecondary : (addSecondary r value b p).store.slotNames =
    if p.moves r b.store = true then
      Name.toEnd b.store.slotNames ((Key.property p).resolve r)
    else b.store.slotNames := by
  rw [addSecondary_store]
  by_cases hempty : b.store.kept (p.slot r) = []
  · have hmoves : p.moves r b.store = true := Property.moves_iff.mpr (Or.inl hempty)
    rw [if_neg (by simp [hempty]), if_pos hmoves, Store.slotNames_put_of_empty hempty]
  -- a filled slot moves only if its one value is given up
  by_cases hmulti : p.multi = false
  · have hmoves : p.moves r b.store = true := Property.moves_iff.mpr (Or.inr hmulti)
    have hset : b.store.set ((Key.property p).resolve r) (some value) =
        b.store.assign ((Key.property p).resolve r) [value] := rfl
    rw [if_pos ⟨hmulti, hempty⟩, if_pos hmoves, hset,
      Store.slotNames_assign_toEnd (List.cons_ne_nil value [])]
  · have hstays : ¬ p.moves r b.store = true := by
      rw [Property.moves_iff]
      exact fun h => h.elim hempty hmulti
    have hfull : b.store.kept ((Key.property p).resolve r).toExpandedName ≠ [] := hempty
    rw [if_neg fun h => hmulti h.1, if_neg hstays, Store.slotNames_put, if_neg hfull]

/-- Members with slots of their own do not see that the ones before them have taken the value. -/
lemma slotNames_foldl_addSecondary (hps : (ps.map (·.slot r)).Nodup) :
    (ps.foldl (addSecondary r value) b).store.slotNames =
      ((ps.filter (·.moves r b.store)).map fun m => (Key.property m).resolve r).foldl Name.toEnd
        b.store.slotNames := by
  induction ps generalizing b with
  | nil => rfl
  | cons p rest ih =>
    rw [List.map_cons, List.nodup_cons] at hps
    obtain ⟨hp, hrest⟩ := hps
    -- the value went to another slot, so what moves later is decided as before it
    have hunseen : rest.filter (·.moves r (addSecondary r value b p).store) =
        rest.filter (·.moves r b.store) := by
      refine List.filter_congr fun m hm => ?_
      have hne : p.slot r ≠ m.slot r := fun e => hp (e ▸ List.mem_map_of_mem hm)
      rw [Bool.eq_iff_iff, Property.moves_iff, Property.moves_iff, kept_addSecondary, if_neg hne]
    rw [List.foldl_cons, ih hrest, hunseen, slotNames_addSecondary, List.filter_cons]
    split <;> rfl

/-- Where there is room, the primary takes the value as a secondary would. -/
lemma addTo_composite_of_room
    (h : ¬ (primary.multi = false ∧ b.store.kept (primary.slot r) ≠ [])) :
    b.addTo r (.composite primary secondaries) value =
      done ((primary :: secondaries).foldl (addSecondary r value) b) := by
  have hprimary : addSecondary r value b primary =
      { b with store := b.store.put ((Key.property primary).resolve r) value } := by
    simp only [addSecondary, addMember_eq, if_neg h, done_failure, done_bag]
  rw [addTo_composite, if_neg h, List.foldl_cons, hprimary]

/-- **A value added through a composite, slot by slot.** It is refused, and nothing changes,
exactly if the primary is for one value and has one. Otherwise the primary holds it behind its old
values, and so does a secondary for several values or without a value; a full secondary for one
value holds it alone, and all other slots hold what they held. The slots that were opened or
overwritten stand at the end in the order of the members, the primary first, and before them all
others as they stood. -/
theorem composite_add_slot_by_slot (r : Registry) (b : Bag) {primary c : Property}
    {secondaries : List Property} (hc : Property.compose primary secondaries = .ok c)
    (hslots : ((primary :: secondaries).map (·.slot r)).Nodup) (value : String) :
    let o := b.add r (some (.property c)) (some value)
    let moved := (primary :: secondaries).filter (·.moves r b.store)
    if primary.multi = false ∧ b.store.reading (primary.slot r) ≠ [] then
      o = b.refuse primary.overflow
    else
      o.failure = none ∧
      o.bag.store.reading (primary.slot r) = b.store.reading (primary.slot r) ++ [value] ∧
      (∀ s ∈ secondaries, o.bag.store.reading (s.slot r) =
        if s.multi = true ∨ b.store.reading (s.slot r) = [] then
          b.store.reading (s.slot r) ++ [value]
        else [value]) ∧
      (∀ k, k ∉ (primary :: secondaries).map (·.slot r) →
        o.bag.store.reading k = b.store.reading k) ∧
      o.bag.store.slotNames =
        b.store.slotNames.filter (fun n => n.toExpandedName ∉ moved.map (·.slot r)) ++
          moved.map fun m => (Key.property m).resolve r := by
  obtain rfl := Property.compose_eq hc
  intro o moved
  have ho : o = b.addTo r (.composite primary secondaries) value := rfl
  -- the guard asks for kept values, which are there just if values are read
  have hkept : primary.multi = false ∧ b.store.reading (primary.slot r) ≠ [] ↔
      primary.multi = false ∧ b.store.kept (primary.slot r) ≠ [] :=
    and_congr_right fun _ => (b.store.reading_eq_nil_iff _).not
  by_cases hfull : primary.multi = false ∧ b.store.reading (primary.slot r) ≠ []
  · rw [if_pos hfull, ho, addTo_composite, if_pos (hkept.mp hfull)]
  have hmembers : o = done ((primary :: secondaries).foldl (addSecondary r value) b) :=
    addTo_composite_of_room fun h => hfull (hkept.mpr h)
  rw [if_neg hfull, hmembers, done_failure, done_bag]
  refine ⟨rfl, ?_, fun s hs => ?_, fun k hk => reading_foldl_addSecondary_of_not_mem hk, ?_⟩
  · have hroom : primary.multi = true ∨ b.store.reading (primary.slot r) = [] := by
      by_cases hmulti : primary.multi = true
      · exact Or.inl hmulti
      · exact Or.inr (not_not.mp fun hne => hfull ⟨Bool.eq_false_iff.mpr hmulti, hne⟩)
    rw [reading_foldl_addSecondary_of_mem hslots List.mem_cons_self, Property.take_eq,
      if_pos hroom]
  · rw [reading_foldl_addSecondary_of_mem hslots (List.mem_cons_of_mem primary hs),
      Property.take_eq]
  · -- each member moves once, so the moved names stand in the order of the members
    have hslots' : (moved.map fun m => (Key.property m).resolve r).map Name.toExpandedName =
        moved.map (·.slot r) := by
      rw [List.map_map]
      rfl
    have hnodup : (moved.map (·.slot r)).Nodup :=
      hslots.sublist (List.filter_sublist.map _)
    rw [slotNames_foldl_addSecondary hslots, Name.foldl_toEnd, hslots',
      Name.lasts_of_nodup (hslots' ▸ hnodup)]

def halfCopied : Bag :=
  (empty .markup .universal).run .empty
    [ .add (some (.property latest)) (some "1"), .add (some (.text "x")) (some "<2>"),
      .add (some (.property copied)) (some "3") ]

/-- The primary is opened and the one secondary overwritten; the other one stays where it is. -/
theorem composite_add_slot_by_slot_copies :
    Property.compose original [latest, copied] = .ok (.composite original [latest, copied]) ∧
    ([original, latest, copied].map (·.slot .empty)).Nodup ∧
    let o := halfCopied.add .empty (some (.property (.composite original [latest, copied])))
      (some "4")
    o.failure = none ∧
      o.bag.store.reading (latest.slot .empty) = ["4"] ∧
      o.bag.store.reading (copied.slot .empty) = ["3", "4"] ∧
      o.bag.store.slotNames.map Name.display = ["x", "c", "a", "b"] := by
  have hcompose : Property.compose original [latest, copied] =
      .ok (.composite original [latest, copied]) := rfl
  have hslots : ([original, latest, copied].map (·.slot .empty)).Nodup := by decide +kernel
  have hroom : ¬ (original.multi = false ∧
      halfCopied.store.reading (original.slot .empty) ≠ []) := by decide +kernel
  have hadd := composite_add_slot_by_slot .empty halfCopied hcompose hslots "4"
  dsimp only at hadd
  rw [if_neg hroom] at hadd
  obtain ⟨hdone, -, hsecondaries, -, hnames⟩ := hadd
  refine ⟨hcompose, hslots, hdone, ?_, ?_, ?_⟩
  · rw [hsecondaries latest List.mem_cons_self]
    decide +kernel
  · rw [hsecondaries copied (List.mem_cons_of_mem latest List.mem_cons_self)]
    decide +kernel
  · rw [hnames]
    decide +kernel

end Bag

end MetadataBag
