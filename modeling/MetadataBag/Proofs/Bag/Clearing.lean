import MetadataBag.Catalog.BuiltIn
import MetadataBag.Proofs.Bag.Composite
import MetadataBag.Proofs.Bag.Display

/-!
Two ways to clear a key. Setting no value clears every target of a key; a removal clears the slot
of the key itself. Under a text or a simple property this is one and the same. A composite has the
slot of its primary, so a removal under it leaves the secondaries as they are.
-/

namespace MetadataBag

namespace Store

variable {r : Registry} {s : Store} {k : ExpandedName}

def clear (r : Registry) (s : Store) (ts : List Key) : Store :=
  ts.foldl (fun s t => s.remove (t.resolve r)) s

lemma reading_clear (ts : List Key) : (s.clear r ts).reading k =
    if k ∈ ts.map (·.slot r) then [] else s.reading k := by
  induction ts generalizing s with
  | nil => rfl
  | cons t rest ih =>
    have hrest : s.clear r (t :: rest) = (s.remove (t.resolve r)).clear r rest := rfl
    rw [hrest, ih, reading_remove, Key.toExpandedName_resolve]
    by_cases hk : t.slot r = k
    · simp [hk]
    · simp [hk, Ne.symm hk]

lemma clear_eq_self {ts : List Key} (h : ∀ t ∈ ts, s.reading (t.slot r) = []) :
    s.clear r ts = s := by
  induction ts with
  | nil => rfl
  | cons t rest ih =>
    have hempty := (s.reading_eq_nil_iff _).mp (h t List.mem_cons_self)
    have hfirst : s.remove (t.resolve r) = s := s.remove_eq_self _ hempty
    have hrest : s.clear r (t :: rest) = (s.remove (t.resolve r)).clear r rest := rfl
    rw [hrest, hfirst]
    exact ih fun t' ht' => h t' (List.mem_cons_of_mem t ht')

/-- Clearing keys changes the slots unless they are empty already. -/
lemma slots_clear_eq_iff {ts : List Key} :
    (s.clear r ts).slots = s.slots ↔ ∀ t ∈ ts, s.reading (t.slot r) = [] := by
  constructor
  · -- a cleared slot is empty, and it is what it was
    intro h t ht
    have hcleared : (s.clear r ts).reading (t.slot r) = [] := by
      rw [reading_clear, if_pos (List.mem_map_of_mem ht)]
    rw [reading_eq_nil_iff, kept_eq_nil_iff] at hcleared ⊢
    rwa [← h]
  · intro h
    rw [clear_eq_self h]

end Store

namespace Bag

variable {r : Registry} {b : Bag} {k : Key}

lemma set_null (r : Registry) (b : Bag) (k : Key) :
    b.set r (some k) .null = done { b with store := b.store.clear r (k.targets r) } := rfl

lemma remove_eq (r : Registry) (b : Bag) (k : Key) :
    b.remove r (some k) = done { b with store := b.store.clear r [k] } := rfl

lemma remove_eq_set_null (hk : k.targets r = [k]) :
    b.remove r (some k) = b.set r (some k) .null := by
  rw [set_null, hk, remove_eq]

/-- A removal under a composite clears its primary only. -/
lemma remove_composite_iff (primary : Property) (secondaries : List Property) :
    (b.remove r (some (.property (.composite primary secondaries)))).bag.store.slots =
        (b.set r (some (.property (.composite primary secondaries))) .null).bag.store.slots ↔
      ∀ m ∈ secondaries, m.slot r = primary.slot r ∨ b.store.reading (m.slot r) = [] := by
  have htargets : (Key.property (.composite primary secondaries)).targets r =
      .property primary :: secondaries.map .property := rfl
  -- the removal is the first step of the clearing; what is left of it are the secondaries
  have hremoved : b.store.clear r [.property (.composite primary secondaries)] =
      b.store.remove ((Key.property primary).resolve r) := rfl
  have hcleared : b.store.clear r (.property primary :: secondaries.map .property) =
      (b.store.remove ((Key.property primary).resolve r)).clear r (secondaries.map .property) := rfl
  rw [set_null, remove_eq, htargets, done_bag, done_bag]
  dsimp only
  rw [hremoved, hcleared, eq_comm, Store.slots_clear_eq_iff, List.forall_mem_map]
  refine forall₂_congr fun m _ => ?_
  rw [Store.reading_remove, Key.toExpandedName_resolve, Key.slot_property, Key.slot_property]
  by_cases hslot : m.slot r = primary.slot r
  · simp [hslot]
  · simp [hslot, Ne.symm hslot]

/-- **Removal and clearing**: setting no value clears all targets of a key and nothing else. The
removal of a text or of a simple property is the same write. Of a composite it leaves the same
slots exactly if every secondary shares the slot of the primary or holds nothing. -/
theorem removal_is_clearing_iff (calls : List Registry.Call) (b : Bag) :
    let r := Registry.after calls
    (∀ (k : Key) (n : ExpandedName), (b.set r (some k) .null).bag.store.reading n =
      if n ∈ (k.targets r).map (·.slot r) then [] else b.store.reading n) ∧
    (∀ k : Key, (∀ c, k = .property c → c.isComposite = false) →
      b.remove r (some k) = b.set r (some k) .null) ∧
    ∀ (primary c : Property) (secondaries : List Property),
      Property.compose primary secondaries = .ok c →
      ((b.remove r (some (.property c))).bag.store.slots =
          (b.set r (some (.property c)) .null).bag.store.slots ↔
        ∀ m ∈ secondaries, m.slot r = primary.slot r ∨ b.store.reading (m.slot r) = []) := by
  intro r
  refine ⟨fun k n => ?_, fun k hk => ?_, fun primary c secondaries hc => ?_⟩
  · rw [set_null, done_bag]
    exact Store.reading_clear (k.targets r)
  · refine remove_eq_set_null ?_
    rcases k with s | p
    · exact Key.targets_text s
    · rw [Key.targets_property, Property.members, hk p rfl]
      rfl
  · obtain rfl := Property.compose_eq hc
    exact remove_composite_iff primary secondaries

def creator : Property := Catalog.texts "dc:creator" Catalog.dc

def author : Property := Catalog.texts "meta:author" Catalog.opendocument

def created : Bag :=
  (empty .markup .universal).run .empty
    [.add (some (.property creator)) (some "Ann"), .add (some (.text "x")) (some "1")]

theorem removal_is_clearing_iff_creator :
    created.remove (Registry.after []) (some (.text "x")) =
      created.set (Registry.after []) (some (.text "x")) .null ∧
    Property.compose creator [author] = .ok (.composite creator [author]) ∧
    created.store.reading (author.slot (Registry.after [])) = [] ∧
    (created.remove (Registry.after [])
      (some (.property (.composite creator [author])))).bag.store.slots =
      (created.set (Registry.after [])
        (some (.property (.composite creator [author]))) .null).bag.store.slots := by
  have hcompose : Property.compose creator [author] = .ok (.composite creator [author]) := rfl
  have hauthor : created.store.reading (author.slot (Registry.after [])) = [] := by
    decide +kernel
  obtain ⟨-, hsimple, hcomposite⟩ := removal_is_clearing_iff [] created
  refine ⟨hsimple (.text "x") (by simp), hcompose, hauthor, ?_⟩
  refine (hcomposite creator _ [author] hcompose).mpr fun m hm => Or.inr ?_
  rw [List.mem_singleton.mp hm]
  exact hauthor

/-- A composite that was set is removed, and its secondary is still there. -/
theorem removal_leaves_secondaries :
    let b := (empty .markup .universal).run .empty
      [.set (some (.property (.composite creator [author]))) (.text "Ann")]
    Property.compose creator [author] = .ok (.composite creator [author]) ∧
    (b.remove .empty (some (.property (.composite creator [author])))).bag.items =
      [("meta:author", ["Ann"])] ∧
    (b.set .empty (some (.property (.composite creator [author]))) .null).bag.items = [] ∧
    ¬ ∀ (b : Bag) (primary c : Property) (secondaries : List Property),
      Property.compose primary secondaries = .ok c →
      (b.remove .empty (some (.property c))).bag.store.slots =
        (b.set .empty (some (.property c)) .null).bag.store.slots := by
  intro b
  have hcompose : Property.compose creator [author] = .ok (.composite creator [author]) := rfl
  refine ⟨hcompose, by decide +kernel, by decide +kernel, fun hall => ?_⟩
  have hslots : (b.remove .empty (some (.property (.composite creator [author])))).bag.store.slots ≠
      (b.set .empty (some (.property (.composite creator [author]))) .null).bag.store.slots := by
    decide +kernel
  exact hslots (hall b creator _ [author] hcompose)

end Bag

end MetadataBag
