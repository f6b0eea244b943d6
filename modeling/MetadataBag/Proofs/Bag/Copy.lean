import MetadataBag.Proofs.Bag.Display

/-!
Copying a bag through its items. If every property is filed and no two definitions stand for one
name, setting the items of a bag on an empty one, whatever its codec and zone, is accepted and
gives a bag with the same items in the same order.
-/

namespace MetadataBag

variable {r : Registry}

/-- Whatever a filed key writes to the slot of a text has the definition of the text. -/
lemma Key.Filed.single (hentries : r.NoEntries) (hnames : r.Unambiguous)
    {s : String} {p : Property} (hp : r.get? s = some p) (hsingle : p.multi = false) {k : Key}
    (hk : k.Filed r) : k.Single r (resolveText r s).toExpandedName := by
  intro t ht hslot
  rcases k with s' | p'
  · rw [targets_text] at ht
    obtain rfl := List.mem_singleton.mp ht
    obtain rfl : s' = s := resolveText_injective hentries hnames hslot
    rw [definition?, hp, Option.map_some, hsingle]
  · rw [targets_property] at ht
    obtain ⟨m, hm, rfl⟩ := List.mem_map.mp ht
    have hfiled := hk m hm
    -- a filed member with that slot is registered under the text, so it is its definition
    have hname : m.displayName = s :=
      resolveText_injective hentries hnames ((resolve_of_filedIn hfiled).symm.trans hslot)
    obtain ⟨q, hq, hsame⟩ := hfiled
    rw [hname, hp] at hq
    cases hq
    rw [definition?, Option.map_some, ← Property.multi_eq_of_same hsame, hsingle]

namespace Bag

variable {a b : Bag}

def contents (b : Bag) : OrderedMap String Value :=
  .ofList (b.items.map fun e => (e.1, .list (e.2.map .text)))

/-- A slot under a text whose definition is for one value holds at most one. -/
def Modest (r : Registry) (b : Bag) : Prop :=
  ∀ s p, r.get? s = some p → p.multi = false → b.AtMostOne (Key.resolveText r s).toExpandedName

lemma run_modest (hentries : r.NoEntries) (hnames : r.Unambiguous)
    {ws : List Write} (hws : ∀ w ∈ ws, ∀ k ∈ w.keys, k.Filed r) (hb : b.Modest r) :
    (b.run r ws).Modest r := by
  intro s p hp hsingle
  refine run_preserves (A := fun w => ∀ k ∈ w.keys, k.Filed r)
    (fun values hv e he k hk => hv k (Write.mem_keys_setAll he hk))
    (fun b w hw hkeys hb => ?_) (hb s p hp hsingle) hws
  exact write_atMostOne hw (fun k hk => (hkeys k hk).single hentries hnames hp hsingle) hb

/-! ### Setting one name -/

lemma memberTexts_map_text (values : List String) :
    memberTexts (values.map .text) = .ok values := by
  induction values with
  | nil => rfl
  | cons v rest ih =>
    rw [List.map_cons, memberTexts_cons_text, ih]
    rfl

lemma assign_text {s : String} {values : List String}
    (hfits : 1 < values.length → ∀ p, r.get? s = some p → p.multi = true) :
    b.assign r (.text s) values =
      done { b with store := b.store.assign (Key.resolveText r s) values } := by
  have htargets : (Key.text s).targets r = [.text s] := Key.targets_text s
  rw [assign_of_multi, htargets]
  · rfl
  · intro hlen t ht p hp
    rw [htargets] at ht
    rw [List.mem_singleton.mp ht] at hp
    exact hfits hlen p hp

/-- A slot that was not there comes last in the items. -/
lemma items_assign (hentries : r.NoEntries) {s : String} {values : List String}
    (hnew : b.store.reading (Key.resolveText r s).toExpandedName = []) (hvalues : values ≠ []) :
    ({ b with store := b.store.assign (Key.resolveText r s) values } : Bag).items =
      b.items ++ [(s, values)] := by
  have hempty := (b.store.reading_eq_nil_iff _).mp hnew
  rw [items_eq, items_eq]
  dsimp only
  rw [Store.slotNames_assign hvalues, b.store.remove_eq_self _ hempty,
    List.map_append, List.map_singleton]
  congr 1
  · refine List.map_congr_left fun n hn => ?_
    have hne : (Key.resolveText r s).toExpandedName ≠ n.toExpandedName := fun heq =>
      b.store.mem_slotNames_kept hn (heq ▸ hempty)
    rw [Store.getAll_eq_reading, Store.getAll_eq_reading, Store.reading_assign, if_neg hne]
  · rw [Key.display_resolveText hentries, Store.getAll_eq_reading, Store.reading_assign,
      if_pos rfl]

/-! ### Setting many -/

lemma setPairs_items (hentries : r.NoEntries) {l : List (String × List String)}
    (hslots : (l.map fun e => (Key.resolveText r e.1).toExpandedName).Nodup)
    (hvalues : ∀ e ∈ l, e.2 ≠ [])
    (hfits : ∀ e ∈ l, 1 < e.2.length → ∀ p, r.get? e.1 = some p → p.multi = true)
    (hnew : ∀ e ∈ l, b.store.reading (Key.resolveText r e.1).toExpandedName = []) :
    (setPairs r b (l.map fun e => (e.1, .list (e.2.map .text)))).failure = none ∧
      (setPairs r b (l.map fun e => (e.1, .list (e.2.map .text)))).bag.items = b.items ++ l := by
  induction l generalizing b with
  | nil => exact ⟨rfl, (List.append_nil _).symm⟩
  | cons e rest ih =>
    obtain ⟨s, values⟩ := e
    rw [List.map_cons, List.nodup_cons] at hslots
    obtain ⟨hfresh, hrest⟩ := hslots
    have hwrite : b.write r (.ofPair (s, .list (values.map .text))) =
        done { b with store := b.store.assign (Key.resolveText r s) values } := by
      change b.assignMembers r (.text s) (values.map .text) = _
      simp only [assignMembers, memberTexts_map_text]
      exact assign_text (hfits _ List.mem_cons_self)
    have hitems := items_assign hentries (hnew _ List.mem_cons_self)
      (hvalues _ List.mem_cons_self)
    -- the slots that are still to be set are empty after this one as they were before
    have hnew' : ∀ e' ∈ rest, (b.store.assign (Key.resolveText r s) values).reading
        (Key.resolveText r e'.1).toExpandedName = [] := by
      intro e' he'
      have hne : (Key.resolveText r s).toExpandedName ≠ (Key.resolveText r e'.1).toExpandedName :=
        fun heq => hfresh (List.mem_map.mpr ⟨e', he', heq.symm⟩)
      rw [Store.reading_assign, if_neg hne]
      exact hnew e' (List.mem_cons_of_mem _ he')
    obtain ⟨hfailure, hlist⟩ := @ih
      { b with store := b.store.assign (Key.resolveText r s) values } hrest
      (fun e' he' => hvalues e' (List.mem_cons_of_mem _ he'))
      (fun e' he' => hfits e' (List.mem_cons_of_mem _ he')) hnew'
    rw [List.map_cons, setPairs_cons, hwrite, if_pos (done_failure _), done_bag]
    refine ⟨hfailure, ?_⟩
    rw [hlist, hitems, List.append_assoc, List.singleton_append]

/-! ### Sameness by items -/

lemma reading_of_items_eq (ha : a.Readable r) (hb : b.Readable r) (h : a.items = b.items)
    {k : ExpandedName} (hk : a.store.reading k ≠ []) : b.store.reading k = a.store.reading k := by
  have hmem : k ∈ a.store.slotNames.map Name.toExpandedName := by
    rw [Store.map_slotNames, Store.mem_keys_iff]
    exact (a.store.reading_eq_nil_iff k).not.mp hk
  obtain ⟨n, hn, rfl⟩ := List.mem_map.mp hmem
  have hitem : (n.display, a.store.getAll n) ∈ b.items := by
    rw [← h, items_eq]
    exact List.mem_map_of_mem hn
  rw [items_eq] at hitem
  obtain ⟨m, hm, heq⟩ := List.mem_map.mp hitem
  obtain ⟨hdisplay, hvalues⟩ := Prod.mk.inj heq
  -- names of readable bags are found by what they display
  have hname : m.toExpandedName = n.toExpandedName := by rw [← hb m hm, ← ha n hn, hdisplay]
  calc b.store.reading n.toExpandedName
      = b.store.getAll m := by rw [Store.getAll_eq_reading, hname]
    _ = a.store.getAll n := hvalues
    _ = a.store.reading n.toExpandedName := a.store.getAll_eq_reading n

lemma same_of_items_eq (ha : a.Readable r) (hb : b.Readable r) (h : a.items = b.items) :
    a.same b = true := by
  refine Store.same_iff.mpr (funext fun k => ?_)
  by_cases hak : a.store.reading k = []
  · by_cases hbk : b.store.reading k = []
    · rw [hak, hbk]
    · exact reading_of_items_eq hb ha h.symm hbk
  · exact (reading_of_items_eq ha hb h hak).symm

/-! ### Setting the items -/

lemma mem_items {e : String × List String} (he : e ∈ b.items) :
    ∃ n ∈ b.store.slotNames, e = (n.display, b.store.getAll n) := by
  rw [items_eq] at he
  obtain ⟨n, hn, rfl⟩ := List.mem_map.mp he
  exact ⟨n, hn, rfl⟩

namespace Readable

lemma entries_contents (hb : b.Readable r) :
    b.contents.entries = b.items.map fun e => (e.1, .list (e.2.map .text)) := by
  refine OrderedMap.entries_ofList ?_
  rw [List.map_map]
  change (b.items.map Prod.fst).Nodup
  rw [map_fst_items]
  exact hb.nodup_display

/-- The names of the items lead to the slots, in order. -/
lemma map_resolveText_items (hb : b.Readable r) :
    b.items.map (fun e => (Key.resolveText r e.1).toExpandedName) = b.store.keys := by
  rw [items_eq, List.map_map, ← Store.map_slotNames]
  exact List.map_congr_left fun n hn => hb n hn

/-- Several values are items only of a name that permits them. -/
lemma multi_of_items (hb : b.Readable r) (hmodest : b.Modest r) {e : String × List String}
    (he : e ∈ b.items) (hlen : 1 < e.2.length) {p : Property} (hp : r.get? e.1 = some p) :
    p.multi = true := by
  obtain ⟨n, hn, rfl⟩ := mem_items he
  -- a name for one value has at most one item value
  by_contra hsingle
  have hone := hmodest n.display p hp (Bool.not_eq_true _ ▸ hsingle)
  rw [hb n hn, AtMostOne] at hone
  rw [Store.getAll_eq, List.length_map] at hlen
  exact Nat.not_le_of_lt hlen hone

lemma setAll_contents (hentries : r.NoEntries) (hb : b.Readable r)
    (hmodest : b.Modest r) (codec : Codec) (zone : LocalZone) :
    ((empty codec zone).setAll r b.contents).failure = none ∧
      ((empty codec zone).setAll r b.contents).bag.items = b.items := by
  rw [setAll, hb.entries_contents]
  refine setPairs_items hentries (hb.map_resolveText_items ▸ b.store.nodup_keys)
    (fun e he => ?_) (fun e he hlen p hp => hb.multi_of_items hmodest he hlen hp) (fun e _ => rfl)
  obtain ⟨n, hn, rfl⟩ := mem_items he
  rw [Store.getAll_eq_reading]
  exact (b.store.reading_eq_nil_iff _).not.mpr (b.store.mem_slotNames_kept hn)

end Readable

/-- Texts are all that pairs are written under, so they leave readable bags. -/
lemma setAll_readable (hentries : r.NoEntries) (hb : b.Readable r)
    (values : OrderedMap String Value) : (b.setAll r values).bag.Readable r := by
  have hkeys : ∀ w ∈ [Write.setAll values], ∀ k ∈ w.keys, k.Filed r := by
    intro w hw k hk
    obtain rfl := List.mem_singleton.mp hw
    obtain ⟨s, -, rfl⟩ := List.mem_map.mp hk
    trivial
  exact run_readable hentries hkeys hb

/-- **Bulk copy**: setting the items of a bag on an empty bag is accepted, and the bag that comes
of it is the same and has the same items in the same order. -/
theorem items_copy_the_bag (calls : List Registry.Call) (codec codec' : Codec)
    (zone zone' : LocalZone) (hentries : (Registry.after calls).NoEntries)
    (hnames : (Registry.after calls).Unambiguous) {ws : List Write}
    (hws : ∀ w ∈ ws, ∀ k ∈ w.keys, k.Filed (Registry.after calls)) :
    let r := Registry.after calls
    let b := (empty codec zone).run r ws
    let o := (empty codec' zone').setAll r b.contents
    o.failure = none ∧ o.bag.same b = true ∧ o.bag.items = b.items := by
  intro r b o
  have hb : b.Readable r := run_readable hentries hws (empty_named codec zone)
  have hmodest : b.Modest r :=
    run_modest hentries hnames hws fun _ _ _ _ => Nat.zero_le 1
  have ho : o.bag.Readable r := setAll_readable hentries (empty_named codec' zone') b.contents
  obtain ⟨hfailure, hitems⟩ := hb.setAll_contents hentries hmodest codec' zone'
  exact ⟨hfailure, same_of_items_eq ho hb hitems, hitems⟩

def plainCalls : List Registry.Call :=
  [.register (subjectAs "a") false, .register remark false]

def plainWrites : List Write :=
  [ .add (some (.text "b:subject")) (some "1 < 2"), .add (some (.text "a:subject")) (some "3"),
    .add (some (.property (.composite remark [subjectAs "a"]))) (some "4"),
    .add (some (.text "b:subject")) (some "&amp;"), .add (some (.text "remark")) (some "5"),
    .add (some (.text "")) (some "") ]

theorem items_copy_the_bag_subject :
    (Registry.after plainCalls).NoEntries ∧ (Registry.after plainCalls).Unambiguous ∧
    (∀ w ∈ plainWrites, ∀ k ∈ w.keys, k.Filed (Registry.after plainCalls)) ∧
    let r := Registry.after plainCalls
    let b := (empty .markup .universal).run r plainWrites
    let o := (empty .plain .universal).setAll r b.contents
    o.failure = none ∧ o.bag.same b = true ∧ o.bag.items = b.items := by
  have hentries : (Registry.after plainCalls).NoEntries := by decide +kernel
  have hnames : (Registry.after plainCalls).Unambiguous := by decide +kernel
  have hws : ∀ w ∈ plainWrites, ∀ k ∈ w.keys, k.Filed (Registry.after plainCalls) := by
    decide +kernel
  exact ⟨hentries, hnames, hws,
    items_copy_the_bag plainCalls .markup .plain .universal .universal hentries hnames hws⟩

end Bag

end MetadataBag
