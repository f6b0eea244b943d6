import Mathlib.Data.List.Nodup
import MetadataBag.Proofs.Bag.Named
import MetadataBag.Proofs.Registry.Resolution
import MetadataBag.Proofs.Store.Reading

/-!
Displayed names. As long as properties are filed in the registry and none lies in the namespace of
entries, every slot's displayed name leads back to the slot: names are distinct, and each of them
reads as what its slot holds.
-/

namespace MetadataBag

variable {r : Registry}

/-- A name whose displayed form leads back to it. -/
def Name.Reads (r : Registry) (n : Name) : Prop :=
  (Key.resolveText r n.display).toExpandedName = n.toExpandedName

namespace Key

def Filed (r : Registry) : Key → Prop
  | .text _ => True
  | .property p => ∀ m ∈ p.members, m.FiledIn r

instance (k : Key) : Decidable (k.Filed r) :=
  match k with
  | .text _ => inferInstanceAs (Decidable True)
  | .property p => inferInstanceAs (Decidable (∀ m ∈ p.members, m.FiledIn r))

lemma reads_resolveText (hentries : r.NoEntries) (s : String) :
    (resolveText r s).Reads r := by
  rw [Name.Reads, display_resolveText hentries]

lemma reads_of_filedIn (hentries : r.NoEntries) {p : Property}
    (hp : p.FiledIn r) : ((Key.property p).resolve r).Reads r := by
  rw [Name.Reads, display_resolve_of_filedIn hentries hp, resolve_of_filedIn hp]

lemma targets_text (s : String) : (Key.text s).targets r = [.text s] := by
  unfold targets
  split
  · rfl
  · rename_i p hp
    rw [Registry.isComposite_of_get? hp]
    rfl

/-- A write under a text reaches the slot of the text only. -/
lemma resolve_of_names_text {s : String} {k t : Key}
    (hk : (Key.text s).Names r k) (ht : t ∈ k.targets r) : t.resolve r = resolveText r s := by
  rcases hk with rfl | ⟨p, hp, rfl⟩
  · rw [targets_text] at ht
    rw [List.mem_singleton.mp ht]
    rfl
  · rw [targets_property, Property.members, Registry.isComposite_of_get? hp] at ht
    rw [List.mem_singleton.mp ht]
    exact resolve_property_of_get? hp

lemma Filed.fills (hentries : r.NoEntries) {k : Key} (hk : k.Filed r) :
    k.Fills r (Name.Reads r) := by
  intro k' hk' t ht
  rcases k with s | p
  · rw [resolve_of_names_text hk' ht]
    exact reads_resolveText hentries s
  · obtain rfl := eq_of_names_property hk'
    rw [targets_property] at ht
    obtain ⟨m, hm, rfl⟩ := List.mem_map.mp ht
    exact reads_of_filedIn hentries (hk m hm)

end Key

lemma Store.foldl_distinct {l seen : List String} (h : (seen ++ l).Nodup) :
    l.foldl (fun seen s => if s ∈ seen then seen else seen ++ [s]) seen = seen ++ l := by
  induction l generalizing seen with
  | nil => simp
  | cons s rest ih =>
    have hs : s ∉ seen := fun hs =>
      (List.nodup_append.mp h).2.2 s hs s List.mem_cons_self rfl
    rw [List.foldl_cons, if_neg hs, ih (by simpa using h), List.append_assoc,
      List.singleton_append]

lemma Store.distinct_of_nodup {l : List String} (h : l.Nodup) : distinct l = l :=
  foldl_distinct h

namespace Bag

variable {b : Bag}

lemma items_eq (b : Bag) :
    b.items = b.store.slotNames.map fun n => (n.display, b.store.getAll n) := by
  rw [items, Store.items_eq, List.map_map]
  rfl

lemma map_fst_items (b : Bag) : b.items.map Prod.fst = b.store.slotNames.map Name.display := by
  rw [items_eq, List.map_map]
  rfl

def Readable (r : Registry) (b : Bag) : Prop := b.store.Named (Name.Reads r)

lemma run_readable (hentries : r.NoEntries) {ws : List Write}
    (hws : ∀ w ∈ ws, ∀ k ∈ w.keys, k.Filed r) (hb : b.Readable r) : (b.run r ws).Readable r :=
  run_named (fun w hw k hk => (hws w hw k hk).fills hentries) hb

namespace Readable

lemma getAll_display (hb : b.Readable r) {n : Name} (hn : n ∈ b.store.slotNames) :
    b.getAll r (some (.text n.display)) = b.store.getAll n := by
  change b.store.getAll (Key.resolveText r n.display) = b.store.getAll n
  rw [Store.getAll_eq_reading, Store.getAll_eq_reading, hb n hn]

lemma nodup_display (hb : b.Readable r) : (b.store.slotNames.map Name.display).Nodup := by
  have hnodup : (b.store.slotNames.map Name.toExpandedName).Nodup := by
    rw [Store.map_slotNames]
    exact b.store.nodup_keys
  refine List.Nodup.map_on (fun m hm n hn h => ?_) hnodup.of_map
  refine List.inj_on_of_nodup_map hnodup hm hn ?_
  rw [← hb m hm, ← hb n hn, h]

lemma names_eq (hb : b.Readable r) : b.names = b.store.slotNames.map Name.display :=
  Store.distinct_of_nodup hb.nodup_display

lemma items_eq_names (hb : b.Readable r) :
    b.items = b.names.map fun s => (s, b.getAll r (some (.text s))) := by
  rw [items_eq, hb.names_eq, List.map_map]
  refine List.map_congr_left fun n hn => ?_
  rw [Function.comp_apply, hb.getAll_display hn]

end Readable

/-- **Names, values and size tell one story.** After any writes the displayed names of the slots
are distinct, there are as many names as slots, the items are the names in order with what each of
them reads as, and the map that the text of a bag is made from has all of them. -/
theorem displayed_names_read_back (calls : List Registry.Call) (codec : Codec)
    (zone : LocalZone) (hentries : (Registry.after calls).NoEntries) {ws : List Write}
    (hws : ∀ w ∈ ws, ∀ k ∈ w.keys, k.Filed (Registry.after calls)) :
    let r := Registry.after calls
    let b := (empty codec zone).run r ws
    (b.store.slotNames.map Name.display).Nodup ∧
      b.size = b.store.size ∧
      b.items = b.names.map (fun s => (s, b.getAll r (some (.text s)))) ∧
      (OrderedMap.ofList b.items).entries =
        b.store.slotNames.map fun n => (n.display, b.store.getAll n) := by
  intro r b
  have hb : b.Readable r :=
    run_readable hentries hws (empty_named codec zone)
  refine ⟨hb.nodup_display, ?_, hb.items_eq_names, ?_⟩
  · rw [size, hb.names_eq, List.length_map, Store.slotNames, List.length_map]
    rfl
  · rw [← items_eq]
    refine OrderedMap.entries_ofList ?_
    rw [map_fst_items]
    exact hb.nodup_display

def subjectAs (pre : String) : Property :=
  .ofKey (pre ++ ":subject") (some "urn:subject") .text false true

def remark : Property := .ofKey "remark" none .text false false

def subjectCalls : List Registry.Call :=
  [.register (subjectAs "a") false, .register (subjectAs "b") false, .register remark false]

def subjectWrites : List Write :=
  [ .add (some (.text "b:subject")) (some "1 < 2"), .add (some (.text "c:subject")) (some "3"),
    .add (some (.property (subjectAs "a"))) (some "4"), .add (some (.text "remark")) (some "5"),
    .add (some (.property (.composite (subjectAs "a") [remark]))) (some "6"),
    .add (some (.property remark)) (some "7"), .remove (some (.text "c:subject")),
    .setAll ⟨[("x:y:z", .list [.text "8", .text "9"]), ("remark", .bool true)], by decide⟩ ]

theorem displayed_names_read_back_subject :
    (Registry.after subjectCalls).NoEntries ∧
    (∀ w ∈ subjectWrites, ∀ k ∈ w.keys, k.Filed (Registry.after subjectCalls)) ∧
    let r := Registry.after subjectCalls
    let b := (empty .markup .universal).run r subjectWrites
    (b.store.slotNames.map Name.display).Nodup ∧
      b.size = b.store.size ∧
      b.items = b.names.map (fun s => (s, b.getAll r (some (.text s)))) ∧
      (OrderedMap.ofList b.items).entries =
        b.store.slotNames.map fun n => (n.display, b.store.getAll n) := by
  have hentries : (Registry.after subjectCalls).NoEntries := by decide +kernel
  have hws : ∀ w ∈ subjectWrites, ∀ k ∈ w.keys, k.Filed (Registry.after subjectCalls) := by
    decide +kernel
  exact ⟨hentries, hws, displayed_names_read_back subjectCalls .markup .universal hentries hws⟩

end Bag

end MetadataBag
