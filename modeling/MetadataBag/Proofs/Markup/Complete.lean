import MetadataBag.Proofs.Bag.Equality
import MetadataBag.Proofs.Bag.Named
import MetadataBag.Proofs.Markup.Built
import MetadataBag.Proofs.Registry.Resolution

/-!
The text of a bag is complete. Whatever was written before, under whatever prefixes, the text of a
bag's tree tells every name that holds values and all values in order, so that two bags with one
text are the same.
-/

namespace MetadataBag

namespace Markup

/-- All names, without prefixes, and values of a store, one pair for every value. -/
def told (s : Store) : List (ExpandedName × String) :=
  (records s.items).map fun r => (r.1.toExpandedName, r.2)

def toldUnder (k : ExpandedName) (l : List (ExpandedName × String)) : List String :=
  l.filterMap fun r => if r.1 = k then some r.2 else none

variable {choose : Prefixing} {k : ExpandedName} {s s' : Store}

lemma toldUnder_append (l l' : List (ExpandedName × String)) :
    toldUnder k (l ++ l') = toldUnder k l ++ toldUnder k l' := List.filterMap_append

lemma toldUnder_map (n : ExpandedName) (values : List String) :
    toldUnder k (values.map fun v => (n, v)) = if n = k then values else [] := by
  rw [toldUnder, List.filterMap_map]
  split
  · rename_i h
    simp [h]
  · rename_i h
    simp [h]

lemma told_eq (s : Store) :
    told s = s.slotNames.flatMap fun n => (s.getAll n).map fun v => (n.toExpandedName, v) := by
  rw [told, records, Store.items_eq, List.flatMap_map, List.map_flatMap]
  simp [Function.comp_def]

/-- Of names that are all different, one at most tells the values under a name. -/
lemma toldUnder_flatMap (s : Store) {l : List Name} (hl : (l.map Name.toExpandedName).Nodup) :
    toldUnder k (l.flatMap fun n => (s.getAll n).map fun v => (n.toExpandedName, v)) =
      if k ∈ l.map Name.toExpandedName then s.reading k else [] := by
  induction l with
  | nil => rfl
  | cons n rest ih =>
    rw [List.map_cons, List.nodup_cons] at hl
    rw [List.flatMap_cons, toldUnder_append, toldUnder_map, ih hl.2, List.map_cons]
    by_cases hk : n.toExpandedName = k
    · subst hk
      rw [if_pos rfl, if_neg hl.1, if_pos List.mem_cons_self, List.append_nil,
        Store.getAll_eq_reading]
    · rw [if_neg hk, List.nil_append]
      simp [Ne.symm hk]

/-- What a store reads as is told. -/
lemma reading_eq_told (s : Store) (k : ExpandedName) : s.reading k = toldUnder k (told s) := by
  rw [told_eq, toldUnder_flatMap s (s.map_slotNames ▸ s.nodup_keys)]
  split
  · rfl
  · rename_i hk
    rw [Store.map_slotNames, Store.mem_keys_iff] at hk
    exact (s.reading_eq_nil_iff k).mpr (not_not.mp hk)

lemma isNamespaced_of_mem_records (hs : s.Named fun n => n.isNamespaced = true)
    {r : Name × String} (hr : r ∈ records s.items) : r.1.isNamespaced = true := by
  obtain ⟨i, hi, hr⟩ := List.mem_flatMap.mp hr
  obtain ⟨v, -, rfl⟩ := List.mem_map.mp hr
  refine hs i.1 ?_
  rw [Store.items_eq] at hi
  obtain ⟨n, hn, rfl⟩ := List.mem_map.mp hi
  exact hn

/-- The tree of a store: it reads one way, its declarations tell prefixes from each other, and its
children are those of the names and values. -/
lemma ofStore_ok (hchoose : choose.Fresh) (hs : s.Named fun n => n.isNamespaced = true) {t : Tree}
    (h : Tree.ofStore s choose = .ok t) : t.Plain ∧ Sound t.declarations ∧
      List.Forall₂ (fun r e => Shows t.pre t.declarations r.1.toExpandedName r.2 e)
        (records s.items) t.children := by
  obtain ⟨⟨t', next⟩, hroot, h⟩ := bind_ok h
  obtain ⟨children, hchildren, h⟩ := bind_ok h
  obtain ⟨hname, hpre, hsound⟩ := root_ok hchoose s.namespaces.bindings.nodup hroot
  have hshow := elements_show hchoose (fun r hr => isNamespaced_of_mem_records hs hr) hchildren
  cases h
  refine ⟨⟨hpre, ?_, hsound.names, plain_children hpre hsound hshow⟩, hsound, hshow⟩
  dsimp only
  rw [hname]
  decide

/-- Stores with one text tell the same. -/
lemma told_eq_of_text_eq (hchoose : choose.Fresh) (hs : s.Named fun n => n.isNamespaced = true)
    (hs' : s'.Named fun n => n.isNamespaced = true) {x : String} (h : text s choose = .ok x)
    (h' : text s' choose = .ok x) : told s = told s' := by
  obtain ⟨t, ht, rfl⟩ := map_ok h
  obtain ⟨t', ht', hsame⟩ := map_ok h'
  obtain ⟨hplain, hsound, hshow⟩ := ofStore_ok hchoose hs ht
  obtain ⟨hplain', -, hshow'⟩ := ofStore_ok hchoose hs' ht'
  obtain ⟨hpre, hds, hvisible⟩ := Tree.written_inj hplain hplain' hsame.symm
  rw [← hpre, ← hds] at hshow'
  exact eq_of_visible_children hsound hshow hshow' hvisible

end Markup

namespace Bag

/-- The bags that writes lead to from empty ones. Every write may find another registry. -/
inductive Reachable : Bag → Prop
  | empty (codec : Codec) (zone : LocalZone) : Reachable (empty codec zone)
  | write {b : Bag} (r : Registry) (w : Write) (hb : Reachable b) : Reachable (b.write r w).bag

lemma Reachable.run {b : Bag} (hb : b.Reachable) (r : Registry) (ws : List Write) :
    (b.run r ws).Reachable := by
  induction ws generalizing b with
  | nil => exact hb
  | cons w ws ih => exact ih (hb.write r w)

/-- Every slot lies in a namespace. -/
lemma Reachable.isNamespaced {b : Bag} (hb : b.Reachable) :
    b.store.Named fun n => n.isNamespaced = true := by
  induction hb with
  | empty codec zone => exact empty_named codec zone
  | @write b r w hb ih =>
    have hkeys : ∀ w' ∈ [w], ∀ k ∈ w'.keys, k.Fills r fun n => n.isNamespaced = true :=
      fun _ _ _ _ _ _ t _ => Key.isNamespaced_resolve r t
    exact run_named hkeys ih

/-- **The text of a bag is complete**: bags with one text, where there is one, are the same, however
unused prefixes are chosen. -/
theorem equal_texts_equal_bags {choose : Markup.Prefixing} (hchoose : choose.Fresh) {a b : Bag}
    (ha : a.Reachable) (hb : b.Reachable) {x y : String}
    (hx : Markup.text a.store choose = .ok x) (hy : Markup.text b.store choose = .ok y)
    (h : Markup.shown a.store choose = Markup.shown b.store choose) :
    a.same b = true ∧ ∀ n : Name, a.store.getAll n = b.store.getAll n := by
  have hxy : x = y := by
    simpa only [Markup.shown, hx, hy] using h
  have htold : Markup.told a.store = Markup.told b.store :=
    Markup.told_eq_of_text_eq hchoose ha.isNamespaced hb.isNamespaced hx (hxy ▸ hy)
  have hreading : a.store.reading = b.store.reading := by
    funext k
    rw [Markup.reading_eq_told, Markup.reading_eq_told, htold]
  refine ⟨same_iff.mpr hreading, fun n => ?_⟩
  rw [Store.getAll_eq_reading, Store.getAll_eq_reading, hreading]

def inFirst : Property := .ofKey "a:x" (some "urn:one") .text false true
def inSecond : Property := .ofKey "a:x" (some "urn:two") .text false true
def inThird : Property := .ofKey "x" (some "urn:three") .text false false

def mixed : List Write :=
  [ .add (some (.property inFirst)) (some "1 < 2"), .add (some (.property inFirst)) (some ""),
    .add (some (.property inSecond)) (some "</a:x>"),
    .set (some (.property inThird)) (.text "\n  "), .add (some (.text "\"<k>\"")) (some "&amp;") ]

def detour : List Write :=
  [ .add (some (.property inFirst)) (some "1 < 2"), .add (some (.property inFirst)) (some ""),
    .add (some (.text "a:x")) (some "</a:x>"), .add (some (.text "y")) (some "z"),
    .set (some (.property inThird)) (.list [.text "\n  "]), .remove (some (.text "y")),
    .add (some (.text "\"<k>\"")) (some "&amp;") ]

def mixedText : String :=
  "<docmeta:metadata xmlns:docmeta=\"urn:docmeta:metadata\" xmlns:a=\"urn:two\">\n" ++
  "  <ns0:x xmlns:ns0=\"urn:one\">1 &lt; 2</ns0:x>\n" ++
  "  <ns1:x xmlns:ns1=\"urn:one\"></ns1:x>\n" ++
  "  <a:x>&lt;/a:x&gt;</a:x>\n" ++
  "  <ns2:x xmlns:ns2=\"urn:three\">\n  </ns2:x>\n" ++
  "  <docmeta:entry docmeta:name=\"&quot;&lt;k&gt;&quot;\">&amp;amp;</docmeta:entry>\n" ++
  "</docmeta:metadata>\n"

theorem equal_texts_equal_bags_mixed :
    let r := Registry.after [.register inSecond false]
    let a := (empty .markup .universal).run .empty mixed
    let b := (empty .plain .universal).run r detour
    Markup.text a.store = .ok mixedText ∧ Markup.text b.store = .ok mixedText ∧
      a.same b = true ∧ ∀ n : Name, a.store.getAll n = b.store.getAll n := by
  intro r a b
  have hx : Markup.text a.store = .ok mixedText := by decide +kernel
  have hy : Markup.text b.store = .ok mixedText := by decide +kernel
  have ha : a.Reachable := (Reachable.empty .markup .universal).run .empty mixed
  have hb : b.Reachable := (Reachable.empty .plain .universal).run r detour
  have hshown : Markup.shown a.store = Markup.shown b.store := by
    rw [Markup.shown, Markup.shown, hx, hy]
  exact ⟨hx, hy, equal_texts_equal_bags Markup.newPrefix_fresh ha hb hx hy hshown⟩

end Bag

end MetadataBag
