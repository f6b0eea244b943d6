import MetadataBag.Proofs.Markup.Complete

/-!
The children of a tree determine the slots. Each child tells one name and one value: an entry by its
attribute, any other child by its tag. Grouped by name, in the order in which the names come first,
they are the slots with their values, whatever the names look like.
-/

namespace MetadataBag

namespace OrderedMap

variable {κ υ : Type} [DecidableEq κ]

def push (m : OrderedMap κ (List υ)) (e : κ × υ) : OrderedMap κ (List υ) :=
  m.insert e.1 ((m.get? e.1).getD [] ++ [e.2])

/-- All values under their keys, the keys in the order in which they come first. -/
def grouped (l : List (κ × υ)) : OrderedMap κ (List υ) := l.foldl push empty

variable {m : OrderedMap κ (List υ)} {k : κ}

lemma foldl_push_insert (k : κ) (held values : List υ) (m : OrderedMap κ (List υ)) :
    (values.map fun v => (k, v)).foldl push (m.insert k held) = m.insert k (held ++ values) := by
  induction values generalizing held with
  | nil => simp
  | cons v rest ih =>
    have hpush : (m.insert k held).push (k, v) = m.insert k (held ++ [v]) := by
      simp [push]
    rw [List.map_cons, List.foldl_cons, hpush, ih, List.append_assoc, List.singleton_append]

/-- Values that come together under a new key are inserted together. -/
lemma foldl_push_values (hnew : m.get? k = none) {values : List υ} (hvalues : values ≠ []) :
    (values.map fun v => (k, v)).foldl push m = m.insert k values := by
  obtain ⟨v, rest, rfl⟩ := List.exists_cons_of_ne_nil hvalues
  have hpush : m.push (k, v) = m.insert k [v] := by
    simp [push, hnew]
  rw [List.map_cons, List.foldl_cons, hpush, foldl_push_insert, List.singleton_append]

lemma foldl_push_flatMap {l : List (κ × List υ)} (hl : (l.map Prod.fst).Nodup)
    (hvalues : ∀ e ∈ l, e.2 ≠ []) (hnew : ∀ e ∈ l, m.get? e.1 = none) :
    (l.flatMap fun e => e.2.map fun v => (e.1, v)).foldl push m =
      l.foldl (fun m e => m.insert e.1 e.2) m := by
  induction l generalizing m with
  | nil => rfl
  | cons e rest ih =>
    rw [List.map_cons, List.nodup_cons] at hl
    have hfirst := foldl_push_values (hnew e List.mem_cons_self) (hvalues e List.mem_cons_self)
    rw [List.flatMap_cons, List.foldl_append, hfirst, List.foldl_cons]
    refine ih hl.2 (fun e' he' => hvalues e' (List.mem_cons_of_mem e he')) fun e' he' => ?_
    have hne : e.1 ≠ e'.1 := fun heq => hl.1 (heq ▸ List.mem_map_of_mem he')
    rw [get?_insert, if_neg hne]
    exact hnew e' (List.mem_cons_of_mem e he')

/-- **Grouping undoes listing**: what is listed key by key is put together again. -/
lemma entries_grouped_flatMap {l : List (κ × List υ)} (hl : (l.map Prod.fst).Nodup)
    (hvalues : ∀ e ∈ l, e.2 ≠ []) :
    (grouped (l.flatMap fun e => e.2.map fun v => (e.1, v))).entries = l := by
  rw [grouped, foldl_push_flatMap hl hvalues fun e _ => get?_empty e.1]
  exact entries_ofList hl

end OrderedMap

namespace Markup

namespace Element

def key? (e : Element) : Option String :=
  (e.attributes.find? fun a => a.name = keyName).map (·.value)

/-- The name that a child stands for: in the namespace of entries the key of an entry, and of any
other child its tag. -/
def standsFor? (e : Element) : Option ExpandedName :=
  if e.name = entryName then e.key?.map fun key => ⟨key, some entryNamespace⟩ else some e.name

def record? (e : Element) : Option (ExpandedName × String) :=
  e.standsFor?.map fun n => (n, e.text)

end Element

variable {choose : Prefixing} {t : Tree} {s : Store}

lemma record?_of_entryElement {pre key value : String} {e : Element}
    (h : entryElement pre key value = .ok e) :
    e.record? = some (⟨key, some entryNamespace⟩, value) := by
  obtain ⟨-, -, h⟩ := bind_ok h
  obtain ⟨-, -, h⟩ := bind_ok h
  cases h
  simp [Element.record?, Element.standsFor?, Element.key?]

/-- **A child tells what it was made for.** All names in the namespace of entries are made entries,
so the tag of another child is never taken for one. -/
lemma record?_of_element (hchoose : choose.Fresh) {n : Name} {value : String} {next next' : Nat}
    {e : Element} (hn : n.isNamespaced = true)
    (h : element choose t next n value = .ok (e, next')) :
    e.record? = some (n.toExpandedName, value) := by
  have hshows := element_shows hchoose hn h
  by_cases hentry : n.isEntry = true
  · have huri : n.uri = some entryNamespace := of_decide_eq_true hentry
    rw [element, if_pos hentry] at h
    obtain ⟨e', he, heq⟩ := map_ok h
    cases heq
    rw [record?_of_entryElement he, ← huri]
  · have htag : n.toExpandedName ≠ entryName := by
      intro heq
      have huri : n.uri = some entryNamespace := congrArg ExpandedName.uri heq
      exact hentry (decide_eq_true huri)
    cases hshows with
    | entry huri => exact absurd (decide_eq_true huri) hentry
    | declared => simp [Element.record?, Element.standsFor?, htag]
    | declaring => simp [Element.record?, Element.standsFor?, htag]

/-- The children that come of names and values tell them, in order. -/
lemma map_record?_elements (hchoose : choose.Fresh) {l : List (Name × String)} {next : Nat}
    {es : List Element} (hl : ∀ r ∈ l, r.1.isNamespaced = true)
    (h : elements choose t next l = .ok es) :
    l.map (fun r => some (r.1.toExpandedName, r.2)) = es.map Element.record? := by
  rw [← List.forall₂_eq_eq_eq, List.forall₂_map_left_iff, List.forall₂_map_right_iff]
  exact forall₂_elements (fun r hr _ _ _ he => (record?_of_element hchoose (hl r hr) he).symm) h

lemma map_record?_children (hchoose : choose.Fresh) (hs : s.Named fun n => n.isNamespaced = true)
    (h : Tree.ofStore s choose = .ok t) : t.children.map Element.record? = (told s).map some := by
  obtain ⟨⟨t', next⟩, -, h⟩ := bind_ok h
  obtain ⟨children, hchildren, h⟩ := bind_ok h
  cases h
  have hrecords := map_record?_elements hchoose
    (fun r hr => isNamespaced_of_mem_records hs hr) hchildren
  rw [told, List.map_map]
  exact hrecords.symm

/-- What a store tells, grouped by name, is what it holds. -/
lemma entries_grouped_told (s : Store) : (OrderedMap.grouped (told s)).entries =
    s.items.map fun i => (i.1.toExpandedName, i.2) := by
  have hnames : ((s.items.map fun i => (i.1.toExpandedName, i.2)).map Prod.fst).Nodup := by
    have hkeys : (s.items.map fun i => (i.1.toExpandedName, i.2)).map Prod.fst = s.keys := by
      rw [Store.items_eq, List.map_map, List.map_map]
      exact s.map_slotNames
    rw [hkeys]
    exact s.nodup_keys
  have hvalues : ∀ e ∈ s.items.map fun i => (i.1.toExpandedName, i.2), e.2 ≠ [] := by
    intro e he
    rw [Store.items_eq, List.map_map] at he
    obtain ⟨n, hn, rfl⟩ := List.mem_map.mp he
    have hkept : s.kept n.toExpandedName ≠ [] := s.mem_slotNames_kept hn
    simpa [Store.getAll_eq] using hkept
  have htold : told s = (s.items.map fun i => (i.1.toExpandedName, i.2)).flatMap
      fun e => e.2.map fun v => (e.1, v) := by
    rw [told, records, List.map_flatMap, List.flatMap_map]
    simp [Function.comp_def]
  rw [htold]
  exact OrderedMap.entries_grouped_flatMap hnames hvalues

end Markup

namespace Bag

/-- **The tree of a bag determines its slots.** Whatever was written before, and however unused
prefixes are chosen, the children of the tree tell every name and every value of the bag in their
order, none of them lost, doubled or moved; and grouped by name they are the slots with their
values in the order of the slots. -/
theorem tree_determines_slots {choose : Markup.Prefixing} (hchoose : choose.Fresh) {b : Bag}
    (hb : b.Reachable) {t : Markup.Tree} (h : Markup.Tree.ofStore b.store choose = .ok t) :
    t.children.map Markup.Element.record? =
        ((Markup.records b.store.items).map fun r => some (r.1.toExpandedName, r.2)) ∧
      (OrderedMap.grouped (t.children.filterMap Markup.Element.record?)).entries =
        b.store.items.map fun i => (i.1.toExpandedName, i.2) := by
  have htold := Markup.map_record?_children hchoose hb.isNamespaced h
  constructor
  · rw [htold, Markup.told, List.map_map]
    rfl
  · have hread : t.children.filterMap Markup.Element.record? = Markup.told b.store := by
      have hmap := congrArg (List.filterMap id) htold
      rw [List.filterMap_map, List.filterMap_map] at hmap
      exact hmap.trans List.filterMap_some
    rw [hread]
    exact Markup.entries_grouped_told b.store

def inEntries : Property := .ofKey "z:entry" (some entryNamespace) .text false true

def lookalikes : List Write :=
  [ .add (some (.property inFirst)) (some "1"), .add (some (.text "a:x")) (some ""),
    .add (some (.property inEntries)) (some "2"), .add (some (.text "x:y:z")) (some "<3>"),
    .add (some (.property inFirst)) (some "") ]

theorem tree_determines_slots_lookalikes :
    let b := (empty .markup .universal).run .empty lookalikes
    b.Reachable ∧ ∃ t, Markup.Tree.ofStore b.store = .ok t ∧
      (OrderedMap.grouped (t.children.filterMap Markup.Element.record?)).entries =
        [ (⟨"x", some "urn:one"⟩, ["1", ""]), (⟨"a:x", some entryNamespace⟩, [""]),
          (⟨"entry", some entryNamespace⟩, ["2"]), (⟨"x:y:z", some entryNamespace⟩, ["<3>"]) ] := by
  intro b
  have hb : b.Reachable := (Reachable.empty .markup .universal).run .empty lookalikes
  have hok : (Markup.Tree.ofStore b.store).toOption.isSome = true := by decide +kernel
  rcases ht : Markup.Tree.ofStore b.store with e | t
  · rw [ht] at hok
    cases hok
  · refine ⟨hb, t, rfl, ?_⟩
    rw [(tree_determines_slots Markup.newPrefix_fresh hb ht).2]
    decide +kernel

end Bag

end MetadataBag
