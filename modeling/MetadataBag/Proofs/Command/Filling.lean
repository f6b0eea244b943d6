import MetadataBag.Command.Show
import MetadataBag.Proofs.Bag.Slots
import MetadataBag.Proofs.Catalog.Report
import MetadataBag.Proofs.Decimal.Numeral
import MetadataBag.Proofs.Store.Gathered

/-!
What filling a bag from a file comes to. The items that are not null go to their slots one after
the other, and nothing else does. It fails exactly if there is a nested item, a text under a name
that nothing can be stored under, or one that comes to a slot with a value under a definition for
one value; how far it has come then is not seen.
-/

namespace MetadataBag

/-! ### Numbers that can be written -/

namespace Value

mutual

def integers : Value → List Int
  | .integer n => [n]
  | .list members | .tuple members | .set members => integersAmong members
  | .map entries => entryIntegers entries
  | _ => []

def integersAmong : List Value → List Int
  | [] => []
  | v :: vs => integers v ++ integersAmong vs

def entryIntegers : List (Value × Value) → List Int
  | [] => []
  | (k, v) :: rest => integers k ++ integers v ++ entryIntegers rest

end

/-- The number has few enough digits to be written. -/
def Short (n : Int) : Prop := Decimal.digitCount (toString n).toList ≤ Decimal.digitLimit

instance (n : Int) : Decidable (Short n) := inferInstanceAs (Decidable (_ ≤ _))

mutual

theorem literal?_isSome_iff : ∀ v : Value, v.literal?.isSome = true ↔ ∀ n ∈ v.integers, Short n
  | .integer n => by
    rw [literal?, integers, List.forall_mem_singleton, Short, Decimal.integerText?_eq]
    split
    · exact iff_of_true rfl ‹_›
    · exact iff_of_false Bool.false_ne_true ‹_›
  | .list members | .tuple members | .set members => by
    rw [literal?, integers, Option.isSome_map]
    exact literals?_isSome_iff members
  | .map entries => by
    rw [literal?, integers, Option.isSome_map]
    exact entryLiterals?_isSome_iff entries
  | .null | .bool _ | .real _ | .text _ | .bytes _ | .date _ | .time _ | .timestamp _
  | .loop _ => by
    simp [literal?, integers]

theorem literals?_isSome_iff :
    ∀ vs : List Value, (literals? vs).isSome = true ↔ ∀ n ∈ integersAmong vs, Short n
  | [] => by simp [literals?, integersAmong]
  | v :: vs => by
    rw [integersAmong, List.forall_mem_append, ← literal?_isSome_iff v, ← literals?_isSome_iff vs,
      literals?]
    cases v.literal? <;> cases literals? vs <;> simp

theorem entryLiterals?_isSome_iff : ∀ entries : List (Value × Value),
    (entryLiterals? entries).isSome = true ↔ ∀ n ∈ entryIntegers entries, Short n
  | [] => by simp [entryLiterals?, entryIntegers]
  | (k, v) :: rest => by
    rw [entryIntegers, List.forall_mem_append, List.forall_mem_append, ← literal?_isSome_iff k,
      ← literal?_isSome_iff v, ← entryLiterals?_isSome_iff rest, entryLiterals?]
    cases k.literal? <;> cases v.literal? <;> cases entryLiterals? rest <;> simp

end

lemma writable_iff (v : Value) : v.Writable ↔ ∀ n ∈ v.integers, Short n := literal?_isSome_iff v

lemma writable_of_mem_list {v : Value} {vs : List Value} (hvs : (Value.list vs).Writable)
    (hv : v ∈ vs) : v.Writable := by
  rw [writable_iff, integers] at hvs
  rw [writable_iff]
  induction vs with
  | nil => cases hv
  | cons w vs ih =>
    rw [integersAmong, List.forall_mem_append] at hvs
    rcases List.mem_cons.mp hv with rfl | hv
    · exact hvs.1
    · exact ih hvs.2 hv

lemma writable_of_mem_map {k v : Value} {entries : List (Value × Value)}
    (hentries : (Value.map entries).Writable) (h : (k, v) ∈ entries) :
    k.Writable ∧ v.Writable := by
  rw [writable_iff, integers] at hentries
  rw [writable_iff, writable_iff]
  induction entries with
  | nil => cases h
  | cons e rest ih =>
    rw [entryIntegers, List.forall_mem_append, List.forall_mem_append] at hentries
    rcases List.mem_cons.mp h with rfl | h
    · exact hentries.1
    · exact ih hentries.2 h

/-- Lists and mappings, also where one stands within itself. -/
inductive Nested : Value → Prop
  | list (members : List Value) : Nested (.list members)
  | map (entries : List (Value × Value)) : Nested (.map entries)
  | loop (isMap : Bool) : Nested (.loop isMap)

lemma isNested_iff {v : Value} : Command.Filling.isNested v = true ↔ v.Nested := by
  constructor
  · intro h
    cases v with
    | list members => exact .list members
    | map entries => exact .map entries
    | loop isMap => exact .loop isMap
    | _ => cases h
  · rintro ⟨⟩ <;> rfl

def asText (v : Value) : String := v.plain?.getD ""

lemma plain_of_writable {v : Value} (h : v.Writable) : v.plain = .ok v.asText := by
  rw [Writable, ← plain?_isSome] at h
  obtain ⟨s, hs⟩ := Option.isSome_iff_exists.mp h
  rw [plain, asText, hs]
  rfl

end Value

/-! ### Texts under keys -/

namespace Bag

variable {ν : Type} [Space ν] {r : Registry ν} {b : Bag ν} {s : String}

/-- The slot of a text has a value, and the text names a definition that permits one only. -/
def Full (r : Registry ν) (b : Bag ν) (s : String) : Prop :=
  ∃ p, r.get? s = some p ∧ p.multi = false ∧ b.store.reading ((Key.text s).slot r) ≠ []

/-- **A text is added to the slot of its key or refused**, and nothing else happens. -/
lemma add_text (value : String) :
    (b.Full r s ∧ (b.add r (some (.text s)) (some value)).failure ≠ none) ∨
      (¬ b.Full r s ∧ b.add r (some (.text s)) (some value) =
        done { b with store := b.store.put ((Key.text s).resolve r) value }) := by
  rcases hs : r.get? s with _ | p
  · have hnone : (Key.text s).definition? r = none := hs
    refine Or.inr ⟨fun ⟨p, hp, _⟩ => ?_, by simp only [add, hnone]⟩
    cases hs.symm.trans hp
  have hsome : (Key.text s).definition? r = some p := hs
  have hslot : p.slot r = (Key.text s).slot r :=
    congrArg Name.toExpandedName (Key.resolve_property_of_get? hs)
  -- a registered definition is simple, so the text goes to one slot
  have hadd : b.add r (some (.text s)) (some value) =
      if p.multi = false ∧ b.store.kept (p.slot r) ≠ [] then b.refuse p.overflow
      else done { b with store := b.store.put ((Key.text s).resolve r) value } := by
    have hsimple : ¬ p.isComposite = true := by simp [Registry.isComposite_of_get? hs]
    simp only [add, hsome]
    rw [addTo, if_neg hsimple, addMember_eq, Key.resolve_property_of_get? hs]
  have hfull : b.Full r s ↔ p.multi = false ∧ b.store.kept (p.slot r) ≠ [] := by
    rw [hslot, Ne, ← Store.reading_eq_nil_iff]
    constructor
    · rintro ⟨q, hq, hfull⟩
      cases hs.symm.trans hq
      exact hfull
    · exact fun h => ⟨p, hs, h⟩
  rw [hadd]
  by_cases h : p.multi = false ∧ b.store.kept (p.slot r) ≠ []
  · rw [if_pos h]
    exact Or.inl ⟨hfull.mpr h, by simp⟩
  · rw [if_neg h]
    exact Or.inr ⟨fun hb => h (hfull.mp hb), rfl⟩

end Bag

namespace Command

open Catalog (Namespace Spellings)

/-! ### What a file tells -/

/-- Entries by their items: a list under a name is several items, anything else is one. -/
inductive Itemized : List (Value × Value) → List (Value × Value) → Prop
  | nil : Itemized [] []
  | several {name : Value} {members : List Value} {entries items : List (Value × Value)}
      (h : Itemized entries items) :
      Itemized ((name, .list members) :: entries) (members.map (fun item => (name, item)) ++ items)
  | one {name item : Value} {entries items : List (Value × Value)}
      (hitem : ∀ members, item ≠ .list members) (h : Itemized entries items) :
      Itemized ((name, item) :: entries) ((name, item) :: items)

lemma itemized_pairsOf (entries : List (Value × Value)) : Itemized entries (pairsOf entries) := by
  induction entries with
  | nil => exact .nil
  | cons e rest ih =>
    obtain ⟨name, v⟩ := e
    cases v with
    | list members => exact .several ih
    | _ => exact .one (by simp) ih

/-- The texts of the items that are not null, each with the text of its name. -/
def textsOf (items : List (Value × Value)) : List (String × String) :=
  (items.filter fun e => !e.2.isNull).map fun e => (e.1.asText, e.2.asText)

def putsOf (r : Registry Namespace) (texts : List (String × String)) : List (Put Namespace) :=
  texts.map fun e => ((Key.text e.1).resolve r, e.2)

/-- The texts that a file tells, each under the name of its slot. -/
def toldBy (r : Registry Namespace) (entries : List (Value × Value)) : List (Put Namespace) :=
  putsOf r (textsOf (pairsOf entries))

/-- Nothing can be stored under the name that a text stands for. -/
def Barred (r : Registry Namespace) (name : String) : Prop :=
  Catalog.obstacle? ((Key.text name).resolve r) ≠ none

instance (r : Registry Namespace) (name : String) : Decidable (Barred r name) :=
  inferInstanceAs (Decidable (_ ≠ _))

def Taken (r : Registry Namespace) (before : List (String × String)) (name : String) : Prop :=
  ∃ p, r.get? name = some p ∧ p.multi = false ∧
    ∃ e ∈ before, (Key.text e.1).slot r = (Key.text name).slot r

def Crowded (r : Registry Namespace) (texts : List (String × String)) : Prop :=
  ∃ before e after, texts = before ++ e :: after ∧ Taken r before e.1

/-- No item is nested, no text is barred, and none comes to a slot that is taken. -/
def Clean (r : Registry Namespace) (items : List (Value × Value)) : Prop :=
  (∀ e ∈ items, ¬ e.2.Nested) ∧ (∀ e ∈ textsOf items, ¬ Barred r e.1) ∧
    ¬ Crowded r (textsOf items)

variable {r : Registry Namespace} {items : List (Value × Value)} {told : List (String × String)}

lemma textsOf_concat (items : List (Value × Value)) (e : Value × Value) :
    textsOf (items ++ [e]) =
      if e.2.isNull = true then textsOf items
      else textsOf items ++ [(e.1.asText, e.2.asText)] := by
  rw [textsOf, List.filter_append, List.filter_singleton, List.map_append]
  by_cases hnull : e.2.isNull = true
  · simp [textsOf, hnull]
  · simp [textsOf, hnull]

lemma putsOf_concat (r : Registry Namespace) (told : List (String × String)) (e : String × String) :
    putsOf r (told ++ [e]) = putsOf r told ++ [((Key.text e.1).resolve r, e.2)] := by
  rw [putsOf, List.map_append]
  rfl

lemma not_crowded_nil : ¬ Crowded r [] := by
  rintro ⟨before, e, after, h, -⟩
  exact List.append_ne_nil_of_right_ne_nil before (List.cons_ne_nil e after) h.symm

lemma crowded_concat {e : String × String} :
    Crowded r (told ++ [e]) ↔ Crowded r told ∨ Taken r told e.1 := by
  constructor
  · rintro ⟨before, e', after, h, htaken⟩
    -- the crowding text is the last one, or it was there before
    rcases List.eq_nil_or_concat after with rfl | ⟨rest, last, rfl⟩
    · obtain ⟨rfl, heq⟩ := List.append_inj' h rfl
      cases heq
      exact Or.inr htaken
    · rw [List.concat_eq_append, ← List.cons_append, ← List.append_assoc] at h
      obtain ⟨rfl, -⟩ := List.append_inj' h rfl
      exact Or.inl ⟨before, e', rest, rfl, htaken⟩
  · rintro (⟨before, e', after, rfl, htaken⟩ | htaken)
    · exact ⟨before, e', after ++ [e], by simp, htaken⟩
    · exact ⟨told, e, [], rfl, htaken⟩

lemma clean_nil : Clean r [] :=
  ⟨fun _ he => absurd he List.not_mem_nil, fun _ he => absurd he List.not_mem_nil,
    not_crowded_nil⟩

lemma not_clean_iff : ¬ Clean r items ↔
    (∃ e ∈ items, e.2.Nested) ∨ (∃ e ∈ textsOf items, Barred r e.1) ∨
      Crowded r (textsOf items) := by
  rw [Clean, not_and_or, not_and_or, not_not]
  simp only [not_forall, not_not, exists_prop]

lemma clean_concat {e : Value × Value} : Clean r (items ++ [e]) ↔
    Clean r items ∧ (e.2.isNull = true ∨
      ¬ e.2.Nested ∧ ¬ Barred r e.1.asText ∧ ¬ Taken r (textsOf items) e.1.asText) := by
  unfold Clean
  rw [List.forall_mem_append, List.forall_mem_singleton, textsOf_concat]
  by_cases hnull : e.2.isNull = true
  · -- null is not nested, and it tells no text
    have hflat : ¬ e.2.Nested := by
      intro hnested
      generalize e.2 = item at hnull hnested
      cases hnested <;> cases hnull
    rw [if_pos hnull]
    simp only [hflat, hnull, true_or, and_true, not_false_iff]
  · rw [if_neg hnull, crowded_concat, List.forall_mem_append, List.forall_mem_singleton]
    simp only [hnull, Bool.false_eq_true, false_or]
    tauto

lemma taken_iff_full {b : Bag Namespace} {codec : Codec} {name : String}
    (hb : b.store = (Store.empty codec).putAll (putsOf r told)) :
    Taken r told name ↔ b.Full r name := by
  have hheld : (∃ e ∈ told, (Key.text e.1).slot r = (Key.text name).slot r) ↔
      b.store.reading ((Key.text name).slot r) ≠ [] := by
    rw [hb, Store.reading_putAll, Ne, Put.valuesOf_eq_nil_iff, putsOf, List.forall_mem_map]
    simp
  unfold Taken Bag.Full
  simp only [hheld]

/-! ### Filling -/

namespace Filling

variable {path : String} {spelled : Spellings} {f : Filling} {e : Value × Value}

lemma addItem_of_failed {failure : Error} (h : f.failure = some failure) :
    addItem path r spelled f e = f := by
  simp only [addItem, h]

lemma addItem_eq (h : f.failure = none) : addItem path r spelled f e =
    if e.2.isNull = true then f
    else if isNested e.2 = true then f.fail (nested path e.1)
    else
      match texts e.1 e.2 with
      | .ok (n, v) => f.add r spelled n v
      | .error failure => f.fail failure := by
  obtain ⟨name, item⟩ := e
  cases item <;> simp only [addItem, h] <;> rfl

lemma addItem_text (h : f.failure = none) (hnull : ¬ e.2.isNull = true)
    (hnested : ¬ e.2.Nested) (hname : e.1.Writable) (hitem : e.2.Writable) :
    addItem path r spelled f e = f.add r spelled e.1.asText e.2.asText := by
  have htexts : texts e.1 e.2 = .ok (e.1.asText, e.2.asText) := by
    rw [texts, Value.plain_of_writable hname, Value.plain_of_writable hitem]
    rfl
  rw [addItem_eq h, if_neg hnull, if_neg (Value.isNested_iff.not.mpr hnested), htexts]

/-- **A text is barred, refused or stored**, and only in the last case the filling goes on. -/
lemma add_cases (r : Registry Namespace) (spelled : Spellings) (f : Filling)
    (name value : String) :
    ((Barred r name ∨ f.bag.Full r name) ∧ (f.add r spelled name value).failure ≠ none) ∨
      (¬ Barred r name ∧ ¬ f.bag.Full r name ∧ (f.add r spelled name value).failure = none ∧
        (f.add r spelled name value).bag.store =
          f.bag.store.put ((Key.text name).resolve r) value) := by
  unfold add
  rcases hbarred : Catalog.obstacle? ((Key.text name).resolve r) with _ | e
  · have hopen : ¬ Barred r name := fun h => h hbarred
    rcases Bag.add_text (b := f.bag) value with ⟨hfull, hrefused⟩ | ⟨hroom, hadded⟩
    · exact Or.inl ⟨Or.inr hfull, hrefused⟩
    · exact Or.inr ⟨hopen, hroom, by simp only [hadded, Bag.done_failure], by
        simp only [hadded, Bag.done_bag]⟩
  · exact Or.inl ⟨Or.inl (by simp [Barred, hbarred]), Option.some_ne_none e⟩

end Filling

/-- A filling after some items: it has failed exactly if they are not clean, and as long as it has
not, every text has gone to its slot. -/
structure Filled (r : Registry Namespace) (codec : Codec) (items : List (Value × Value))
    (f : Filling) : Prop where
  failure_iff : f.failure = none ↔ Clean r items
  store_eq : f.failure = none → f.bag.store = (Store.empty codec).putAll (putsOf r (textsOf items))

/-- A filling that has failed stays so. -/
lemma Filled.of_failed {codec : Codec} {f : Filling} {e : Value × Value}
    (hf : Filled r codec items f) (h : f.failure ≠ none) : Filled r codec (items ++ [e]) f :=
  ⟨iff_of_false h fun hclean => h (hf.failure_iff.mpr (clean_concat.mp hclean).1),
    fun hdone => absurd hdone h⟩

/-- An item that is not clean is one more reason to fail. -/
lemma Filled.of_dirty {codec : Codec} {f : Filling} (hfailed : f.failure ≠ none)
    (hdirty : ¬ Clean r items) : Filled r codec items f :=
  ⟨iff_of_false hfailed hdirty, fun h => absurd h hfailed⟩

/-- **One item** goes to its slot, is passed over or makes the filling fail. -/
lemma Filled.addItem {codec : Codec} {f : Filling} (hf : Filled r codec items f)
    (path : String) (spelled : Spellings) {e : Value × Value} (hname : e.1.Writable)
    (hitem : e.2.Writable) :
    Filled r codec (items ++ [e]) (Filling.addItem path r spelled f e) := by
  rcases hfailure : f.failure with _ | failure
  · have hclean : Clean r items := hf.failure_iff.mp hfailure
    have hstore := hf.store_eq hfailure
    -- null is passed over, a nested item fails, and any other is a text to add
    by_cases hnull : e.2.isNull = true
    · rw [Filling.addItem_eq hfailure, if_pos hnull]
      refine ⟨iff_of_true hfailure (clean_concat.mpr ⟨hclean, Or.inl hnull⟩), fun _ => ?_⟩
      rw [textsOf_concat, if_pos hnull, hstore]
    by_cases hnested : e.2.Nested
    · rw [Filling.addItem_eq hfailure, if_neg hnull, if_pos (Value.isNested_iff.mpr hnested)]
      refine .of_dirty (Option.some_ne_none _) fun h => ?_
      rcases (clean_concat.mp h).2 with h | h
      · exact hnull h
      · exact h.1 hnested
    rw [Filling.addItem_text hfailure hnull hnested hname hitem]
    have htaken : Taken r (textsOf items) e.1.asText ↔ f.bag.Full r e.1.asText :=
      taken_iff_full hstore
    rcases f.add_cases r spelled e.1.asText e.2.asText with
      ⟨hkept, hrefused⟩ | ⟨hopen, hroom, hdone, hadded⟩
    · refine .of_dirty hrefused fun h => ?_
      rcases (clean_concat.mp h).2 with h | h
      · exact hnull h
      · exact hkept.elim h.2.1 fun hfull => h.2.2 (htaken.mpr hfull)
    · have hroom' : Clean r (items ++ [e]) :=
        clean_concat.mpr ⟨hclean, Or.inr ⟨hnested, hopen, fun h => hroom (htaken.mp h)⟩⟩
      refine ⟨iff_of_true hdone hroom', fun _ => ?_⟩
      rw [textsOf_concat, if_neg hnull, putsOf_concat, Store.putAll_concat, ← hstore, hadded]
  · rw [Filling.addItem_of_failed hfailure]
    exact hf.of_failed (by rw [hfailure]; exact Option.some_ne_none failure)

/-- **All items**, one after the other. -/
lemma filled_foldl (path : String) (spelled : Spellings) (codec : Codec) (zone : LocalZone)
    (hitems : ∀ e ∈ items, e.1.Writable ∧ e.2.Writable) :
    Filled r codec items
      (items.foldl (Filling.addItem path r spelled) { bag := .empty codec zone }) := by
  induction items using List.reverseRecOn with
  | nil => exact ⟨iff_of_true rfl clean_nil, fun _ => rfl⟩
  | append_singleton items e ih =>
    have hbefore := ih fun e' he' => hitems e' (List.mem_append_left [e] he')
    obtain ⟨hname, hitem⟩ := hitems e (List.mem_append_right items List.mem_cons_self)
    rw [List.foldl_concat]
    exact hbefore.addItem path spelled hname hitem

lemma writable_pairsOf {entries : List (Value × Value)} (h : (Value.map entries).Writable) :
    ∀ e ∈ pairsOf entries, e.1.Writable ∧ e.2.Writable := by
  rintro ⟨k, item⟩ he
  obtain ⟨⟨k', v⟩, hentry, hmem⟩ := List.mem_flatMap.mp he
  obtain ⟨item', hitem, heq⟩ := List.mem_map.mp hmem
  cases heq
  obtain ⟨hk, hv⟩ := Value.writable_of_mem_map h hentry
  refine ⟨hk, ?_⟩
  cases v with
  | list members => exact Value.writable_of_mem_list hv hitem
  | _ => rwa [List.mem_singleton.mp hitem]

end Command

end MetadataBag
