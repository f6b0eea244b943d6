import Mathlib.Data.List.Basic
import Mathlib.Tactic.Lemma
import MetadataBag.Catalog.BuiltIn
import MetadataBag.Proofs.Bag.Run
import MetadataBag.Proofs.Bag.SingleValue

/-!
The bound prefixes as a history of what was stored. A write that goes through and has a value
stores it under the names of the targets of its key; nothing else binds a prefix, and nothing
takes a binding away.
-/

namespace MetadataBag

/-- To set the value leaves nothing in a slot. -/
def Value.isVoid : Value → Bool
  | .null => true
  | .list members | .tuple members => members.all isNull
  | .bytes bs => bs.isEmpty
  | _ => false

def Write.isVoid : Write → Bool
  | .add k value => k.isNone || value.isNone
  | .set k value => k.isNone || value.isVoid
  | .setInt _ value => value.isNone
  | .setReal _ value => value.isNone
  | .setDate _ value => value.isNone
  | .setAll values => values.entries.all fun e => e.2.isVoid
  | .remove _ => true

def Key.names (r : Registry) (k : Key) : List Name := (k.targets r).map (·.resolve r)

namespace Bag

/-- The names under which a write of one key stores values: those of the targets of its key,
unless it is refused or has no value. -/
def storedBy (r : Registry) (b : Bag) (w : Write) : List Name :=
  if w.isVoid || (b.write r w).failure.isSome then [] else w.keys.flatMap (Key.names r)

def storedAmong (r : Registry) : Bag → List (String × Value) → List Name
  | _, [] => []
  | b, e :: rest =>
    if (b.write r (.ofPair e)).failure = none then
      storedBy r b (.ofPair e) ++ storedAmong r (b.write r (.ofPair e)).bag rest
    else []

def stored (r : Registry) (b : Bag) : Write → List Name
  | .setAll values => storedAmong r b values.entries
  | w => storedBy r b w

/-- The names under which a run has stored values, in the order of storing. -/
def storedNames (r : Registry) : Bag → List Write → List Name
  | _, [] => []
  | b, w :: ws => stored r b w ++ storedNames r (b.write r w).bag ws

end Bag

/-! ### What one write binds -/

namespace Namespaces

def recordAll (ns : Namespaces) (names : List Name) : Namespaces := names.foldl record ns

@[simp] lemma recordAll_nil (ns : Namespaces) : ns.recordAll [] = ns := rfl

@[simp] lemma recordAll_cons (ns : Namespaces) (n : Name) (names : List Name) :
    ns.recordAll (n :: names) = (ns.record n).recordAll names := rfl

lemma recordAll_append (ns : Namespaces) (names names' : List Name) :
    ns.recordAll (names ++ names') = (ns.recordAll names).recordAll names' := List.foldl_append

/-- A binding that is there already is bound again without effect. -/
lemma record_record (ns : Namespaces) (n : Name) : (ns.record n).record n = ns.record n := by
  unfold record
  rcases bindingOf n with _ | ⟨p, u⟩
  · rfl
  · simp only [register, OrderedMap.insert_insert]

end Namespaces

namespace Store

variable (s : Store) (n : Name)

@[simp] lemma namespaces_put (value : String) :
    (s.put n value).namespaces = s.namespaces.record n := rfl

lemma namespaces_assign {values : List String} (h : values ≠ []) :
    (s.assign n values).namespaces = s.namespaces.record n := by
  -- after the first value the prefix of the name is bound, and the others bind it again
  have hputs : ∀ (rest : List String) (s : Store), s.namespaces.record n = s.namespaces →
      (rest.foldl (fun s v => s.put n v) s).namespaces = s.namespaces := by
    intro rest
    induction rest with
    | nil => exact fun s _ => rfl
    | cons v rest ih =>
      intro s hs
      rw [List.foldl_cons, ih _ (s.namespaces.record_record n), namespaces_put, hs]
  obtain ⟨v, rest, rfl⟩ := List.exists_cons_of_ne_nil h
  rw [assign, List.foldl_cons, hputs rest _ (Namespaces.record_record _ n)]
  rfl

lemma namespaces_foldl_assign {r : Registry} (ts : List Key) (values : List String) (s : Store) :
    (ts.foldl (fun s t => s.assign (t.resolve r) values) s).namespaces =
      if values = [] then s.namespaces else s.namespaces.recordAll (ts.map (·.resolve r)) := by
  induction ts generalizing s with
  | nil => simp
  | cons t rest ih =>
    rw [List.foldl_cons, ih]
    by_cases h : values = []
    · subst h
      rfl
    · rw [if_neg h, if_neg h, namespaces_assign s _ h, List.map_cons, Namespaces.recordAll_cons]

end Store

/-- A text and the definition that it names reach the same slots. -/
lemma Key.names_eq {r : Registry} {k k' : Key} (h : k.Names r k') :
    k'.names r = k.names r := by
  rcases h with rfl | ⟨p, hp, rfl⟩
  · rfl
  rcases k with s | q
  · have hresolve := resolve_property_of_get? hp
    rw [names, names, targets_property]
    -- a text finds the targets of its definition where that is composite, and itself if not
    simp only [targets, definition?] at hp ⊢
    rw [hp]
    unfold Property.members
    by_cases hcomp : p.isComposite = true
    · simp only [if_pos hcomp]
    · simp only [if_neg hcomp, List.map_cons, List.map_nil, hresolve]
  · cases hp
    rfl

/-- What came under names between two bags: their prefixes are bound, each of them holds a value,
and every other slot is as it was or empty. -/
structure Bag.Gained (b : Bag) (names : List Name) (b' : Bag) : Prop where
  bound : b'.store.namespaces = b.store.namespaces.recordAll names
  held : ∀ n ∈ names, b'.store.kept n.toExpandedName ≠ []
  only : ∀ k, k ∉ names.map Name.toExpandedName →
    b'.store.kept k = b.store.kept k ∨ b'.store.kept k = []

/-- Unless it is refused, a write stores values under names. -/
def Outcome.Stores (b : Bag) (names : List Name) (o : Outcome) : Prop :=
  b.Gained (if o.failure.isSome then [] else names) o.bag

namespace Bag

variable {r : Registry} {b : Bag}

lemma gained_nil : b.Gained [] b := ⟨rfl, fun _ hn => (nomatch hn), fun _ _ => Or.inl rfl⟩

lemma refuse_stores (e : Error) (names : List Name) : (b.refuse e).Stores b names := gained_nil

lemma done_stores_nil : (done b).Stores b [] := gained_nil

lemma put_stores (n : Name) (value : String) :
    (done { b with store := b.store.put n value }).Stores b [n] := by
  refine ⟨rfl, fun m hm => ?_, fun k hk => Or.inl ?_⟩
  · obtain rfl := List.mem_singleton.mp hm
    simp [Store.kept_put]
  · have hne : n.toExpandedName ≠ k := fun h => hk (h ▸ List.mem_cons_self)
    rw [done_bag, Store.kept_put, if_neg hne]

lemma addMember_stores (p : Property) (value : String) :
    (b.addMember r p value).Stores b [(Key.property p).resolve r] := by
  rw [addMember_eq]
  split
  · exact refuse_stores _ _
  · exact put_stores _ _

lemma namespaces_foldl_addSecondary (ps : List Property) (value : String) (b : Bag) :
    (ps.foldl (addSecondary r value) b).store.namespaces =
      b.store.namespaces.recordAll (ps.map fun p => (Key.property p).resolve r) := by
  induction ps generalizing b with
  | nil => rfl
  | cons p rest ih =>
    have hfirst : (addSecondary r value b p).store.namespaces =
        b.store.namespaces.record ((Key.property p).resolve r) := by
      rw [addSecondary_store]
      split <;> rfl
    rw [List.foldl_cons, ih, hfirst, List.map_cons, Namespaces.recordAll_cons]

lemma kept_foldl_addSecondary_ne_nil {ps : List Property} {value : String} {k : ExpandedName}
    (h : k ∈ ps.map (·.slot r) ∨ b.store.kept k ≠ []) :
    (ps.foldl (addSecondary r value) b).store.kept k ≠ [] := by
  induction ps generalizing b with
  | nil => exact h.resolve_left List.not_mem_nil
  | cons p rest ih =>
    refine ih ?_
    rw [kept_addSecondary]
    by_cases hk : p.slot r = k
    · rw [if_pos hk, Property.take]
      split <;> simp
    · rw [if_neg hk]
      simpa [Ne.symm hk] using h

/-- Values that go to secondaries are stored under their names too. -/
lemma foldl_addSecondary_gained {b' : Bag} {names : List Name} (h : b.Gained names b')
    (ps : List Property) (value : String) :
    b.Gained (names ++ ps.map fun p => (Key.property p).resolve r)
      (ps.foldl (addSecondary r value) b') := by
  refine ⟨?_, fun n hn => kept_foldl_addSecondary_ne_nil ?_, fun k hk => ?_⟩
  · rw [namespaces_foldl_addSecondary, h.bound, Namespaces.recordAll_append]
  · rcases List.mem_append.mp hn with hn | hn
    · exact Or.inr (h.held n hn)
    · obtain ⟨p, hp, rfl⟩ := List.mem_map.mp hn
      exact Or.inl (List.mem_map_of_mem hp)
  · rw [List.map_append, List.mem_append, not_or, List.map_map] at hk
    rw [kept_foldl_addSecondary_of_not_mem hk.2]
    exact h.only k hk.1

lemma addTo_stores (p : Property) (value : String) :
    (b.addTo r p value).Stores b ((Key.property p).names r) := by
  rw [Key.names, Key.targets_property]
  unfold addTo Property.members
  by_cases hcomp : p.isComposite = true
  · have hprimary := addMember_stores (b := b) (r := r) p.target value
    -- the secondaries take the value only after the primary has
    rw [if_pos hcomp, if_pos hcomp]
    rcases ho : (b.addMember r p.target value).failure with _ | e
    · simp only [Outcome.Stores, ho] at hprimary ⊢
      have hall := foldl_addSecondary_gained (r := r) hprimary p.secondaries value
      simpa [Function.comp_def] using hall
    · simpa [Outcome.Stores, ho] using hprimary
  · rw [if_neg hcomp, if_neg hcomp]
    exact addMember_stores p value

lemma assign_stores (k : Key) (values : List String) :
    (b.assign r k values).Stores b (if values = [] then [] else k.names r) := by
  unfold assign
  dsimp only
  rcases (if 1 < values.length then singleTarget r (k.targets r) else none) with _ | p
  · by_cases hvalues : values = []
    · -- no values bind nothing and leave the targets empty
      subst hvalues
      refine ⟨by simp [Store.namespaces_foldl_assign], fun _ hn => (nomatch hn), fun q _ => ?_⟩
      rw [done_bag, kept_foldl_assign]
      split
      · exact Or.inr rfl
      · exact Or.inl rfl
    · have hslots : (k.targets r).map (·.slot r) = (k.names r).map Name.toExpandedName :=
        (Key.map_toExpandedName_resolve r _).symm
      simp only [Outcome.Stores, done_failure, done_bag, if_neg hvalues, Option.isSome_none,
        Bool.false_eq_true, if_false]
      refine ⟨?_, fun n hn => ?_, fun q hq => Or.inl ?_⟩
      · rw [Store.namespaces_foldl_assign, if_neg hvalues]
        rfl
      · rw [kept_foldl_assign, hslots, if_pos (List.mem_map_of_mem hn)]
        simpa using hvalues
      · rw [kept_foldl_assign, hslots, if_neg hq]
  · exact refuse_stores _ _

lemma assignTyped_stores {k : Key} {p : Property} (h : k.Names r (.property p))
    (first : ValueType) (others : List ValueType) (text : Option (Except Error String)) :
    (b.assignTyped r p first others text).Stores b (if text.isNone then [] else k.names r) := by
  rcases hc : checkType p first others with _ | e
  · simp only [assignTyped, hc]
    rcases text with _ | e | s
    · exact assign_stores (.property p) []
    · exact refuse_stores _ _
    · have hassign := assign_stores (r := r) (b := b) (.property p) [s]
      rwa [if_neg (List.cons_ne_nil s []), Key.names_eq h] at hassign
  · simp only [assignTyped, hc]
    exact refuse_stores _ _

lemma assignTyped_definition_stores (k : Key) {first : ValueType} {others : List ValueType}
    (htext : ValueType.text ∉ first :: others) (text : Except Error String) :
    (b.assignTyped r (k.definition r) first others (some text)).Stores b (k.names r) := by
  rcases k with s | p
  · rcases hs : r.get? s with _ | p
    · -- an unregistered text stands for a text property, and that one is refused
      obtain ⟨e, he⟩ := checkType_unregistered String s htext
      simp only [Key.definition, hs, Option.getD_none, assignTyped, he]
      exact refuse_stores _ _
    · simp only [Key.definition, hs, Option.getD_some]
      exact assignTyped_stores (k := .text s) (Or.inr ⟨p, hs, rfl⟩) first others (some text)
  · exact assignTyped_stores (Or.inl rfl) first others (some text)

lemma memberTexts_eq_nil_iff {members : List Value} {texts : List String}
    (h : memberTexts members = .ok texts) : texts = [] ↔ members.all Value.isNull = true := by
  induction members using memberTexts.induct generalizing texts with
  | case1 =>
    cases h
    simp
  | case2 rest ih =>
    rw [memberTexts] at h
    simpa [Value.isNull] using ih h
  | case3 v rest hv hp =>
    simp [memberTexts, hp] at h
  -- a member with a text is kept, so it is not null and the texts are not empty
  | case4 v rest hv s hp ih =>
    have hnull : v.isNull = false := by cases v <;> first | rfl | exact absurd rfl hv
    simp only [memberTexts, hp] at h
    rcases hrest : memberTexts rest with e | texts'
    · rw [hrest] at h
      cases h
    · rw [hrest] at h
      cases h
      simp [hnull]

lemma assignMembers_stores (k : Key) (members : List Value) :
    (b.assignMembers r k members).Stores b
      (if members.all Value.isNull then [] else k.names r) := by
  unfold assignMembers
  rcases ht : memberTexts members with e | texts
  · exact refuse_stores _ _
  · have hassign := assign_stores (r := r) (b := b) k texts
    rwa [if_congr (memberTexts_eq_nil_iff ht) rfl rfl] at hassign

lemma set_stores (k : Key) (value : Value) :
    (b.set r (some k) value).Stores b (if value.isVoid then [] else k.names r) := by
  unfold set
  cases value with
  | null => exact assign_stores k []
  | text s =>
    have hassign := assign_stores (r := r) (b := b) k [s]
    rwa [if_neg (List.cons_ne_nil s [])] at hassign
  | integer n => unfold setInt; exact assignTyped_definition_stores k (by decide) _
  | real x => unfold setReal; exact assignTyped_definition_stores k (by decide) _
  | date d => unfold setDate; exact assignTyped_definition_stores k (by decide) _
  | timestamp t => unfold setDate; exact assignTyped_definition_stores k (by decide) _
  | list members => exact assignMembers_stores k members
  | tuple members => exact assignMembers_stores k members
  | bytes bs =>
    have hmembers := assignMembers_stores (r := r) (b := b) k (bs.map fun n => .integer n.toNat)
    -- bytes are set as the list of their numbers, none of which is null
    have hall : (bs.map fun n => Value.integer n.toNat).all Value.isNull = bs.isEmpty := by
      cases bs <;> rfl
    rwa [hall] at hmembers
  | bool | time | set | map | loop => exact refuse_stores _ _

lemma add_stores (k : Key) (value : String) :
    (b.add r (some k) (some value)).Stores b (k.names r) := by
  rcases hk : k.definition? r with _ | p
  · have hnames : k.names r = [k.resolve r] := by
      simp only [Key.names, Key.targets, hk, List.map_cons, List.map_nil]
    simp only [add, hk, hnames]
    exact put_stores _ _
  · have hdefined := addTo_stores (r := r) (b := b) p value
    rw [Key.names_eq (Or.inr ⟨p, hk, rfl⟩)] at hdefined
    simpa only [add, hk] using hdefined

lemma assignTyped_property_stores (p : Property) (first : ValueType) (others : List ValueType)
    (text : Option (Except Error String)) :
    (b.assignTyped r p first others text).Stores b
      (if text.isNone then [] else Key.names r (.property p)) :=
  assignTyped_stores (Or.inl rfl) first others text

/-- **What a write of one key stores**: the prefixes of the names of its key's targets, if it goes
through and has a value. -/
lemma write_stores {w : Write} (hw : w.isBulk = false) :
    (b.write r w).Stores b (if w.isVoid then [] else w.keys.flatMap (Key.names r)) := by
  cases w with
  | add k value =>
    rcases k with _ | k
    · exact done_stores_nil
    rcases value with _ | value
    · exact done_stores_nil
    · rw [Write.keys, List.flatMap_singleton]
      exact add_stores k value
  | set k value =>
    rcases k with _ | k
    · exact refuse_stores _ _
    · rw [Write.keys, List.flatMap_singleton]
      exact set_stores k value
  | setInt p value =>
    have hset := assignTyped_property_stores (r := r) (b := b) p .integer [] (value.map wholeText)
    rw [Write.keys, List.flatMap_singleton]
    rwa [Option.isNone_map] at hset
  | setReal p value =>
    rw [Write.keys, List.flatMap_singleton]
    have hset := assignTyped_property_stores (r := r) (b := b) p .real [.rational]
      (value.map fun q => q.real?.map Decimal.realText)
    rwa [Option.isNone_map] at hset
  | setDate p value =>
    rw [Write.keys, List.flatMap_singleton]
    have hset := assignTyped_property_stores (r := r) (b := b) p .date []
      (value.map (When.text b.zone))
    rwa [Option.isNone_map] at hset
  | setAll values => cases hw
  | remove k =>
    rcases k with _ | k
    · exact done_stores_nil
    · refine ⟨rfl, fun _ hn => (nomatch hn), fun q _ => ?_⟩
      simp only [write, remove, done_bag, Store.kept_remove]
      split
      · exact Or.inr rfl
      · exact Or.inl rfl

/-- A write of one key stores values under the names that it counts for, and nowhere else. -/
lemma write_gained {w : Write} (hw : w.isBulk = false) :
    b.Gained (storedBy r b w) (b.write r w).bag := by
  have hstores : b.Gained _ _ := write_stores (r := r) hw
  have hnames : storedBy r b w = if (b.write r w).failure.isSome then []
      else if w.isVoid then [] else w.keys.flatMap (Key.names r) := by
    rw [storedBy]
    cases w.isVoid <;> cases (b.write r w).failure <;> rfl
  rwa [hnames]

lemma namespaces_setPairs (l : List (String × Value)) :
    (setPairs r b l).bag.store.namespaces =
      b.store.namespaces.recordAll (storedAmong r b l) := by
  induction l generalizing b with
  | nil => rfl
  | cons e rest ih =>
    have hpair : (Write.ofPair e).isBulk = false := rfl
    rw [setPairs_cons, storedAmong]
    -- the first refused pair ends the write and has bound nothing
    by_cases he : (b.write r (.ofPair e)).failure = none
    · rw [if_pos he, if_pos he, ih, Namespaces.recordAll_append, (write_gained hpair).bound]
    · rw [if_neg he, if_neg he, write_refused hpair he, Namespaces.recordAll_nil]

/-- What one write binds, whatever its kind. -/
lemma namespaces_write_stored (w : Write) :
    (b.write r w).bag.store.namespaces = b.store.namespaces.recordAll (stored r b w) := by
  cases w with
  | setAll values => exact namespaces_setPairs values.entries
  | add | set | setInt | setReal | setDate | remove => exact (write_gained rfl).bound

/-- What a whole run binds. -/
lemma namespaces_run (ws : List Write) :
    (b.run r ws).store.namespaces = b.store.namespaces.recordAll (storedNames r b ws) := by
  induction ws generalizing b with
  | nil => rfl
  | cons w ws ih =>
    rw [run_cons, ih, namespaces_write_stored, storedNames, Namespaces.recordAll_append]

lemma storedBy_of_isVoid {w : Write} (hw : w.isVoid = true) : storedBy r b w = [] := by
  rw [storedBy, hw]
  rfl

lemma storedAmong_of_isVoid {l : List (String × Value)} (hl : l.all (fun e => e.2.isVoid) = true) :
    storedAmong r b l = [] := by
  induction l generalizing b with
  | nil => rfl
  | cons e rest ih =>
    rw [List.all_cons, Bool.and_eq_true] at hl
    have hpair : (Write.ofPair e).isVoid = true := hl.1
    rw [storedAmong, storedBy_of_isVoid hpair, ih hl.2, List.append_nil, ite_self]

lemma stored_of_isVoid {w : Write} (hw : w.isVoid = true) : stored r b w = [] := by
  cases w with
  | setAll values => exact storedAmong_of_isVoid hw
  | add | set | setInt | setReal | setDate | remove => exact storedBy_of_isVoid hw

end Bag

/-! ### The bindings of a run -/

namespace Namespaces

/-- The bindings that names make one after the other, after that of the entry prefix. -/
def history (names : List Name) : List (String × String) :=
  (entryPrefix, entryNamespace) :: names.filterMap bindingOf

/-- The bound prefixes tell which names there were: every prefix of one stands once, at the place
of its first binding, with the namespace of its last. -/
structure Tell (bound : List (String × String)) (names : List Name) : Prop where
  order : bound.map Prod.fst = Store.distinct ((history names).map Prod.fst)
  prefixes : ∀ p, p ∈ bound.map Prod.fst ↔
    p = entryPrefix ∨ ∃ n ∈ names, n.pre = some p ∧ p ≠ "" ∧ filled n.uri = true
  latest : ∀ p u, (p, u) ∈ bound ↔
    ∃ earlier later, history names = earlier ++ (p, u) :: later ∧ p ∉ later.map Prod.fst

lemma bindingOf_eq_some_iff {n : Name} {p u : String} :
    bindingOf n = some (p, u) ↔ n.pre = some p ∧ p ≠ "" ∧ n.uri = some u ∧ u ≠ "" := by
  unfold bindingOf
  rcases n.pre with _ | p' <;> rcases n.uri with _ | u' <;> simp
  -- both sides ask for a prefix and a namespace that are there and not empty
  grind

lemma mem_history_prefixes {names : List Name} {p : String} :
    p ∈ (history names).map Prod.fst ↔
      p = entryPrefix ∨ ∃ n ∈ names, n.pre = some p ∧ p ≠ "" ∧ filled n.uri = true := by
  have hfilled : ∀ uri, filled uri = true ↔ ∃ u, uri = some u ∧ u ≠ "" := by
    rintro (_ | u) <;> simp [filled]
  simp only [history, List.map_cons, List.mem_cons, List.mem_map, List.mem_filterMap, Prod.exists,
    bindingOf_eq_some_iff, hfilled]
  grind

lemma bindings_recordAll (ns : Namespaces) (names : List Name) :
    (ns.recordAll names).bindings =
      (names.filterMap bindingOf).foldl (fun m e => m.insert e.1 e.2) ns.bindings := by
  induction names generalizing ns with
  | nil => rfl
  | cons n rest ih =>
    rw [recordAll_cons, ih, List.filterMap_cons, record]
    rcases bindingOf n <;> rfl

lemma bindings_recordAll_initial (names : List Name) :
    (initial.recordAll names).bindings = OrderedMap.ofList (history names) :=
  bindings_recordAll _ _

lemma tell_recordAll (names : List Name) : Tell (initial.recordAll names).toList names := by
  have hlist : (initial.recordAll names).toList = (OrderedMap.ofList (history names)).entries :=
    congrArg OrderedMap.entries (bindings_recordAll_initial names)
  rw [hlist]
  exact ⟨OrderedMap.keys_foldl_insert _ _,
    fun _ => OrderedMap.mem_keys_ofList.trans mem_history_prefixes,
    fun _ _ => OrderedMap.mem_entries_ofList⟩

/-- Later names leave every prefix where it is. -/
lemma keys_prefix_recordAll (ns : Namespaces) (names : List Name) :
    ns.bindings.keys <+: (ns.recordAll names).bindings.keys := by
  induction names generalizing ns with
  | nil => exact List.prefix_rfl
  | cons n rest ih =>
    refine List.IsPrefix.trans ?_ (ih (ns.record n))
    unfold record
    rcases bindingOf n with _ | ⟨p, u⟩
    · exact List.prefix_rfl
    · simp only [register, OrderedMap.keys_insert]
      split
      · exact List.prefix_rfl
      · exact List.prefix_append _ _

end Namespaces

namespace Bag

/-- **The bound prefixes are the history of what was stored.** After any run on an empty bag they
are the entry prefix and then the prefixes of the names under which the run has stored values, in
the order of their first binding and each with the namespace of its last. Whatever the bag, a
write of one key that goes through and has a value leaves values under each of the names it counts
for; a write without a value and a refused write of one key leave the bound prefixes as they are,
and a refused write of many pairs leaves them as the pairs before the refused one do. No prefix is
ever lost. -/
theorem namespaces_tell_what_was_stored (calls : List Registry.Call) (codec : Codec)
    (zone : LocalZone) (ws : List Write) :
    let r := Registry.after calls
    Namespaces.Tell ((empty codec zone).run r ws).namespaces
        (storedNames r (empty codec zone) ws) ∧
      (∀ ws', ((empty codec zone).run r ws).namespaces.map Prod.fst <+:
        ((empty codec zone).run r (ws ++ ws')).namespaces.map Prod.fst) ∧
      ∀ (b : Bag) (w : Write),
        (w.isBulk = false → b.Gained (storedBy r b w) (b.write r w).bag) ∧
        (w.isVoid = true → (b.write r w).bag.namespaces = b.namespaces) ∧
        ∀ e, (b.write r w).failure = some e →
          (w.isBulk = false → (b.write r w).bag.namespaces = b.namespaces) ∧
          ∀ values, w = .setAll values →
            ∃ before p after, values.entries = before ++ p :: after ∧
              b.Accepts r (before.map .ofPair) ∧
              ((b.run r (before.map .ofPair)).write r (.ofPair p)).failure = some e ∧
              (b.write r w).bag.namespaces = (b.run r (before.map .ofPair)).namespaces := by
  intro r
  refine ⟨?_, fun ws' => ?_, fun b w =>
    ⟨write_gained, fun hw => ?_, fun e he => ⟨fun hw => ?_, ?_⟩⟩⟩
  · have hrun := namespaces_run (r := r) (b := empty codec zone) ws
    rw [namespaces, hrun]
    exact Namespaces.tell_recordAll _
  · rw [run_append]
    simp only [namespaces, namespaces_run ws']
    exact Namespaces.keys_prefix_recordAll _ _
  · simp only [namespaces, namespaces_write_stored, stored_of_isVoid hw,
      Namespaces.recordAll_nil]
  · rw [write_refused hw (by simp [he])]
  · rintro values rfl
    obtain ⟨before, p, after, hvalues, hacc, hp, hbag⟩ := setPairs_refused he
    exact ⟨before, p, after, hvalues, hacc, hp, congrArg namespaces hbag⟩

def titled : List Registry.Call :=
  [.define ⟨.text, false, false⟩ "dc:title" (some Catalog.dc)]

def flaggedPairs : OrderedMap String Value :=
  ⟨[("dc:title", .text "T"), ("flag", .bool true)], by decide⟩

def passingWrites : List Write :=
  [.set (some (.text "dc:title")) (.text "T"), .remove (some (.text "dc:title"))]

theorem namespaces_tell_what_was_stored_title :
    let b := empty .markup .universal
    ("dc", Catalog.dc) ∈ (b.run (.after titled) passingWrites).namespaces ∧
    (b.write (.after titled) (.set (some (.text "dc:title")) .null)).bag.namespaces =
      b.namespaces ∧
    (b.write (.after titled) (.set (some (.text "dc:title")) (.bool true))).bag.namespaces =
      b.namespaces ∧
    ∃ before p after, flaggedPairs.entries = before ++ p :: after ∧
      (b.write (.after titled) (.setAll flaggedPairs)).bag.namespaces =
        (b.run (.after titled) (before.map .ofPair)).namespaces := by
  intro b
  obtain ⟨⟨-, -, hlatest⟩, -, hstep⟩ :=
    namespaces_tell_what_was_stored titled .markup .universal passingWrites
  have hvoid := (hstep b (.set (some (.text "dc:title")) .null)).2.1 rfl
  have hflag := ((hstep b (.set (some (.text "dc:title")) (.bool true))).2.2
    .booleanValue rfl).1 rfl
  have hpairs : (b.write (.after titled) (.setAll flaggedPairs)).failure =
      some .booleanValue := by decide +kernel
  obtain ⟨before, p, after, hentries, -, -, hbound⟩ :=
    ((hstep b (.setAll flaggedPairs)).2.2 .booleanValue hpairs).2 flaggedPairs rfl
  have hhistory : Namespaces.history (storedNames (.after titled) b passingWrites) =
      [(entryPrefix, entryNamespace), ("dc", Catalog.dc)] := by decide +kernel
  exact ⟨(hlatest _ _).mpr ⟨[(entryPrefix, entryNamespace)], [], hhistory, by simp⟩, hvoid,
    hflag, before, p, after, hentries, hbound⟩

/-- A refused write of many pairs may bind prefixes: here that of the pair before the refused
one. -/
theorem refused_pairs_bind_prefixes :
    let b := empty .markup .universal
    (b.write (.after titled) (.setAll flaggedPairs)).failure = some .booleanValue ∧
    b.namespaces = [(entryPrefix, entryNamespace)] ∧
    (b.write (.after titled) (.setAll flaggedPairs)).bag.namespaces =
      [(entryPrefix, entryNamespace), ("dc", Catalog.dc)] := by
  decide +kernel

end Bag

end MetadataBag
