import Mathlib.Data.List.ReduceOption
import MetadataBag.Proofs.Bag.Addition
import MetadataBag.Proofs.Bag.Bindings

/-!
Values set under a key, slot by slot. Several values are refused if a target of the key is for one
value only. Otherwise every target holds exactly the values, all other slots stay as they are, and
the targets with values stand at the end. What a target held before has no part in it, so to set
the same again changes nothing and an earlier setting leaves no trace in the slots.
-/

namespace MetadataBag

def Value.ofText? : Option String → Value
  | none => .null
  | some s => .text s

/-- What can be set under every key, with its texts: nothing, a text, or a sequence of texts with
gaps. -/
inductive Value.Tells : Value → List String → Prop where
  | nothing : Tells .null []
  | text (s : String) : Tells (.text s) [s]
  | list (l : List (Option String)) : Tells (.list (l.map ofText?)) l.reduceOption
  | tuple (l : List (Option String)) : Tells (.tuple (l.map ofText?)) l.reduceOption

/-- There are several values, and a target of the key has a definition that permits one only. -/
def Key.Exceeded (r : Registry) (k : Key) (values : List String) : Prop :=
  1 < values.length ∧ ∃ t ∈ k.targets r, ∃ p, t.definition? r = some p ∧ p.multi = false

variable {r : Registry}

lemma Name.mem_slots_of_mem_lasts {n : Name} {l : List Name} (h : n ∈ lasts l) :
    n.toExpandedName ∈ l.map toExpandedName := by
  induction l with
  | nil => cases h
  | cons m rest ih =>
    rw [List.map_cons]
    rw [lasts] at h
    split at h
    · exact List.mem_cons_of_mem _ (ih h)
    · rcases List.mem_cons.mp h with rfl | h
      · exact List.mem_cons_self
      · exact List.mem_cons_of_mem _ (ih h)

lemma Namespaces.recordAll_recordAll (ns : Namespaces) (names : List Name) :
    (ns.recordAll names).recordAll names = ns.recordAll names := by
  have hbindings : ((ns.recordAll names).recordAll names).bindings =
      (ns.recordAll names).bindings := by
    rw [bindings_recordAll, bindings_recordAll ns]
    exact OrderedMap.foldl_insert_again _ _
  exact congrArg Namespaces.mk hbindings

namespace Store

def assignAll (r : Registry) (values : List String) (s : Store) (ts : List Key) : Store :=
  ts.foldl (fun s t => s.assign (t.resolve r) values) s

variable {s : Store} {values values' : List String} {ts : List Key}

@[simp] lemma codec_assignAll : (s.assignAll r values ts).codec = s.codec := by
  unfold assignAll
  induction ts generalizing s with
  | nil => rfl
  | cons t rest ih => rw [List.foldl_cons, ih, codec_assign]

lemma kept_assignAll (k : ExpandedName) : (s.assignAll r values ts).kept k =
    if k ∈ ts.map (·.slot r) then values.map s.codec.escape else s.kept k :=
  Bag.kept_foldl_assign ts values s

lemma reading_assignAll (k : ExpandedName) : (s.assignAll r values ts).reading k =
    if k ∈ ts.map (·.slot r) then values else s.reading k := by
  rw [reading, kept_assignAll, codec_assignAll]
  split
  · simp [Function.comp_def]
  · rfl

lemma slotNames_assignAll_nil : (s.assignAll r [] ts).slotNames =
    s.slotNames.filter fun n => n.toExpandedName ∉ ts.map (·.slot r) := by
  unfold assignAll
  induction ts generalizing s with
  | nil => simp
  | cons t rest ih =>
    -- without values an assignment is a removal
    have hremove : s.assign (t.resolve r) [] = s.remove (t.resolve r) := rfl
    rw [List.foldl_cons, ih, hremove, slotNames_remove, List.filter_filter]
    refine List.filter_congr fun m _ => ?_
    rw [Bool.eq_iff_iff, Bool.and_eq_true, Bool.not_eq_true', decide_eq_true_eq,
      decide_eq_true_eq, decide_eq_false_iff_not, and_comm]
    simp

lemma slotNames_assignAll_toEnd (h : values ≠ []) : (s.assignAll r values ts).slotNames =
    (ts.map (·.resolve r)).foldl Name.toEnd s.slotNames := by
  unfold assignAll
  induction ts generalizing s with
  | nil => rfl
  | cons t rest ih =>
    rw [List.foldl_cons, ih, slotNames_assign_toEnd h, List.map_cons, List.foldl_cons]

/-- Targets leave their places, and those with values come last. -/
lemma slotNames_assignAll : (s.assignAll r values ts).slotNames =
    s.slotNames.filter (fun n => n.toExpandedName ∉ ts.map (·.slot r)) ++
      if values = [] then [] else Name.lasts (ts.map (·.resolve r)) := by
  by_cases h : values = []
  · subst h
    rw [slotNames_assignAll_nil, if_pos rfl, List.append_nil]
  · rw [if_neg h, slotNames_assignAll_toEnd h, Name.foldl_toEnd, Key.map_toExpandedName_resolve]

lemma namespaces_assignAll : (s.assignAll r values ts).namespaces =
    if values = [] then s.namespaces else s.namespaces.recordAll (ts.map (·.resolve r)) :=
  namespaces_foldl_assign ts values s

/-- **No trace**: what was assigned to the same keys before is gone. -/
lemma slots_assignAll_assignAll : ((s.assignAll r values' ts).assignAll r values ts).slots =
    (s.assignAll r values ts).slots := by
  refine slots_ext ?_ ?_
  · -- the names that came last the first time are all names of targets
    have hgone : (if values' = [] then [] else Name.lasts (ts.map (·.resolve r))).filter
        (fun n => n.toExpandedName ∉ ts.map (·.slot r)) = [] := by
      refine List.filter_eq_nil_iff.mpr fun n hn => ?_
      split at hn
      · cases hn
      · have hmem := Name.mem_slots_of_mem_lasts hn
        rw [Key.map_toExpandedName_resolve] at hmem
        simpa using hmem
    rw [slotNames_assignAll, slotNames_assignAll, slotNames_assignAll, List.filter_append, hgone,
      List.append_nil, List.filter_filter]
    simp only [Bool.and_self]
  · funext k
    rw [kept_assignAll, kept_assignAll, kept_assignAll, codec_assignAll]
    split <;> rfl

lemma assignAll_again : (s.assignAll r values ts).assignAll r values ts =
    s.assignAll r values ts := by
  have hslots : ((s.assignAll r values ts).assignAll r values ts).slots =
      (s.assignAll r values ts).slots := slots_assignAll_assignAll
  have hbound : ((s.assignAll r values ts).assignAll r values ts).namespaces =
      (s.assignAll r values ts).namespaces := by
    rw [namespaces_assignAll, namespaces_assignAll]
    split
    · rfl
    · exact Namespaces.recordAll_recordAll _ _
  have hcodec : ((s.assignAll r values ts).assignAll r values ts).codec =
      (s.assignAll r values ts).codec := codec_assignAll
  -- a store is its slots, its bindings and its codec
  generalize (s.assignAll r values ts).assignAll r values ts = t at hslots hbound hcodec
  cases t
  cases hslots
  cases hbound
  cases hcodec
  rfl

end Store

namespace Bag

variable {b : Bag} {k : Key} {v : Value} {values : List String}

lemma assign_of_fits (b : Bag) (h : ¬ k.Exceeded r values) : b.assign r k values =
    done { b with store := b.store.assignAll r values (k.targets r) } := by
  refine assign_of_multi b fun hlen t ht p hp => ?_
  by_contra hmulti
  exact h ⟨hlen, t, ht, p, hp, Bool.eq_false_iff.mpr hmulti⟩

lemma assign_of_exceeded (h : k.Exceeded r values) :
    ∃ t ∈ k.targets r, ∃ p, t.definition? r = some p ∧ p.multi = false ∧
      ∀ b : Bag, b.assign r k values = b.refuse p.overflow := by
  obtain ⟨hlen, t, ht, p, hp, hmulti⟩ := h
  rcases hs : singleTarget r (k.targets r) with _ | q
  · have hall := singleTarget_eq_none_iff.mp hs t ht p hp
    rw [hmulti] at hall
    cases hall
  · obtain ⟨t', ht', hq, hsingle⟩ := of_singleTarget_eq_some hs
    refine ⟨t', ht', q, hq, hsingle, fun b => ?_⟩
    simp only [assign, if_pos hlen, hs]

lemma memberTexts_map_ofText? (l : List (Option String)) :
    memberTexts (l.map .ofText?) = .ok l.reduceOption := by
  induction l with
  | nil => rfl
  | cons o rest ih =>
    rcases o with _ | s
    · rw [List.map_cons, List.reduceOption_cons_of_none, ← ih]
      rfl
    · rw [List.map_cons, List.reduceOption_cons_of_some, Value.ofText?, memberTexts_cons_text, ih]
      rfl

/-- What tells texts assigns them. -/
lemma set_of_tells (b : Bag) (k : Key) (hv : v.Tells values) :
    b.set r (some k) v = b.assign r k values := by
  cases hv with
  | nothing => rfl
  | text s => rfl
  | list l => simp only [set, assignMembers, memberTexts_map_ofText?]
  | tuple l => simp only [set, assignMembers, memberTexts_map_ofText?]

lemma set_of_fits (b : Bag) (hv : v.Tells values) (h : ¬ k.Exceeded r values) :
    b.set r (some k) v =
      done { b with store := b.store.assignAll r values (k.targets r) } := by
  rw [set_of_tells b k hv, assign_of_fits b h]

lemma set_of_exceeded (hv : v.Tells values) (h : k.Exceeded r values) :
    ∃ t ∈ k.targets r, ∃ p, t.definition? r = some p ∧ p.multi = false ∧
      ∀ b : Bag, b.set r (some k) v = b.refuse p.overflow := by
  obtain ⟨t, ht, p, hp, hmulti, hrefused⟩ := assign_of_exceeded h
  exact ⟨t, ht, p, hp, hmulti, fun b => by rw [set_of_tells b k hv, hrefused]⟩

lemma failure_set_iff (b : Bag) (hv : v.Tells values) :
    (b.set r (some k) v).failure ≠ none ↔ k.Exceeded r values := by
  by_cases h : k.Exceeded r values
  · obtain ⟨-, -, p, -, -, hrefused⟩ := set_of_exceeded hv h
    simp [hrefused, h]
  · simp [set_of_fits b hv h, h]

/-- Whether values can be set does not depend on what the bag holds. -/
lemma failure_set_eq (b b' : Bag) (hv : v.Tells values) :
    (b'.set r (some k) v).failure = (b.set r (some k) v).failure := by
  by_cases h : k.Exceeded r values
  · obtain ⟨-, -, p, -, -, hrefused⟩ := set_of_exceeded hv h
    rw [hrefused, hrefused, refuse_failure, refuse_failure]
  · rw [set_of_fits b' hv h, set_of_fits b hv h, done_failure, done_failure]

lemma set_again (b : Bag) {v' : Value} (hv : v.Tells values) (hv' : v'.Tells values) :
    (b.set r (some k) v).bag.set r (some k) v' = b.set r (some k) v := by
  have hsame : ∀ b : Bag, b.set r (some k) v' = b.set r (some k) v := fun b => by
    rw [set_of_tells b k hv, set_of_tells b k hv']
  rw [hsame]
  by_cases h : k.Exceeded r values
  · obtain ⟨-, -, p, -, -, hrefused⟩ := set_of_exceeded hv h
    rw [hrefused b, refuse_bag, hrefused b]
  · rw [set_of_fits b hv h, done_bag, set_of_fits _ hv h]
    dsimp only
    rw [Store.assignAll_again]

lemma slots_set_set (b : Bag) {v' : Value} {values' : List String} (hv : v.Tells values)
    (hv' : v'.Tells values') (h : ¬ k.Exceeded r values) :
    ((b.set r (some k) v').bag.set r (some k) v).bag.store.slots =
      (b.set r (some k) v).bag.store.slots := by
  by_cases h' : k.Exceeded r values'
  · -- a refused earlier write has left the bag as it was
    obtain ⟨-, -, p, -, -, hrefused⟩ := set_of_exceeded hv' h'
    rw [hrefused, refuse_bag]
  · rw [set_of_fits b hv' h', done_bag, set_of_fits _ hv h, set_of_fits b hv h, done_bag, done_bag]
    exact Store.slots_assignAll_assignAll

/-- **Values set under a key, slot by slot.** They are refused, and nothing changes, exactly if
there are several of them and a target of the key permits one only. Otherwise every target's slot
holds exactly the values, or is gone if there are none; all other slots hold what they held and
stand as they stood, and behind them the targets with values, where a slot that several targets
share stands at the place of the last. To set the same values again changes nothing, and what was
set under the key before leaves no trace in the slots. -/
theorem set_slot_by_slot (r : Registry) (b : Bag) (k : Key) {v : Value} {values : List String}
    (hv : v.Tells values) :
    let o := b.set r (some k) v
    (o.failure ≠ none ↔ k.Exceeded r values) ∧
    (∀ e, o.failure = some e → o.bag = b ∧
      ∃ t ∈ k.targets r, ∃ p, t.definition? r = some p ∧ p.multi = false ∧ e = p.overflow) ∧
    (o.failure = none →
      (∀ n, o.bag.store.reading n =
        if n ∈ (k.targets r).map (·.slot r) then values else b.store.reading n) ∧
      o.bag.store.slotNames =
        b.store.slotNames.filter (fun n => n.toExpandedName ∉ (k.targets r).map (·.slot r)) ++
          if values = [] then [] else Name.lasts ((k.targets r).map (·.resolve r))) ∧
    (∀ v' : Value, v'.Tells values → o.bag.set r (some k) v' = o) ∧
    ∀ (v' : Value) (values' : List String), v'.Tells values' →
      ((b.set r (some k) v').bag.set r (some k) v).failure = o.failure ∧
      (o.failure = none →
        ((b.set r (some k) v').bag.set r (some k) v).bag.store.slots = o.bag.store.slots) := by
  intro o
  -- whether the values fit is read off the outcome, since only an excess refuses them
  have hfits : o.failure = none → ¬ k.Exceeded r values := fun ho h =>
    (failure_set_iff b hv).mpr h ho
  refine ⟨failure_set_iff b hv, fun e he => ?_, fun ho => ?_, fun v' hv' => set_again b hv hv',
    fun v' values' hv' => ⟨failure_set_eq b _ hv, fun ho => slots_set_set b hv hv' (hfits ho)⟩⟩
  · have hexceeded : k.Exceeded r values :=
      (failure_set_iff b hv).mp (he ▸ Option.some_ne_none e)
    obtain ⟨t, ht, p, hp, hmulti, hrefused⟩ := set_of_exceeded hv hexceeded
    have ho : o = b.refuse p.overflow := hrefused b
    rw [ho, refuse_failure] at he
    cases he
    exact ⟨by rw [ho, refuse_bag], t, ht, p, hp, hmulti, rfl⟩
  · have hdone : o = done { b with store := b.store.assignAll r values (k.targets r) } :=
      set_of_fits b hv (hfits ho)
    rw [hdone, done_bag]
    exact ⟨Store.reading_assignAll, Store.slotNames_assignAll⟩

def twice : Key := .property (.composite original [copied, original])

def gapped : Value := .list [.text "1", .null, .text "2"]

/-- The shared slot stands where the last of its members puts it. -/
theorem set_slot_by_slot_twice :
    gapped.Tells ["1", "2"] ∧ (Value.text "0").Tells ["0"] ∧
    let o := halfCopied.set .empty (some twice) gapped
    o.failure = none ∧
      o.bag.store.slotNames.map Name.display = ["b", "x", "c", "a"] ∧
      o.bag.set .empty (some twice) gapped = o ∧
      ((halfCopied.set .empty (some twice) (.text "0")).bag.set .empty (some twice)
        gapped).bag.store.slots = o.bag.store.slots := by
  have hgapped : gapped.Tells ["1", "2"] := .list [some "1", none, some "2"]
  have hzero : (Value.text "0").Tells ["0"] := .text "0"
  have hdone : (halfCopied.set .empty (some twice) gapped).failure = none := by decide +kernel
  obtain ⟨-, -, hslots, hagain, hbefore⟩ := set_slot_by_slot .empty halfCopied twice hgapped
  refine ⟨hgapped, hzero, hdone, ?_, hagain gapped hgapped,
    (hbefore (.text "0") ["0"] hzero).2 hdone⟩
  rw [(hslots hdone).2]
  decide +kernel

end Bag

end MetadataBag
