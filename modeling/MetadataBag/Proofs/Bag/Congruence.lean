import Mathlib.Tactic.Lemma
import MetadataBag.Proofs.Bag.Run
import MetadataBag.Proofs.Bag.SingleValue

/-!
What a write depends on. Of the slots that it may touch a write asks only whether they are filled,
and it adds and removes values there and nowhere else. So a relation of bags that has one answer
to that question, and that stays when both bags get or lose values there, stays under the write,
and both bags refuse it for the same reason or neither does.
-/

namespace MetadataBag

/-- Every slot that a write under a key can fill has a name with a property. -/
def Key.Fills (r : Registry) (P : Name → Prop) (k : Key) : Prop :=
  ∀ k', k.Names r k' → ∀ t ∈ k'.targets r, P (t.resolve r)

structure Write.Within (r : Registry) (P : Name → Prop) (w : Write) : Prop where
  fills : ∀ k ∈ w.keys, k.Fills r P
  removes : ∀ k, w = .remove (some k) → P (k.resolve r)

structure Outcome.Related (R : Bag → Bag → Prop) (o o' : Outcome) : Prop where
  failure : o.failure = o'.failure
  bag : R o.bag o'.bag

/-- A relation of bags that writes to the slots of some names cannot break: related bags share a
zone and fill the same of these slots, and stay related when in both a value is put into one of
them or all values are removed from it. -/
structure Bag.Congruence (P : Name → Prop) (R : Bag → Bag → Prop) : Prop where
  zone : ∀ {a b}, R a b → a.zone = b.zone
  filled : ∀ {a b n}, R a b → P n → (a.store.get? n).isSome = (b.store.get? n).isSome
  put : ∀ {a b n}, R a b → P n → ∀ value,
    R { a with store := a.store.put n value } { b with store := b.store.put n value }
  remove : ∀ {a b n}, R a b → P n →
    R { a with store := a.store.remove n } { b with store := b.store.remove n }

variable {P : Name → Prop} {r : Registry}

lemma Write.within_true (r : Registry) (w : Write) : w.Within r fun _ => True :=
  ⟨fun _ _ _ _ _ _ => trivial, fun _ _ => trivial⟩

namespace Key.Fills

variable {k : Key} {p m : Property}

lemma target (h : k.Fills r P) {t : Key} (ht : t ∈ k.targets r) : P (t.resolve r) :=
  h k (Or.inl rfl) t ht

lemma definition (h : k.Fills r P) (hp : k.definition? r = some p) :
    (Key.property p).Fills r P := by
  rintro k' (rfl | ⟨q, hq, rfl⟩)
  · exact h _ (Or.inr ⟨p, hp, rfl⟩)
  · cases hq
    exact h _ (Or.inr ⟨p, hp, rfl⟩)

lemma member (h : (Key.property p).Fills r P) (hm : m ∈ p.members) :
    P ((Key.property m).resolve r) := by
  refine h.target (t := .property m) ?_
  rw [Key.targets_property]
  exact List.mem_map_of_mem hm

end Key.Fills

/-- The key of one of many pairs is a key of the write of them all. -/
lemma Write.mem_keys_setAll {values : OrderedMap String Value} {e : String × Value}
    (he : e ∈ values.entries) {k : Key} (hk : k ∈ (Write.ofPair e).keys) :
    k ∈ (Write.setAll values).keys := by
  obtain rfl := List.mem_singleton.mp hk
  exact List.mem_map_of_mem (List.mem_map_of_mem he)

namespace Bag.Congruence

variable {R : Bag → Bag → Prop} {a b : Bag} {n : Name} {k : Key} {p : Property}
  {value : String} {values : List String}

lemma done (h : R a b) : (Bag.done a).Related R (Bag.done b) := ⟨rfl, h⟩

lemma refuse (h : R a b) (e : Error) : (a.refuse e).Related R (b.refuse e) := ⟨rfl, h⟩

/-! ### Slots -/

lemma set (hR : Congruence P R) (h : R a b) (hn : P n) (value : Option String) :
    R { a with store := a.store.set n value } { b with store := b.store.set n value } := by
  have hcleared := hR.remove h hn
  cases value with
  | none => exact hcleared
  | some value => exact hR.put hcleared hn value

lemma foldl_put (hR : Congruence P R) (h : R a b) (hn : P n) (values : List String) :
    R { a with store := values.foldl (fun s v => s.put n v) a.store }
      { b with store := values.foldl (fun s v => s.put n v) b.store } := by
  induction values generalizing a b with
  | nil => exact h
  | cons v rest ih => exact ih (hR.put h hn v)

lemma foldl_assign (hR : Congruence P R) (h : R a b) {targets : List Key}
    (ht : ∀ t ∈ targets, P (t.resolve r)) (values : List String) :
    R { a with store := targets.foldl (fun s t => s.assign (t.resolve r) values) a.store }
      { b with store := targets.foldl (fun s t => s.assign (t.resolve r) values) b.store } := by
  induction targets generalizing a b with
  | nil => exact h
  | cons t rest ih =>
    have htarget : P (t.resolve r) := ht t List.mem_cons_self
    have hassigned := hR.foldl_put (hR.remove h htarget) htarget values
    exact ih hassigned fun t' ht' => ht t' (List.mem_cons_of_mem t ht')

/-! ### Added values -/

lemma addMember (hR : Congruence P R) (h : R a b) (hp : P ((Key.property p).resolve r))
    (value : String) : (a.addMember r p value).Related R (b.addMember r p value) := by
  unfold Bag.addMember
  dsimp only
  rw [hR.filled h hp]
  split
  · exact refuse h _
  · exact done (hR.put h hp value)

lemma addSecondary (hR : Congruence P R) (h : R a b) (hp : P ((Key.property p).resolve r))
    (value : String) : R (addSecondary r value a p) (addSecondary r value b p) := by
  obtain ⟨hfailure, hbag⟩ := hR.addMember h hp value
  unfold Bag.addSecondary
  dsimp only
  rw [hfailure]
  split
  · exact hbag
  · exact hR.set h hp (some value)

lemma foldl_addSecondary (hR : Congruence P R) (h : R a b) {ps : List Property}
    (hps : ∀ p ∈ ps, P ((Key.property p).resolve r)) (value : String) :
    R (ps.foldl (Bag.addSecondary r value) a) (ps.foldl (Bag.addSecondary r value) b) := by
  induction ps generalizing a b with
  | nil => exact h
  | cons p rest ih =>
    have hp := hR.addSecondary h (hps p List.mem_cons_self) value
    exact ih hp fun q hq => hps q (List.mem_cons_of_mem p hq)

lemma addTo (hR : Congruence P R) (h : R a b) (hp : (Key.property p).Fills r P)
    (value : String) : (a.addTo r p value).Related R (b.addTo r p value) := by
  have hmember : ∀ m ∈ p.members, P ((Key.property m).resolve r) := fun m hm => hp.member hm
  unfold Property.members at hmember
  unfold Bag.addTo
  split
  · rename_i hcomp
    rw [if_pos hcomp] at hmember
    have ho := hR.addMember h (hmember _ List.mem_cons_self) value
    dsimp only
    -- the primary answers alike in both bags, so both go on to the secondaries or neither
    rw [ho.failure]
    split
    · exact done (hR.foldl_addSecondary ho.bag
        (fun m hm => hmember m (List.mem_cons_of_mem _ hm)) value)
    · exact ho
  · rename_i hcomp
    rw [if_neg hcomp] at hmember
    exact hR.addMember h (hmember p List.mem_cons_self) value

lemma add (hR : Congruence P R) (h : R a b) (hk : k.Fills r P) (value : String) :
    (a.add r (some k) (some value)).Related R (b.add r (some k) (some value)) := by
  unfold Bag.add
  dsimp only
  split
  · rename_i hnone
    -- a key without a definition is its own only target
    have hself : k ∈ k.targets r := by simp [Key.targets, hnone]
    exact done (hR.put h (hk.target hself) value)
  · rename_i p hp
    exact hR.addTo h (hk.definition hp) value

/-! ### Assigned values -/

lemma assign (hR : Congruence P R) (h : R a b) (hk : k.Fills r P) (values : List String) :
    (a.assign r k values).Related R (b.assign r k values) := by
  unfold Bag.assign
  dsimp only
  -- the refusal looks at the definitions of the targets and not at the bag
  split
  · exact refuse h _
  · exact done (hR.foldl_assign h (fun t ht => hk.target ht) values)

lemma assignTyped (hR : Congruence P R) (h : R a b) (hp : (Key.property p).Fills r P)
    (first : ValueType) (others : List ValueType) (text : Option (Except Error String)) :
    (a.assignTyped r p first others text).Related R (b.assignTyped r p first others text) := by
  unfold Bag.assignTyped
  split
  · exact refuse h _
  · rcases text with _ | (e | s)
    · exact hR.assign h hp []
    · exact refuse h e
    · exact hR.assign h hp [s]

/-- The definition of an unregistered text leads elsewhere than the text, but takes neither
numbers nor dates. -/
lemma assignTyped_definition (hR : Congruence P R) (h : R a b) (hk : k.Fills r P)
    {first : ValueType} {others : List ValueType} (htext : ValueType.text ∉ first :: others)
    (text : Option (Except Error String)) :
    (a.assignTyped r (k.definition r) first others text).Related R
      (b.assignTyped r (k.definition r) first others text) := by
  rcases k with s | p
  · rcases hs : r.get? s with _ | p
    · obtain ⟨e, he⟩ := checkType_unregistered String s htext
      simp only [Key.definition, hs, Option.getD_none, Bag.assignTyped, he]
      exact refuse h e
    · simp only [Key.definition, hs, Option.getD_some]
      exact hR.assignTyped h (hk.definition hs) first others text
  · exact hR.assignTyped h hk first others text

lemma setDate (hR : Congruence P R) (h : R a b) (hp : (Key.property p).Fills r P)
    (value : Option When) : (a.setDate r p value).Related R (b.setDate r p value) := by
  unfold Bag.setDate
  rw [hR.zone h]
  exact hR.assignTyped h hp ..

lemma setDate_definition (hR : Congruence P R) (h : R a b) (hk : k.Fills r P)
    (value : Option When) :
    (a.setDate r (k.definition r) value).Related R (b.setDate r (k.definition r) value) := by
  unfold Bag.setDate
  rw [hR.zone h]
  exact hR.assignTyped_definition h hk (by decide) _

lemma assignMembers (hR : Congruence P R) (h : R a b) (hk : k.Fills r P) (members : List Value) :
    (a.assignMembers r k members).Related R (b.assignMembers r k members) := by
  unfold Bag.assignMembers
  split
  · exact hR.assign h hk _
  · exact refuse h _

lemma setValue (hR : Congruence P R) (h : R a b) (hk : k.Fills r P) (value : Value) :
    (a.set r (some k) value).Related R (b.set r (some k) value) := by
  unfold Bag.set
  cases value with
  | null => exact hR.assign h hk []
  | text s => exact hR.assign h hk [s]
  | integer n => exact hR.assignTyped_definition h hk (by decide) _
  | real x => exact hR.assignTyped_definition h hk (by decide) _
  | date d => exact hR.setDate_definition h hk _
  | timestamp t => exact hR.setDate_definition h hk _
  | list members => exact hR.assignMembers h hk members
  | tuple members => exact hR.assignMembers h hk members
  | bytes bs => exact hR.assignMembers h hk _
  | bool | time | set | map | loop => exact refuse h _

lemma setPairs (hR : Congruence P R) (h : R a b) {l : List (String × Value)}
    (hl : ∀ e ∈ l, (Key.text e.1).Fills r P) :
    (setPairs r a l).Related R (setPairs r b l) := by
  induction l generalizing a b with
  | nil => exact done h
  | cons e rest ih =>
    have ho := hR.setValue h (hl e List.mem_cons_self) e.2
    unfold Bag.setPairs
    dsimp only
    -- both bags stop at the same pair
    rw [ho.failure]
    split
    · exact ih ho.bag fun e' he' => hl e' (List.mem_cons_of_mem e he')
    · exact ho

/-! ### Writes -/

/-- **One write** within the names of a congruence keeps it, and is refused by both bags for the
same reason or by none. -/
lemma write (hR : Congruence P R) (h : R a b) {w : Write} (hw : w.Within r P) :
    (a.write r w).Related R (b.write r w) := by
  cases w with
  | add k value =>
    rcases k with _ | k
    · exact done h
    rcases value with _ | value
    · exact done h
    exact hR.add h (hw.fills k List.mem_cons_self) value
  | set k value =>
    rcases k with _ | k
    · exact refuse h _
    · exact hR.setValue h (hw.fills k List.mem_cons_self) value
  | setInt p value => exact hR.assignTyped h (hw.fills _ List.mem_cons_self) ..
  | setReal p value => exact hR.assignTyped h (hw.fills _ List.mem_cons_self) ..
  | setDate p value => exact hR.setDate h (hw.fills _ List.mem_cons_self) value
  | setAll values =>
    refine hR.setPairs h fun e he => hw.fills _ ?_
    exact Write.mem_keys_setAll he List.mem_cons_self
  | remove k =>
    rcases k with _ | k
    · exact done h
    · exact done (hR.remove h (hw.removes k rfl))

end Bag.Congruence

end MetadataBag
