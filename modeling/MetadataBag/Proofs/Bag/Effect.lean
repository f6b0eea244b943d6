import Mathlib.Data.List.Basic
import Mathlib.Tactic.Lemma
import MetadataBag.Bag

/-!
What one write comes to. Whatever its kind, a write of one key is ignored, refused, one added
value, one assignment to the targets of its key, or the removal of one slot; a refused one leaves
the bag as it was.
-/

namespace MetadataBag

variable {ν : Type}

/-- The keys under which a write may store values. -/
def Write.keys : Write ν → List (Key ν)
  | .add (some k) (some _) => [k]
  | .set (some k) _ => [k]
  | .setInt p _ | .setReal p _ | .setDate p _ => [.property p]
  | .setAll values => values.keys.map .text
  | _ => []

def Write.isBulk : Write ν → Bool
  | .setAll _ => true
  | _ => false

/-- A key, or the definition that it names. -/
def Key.Names (r : Registry ν) (k k' : Key ν) : Prop :=
  k' = k ∨ ∃ p, k.definition? r = some p ∧ k' = .property p

lemma Key.eq_of_names_property {r : Registry ν} {p : Property ν} {k' : Key ν}
    (h : (Key.property p).Names r k') : k' = .property p := by
  rcases h with rfl | ⟨q, hq, rfl⟩
  · rfl
  · cases hq
    rfl

namespace Bag

variable (r : Registry ν) (b : Bag ν)

@[simp] lemma done_bag : (done b).bag = b := rfl
@[simp] lemma done_failure : (done b).failure = none := rfl
@[simp] lemma refuse_bag (e : Error) : (b.refuse e).bag = b := rfl
@[simp] lemma refuse_failure (e : Error) : (b.refuse e).failure = some e := rfl

/-- A text that is not registered takes no numbers and no dates. -/
lemma checkType_unregistered (ν : Type) (s : String) {first : ValueType} {others : List ValueType}
    (h : ValueType.text ∉ first :: others) :
    ∃ e, checkType (.unregistered s : Property ν) first others = some e := by
  simp [checkType, Property.unregistered, Property.ofKey, Property.target, h]

variable [Space ν]

inductive Effect : Write ν → Outcome ν → Prop where
  | ignored {w : Write ν} : Effect w (done b)
  | refused {w : Write ν} (e : Error) : Effect w (b.refuse e)
  | entered {k : Key ν} {value : String} (h : k.definition? r = none) :
      Effect (.add (some k) (some value))
        (done { b with store := b.store.put (k.resolve r) value })
  | added {k : Key ν} {p : Property ν} {value : String} (h : k.definition? r = some p) :
      Effect (.add (some k) (some value)) (b.addTo r p value)
  | assigned {w : Write ν} {k k' : Key ν} (hw : w.keys = [k]) (h : k.Names r k')
      (values : List String) : Effect w (b.assign r k' values)
  | removed (k : Key ν) :
      Effect (.remove (some k)) (done { b with store := b.store.remove (k.resolve r) })

variable {r b}

lemma assignTyped_effect {w : Write ν} {k : Key ν} {p : Property ν} (hw : w.keys = [k])
    (h : k.Names r (.property p)) (first : ValueType) (others : List ValueType)
    (text : Option (Except Error String)) :
    Effect r b w (b.assignTyped r p first others text) := by
  unfold assignTyped
  split
  · exact .refused _
  · rcases text with _ | (e | s)
    · exact .assigned hw h []
    · exact .refused e
    · exact .assigned hw h [s]

lemma assignTyped_definition_effect {w : Write ν} {k : Key ν} (hw : w.keys = [k])
    {first : ValueType} {others : List ValueType} (htext : ValueType.text ∉ first :: others)
    (text : Option (Except Error String)) :
    Effect r b w (b.assignTyped r (k.definition r) first others text) := by
  rcases k with s | p
  · rcases hs : r.get? s with _ | p
    · obtain ⟨e, he⟩ := checkType_unregistered ν s htext
      simp only [Key.definition, hs, Option.getD_none, assignTyped, he]
      exact .refused e
    · simp only [Key.definition, hs, Option.getD_some]
      exact assignTyped_effect hw (Or.inr ⟨p, hs, rfl⟩) first others text
  · exact assignTyped_effect hw (Or.inl rfl) first others text

lemma assignMembers_effect {w : Write ν} {k : Key ν} (hw : w.keys = [k]) (members : List Value) :
    Effect r b w (b.assignMembers r k members) := by
  unfold assignMembers
  split
  · exact .assigned hw (Or.inl rfl) _
  · exact .refused _

lemma set_effect (k : Key ν) (value : Value) :
    Effect r b (.set (some k) value) (b.set r (some k) value) := by
  have hkeys : (Write.set (some k) value).keys = [k] := rfl
  unfold set
  cases value with
  | null => exact .assigned hkeys (Or.inl rfl) []
  | text s => exact .assigned hkeys (Or.inl rfl) [s]
  | integer n => unfold setInt; exact assignTyped_definition_effect hkeys (by decide) _
  | real x => unfold setReal; exact assignTyped_definition_effect hkeys (by decide) _
  | date d => unfold setDate; exact assignTyped_definition_effect hkeys (by decide) _
  | timestamp t => unfold setDate; exact assignTyped_definition_effect hkeys (by decide) _
  | list members => exact assignMembers_effect hkeys members
  | tuple members => exact assignMembers_effect hkeys members
  | bytes bs => exact assignMembers_effect hkeys _
  | bool | time | set | map | loop => exact .refused _

/-- **What a write of one key comes to.** -/
lemma write_effect {w : Write ν} (hw : w.isBulk = false) : Effect r b w (b.write r w) := by
  cases w with
  | add k value =>
    rcases k with _ | k
    · exact .ignored
    rcases value with _ | value
    · exact .ignored
    rcases hk : k.definition? r with _ | p
    · simp only [write, add, hk]
      exact .entered hk
    · simp only [write, add, hk]
      exact .added hk
  | set k value =>
    rcases k with _ | k
    · exact .refused _
    · exact set_effect k value
  | setInt p value => unfold write setInt; exact assignTyped_effect rfl (Or.inl rfl) _ _ _
  | setReal p value => unfold write setReal; exact assignTyped_effect rfl (Or.inl rfl) _ _ _
  | setDate p value => unfold write setDate; exact assignTyped_effect rfl (Or.inl rfl) _ _ _
  | setAll values => cases hw
  | remove k =>
    rcases k with _ | k
    · exact .ignored
    · exact .removed k

/-! ### Refusal -/

lemma addMember_refused {p : Property ν} {value : String}
    (h : (b.addMember r p value).failure ≠ none) : (b.addMember r p value).bag = b := by
  unfold addMember at h ⊢
  dsimp only at h ⊢
  split
  · rfl
  · rename_i hroom
    rw [if_neg hroom] at h
    exact absurd rfl h

lemma addTo_refused {p : Property ν} {value : String} (h : (b.addTo r p value).failure ≠ none) :
    (b.addTo r p value).bag = b := by
  unfold addTo at h ⊢
  dsimp only at h ⊢
  by_cases hcomp : p.isComposite = true
  · -- only the primary can refuse; the secondaries come after it and never do
    rw [if_pos hcomp] at h ⊢
    rcases ho : (b.addMember r p.target value).failure with _ | e
    · simp [ho] at h
    · exact addMember_refused (by simp [ho])
  · rw [if_neg hcomp] at h ⊢
    exact addMember_refused h

lemma assign_refused {k : Key ν} {values : List String} (h : (b.assign r k values).failure ≠ none) :
    (b.assign r k values).bag = b := by
  unfold assign at h ⊢
  dsimp only at h ⊢
  -- the values are counted before any target is changed
  rcases hs : (if 1 < values.length then singleTarget r (k.targets r) else none) with _ | p
  · simp [hs] at h
  · rfl

lemma Effect.refused_bag {w : Write ν} {o : Outcome ν} (he : Effect r b w o)
    (h : o.failure ≠ none) : o.bag = b := by
  cases he with
  | ignored => rfl
  | refused e => rfl
  | entered hk => exact absurd rfl h
  | added hk => exact addTo_refused h
  | assigned hw hk values => exact assign_refused h
  | removed k => exact absurd rfl h

end Bag

end MetadataBag
