import Mathlib.Tactic.Lemma
import MetadataBag.Proofs.Registry.History

/-!
What registrations make of a registry. Each keeps every definition up to equality and adds at most
its own name; to register again what stands there already changes nothing.
-/

namespace MetadataBag

variable {ν : Type}

/-! ### Equal definitions -/

namespace Property

section

variable [Space ν]

mutual

theorem same_refl : ∀ p : Property ν, p.same p = true
  | ⟨n, s, t, m, i, p, ps⟩ => by
    simp [same, Name.same, sameOptional_refl p, sameAll_refl ps]

theorem sameOptional_refl : ∀ p : Option (Property ν), sameOptional p p = true
  | none => rfl
  | some p => same_refl p

theorem sameAll_refl : ∀ ps : List (Property ν), sameAll ps ps = true
  | [] => rfl
  | p :: ps => by simp [sameAll, same_refl p, sameAll_refl ps]

end

mutual

theorem same_trans :
    ∀ {p q q' : Property ν}, p.same q = true → q.same q' = true → p.same q' = true
  | ⟨n, s, t, m, i, p, ps⟩, ⟨n', s', t', m', i', p', ps'⟩,
      ⟨n'', s'', t'', m'', i'', p'', ps''⟩ => by
    simp only [same, Name.same, Bool.and_eq_true, decide_eq_true_eq, beq_iff_eq]
    rintro ⟨⟨⟨⟨⟨⟨hn, rfl⟩, rfl⟩, rfl⟩, rfl⟩, h⟩, hs⟩ ⟨⟨⟨⟨⟨⟨hn', rfl⟩, rfl⟩, rfl⟩, rfl⟩, h'⟩, hs'⟩
    exact ⟨⟨⟨⟨⟨⟨hn.trans hn', rfl⟩, rfl⟩, rfl⟩, rfl⟩, sameOptional_trans h h'⟩,
      sameAll_trans hs hs'⟩

theorem sameOptional_trans : ∀ {p q q' : Option (Property ν)},
    sameOptional p q = true → sameOptional q q' = true → sameOptional p q' = true
  | none, none, none, _, _ => rfl
  | some _, some _, some _, h, h' => same_trans h h'

theorem sameAll_trans : ∀ {ps qs qs' : List (Property ν)},
    sameAll ps qs = true → sameAll qs qs' = true → sameAll ps qs' = true
  | [], [], [], _, _ => rfl
  | p :: ps, q :: qs, q' :: qs', h, h' => by
    rw [sameAll, Bool.and_eq_true] at h h' ⊢
    exact ⟨same_trans h.1 h'.1, sameAll_trans h.2 h'.2⟩

end

end

def Keyed (p : Property ν) : Prop :=
  ∃ key uri valueType internal multi, p = .ofKey key uri valueType internal multi

lemma Keyed.isComposite {p : Property ν} (h : p.Keyed) : p.isComposite = false := by
  obtain ⟨key, uri, valueType, internal, multi, rfl⟩ := h
  rfl

end Property

/-- A prefix that is read is not empty. -/
lemma Name.pre_parse_ne_empty (key : String) (uri : Option ν) :
    (Name.parse key uri).pre ≠ some "" := by
  unfold Name.parse
  split
  · rename_i p l _
    by_cases hp : p = []
    · simp [hp]
    · simp only [if_neg hp, ne_eq, Option.some.injEq]
      intro h
      exact hp (by simpa using congrArg String.toList h)
  · simp

lemma Name.append_colon_ne (p l : String) : p ++ ":" ++ l ≠ l := by
  intro h
  have hlength := congrArg String.length h
  simp at hlength

variable [Space ν]

namespace Registry

variable {r r' r'' : Registry ν} {p : Property ν}

/-- What is registered under a name goes on to be equal to what was. -/
def Keeps (r r' : Registry ν) : Prop :=
  ∀ name p, r.get? name = some p → ∃ q, r'.get? name = some q ∧ p.same q = true

lemma Keeps.refl (r : Registry ν) : r.Keeps r := fun _ p hp => ⟨p, hp, Property.same_refl p⟩

lemma Keeps.trans (h : r.Keeps r') (h' : r'.Keeps r'') : r.Keeps r'' := by
  intro name p hp
  obtain ⟨q, hq, hsame⟩ := h name p hp
  obtain ⟨q', hq', hsame'⟩ := h' name q hq
  exact ⟨q', hq', Property.same_trans hsame hsame'⟩

lemma keeps_of_register (h : r.register p = .ok r') : r.Keeps r' := by
  intro name q hq
  rw [get?_of_register h]
  by_cases hname : p.displayName = name
  · subst hname
    refine ⟨p, if_pos rfl, ?_⟩
    -- an old definition of that name was equal, or there would have been a conflict
    unfold register at h
    split at h
    · cases h
    · split at h
      · cases h
      · rename_i hold
        simpa [contains_eq_isSome, isNew, hq] using hold
  · exact ⟨q, by rw [if_neg hname, hq], Property.same_refl q⟩

variable {ps : List (Property ν)}

end Registry

end MetadataBag
