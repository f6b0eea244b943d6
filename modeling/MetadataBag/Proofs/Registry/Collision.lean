import MetadataBag.Proofs.Registry.Resolution

/-!
When two texts are one key. A text leads to the definition that it names, if that has a namespace,
and else to the entry that it spells; so two texts meet where their definitions have one name, or
where one of them names a definition that stands in the place of the other one's entry.
-/

namespace MetadataBag

namespace Registry

variable {r : Registry} {s t : String} {p : Property}

def Names (r : Registry) (s : String) (p : Property) : Prop :=
  r.get? s = some p ∧ p.name.isNamespaced = true

/-- The first text names a definition in the namespace of entries whose local part is the second
one, and that names no definition with a namespace. -/
def TakesPlace (r : Registry) (s t : String) : Prop :=
  (∃ p, r.get? s = some p ∧ p.name.isEntry = true ∧ p.name.localName = t) ∧ ∀ q, ¬ r.Names t q

lemma names_of_isEntry (h : r.get? s = some p) (hentry : p.name.isEntry = true) : r.Names s p := by
  have huri : p.name.uri = some entryNamespace := of_decide_eq_true hentry
  refine ⟨h, ?_⟩
  rw [Name.isNamespaced, huri]
  rfl

lemma Names.eq {q : Property} (hp : r.Names s p) (hq : r.Names s q) : p = q :=
  Option.some.inj (hp.1.symm.trans hq.1)

/-- A text that names a definition with a namespace does not stand for an entry. -/
lemma Names.not_takesPlace (ht : r.Names t p) (s : String) : ¬ r.TakesPlace s t :=
  fun h => h.2 p ht

lemma not_takesPlace_of_no_names (hs : ∀ p, ¬ r.Names s p) (t : String) : ¬ r.TakesPlace s t := by
  rintro ⟨⟨p, hp, hentry, -⟩, -⟩
  exact hs p (names_of_isEntry hp hentry)

end Registry

namespace Key

variable {r : Registry} {s t : String} {p : Property}

lemma resolveText_of_names (h : r.Names s p) : resolveText r s = p.name := by
  simp only [resolveText, h.1, if_pos h.2]

lemma resolveText_of_no_names (h : ∀ p, ¬ r.Names s p) : resolveText r s = .entry s := by
  rcases resolveText_cases r s with hs | ⟨p, hp, hnamespaced, -⟩
  · exact hs
  · exact absurd ⟨hp, hnamespaced⟩ (h p)

lemma toExpandedName_eq_entry_iff {n : Name} (t : String) :
    n.toExpandedName = (Name.entry t).toExpandedName ↔ n.isEntry = true ∧ n.localName = t := by
  obtain ⟨⟨l, uri⟩, pre⟩ := n
  simp [Name.entry, Name.isEntry, and_comm]

/-- A definition and an entry meet exactly if the definition takes the entry's place. -/
lemma resolveText_eq_iff_takesPlace (hs : r.Names s p) (ht : ∀ q, ¬ r.Names t q) :
    (resolveText r s).toExpandedName = (resolveText r t).toExpandedName ↔ r.TakesPlace s t := by
  rw [resolveText_of_names hs, resolveText_of_no_names ht, toExpandedName_eq_entry_iff]
  constructor
  · exact fun h => ⟨⟨p, hs.1, h⟩, ht⟩
  · rintro ⟨⟨q, hq, hentry, hlocal⟩, -⟩
    obtain rfl := hs.eq (Registry.names_of_isEntry hq hentry)
    exact ⟨hentry, hlocal⟩

/-- **When two texts meet.** -/
lemma resolveText_eq_iff (r : Registry) (s t : String) :
    (resolveText r s).toExpandedName = (resolveText r t).toExpandedName ↔
      s = t ∨
      (∃ p q, r.Names s p ∧ r.Names t q ∧ p.name.toExpandedName = q.name.toExpandedName) ∨
      r.TakesPlace s t ∨ r.TakesPlace t s := by
  by_cases hs : ∃ p, r.Names s p <;> by_cases ht : ∃ q, r.Names t q
  · -- two definitions
    obtain ⟨p, hp⟩ := hs
    obtain ⟨q, hq⟩ := ht
    rw [resolveText_of_names hp, resolveText_of_names hq]
    constructor
    · exact fun h => Or.inr (Or.inl ⟨p, q, hp, hq, h⟩)
    · rintro (rfl | ⟨p', q', hp', hq', h⟩ | h | h)
      · rw [hp.eq hq]
      · rwa [hp.eq hp', hq.eq hq']
      · exact absurd h (hq.not_takesPlace s)
      · exact absurd h (hp.not_takesPlace t)
  · -- a definition and an entry
    obtain ⟨p, hp⟩ := hs
    push Not at ht
    have hne : s ≠ t := fun h => ht p (h ▸ hp)
    have hstays := Registry.not_takesPlace_of_no_names ht s
    rw [resolveText_eq_iff_takesPlace hp ht]
    simp [hne, ht, hstays]
  · -- an entry and a definition
    obtain ⟨q, hq⟩ := ht
    push Not at hs
    have hne : s ≠ t := fun h => hs q (h ▸ hq)
    have hstays := Registry.not_takesPlace_of_no_names hs t
    rw [eq_comm, resolveText_eq_iff_takesPlace hq hs]
    simp [hne, hs, hstays]
  · -- two entries
    push Not at hs ht
    have hfirst := Registry.not_takesPlace_of_no_names hs t
    have hsecond := Registry.not_takesPlace_of_no_names ht s
    rw [resolveText_of_no_names hs, resolveText_of_no_names ht]
    simp [Name.entry, hs, hfirst, hsecond]

/-- **Texts lead to slots without crosstalk.** At any moment of a registry's history two texts
share a slot exactly if they are the same, or name namespaced definitions of one name, or one names
a definition in the place of the other one's entry. A slot is displayed as the text that leads to
it, unless that names a definition in the namespace of entries; and a property without a namespace
leads to where its name leads. -/
theorem texts_share_slot_iff (calls : List Registry.Call) (s t : String) :
    let r := Registry.after calls
    (((Key.text s).resolve r).same ((Key.text t).resolve r) = true ↔
      s = t ∨
      (∃ p q, r.Names s p ∧ r.Names t q ∧ p.name.toExpandedName = q.name.toExpandedName) ∨
      r.TakesPlace s t ∨ r.TakesPlace t s) ∧
    ((∀ p, r.get? s = some p → p.name.isEntry = false) →
      ((Key.text s).resolve r).display = s) ∧
    ∀ p : Property, p.name.isNamespaced = false →
      (Key.property p).resolve r = (Key.text p.displayName).resolve r := by
  intro r
  refine ⟨?_, display_resolveText_of, fun p hp => ?_⟩
  · rw [Name.same, decide_eq_true_eq]
    exact resolveText_eq_iff r s t
  · rw [resolve_property, if_neg (by simp [hp])]
    rfl

def lookalikeCalls : List Registry.Call :=
  [ .define ⟨.text, false, true⟩ "a:subject" (some "urn:subject"),
    .define ⟨.text, false, true⟩ "b:subject" (some "urn:subject"),
    .define ⟨.text, false, false⟩ "z:remark" (some entryNamespace) ]

theorem texts_share_slot_iff_lookalikes :
    let r := Registry.after lookalikeCalls
    ((Key.text "z:remark").resolve r).same ((Key.text "remark").resolve r) = true ∧
    ((Key.text "a:subject").resolve r).same ((Key.text "b:subject").resolve r) = true ∧
    ((Key.text "a:subject").resolve r).display = "a:subject" := by
  intro r
  have hremark : r.TakesPlace "z:remark" "remark" :=
    ⟨⟨.ofKey "z:remark" (some entryNamespace) .text false false, rfl, by decide, by decide⟩,
      fun q hq => nomatch hq.1⟩
  obtain ⟨hshared, -, -⟩ := texts_share_slot_iff lookalikeCalls "z:remark" "remark"
  obtain ⟨hone, hshown, -⟩ := texts_share_slot_iff lookalikeCalls "a:subject" "b:subject"
  refine ⟨hshared.mpr (Or.inr (Or.inr (Or.inl hremark))), hone.mpr (Or.inr (Or.inl ?_)),
    hshown fun p hp => ?_⟩
  · exact ⟨.ofKey "a:subject" (some "urn:subject") .text false true,
      .ofKey "b:subject" (some "urn:subject") .text false true, ⟨rfl, by decide⟩,
      ⟨rfl, by decide⟩, by decide⟩
  · obtain rfl : p = .ofKey "a:subject" (some "urn:subject") .text false true :=
      (Option.some.inj hp).symm
    decide

end Key

end MetadataBag
