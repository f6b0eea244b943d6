import MetadataBag.Proofs.Registry.History

/-!
Where texts and filed properties lead. As long as no definition lies in the namespace of entries,
the slot of a text is displayed as that text, and a property that is filed under its name has the
slot of its name.
-/

namespace MetadataBag

namespace Registry

def NoEntries (r : Registry) : Prop := ∀ e ∈ r.definitions.entries, e.2.name.isEntry = false

def Unambiguous (r : Registry) : Prop :=
  ∀ e ∈ r.definitions.entries, ∀ e' ∈ r.definitions.entries, e.2.name.isNamespaced = true →
    e.2.name.toExpandedName = e'.2.name.toExpandedName → e.1 = e'.1

instance (r : Registry) : Decidable r.NoEntries :=
  inferInstanceAs (Decidable (∀ e ∈ r.definitions.entries, _))

instance (r : Registry) : Decidable r.Unambiguous :=
  inferInstanceAs (Decidable (∀ e ∈ r.definitions.entries, _))

variable {r : Registry}

lemma NoEntries.isEntry_eq (h : r.NoEntries) {name : String} {p : Property}
    (hp : r.get? name = some p) : p.name.isEntry = false :=
  h _ (OrderedMap.mem_entries_of_get? hp)

lemma Unambiguous.eq (h : r.Unambiguous) {s t : String} {p q : Property} (hp : r.get? s = some p)
    (hq : r.get? t = some q) (hnamespaced : p.name.isNamespaced = true)
    (hname : p.name.toExpandedName = q.name.toExpandedName) : s = t :=
  h _ (OrderedMap.mem_entries_of_get? hp) _ (OrderedMap.mem_entries_of_get? hq) hnamespaced hname

end Registry

namespace Property

/-- A property stands in a registry under its own name, up to equality of definitions. -/
def FiledIn (r : Registry) (p : Property) : Prop :=
  ∃ q ∈ r.get? p.displayName, q.same p = true

instance (r : Registry) (p : Property) : Decidable (p.FiledIn r) :=
  inferInstanceAs (Decidable (∃ q ∈ r.get? p.displayName, _))

lemma toExpandedName_eq_of_same {p q : Property} (h : q.same p = true) :
    q.name.toExpandedName = p.name.toExpandedName := by
  obtain ⟨⟩ := p
  obtain ⟨⟩ := q
  simp only [same, Bool.and_eq_true, Name.same, decide_eq_true_eq] at h
  exact h.1.1.1.1.1.1

lemma multi_eq_of_same {p q : Property} (h : q.same p = true) : q.multi = p.multi := by
  obtain ⟨⟩ := p
  obtain ⟨⟩ := q
  simp only [same, Bool.and_eq_true, beq_iff_eq] at h
  exact h.1.1.1.2

end Property

namespace Name

variable {m n : Name}

lemma isNamespaced_eq (h : m.toExpandedName = n.toExpandedName) :
    m.isNamespaced = n.isNamespaced := by
  rw [isNamespaced, isNamespaced, h]

lemma isEntry_eq (h : m.toExpandedName = n.toExpandedName) : m.isEntry = n.isEntry := by
  rw [isEntry, isEntry, h]

@[simp] lemma isNamespaced_entry (key : String) : (entry key : Name).isNamespaced = true := rfl

end Name

namespace Key

variable {r : Registry} {s t : String}

lemma resolve_property (r : Registry) (p : Property) : (Key.property p).resolve r =
    if p.name.isNamespaced = true then p.name else resolveText r p.displayName := rfl

lemma resolveText_cases (r : Registry) (s : String) :
    resolveText r s = .entry s ∨
      ∃ p, r.get? s = some p ∧ p.name.isNamespaced = true ∧ resolveText r s = p.name := by
  unfold resolveText
  split
  · exact Or.inl rfl
  · rename_i p hp
    split
    · rename_i hn
      exact Or.inr ⟨p, hp, hn, rfl⟩
    · exact Or.inl rfl

/-- What a key leads to always lies in a namespace. -/
lemma isNamespaced_resolve (r : Registry) (k : Key) : (k.resolve r).isNamespaced = true := by
  have htext : ∀ s, (resolveText r s).isNamespaced = true := by
    intro s
    rcases resolveText_cases r s with h | ⟨p, -, hn, h⟩
    · rw [h, Name.isNamespaced_entry]
    · rwa [h]
  rcases k with s | p
  · exact htext s
  · rw [resolve_property]
    split
    · assumption
    · exact htext _

/-- The slot of a text is displayed as the text, unless it names a definition among the entries. -/
lemma display_resolveText_of
    (hs : ∀ p, r.get? s = some p → p.name.isEntry = false) : (resolveText r s).display = s := by
  rcases resolveText_cases r s with h | ⟨p, hp, -, h⟩
  · rw [h, Name.display_entry]
  · rw [h, Name.display, hs p hp]
    exact Registry.displayName_of_get? hp

lemma display_resolveText (hentries : r.NoEntries) (s : String) :
    (resolveText r s).display = s :=
  display_resolveText_of fun _ hp => hentries.isEntry_eq hp

/-- A filed property has the slot that its name stands for as a text. -/
lemma resolve_of_filedIn {p : Property} (hp : p.FiledIn r) :
    ((Key.property p).resolve r).toExpandedName = (resolveText r p.displayName).toExpandedName := by
  obtain ⟨q, hq, hsame⟩ := hp
  have hname := Property.toExpandedName_eq_of_same hsame
  rw [resolve_property]
  split
  · rename_i hn
    rw [resolveText, hq]
    dsimp only
    rw [Name.isNamespaced_eq hname, if_pos hn, hname]
  · rfl

lemma display_resolve_of_filedIn (hentries : r.NoEntries) {p : Property}
    (hp : p.FiledIn r) : ((Key.property p).resolve r).display = p.displayName := by
  obtain ⟨q, hq, hsame⟩ := hp
  rw [resolve_property]
  split
  · have hentry : p.name.isEntry = false :=
      (Name.isEntry_eq (Property.toExpandedName_eq_of_same hsame)).symm.trans
        (hentries.isEntry_eq hq)
    rw [Name.display, hentry]
    rfl
  · exact display_resolveText hentries _

/-- Where no two definitions stand for one name, different texts have different slots. -/
lemma resolveText_injective (hentries : r.NoEntries) (hr : r.Unambiguous)
    (h : (resolveText r s).toExpandedName = (resolveText r t).toExpandedName) : s = t := by
  have hentry := Name.isEntry_eq h
  rcases resolveText_cases r s with hs | ⟨p, hp, hn, hs⟩ <;>
    rcases resolveText_cases r t with ht | ⟨q, hq, -, ht⟩ <;> rw [hs, ht] at h hentry
  · exact congrArg ExpandedName.localName h
  · rw [hentries.isEntry_eq hq] at hentry
    cases hentry
  · rw [hentries.isEntry_eq hp] at hentry
    cases hentry
  · exact hr.eq hp hq hn h

end Key

end MetadataBag
