import MetadataBag.Proofs.Date.Offset
import MetadataBag.Proofs.Date.Preference

/-!
The colon of an offset. Before a text is read, an offset `±hh:mm` at its end loses its colon. The
formats read the offset either way, and no other place of theirs can hold a sign and four digits
with a colon between, so the text is read as it would have been with the colon, or not at all.
-/

namespace MetadataBag

/-! ### Where formats read an offset -/

lemma IsOffsetChar.not_isSign {c : Char} (h : IsOffsetChar c) : ¬ IsSign c := by
  rintro (rfl | rfl) <;> exact absurd h (by simp [IsOffsetChar]; decide)

/-- What an offset reads at the end of a text is all from the last sign on. -/
lemma eq_of_offset_spells {w x y : List Char} {t : OffsetTail} {colon : Bool}
    (h : w ++ t.chars colon = x ++ y) (hy : Item.offset.Spells y) : w = x ∧ y = t.chars colon := by
  rcases hy with rfl | ⟨sign, z, rfl, hsign, hz⟩
  · have hlast := t.getLast?_chars w colon
    rw [h, List.getLast?_concat] at hlast
    exact absurd (Option.some.inj hlast).symm (ne_of_isDigit t.isDigit_last (by decide))
  · rcases List.append_eq_append_iff.mp h with ⟨u, rfl, hu⟩ | ⟨u, rfl, hu⟩
    · obtain _ | ⟨c, u⟩ := u
      · exact ⟨(List.append_nil w).symm, hu.symm⟩
      · -- the sign of `y` would stand among the digits
        have hdigits : t.digits colon = u ++ sign :: z := (List.cons.inj hu).2
        have hmem : sign ∈ t.digits colon := by
          rw [hdigits]
          exact List.mem_append_right u List.mem_cons_self
        exact absurd hsign (t.isOffsetChar_of_mem_digits hmem).not_isSign
    · obtain _ | ⟨c, u⟩ := u
      · exact ⟨List.append_nil x, hu⟩
      · -- the sign of the tail would stand behind the sign of `y`
        have hmem : t.sign ∈ z := by
          rw [(List.cons.inj hu).2]
          exact List.mem_append_right u List.mem_cons_self
        exact absurd t.isSign (hz t.sign hmem).not_isSign

/-- The offset at the end of a text may have its colon or not. -/
lemma readItems_offset_tail {base : List Item} (hbase : .offset ∉ base) {p q : Parts}
    {w : List Char} {t : OffsetTail} {colon : Bool} (colon' : Bool)
    (h : readItems (base ++ [.offset]) p (w ++ t.chars colon) = some (q, [])) :
    readItems (base ++ [.offset]) p (w ++ t.chars colon') = some (q, []) := by
  rw [readItems_append] at h ⊢
  obtain ⟨⟨p', y⟩, hread, hoffset⟩ := Option.bind_eq_some_iff.mp h
  obtain ⟨⟨q', rest⟩, hitem, hend⟩ := Option.bind_eq_some_iff.mp hoffset
  cases hend
  obtain ⟨x, hx, -⟩ := readItems_spelled hread
  obtain ⟨y', hy', hspells⟩ := Item.read_spells hitem
  rw [List.append_nil] at hy'
  subst hy'
  obtain ⟨rfl, rfl⟩ := eq_of_offset_spells hx hspells
  -- what stands before the offset is read up to the sign, whatever follows the sign
  have hread' : readItems base p (w ++ t.chars colon') = some (p', t.chars colon') :=
    readItems_lookahead hbase hread rfl
  rw [t.read_chars] at hitem
  rw [hread']
  simp only [Option.bind_some, readItems, t.read_chars, hitem]

/-! ### Where formats read no offset -/

/-- What two fields behind one separator each are spelled as. -/
lemma Spelled.fields {base : List Item} {a : Char} (ha : a = '-' ∨ a = ':') {f g : Field}
    (hf : f.width = 2) (hg : g.width = 2) {cs : List Char}
    (h : Spelled (base ++ [.literal a, .field f, .literal a, .field g]) cs) :
    ∃ w x y, cs = w ++ a :: (x ++ a :: y) ∧ (x.length = 1 ∨ x.length = 2) ∧
      (y.length = 1 ∨ y.length = 2) := by
  have hliteral : ∀ c : Char, c.toLower = a.toLower → c = a := by
    rcases ha with rfl | rfl <;> exact fun c hc => eq_of_toLower_eq (by decide) hc
  obtain ⟨w, v, rfl, -, hv⟩ := h.append_inv
  obtain ⟨-, -, rfl, ⟨c, rfl, hc⟩, x, -, rfl, hx, -, -, rfl, ⟨d, rfl, hd⟩, y, -, rfl, hy, rfl⟩ := hv
  obtain ⟨hx₁, hx₂, -⟩ := hx
  obtain ⟨hy₁, hy₂, -⟩ := hy
  rw [hliteral c hc, hliteral d hd]
  exact ⟨w, x, y, by simp, by omega, by omega⟩

/-! ### Formats -/

/-- How the items of an accepted format end. -/
inductive Ends : List Item → Prop where
  | letter (base : List Item) : Ends (base ++ [.literal 'Z'])
  | offset (base : List Item) (h : .offset ∉ base) : Ends (base ++ [.offset])
  | fields (base : List Item) {a : Char} (ha : a = '-' ∨ a = ':') {f g : Field}
      (hf : f.width = 2) (hg : g.width = 2) :
      Ends (base ++ [.literal a, .field f, .literal a, .field g])

lemma ends_of_mem_accepted {f : Format} (h : f ∈ Format.accepted) : Ends f.items := by
  have htime : ∀ i, i ≠ .offset → ∀ g ∈ Format.withTime i, Ends g.items := by
    intro i hi g hg
    simp only [Format.withTime, List.mem_cons, List.not_mem_nil, or_false] at hg
    rcases hg with rfl | rfl | rfl
    · exact .letter _
    · exact .offset _ (by simp [Format.date, Format.time, hi.symm])
    · exact .fields (Format.date '-' ++ [i, .field .hour]) (Or.inr rfl) rfl rfl
  rw [Format.accepted, List.mem_append, List.mem_append] at h
  rcases h with (h | h) | h
  · exact htime _ (by simp) f h
  · exact htime _ (by simp) f h
  · simp only [List.mem_cons, List.not_mem_nil, or_false] at h
    rcases h with rfl | rfl
    · exact .fields [.field .year] (Or.inl rfl) rfl rfl
    · exact .fields [.field .year] (Or.inr rfl) rfl rfl

namespace Ends

variable {is : List Item} {p q : Parts}

/-- Such a format reads no line break at the end. -/
lemma not_concat_break (h : Ends is) (w : List Char) :
    readItems is p (w ++ ['\n']) ≠ some (q, []) := by
  intro hread
  have hspelled := spelled_of_readItems hread
  -- no format ends with an item that takes a line break
  have hlast : ∃ base i, is = base ++ [i] ∧ ∀ x, i.Spells x → '\n' ∉ x := by
    cases h with
    | letter base =>
      refine ⟨base, _, rfl, ?_⟩
      rintro x ⟨c, rfl, hc⟩ hmem
      rw [← List.mem_singleton.mp hmem] at hc
      exact absurd hc (by decide)
    | offset base _ =>
      refine ⟨base, _, rfl, ?_⟩
      rintro x (rfl | ⟨sign, y, rfl, hsign, hy⟩) hmem
      · exact absurd hmem (by decide)
      · rcases List.mem_cons.mp hmem with rfl | hmem
        · exact absurd hsign (by simp [IsSign])
        · exact absurd (hy _ hmem) (by simp [IsOffsetChar]; decide)
    | @fields base a _ f g =>
      refine ⟨base ++ [.literal a, .field f, .literal a], .field g, by simp, ?_⟩
      rintro x ⟨-, -, hx⟩ hmem
      exact absurd (hx _ hmem) (by decide)
  obtain ⟨base, i, rfl, hi⟩ := hlast
  obtain ⟨v, x, hx, -, y, z, rfl, hy, rfl⟩ := hspelled.append_inv
  rw [List.append_nil] at hx
  have hbreak : (v ++ y).getLast? = some '\n' := by rw [← hx, List.getLast?_concat]
  rw [List.getLast?_append_of_ne_nil v hy.ne_nil] at hbreak
  exact hi y hy (List.mem_of_getLast? hbreak)

/-- Such a format reads an offset at the end with its colon or without it, or not at all. -/
lemma readItems_tail (h : Ends is) {w : List Char} {t : OffsetTail} {colon : Bool}
    (colon' : Bool) (hread : readItems is p (w ++ t.chars colon) = some (q, [])) :
    readItems is p (w ++ t.chars colon') = some (q, []) := by
  have hspelled := spelled_of_readItems hread
  cases h with
  | letter base =>
    obtain ⟨v, x, hx, -, y, z, rfl, ⟨c, rfl, hc⟩, rfl⟩ := hspelled.append_inv
    rw [List.append_nil] at hx
    have hlast := t.getLast?_chars w colon
    rw [hx, List.getLast?_concat] at hlast
    have hletter := isDigit_eq_false_of_letter (toNat_of_toLower_eq (by decide) hc)
    exact absurd (Option.some.inj hlast).symm (ne_of_isDigit t.isDigit_last hletter)
  | offset base hbase => exact readItems_offset_tail hbase colon' hread
  | fields base ha hf hg =>
    obtain ⟨v, x, y, heq, hx, hy⟩ := hspelled.fields ha hf hg
    exact absurd heq.symm (fields_ne_chars ha hx hy v w t colon)

end Ends

namespace Format

lemma read_congr {f : Format} {cs cs' : List Char}
    (h : ∀ q, readItems f.items {} cs = some (q, []) ↔ readItems f.items {} cs' = some (q, [])) :
    f.read cs = f.read cs' := by
  ext x
  rw [read_eq_some_iff, read_eq_some_iff]
  simp only [h]

/-- An accepted format reads the same with the colon of an offset and without it. -/
lemma read_normalizeOffset {f : Format} (h : f ∈ accepted) (cs : List Char) :
    f.read (normalizeOffset cs) = f.read cs := by
  have hends := ends_of_mem_accepted h
  rcases normalizeOffset_cases cs with hcs | ⟨w, t, tail, htail, hcs, hnormal⟩
  · rw [hcs]
  rw [hnormal, hcs]
  refine read_congr fun q => ?_
  rcases htail with rfl | rfl
  · rw [List.append_nil, List.append_nil]
    exact ⟨hends.readItems_tail true, hends.readItems_tail false⟩
  · exact iff_of_false (hends.not_concat_break _) (hends.not_concat_break _)

end Format

namespace Instant

lemma readBy_congr {formats : List Format} {cs cs' : List Char}
    (h : ∀ f ∈ formats, f.read cs = f.read cs') (zone : LocalZone) :
    readBy formats zone cs = readBy formats zone cs' := by
  have hfirst : formats.findSome? (placed? zone cs) = formats.findSome? (placed? zone cs') := by
    induction formats with
    | nil => rfl
    | cons f fs ih =>
      rw [List.findSome?_cons, List.findSome?_cons, placed?, placed?, h f List.mem_cons_self,
        ih fun g hg => h g (List.mem_cons_of_mem f hg)]
  rw [readBy_eq, readBy_eq, hfirst]

/-- **The pre-pass changes no result.** Every accepted format reads a text with the colon of its
offset as it reads the text without it, so reading without the pre-pass gives the same instant,
the same failure, or none; and the pre-pass has nothing more to do on its own result. -/
theorem prepass_changes_no_result (zone : LocalZone) (s : String) :
    (∀ f ∈ Format.accepted, f.read (normalizeOffset s.toList) = f.read s.toList) ∧
    parse zone s = readBy Format.accepted zone s.toList ∧
    normalizeOffset (normalizeOffset s.toList) = normalizeOffset s.toList := by
  have hread : ∀ f ∈ Format.accepted, f.read (normalizeOffset s.toList) = f.read s.toList :=
    fun f hf => Format.read_normalizeOffset hf s.toList
  exact ⟨hread, readBy_congr hread zone, normalizeOffset_normalizeOffset s.toList⟩

/-- A quarter of an hour before the clock of universal time. -/
theorem prepass_changes_no_result_quarter_hour :
    normalizeOffset "2024-2-29t23:59:59-00:15".toList = "2024-2-29t23:59:59-0015".toList ∧
    offsetFormat ∈ Format.accepted ∧
    offsetFormat.read "2024-2-29t23:59:59-00:15".toList = some (leapNight, some (-900000000)) ∧
    offsetFormat.read "2024-2-29t23:59:59-0015".toList = some (leapNight, some (-900000000)) ∧
    parse .universal "2024-2-29t23:59:59-00:15" =
      readBy Format.accepted .universal "2024-2-29t23:59:59-00:15".toList := by
  have hnormal : normalizeOffset "2024-2-29t23:59:59-00:15".toList =
      "2024-2-29t23:59:59-0015".toList := by
    decide +kernel
  have hmem : offsetFormat ∈ Format.accepted := by decide
  have hcolon : offsetFormat.read "2024-2-29t23:59:59-00:15".toList =
      some (leapNight, some (-900000000)) := by
    decide +kernel
  obtain ⟨hread, hparse, -⟩ := prepass_changes_no_result .universal "2024-2-29t23:59:59-00:15"
  have hplain := hread offsetFormat hmem
  rw [hnormal, hcolon] at hplain
  exact ⟨hnormal, hmem, hcolon, hplain, hparse⟩

end Instant

end MetadataBag
