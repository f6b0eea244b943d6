import MetadataBag.Proofs.Date.Canonical
import MetadataBag.Proofs.Date.Spelling

/-!
Offsets at the end of a text. The pre-pass takes the colon out of an offset `±hh:mm` that stands
there, perhaps before a line break, and leaves every other text as it is; the dates and times of
day that a text may end in are no such offsets. An offset of hours and minutes is read alike with
its colon and without it.
-/

namespace MetadataBag

lemma ne_of_isDigit {c d : Char} (hc : Text.isDigit c = true) (hd : Text.isDigit d = false) :
    c ≠ d := by
  rintro rfl
  rw [hc] at hd
  cases hd

/-- A sign and four digits, as they stand in an offset of hours and minutes. -/
structure OffsetTail where
  sign : Char
  hours : Char × Char
  minutes : Char × Char
  isSign : IsSign sign
  isDigit : ∀ c ∈ [hours.1, hours.2, minutes.1, minutes.2], Text.isDigit c = true

namespace OffsetTail

variable (t : OffsetTail)

def digits (colon : Bool) : List Char :=
  [t.hours.1, t.hours.2] ++ (if colon then [':'] else []) ++ [t.minutes.1, t.minutes.2]

def chars (colon : Bool) : List Char := t.sign :: t.digits colon

lemma isDigit_last : Text.isDigit t.minutes.2 = true := t.isDigit _ (by simp)

lemma isOffsetChar_of_mem_digits {colon : Bool} {c : Char} (h : c ∈ t.digits colon) :
    IsOffsetChar c := by
  by_cases hc : c = ':'
  · exact Or.inr (Or.inl hc)
  · refine Or.inl (t.isDigit c ?_)
    cases colon <;> simpa [digits, hc] using h

lemma getLast?_chars (w : List Char) (colon : Bool) :
    (w ++ t.chars colon).getLast? = some t.minutes.2 := by
  cases colon <;> simp [chars, digits]

end OffsetTail

/-! ### What loses its colon -/

lemma dropColonBackwards_cases (cs : List Char) :
    dropColonBackwards cs = cs ∨ ∃ (w : List Char) (t : OffsetTail),
      cs = (w ++ t.chars true).reverse ∧ dropColonBackwards cs = (w ++ t.chars false).reverse := by
  unfold dropColonBackwards
  split
  · rename_i m₂ m₁ h₂ h₁ sign rest
    split
    · rename_i h
      simp only [Bool.and_eq_true, Bool.or_eq_true, decide_eq_true_eq, List.all_eq_true] at h
      refine Or.inr ⟨rest.reverse, ⟨sign, (h₁, h₂), (m₁, m₂), h.2, fun c hc => h.1 c ?_⟩, ?_, ?_⟩
      · simp only [List.mem_cons, List.not_mem_nil, or_false] at hc ⊢
        tauto
      · simp [OffsetTail.chars, OffsetTail.digits]
      · simp [OffsetTail.chars, OffsetTail.digits]
    · exact Or.inl rfl
  · exact Or.inl rfl

lemma dropColonBackwards_chars (w : List Char) (t : OffsetTail) (colon : Bool) :
    dropColonBackwards (w ++ t.chars colon).reverse = (w ++ t.chars false).reverse := by
  have hsign : (decide (t.sign = '+') || decide (t.sign = '-')) = true := by
    simpa [IsSign] using t.isSign
  have hdigits : [t.minutes.2, t.minutes.1, t.hours.2, t.hours.1].all Text.isDigit = true := by
    rw [List.all_eq_true]
    refine fun c hc => t.isDigit c ?_
    simp only [List.mem_cons, List.not_mem_nil, or_false] at hc ⊢
    tauto
  cases colon with
  | true =>
    have hreverse : (w ++ t.chars true).reverse =
        t.minutes.2 :: t.minutes.1 :: ':' :: t.hours.2 :: t.hours.1 :: t.sign :: w.reverse := by
      simp [OffsetTail.chars, OffsetTail.digits]
    rw [hreverse, dropColonBackwards, hdigits, hsign]
    simp [OffsetTail.chars, OffsetTail.digits]
  | false =>
    -- where the colon would be, a digit stands
    rcases dropColonBackwards_cases (w ++ t.chars false).reverse with h | ⟨w', t', h, -⟩
    · exact h
    · have hthird := congrArg (fun cs : List Char => cs[2]?) h
      have hcolon : t.hours.2 = ':' := by
        simpa [OffsetTail.chars, OffsetTail.digits] using hthird
      exact absurd hcolon (ne_of_isDigit (t.isDigit _ (by simp)) (by decide))

lemma normalizeOffset_concat_break (cs : List Char) :
    normalizeOffset (cs ++ ['\n']) = (dropColonBackwards cs.reverse).reverse ++ ['\n'] := by
  rw [normalizeOffset, List.reverse_concat]
  exact List.reverse_cons

/-- A text that does not end in a line break. -/
lemma normalizeOffset_of_getLast? {cs : List Char} (h : cs.getLast? ≠ some '\n') :
    normalizeOffset cs = (dropColonBackwards cs.reverse).reverse := by
  rcases cs.eq_nil_or_concat with rfl | ⟨cs, c, rfl⟩
  · rfl
  · have hbreak : c ≠ '\n' := by simpa using h
    rw [List.concat_eq_append, Instant.normalizeOffset_concat_of_ne hbreak, List.reverse_concat]

/-- What the pre-pass looks at is the text before a last line break. -/
lemma normalizeOffset_body (cs : List Char) : ∃ body tail : List Char,
    (tail = [] ∨ tail = ['\n']) ∧ cs = body ++ tail ∧
      normalizeOffset cs = (dropColonBackwards body.reverse).reverse ++ tail := by
  by_cases hbreak : cs.getLast? = some '\n'
  · obtain ⟨body, rfl⟩ := List.getLast?_eq_some_iff.mp hbreak
    exact ⟨body, ['\n'], Or.inr rfl, rfl, normalizeOffset_concat_break body⟩
  · refine ⟨cs, [], Or.inl rfl, (List.append_nil cs).symm, ?_⟩
    rw [normalizeOffset_of_getLast? hbreak, List.append_nil]

/-- A text is left as it is, or ends in an offset with a colon and loses it. -/
lemma normalizeOffset_cases (cs : List Char) :
    normalizeOffset cs = cs ∨ ∃ (w : List Char) (t : OffsetTail) (tail : List Char),
      (tail = [] ∨ tail = ['\n']) ∧ cs = w ++ t.chars true ++ tail ∧
        normalizeOffset cs = w ++ t.chars false ++ tail := by
  obtain ⟨body, tail, htail, rfl, hbody⟩ := normalizeOffset_body cs
  rcases dropColonBackwards_cases body.reverse with h | ⟨w, t, hcs, h⟩
  · left
    rw [hbody, h, List.reverse_reverse]
  · right
    rw [List.reverse_inj] at hcs
    exact ⟨w, t, tail, htail, by rw [hcs], by rw [hbody, h, List.reverse_reverse]⟩

/-- An offset at the end loses its colon, if it has one. -/
lemma normalizeOffset_offset (w : List Char) (t : OffsetTail) (colon : Bool) {tail : List Char}
    (htail : tail = [] ∨ tail = ['\n']) :
    normalizeOffset (w ++ t.chars colon ++ tail) = w ++ t.chars false ++ tail := by
  rcases htail with rfl | rfl
  · have hbreak : (w ++ t.chars colon).getLast? ≠ some '\n' := by
      rw [t.getLast?_chars]
      exact mt Option.some.inj (ne_of_isDigit t.isDigit_last (by decide))
    rw [List.append_nil, List.append_nil, normalizeOffset_of_getLast? hbreak,
      dropColonBackwards_chars, List.reverse_reverse]
  · rw [normalizeOffset_concat_break, dropColonBackwards_chars, List.reverse_reverse]

lemma normalizeOffset_normalizeOffset (cs : List Char) :
    normalizeOffset (normalizeOffset cs) = normalizeOffset cs := by
  rcases normalizeOffset_cases cs with h | ⟨w, t, tail, htail, -, h⟩
  · rw [h, h]
  · rw [h, normalizeOffset_offset w t false htail]

/-- Two short fields, each behind a colon or each behind a hyphen, are no offset: neither mark can
stand where the offset has its digits, and a colon is no sign. -/
lemma fields_ne_chars {a : Char} (ha : a = '-' ∨ a = ':') {x y : List Char}
    (hx : x.length = 1 ∨ x.length = 2) (hy : y.length = 1 ∨ y.length = 2) (w w' : List Char)
    (t : OffsetTail) (colon : Bool) : w ++ a :: (x ++ a :: y) ≠ w' ++ t.chars colon := by
  intro h
  have hdigit : ∀ c ∈ [t.hours.1, t.hours.2, t.minutes.1, t.minutes.2], a ≠ c := by
    intro c hc
    refine (ne_of_isDigit (t.isDigit c hc) ?_).symm
    rcases ha with rfl | rfl <;> decide
  have hsign : ¬ (a = ':' ∧ a = t.sign) := by
    rintro ⟨rfl, hs⟩
    have := t.isSign
    rw [← hs] at this
    exact absurd this (by simp [IsSign])
  have hreverse := congrArg List.reverse h
  simp only [List.mem_cons, List.not_mem_nil, or_false, forall_eq_or_imp, forall_eq] at hdigit
  simp only [List.length_eq_one_iff, List.length_eq_two] at hx hy
  rcases hy with ⟨u, rfl⟩ | ⟨u, v, rfl⟩
  · cases colon <;> simp [OffsetTail.chars, OffsetTail.digits] at hreverse <;> tauto
  · rcases hx with ⟨p, rfl⟩ | ⟨p, q, rfl⟩ <;> cases colon <;>
      simp [OffsetTail.chars, OffsetTail.digits] at hreverse <;> tauto

/-- Dates and times of day are no offsets. -/
lemma normalizeOffset_fields {a : Char} (ha : a = '-' ∨ a = ':') {x y : List Char}
    (hx : x.length = 2) (hy : y.length = 2) (hdigits : ∀ c ∈ y, Text.isDigit c = true)
    (w : List Char) :
    normalizeOffset (w ++ a :: (x ++ a :: y)) = w ++ a :: (x ++ a :: y) := by
  rcases normalizeOffset_cases (w ++ a :: (x ++ a :: y)) with h | ⟨w', t, tail, htail, h, -⟩
  · exact h
  rcases htail with rfl | rfl
  · rw [List.append_nil] at h
    exact absurd h (fields_ne_chars ha (.inr hx) (.inr hy) w w' t true)
  · -- the last character is a digit and no line break
    have hbreak : '\n' ∈ y := by
      obtain ⟨c, d, rfl⟩ := List.length_eq_two.mp hy
      have hreverse := congrArg List.reverse h
      simp only [List.reverse_append, List.reverse_cons, List.reverse_nil, List.nil_append,
        List.cons_append, List.append_assoc, List.cons.injEq] at hreverse
      rw [hreverse.1]
      exact List.mem_cons_of_mem c List.mem_cons_self
    exact absurd (hdigits _ hbreak) (by decide)

/-! ### How it is read -/

lemma OffsetTail.readShape_hours (t : OffsetTail) (cs : List Char) :
    readShape twoDigits (t.hours.1 :: t.hours.2 :: cs) = some ([t.hours.1, t.hours.2], cs) := by
  have h₁ : DigitClass.any.holds t.hours.1 = true := t.isDigit _ (by simp)
  have h₂ : DigitClass.any.holds t.hours.2 = true := t.isDigit _ (by simp)
  simp [twoDigits, readShape, h₁, h₂]

lemma OffsetTail.readColon_minutes (t : OffsetTail) (colon : Bool) :
    readColon ((if colon then [':'] else []) ++ [t.minutes.1, t.minutes.2]) =
      (colon, [t.minutes.1, t.minutes.2]) := by
  cases colon with
  | true => rfl
  | false =>
    have hcolon : t.minutes.1 ≠ ':' := ne_of_isDigit (t.isDigit _ (by simp)) (by decide)
    simp only [Bool.false_eq_true, if_false, List.nil_append]
    unfold readColon
    split
    · rename_i heq
      exact absurd (List.cons.inj heq).1 hcolon
    · rfl

/-- An offset of hours and minutes is read alike with its colon and without it. -/
lemma OffsetTail.read_chars (t : OffsetTail) (colon : Bool) (p : Parts) :
    Item.read .offset p (t.chars colon) =
      (readShape sixtieth [t.minutes.1, t.minutes.2]).map fun r =>
        ({ p with offset := some (OffsetText.micros?
            { negative := decide (t.sign = '-'), hours := Text.number [t.hours.1, t.hours.2],
              colon := false, minutes := Text.number r.1 }) }, []) := by
  have hsign : t.sign ≠ 'Z' := by
    rcases t.isSign with h | h <;> simp [h]
  have hplus : t.sign = '+' ∨ t.sign = '-' := t.isSign
  have hdigits : t.digits colon = t.hours.1 :: t.hours.2 ::
      ((if colon then [':'] else []) ++ [t.minutes.1, t.minutes.2]) := rfl
  rw [chars, Item.read_offset_of_ne hsign, readOffsetText, if_pos hplus, hdigits,
    t.readShape_hours]
  simp only [Option.bind_eq_bind, Option.bind_some, t.readColon_minutes]
  rcases hread : readShape sixtieth [t.minutes.1, t.minutes.2] with _ | ⟨ms, rest⟩
  · rfl
  · obtain ⟨happend, hlength, -⟩ := readShape_piece hread
    have hrest : rest = [] := by
      have htotal := congrArg List.length happend
      rw [List.length_append, hlength] at htotal
      simpa [sixtieth] using htotal
    subst hrest
    rfl

end MetadataBag
