/-!
Fields of a text: the parts between separators. There is one more of them than separators, and
with the separators put back they are the text.
-/

namespace MetadataBag.Text

/-- The parts of a text before, between and after a separator. -/
def fields (separator : Char) : List Char → List (List Char)
  | [] => [[]]
  | c :: rest =>
    match fields separator rest with
    | [] => [[c]]
    | f :: fs => if c = separator then [] :: f :: fs else (c :: f) :: fs

theorem fields_ne_nil (separator : Char) (cs : List Char) : fields separator cs ≠ [] := by
  cases cs with
  | nil => simp [fields]
  | cons c rest =>
    simp only [fields]
    split
    · simp
    · split <;> simp

theorem length_fields (separator : Char) (cs : List Char) :
    (fields separator cs).length = cs.count separator + 1 := by
  induction cs with
  | nil => simp [fields]
  | cons c rest ih =>
    cases h : fields separator rest with
    | nil => exact absurd h (fields_ne_nil separator rest)
    | cons f fs =>
      rw [h] at ih
      by_cases hc : c = separator
      · subst hc; simp [fields, h] at ih ⊢; omega
      · simp [fields, h, hc] at ih ⊢; omega

/-- A text without separators is its only field. -/
theorem fields_of_not_mem {separator : Char} {cs : List Char} (h : separator ∉ cs) :
    fields separator cs = [cs] := by
  induction cs with
  | nil => rfl
  | cons c rest ih =>
    simp only [List.mem_cons, not_or] at h
    have hc : ¬ c = separator := fun e => h.1 e.symm
    simp [fields, ih h.2, hc]

/-- The first field is what stands before the first separator. -/
theorem fields_append_cons {separator : Char} {cs : List Char} (h : separator ∉ cs)
    (rest : List Char) :
    fields separator (cs ++ separator :: rest) = cs :: fields separator rest := by
  induction cs with
  | nil =>
    cases hrest : fields separator rest with
    | nil => exact absurd hrest (fields_ne_nil separator rest)
    | cons f fs => simp [fields, hrest]
  | cons c cs ih =>
    simp only [List.mem_cons, not_or] at h
    have hc : ¬ c = separator := fun e => h.1 e.symm
    simp [fields, ih h.2, hc]

end MetadataBag.Text
