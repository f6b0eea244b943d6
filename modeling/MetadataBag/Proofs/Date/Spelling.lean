import Mathlib
import MetadataBag.Proofs.Date.Field

/-!
What the items of a format take from a text. An item takes a piece off its front, and `Spells`
tells which pieces it can take. All items but offsets look no further than the first character
behind their piece, so what follows that character has no part in reading them.
-/

namespace MetadataBag

/-! ### Letters -/

lemma isUpper_iff {c : Char} : c.isUpper = true ↔ 65 ≤ c.toNat ∧ c.toNat ≤ 90 := by
  simp [Char.isUpper, UInt32.le_iff_toNat_le]

lemma isLower_iff {c : Char} : c.isLower = true ↔ 97 ≤ c.toNat ∧ c.toNat ≤ 122 := by
  simp [Char.isLower, UInt32.le_iff_toNat_le]

/-- Only capital letters have another small form. -/
lemma toLower_cases {c l : Char} (h : c.toLower = l) :
    c = l ∨ c.isUpper = true ∧ l.isLower = true := by
  by_cases hc : c.isUpper = true
  · refine Or.inr ⟨hc, ?_⟩
    rw [← h, Char.isLower_toLower_eq_isAlpha, Char.isAlpha, hc, Bool.true_or]
  · exact Or.inl ((Char.toLower_eq_of_not_isUpper hc).symm.trans h)

lemma eq_of_toLower_eq {c l : Char} (hl : l.isLower = false) (h : c.toLower = l) : c = l := by
  rcases toLower_cases h with rfl | ⟨-, hl'⟩
  · rfl
  · rw [hl] at hl'
    cases hl'

/-- What has a small letter as its small form is a letter. -/
lemma toNat_of_toLower_eq {c l : Char} (hl : l.isLower = true) (h : c.toLower = l) :
    65 ≤ c.toNat ∧ c.toNat ≤ 122 := by
  have := isLower_iff.mp hl
  rcases toLower_cases h with rfl | ⟨hc, -⟩
  · omega
  · have := isUpper_iff.mp hc
    omega

lemma isDigit_eq_false_of_letter {c : Char} (h : 65 ≤ c.toNat ∧ c.toNat ≤ 122) :
    Text.isDigit c = false := by
  have hascii : c.toNat < 0x80 := by omega
  have hdigit : c.isDigit = false := by
    simp [Char.isDigit, UInt32.le_iff_toNat_le]
    omega
  simp [Text.isDigit, Text.digit?, hascii, hdigit]

lemma isBlank_eq_false_of_letter {c : Char} (h : 65 ≤ c.toNat ∧ c.toNat ≤ 122) :
    Text.isBlank c = false := by
  simp only [Text.isBlank, Text.blanks, List.any_cons, List.any_nil, Bool.or_false,
    Bool.or_eq_false_iff, decide_eq_false_iff_not]
  omega

/-! ### Pieces -/

/-- A piece of such characters stands at the front of the text, before the rest. -/
def Takes (P : Char → Prop) (cs rest : List Char) : Prop := ∃ x, cs = x ++ rest ∧ ∀ c ∈ x, P c

namespace Takes

variable {P : Char → Prop} {cs mid rest : List Char}

lemma refl (P : Char → Prop) (cs : List Char) : Takes P cs cs :=
  ⟨[], rfl, fun _ hc => by cases hc⟩

lemma cons {c : Char} (hc : P c) (h : Takes P cs rest) : Takes P (c :: cs) rest := by
  obtain ⟨x, rfl, hx⟩ := h
  refine ⟨c :: x, rfl, fun d hd => ?_⟩
  rcases List.mem_cons.mp hd with rfl | hd
  · exact hc
  · exact hx d hd

lemma trans (h : Takes P cs mid) (h' : Takes P mid rest) : Takes P cs rest := by
  obtain ⟨x, rfl, hx⟩ := h
  obtain ⟨y, rfl, hy⟩ := h'
  refine ⟨x ++ y, (List.append_assoc x y rest).symm, fun c hc => ?_⟩
  exact (List.mem_append.mp hc).elim (hx c) (hy c)

end Takes

/-! ### Digits -/

def DigitClass.OfDigits : DigitClass → Prop
  | .range first last => '0' ≤ first ∧ last ≤ '9'
  | .any => True
  | .space => False

instance : DecidablePred DigitClass.OfDigits := fun k => by
  cases k <;> unfold DigitClass.OfDigits <;> infer_instance

lemma DigitClass.isDigit_of_holds {k : DigitClass} (hk : k.OfDigits) {c : Char}
    (h : k.holds c = true) : Text.isDigit c = true := by
  cases k with
  | range first last =>
    have hrange : first ≤ c ∧ c ≤ last := by simpa [holds] using h
    have hascii : c.isDigit = true := by
      have hlow : '0'.val ≤ c.val := Char.le_trans hk.1 hrange.1
      have hhigh : c.val ≤ '9'.val := Char.le_trans hrange.2 hk.2
      simp only [Char.isDigit, Bool.and_eq_true, decide_eq_true_eq]
      exact ⟨hlow, hhigh⟩
    exact Text.isDigit_of_ascii hascii
  | any => exact h
  | space => exact hk.elim

lemma readShape_piece {ks : List DigitClass} {cs x rest : List Char}
    (h : readShape ks cs = some (x, rest)) :
    cs = x ++ rest ∧ x.length = ks.length ∧ ∀ c ∈ x, ∃ k ∈ ks, k.holds c = true := by
  induction ks generalizing cs x with
  | nil =>
    cases h
    exact ⟨rfl, rfl, fun c hc => by cases hc⟩
  | cons k ks ih =>
    obtain _ | ⟨c, cs⟩ := cs
    · cases h
    rw [readShape] at h
    split at h
    · rename_i hc
      obtain ⟨⟨x', rest'⟩, hread, heq⟩ := Option.map_eq_some_iff.mp h
      cases heq
      obtain ⟨rfl, hlength, hholds⟩ := ih hread
      refine ⟨rfl, congrArg (· + 1) hlength, fun d hd => ?_⟩
      rcases List.mem_cons.mp hd with rfl | hd
      · exact ⟨k, List.mem_cons_self, hc⟩
      · obtain ⟨k', hk', hd'⟩ := hholds d hd
        exact ⟨k', List.mem_cons_of_mem k hk', hd'⟩
    · cases h

lemma readShape_takes {ks : List DigitClass} (hks : ∀ k ∈ ks, k.OfDigits) {P : Char → Prop}
    (hP : ∀ c, Text.isDigit c = true → P c) {cs x rest : List Char}
    (h : readShape ks cs = some (x, rest)) : Takes P cs rest := by
  obtain ⟨rfl, -, hholds⟩ := readShape_piece h
  refine ⟨x, rfl, fun c hc => ?_⟩
  obtain ⟨k, hk, hkc⟩ := hholds c hc
  exact hP c (DigitClass.isDigit_of_holds (hks k hk) hkc)

/-- The piece of a field: as many characters as its width, or one less. -/
lemma Field.read_piece {f : Field} {n : Nat} {cs rest : List Char}
    (h : f.read cs = some (n, rest)) :
    ∃ x, cs = x ++ rest ∧ x.length ≤ f.width ∧ f.width ≤ x.length + 1 ∧
      ∀ c ∈ x, Text.isDigit c = true ∨ c = ' ' := by
  -- read off the shapes: one character short at most, and nothing but digits or a blank
  have hwidth : ∀ ks ∈ f.shapes, f.width ≤ ks.length + 1 := by cases f <;> decide
  have hclass : ∀ ks ∈ f.shapes, ∀ k ∈ ks, k.OfDigits ∨ k = .space := by cases f <;> decide
  obtain ⟨⟨x, rest'⟩, hshape, heq⟩ := Option.map_eq_some_iff.mp h
  cases heq
  obtain ⟨ks, hks, hread⟩ := List.exists_of_findSome?_eq_some hshape
  obtain ⟨rfl, hlength, hholds⟩ := readShape_piece hread
  refine ⟨x, rfl, hlength ▸ length_le_width hks, hlength ▸ hwidth ks hks, fun c hc => ?_⟩
  obtain ⟨k, hk, hkc⟩ := hholds c hc
  rcases hclass ks hks k hk with hdigits | rfl
  · exact Or.inl (DigitClass.isDigit_of_holds hdigits hkc)
  · exact Or.inr (by simpa [DigitClass.holds] using hkc)

/-! ### Offsets -/

def IsSign (c : Char) : Prop := c = '+' ∨ c = '-'

def IsOffsetChar (c : Char) : Prop := Text.isDigit c = true ∨ c = ':' ∨ c = '.'

lemma readColon_takes (cs : List Char) : Takes IsOffsetChar cs (readColon cs).2 := by
  unfold readColon
  split
  · exact .cons (Or.inr (Or.inl rfl)) (.refl _ _)
  · exact .refl _ _

lemma readDigits_takes (n : Nat) (cs : List Char) : Takes IsOffsetChar cs (readDigits n cs).2 := by
  induction n generalizing cs with
  | zero => exact .refl _ _
  | succ n ih =>
    obtain _ | ⟨c, cs⟩ := cs
    · exact .refl _ _
    rw [readDigits]
    split
    · rename_i hc
      exact .cons (Or.inl hc) (ih cs)
    · exact .refl _ _

lemma readFraction_takes (cs : List Char) : Takes IsOffsetChar cs (readFraction cs).2 := by
  unfold readFraction
  split
  · rename_i rest
    split
    · exact .refl _ _
    · rename_i ds rest' _ hread
      have hdigits := readDigits_takes 6 rest
      rw [hread] at hdigits
      exact .cons (Or.inr (Or.inr rfl)) hdigits
  · exact .refl _ _

lemma readOffsetSeconds_takes (cs : List Char) :
    Takes IsOffsetChar cs (readOffsetSeconds cs).2 := by
  have hcolon := readColon_takes cs
  unfold readOffsetSeconds
  generalize readColon cs = colon at hcolon
  obtain ⟨colon, mid⟩ := colon
  dsimp only at hcolon ⊢
  split
  · exact .refl _ _
  · rename_i ds rest hread
    have hseconds : Takes IsOffsetChar mid rest :=
      readShape_takes (by decide) (fun _ => Or.inl) hread
    exact (hcolon.trans hseconds).trans (readFraction_takes rest)

/-- An offset is a sign, and digits, colons and points. -/
lemma readOffsetText_takes {cs rest : List Char} {o : OffsetText}
    (h : readOffsetText cs = some (o, rest)) :
    ∃ sign mid, cs = sign :: mid ∧ IsSign sign ∧ Takes IsOffsetChar mid rest := by
  obtain _ | ⟨sign, mid⟩ := cs
  · cases h
  rw [readOffsetText] at h
  split at h
  · rename_i hsign
    obtain ⟨⟨hs, rest₁⟩, hhours, h⟩ := Option.bind_eq_some_iff.mp h
    obtain ⟨⟨ms, rest₂⟩, hminutes, h⟩ := Option.bind_eq_some_iff.mp h
    cases h
    have htwo : Takes IsOffsetChar mid rest₁ :=
      readShape_takes (by decide) (fun _ => Or.inl) hhours
    have hsixty : Takes IsOffsetChar (readColon rest₁).2 rest₂ :=
      readShape_takes (by decide) (fun _ => Or.inl) hminutes
    exact ⟨sign, mid, rfl, hsign,
      ((htwo.trans (readColon_takes rest₁)).trans hsixty).trans (readOffsetSeconds_takes rest₂)⟩
  · cases h

/-! ### Items -/

/-- The pieces that an item takes. -/
def Item.Spells : Item → List Char → Prop
  | .field f, x =>
    x.length ≤ f.width ∧ f.width ≤ x.length + 1 ∧ ∀ c ∈ x, Text.isDigit c = true ∨ c = ' '
  | .literal l, x => ∃ c, x = [c] ∧ c.toLower = l.toLower
  | .blank, x => ∃ c y, x = c :: y ∧ ∀ d ∈ c :: y, Text.isBlank d = true
  | .offset, x => x = ['Z'] ∨ ∃ sign y, x = sign :: y ∧ IsSign sign ∧ ∀ c ∈ y, IsOffsetChar c

/-- The texts that several items take, one after the other. -/
def Spelled : List Item → List Char → Prop
  | [], cs => cs = []
  | i :: is, cs => ∃ x y, cs = x ++ y ∧ i.Spells x ∧ Spelled is y

/-- Every piece has a character. -/
lemma Item.Spells.ne_nil {i : Item} {x : List Char} (h : i.Spells x) : x ≠ [] := by
  rintro rfl
  cases i with
  | field f => cases f <;> simp [Item.Spells, Field.width] at h
  | _ => simp [Item.Spells] at h

lemma Item.read_spells {i : Item} {p q : Parts} {cs rest : List Char}
    (h : i.read p cs = some (q, rest)) : ∃ x, cs = x ++ rest ∧ i.Spells x := by
  cases i with
  | field f =>
    obtain ⟨⟨n, rest'⟩, hread, heq⟩ := Option.map_eq_some_iff.mp h
    cases heq
    exact Field.read_piece hread
  | literal l =>
    obtain _ | ⟨c, cs⟩ := cs
    · cases h
    rw [Item.read] at h
    split at h
    · rename_i hc
      cases h
      exact ⟨[c], rfl, c, rfl, hc.elim (congrArg Char.toLower) id⟩
    · cases h
  | blank =>
    obtain _ | ⟨c, cs⟩ := cs
    · cases h
    rw [Item.read] at h
    split at h
    · rename_i hc
      cases h
      refine ⟨c :: cs.takeWhile Text.isBlank, ?_, c, _, rfl, fun d hd => ?_⟩
      · rw [List.cons_append, List.takeWhile_append_dropWhile]
      · rcases List.mem_cons.mp hd with rfl | hd
        · exact hc
        · exact List.mem_takeWhile_imp hd
    · cases h
  | offset =>
    simp only [Item.read] at h
    split at h
    · cases h
      exact ⟨['Z'], rfl, Or.inl rfl⟩
    · obtain ⟨⟨o, rest'⟩, hread, heq⟩ := Option.map_eq_some_iff.mp h
      cases heq
      obtain ⟨sign, mid, rfl, hsign, y, rfl, hy⟩ := readOffsetText_takes hread
      exact ⟨sign :: y, rfl, Or.inr ⟨sign, y, rfl, hsign, hy⟩⟩

lemma readItems_append (is js : List Item) (p : Parts) (cs : List Char) :
    readItems (is ++ js) p cs = (readItems is p cs).bind fun r => readItems js r.1 r.2 := by
  induction is generalizing p cs with
  | nil => rfl
  | cons i is ih =>
    rw [List.cons_append, readItems, readItems, Option.bind_assoc]
    exact congrArg _ (funext fun r => ih r.1 r.2)

lemma readItems_spelled {is : List Item} {p q : Parts} {cs rest : List Char}
    (h : readItems is p cs = some (q, rest)) : ∃ x, cs = x ++ rest ∧ Spelled is x := by
  induction is generalizing p cs with
  | nil =>
    cases h
    exact ⟨[], rfl, rfl⟩
  | cons i is ih =>
    obtain ⟨⟨p', mid⟩, hread, hrest⟩ := Option.bind_eq_some_iff.mp h
    obtain ⟨x, rfl, hx⟩ := Item.read_spells hread
    obtain ⟨y, rfl, hy⟩ := ih hrest
    exact ⟨x ++ y, (List.append_assoc x y rest).symm, x, y, rfl, hx, hy⟩

lemma Spelled.append_inv {is js : List Item} {cs : List Char} (h : Spelled (is ++ js) cs) :
    ∃ x y, cs = x ++ y ∧ Spelled is x ∧ Spelled js y := by
  induction is generalizing cs with
  | nil => exact ⟨[], cs, rfl, rfl, h⟩
  | cons i is ih =>
    obtain ⟨x, y, rfl, hx, hy⟩ := h
    obtain ⟨y₁, y₂, rfl, hy₁, hy₂⟩ := ih hy
    exact ⟨x ++ y₁, y₂, (List.append_assoc x y₁ y₂).symm, ⟨x, y₁, rfl, hx, hy₁⟩, hy₂⟩

lemma spelled_of_readItems {is : List Item} {p q : Parts} {cs : List Char}
    (h : readItems is p cs = some (q, [])) : Spelled is cs := by
  obtain ⟨x, rfl, hx⟩ := readItems_spelled h
  rwa [List.append_nil]

/-! ### Looking ahead -/

lemma Field.read_lookahead {f : Field} {n : Nat} {x rest rest' : List Char}
    (hwidth : f.width ≤ x.length + 1) (h : f.read (x ++ rest) = some (n, rest))
    (hhead : rest'.head? = rest.head?) : f.read (x ++ rest') = some (n, rest') := by
  cases rest with
  | nil =>
    rw [List.head?_nil, List.head?_eq_none_iff] at hhead
    rw [hhead, h]
  | cons c rest =>
    obtain ⟨rest', rfl⟩ := List.head?_eq_some_iff.mp hhead
    -- a field takes at most its width, so the first character behind it settles it
    have hlength : f.width ≤ (x ++ [c]).length := by simpa using hwidth
    rw [List.append_cons, read_append f hlength] at h ⊢
    obtain ⟨⟨m, y⟩, hread, heq⟩ := Option.map_eq_some_iff.mp h
    obtain ⟨rfl, hy⟩ := Prod.mk.inj heq
    have hpiece : y = [c] := List.append_cancel_right (hy.trans (List.singleton_append).symm)
    rw [hread, hpiece]
    rfl

lemma dropWhile_isBlank_eq_self {rest : List Char} :
    rest.dropWhile Text.isBlank = rest ↔ ∀ c ∈ rest.head?, Text.isBlank c = false := by
  constructor
  · intro h c hc
    have hstop := List.head?_dropWhile_not Text.isBlank rest
    rw [Option.mem_def] at hc
    rwa [h, hc] at hstop
  · intro h
    cases rest with
    | nil => rfl
    | cons c rest => exact List.dropWhile_cons_of_neg (by simp [h c rfl])

/-- What an item makes of its piece depends on the first character behind it only. -/
lemma Item.read_lookahead {i : Item} (hi : i ≠ .offset) {p q : Parts} {x rest rest' : List Char}
    (h : i.read p (x ++ rest) = some (q, rest)) (hhead : rest'.head? = rest.head?) :
    i.read p (x ++ rest') = some (q, rest') := by
  obtain ⟨y, hxy, hy⟩ := read_spells h
  obtain rfl : x = y := List.append_cancel_right hxy
  cases i with
  | field f =>
    obtain ⟨⟨n, rest₁⟩, hread, heq⟩ := Option.map_eq_some_iff.mp h
    cases heq
    rw [Item.read, Field.read_lookahead hy.2.1 hread hhead]
    rfl
  | literal l =>
    obtain ⟨c, rfl, -⟩ := hy
    rw [List.singleton_append, Item.read] at h ⊢
    split at h
    · rename_i hc
      cases h
      rw [if_pos hc]
    · cases h
  | blank =>
    obtain ⟨c, y, rfl, hblank⟩ := hy
    have hc : Text.isBlank c = true := hblank c List.mem_cons_self
    have hdrop : ∀ r : List Char, (y ++ r).dropWhile Text.isBlank = r.dropWhile Text.isBlank :=
      fun r => List.dropWhile_append_of_pos fun d hd => hblank d (List.mem_cons_of_mem c hd)
    rw [List.cons_append, Item.read, if_pos hc, hdrop] at h ⊢
    obtain ⟨rfl, hrest⟩ := Prod.mk.inj (Option.some.inj h)
    -- a run of blanks ends where its text goes on with something else
    have hrest' : rest'.dropWhile Text.isBlank = rest' := by
      rw [dropWhile_isBlank_eq_self, hhead]
      exact dropWhile_isBlank_eq_self.mp hrest
    rw [hrest']
  | offset => exact absurd rfl hi

/-- The same of several items. -/
lemma readItems_lookahead {is : List Item} (his : .offset ∉ is) {p q : Parts}
    {x rest rest' : List Char} (h : readItems is p (x ++ rest) = some (q, rest))
    (hhead : rest'.head? = rest.head?) : readItems is p (x ++ rest') = some (q, rest') := by
  induction is generalizing p x with
  | nil =>
    obtain ⟨rfl, hx⟩ := Prod.mk.inj (Option.some.inj h)
    rw [List.append_left_eq_self.mp hx]
    rfl
  | cons i is ih =>
    obtain ⟨hi, his⟩ := List.ne_and_not_mem_of_not_mem_cons his
    obtain ⟨⟨p', mid⟩, hread, hrest⟩ := Option.bind_eq_some_iff.mp h
    obtain ⟨x₂, rfl, -⟩ := readItems_spelled hrest
    obtain ⟨x₁, hx, -⟩ := Item.read_spells hread
    rw [← List.append_assoc] at hx
    obtain rfl : x = x₁ ++ x₂ := List.append_cancel_right hx
    rw [List.append_assoc] at hread ⊢
    -- the character behind the piece of `i` is the next piece's first, if there is one
    have hnext : (x₂ ++ rest').head? = (x₂ ++ rest).head? := by
      rw [List.head?_append, List.head?_append, hhead]
    rw [readItems, Item.read_lookahead hi.symm hread hnext]
    exact ih his hrest

end MetadataBag
