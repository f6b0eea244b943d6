import Mathlib.Data.List.Basic
import Mathlib.Tactic.Lemma
import Mathlib.Tactic.SplitIfs
import MetadataBag.Markup.Print

/-!
Written markup reads one way. Characters, fields of tags, elements and whole trees each begin with
what tells where they end, so that from the text of a tree its prefixes, declarations, tags,
attributes and texts are found again. The namespaces of tags are not written; what they are is
told by the declarations.
-/

namespace MetadataBag.Markup

/-! ### Characters -/

/-- The character that written markup begins with, and the rest. -/
def readChar : List Char → Option (Char × List Char)
  | '&' :: 'a' :: 'm' :: 'p' :: ';' :: rest => some ('&', rest)
  | '&' :: 'l' :: 't' :: ';' :: rest => some ('<', rest)
  | '&' :: 'g' :: 't' :: ';' :: rest => some ('>', rest)
  | '&' :: 'q' :: 'u' :: 'o' :: 't' :: ';' :: rest => some ('"', rest)
  | '&' :: '#' :: '1' :: '3' :: ';' :: rest => some ('\r', rest)
  | '&' :: '#' :: '1' :: '0' :: ';' :: rest => some ('\n', rest)
  | '&' :: '#' :: '9' :: ';' :: rest => some ('\t', rest)
  | c :: rest => some (c, rest)
  | [] => none

lemma readChar_cons {c : Char} (h : c ≠ '&') (rest : List Char) :
    readChar (c :: rest) = some (c, rest) := by
  unfold readChar
  split <;> simp_all

lemma readChar_textChar (c : Char) (rest : List Char) :
    readChar (textChar c ++ rest) = some (c, rest) := by
  unfold textChar
  split_ifs with hamp hlt hgt hcr
  · subst hamp; rfl
  · subst hlt; rfl
  · subst hgt; rfl
  · subst hcr; rfl
  · exact readChar_cons hamp rest

lemma readChar_attributeChar (c : Char) (rest : List Char) :
    readChar (attributeChar c ++ rest) = some (c, rest) := by
  unfold attributeChar
  split_ifs with hquote hline htab
  · subst hquote; rfl
  · subst hline; rfl
  · subst htab; rfl
  · exact readChar_textChar c rest

/-- Texts whose characters are read back one by one are the same if they are written the same. -/
lemma flatMap_injective {f : Char → List Char}
    (hf : ∀ c rest, readChar (f c ++ rest) = some (c, rest)) {u v : List Char}
    (h : u.flatMap f = v.flatMap f) : u = v := by
  induction u generalizing v with
  | nil =>
    cases v with
    | nil => rfl
    | cons d v =>
      have hread := hf d (v.flatMap f)
      rw [← List.flatMap_cons, ← h] at hread
      cases hread
  | cons c u ih =>
    cases v with
    | nil =>
      have hread := hf c (u.flatMap f)
      rw [← List.flatMap_cons, h] at hread
      cases hread
    | cons d v =>
      have hread := hf c (u.flatMap f)
      rw [← List.flatMap_cons, h, List.flatMap_cons, hf] at hread
      simp only [Option.some.injEq, Prod.mk.injEq] at hread
      rw [hread.1, ih hread.2.symm]

lemma lt_not_mem_textChar (c : Char) : '<' ∉ textChar c := by
  unfold textChar
  split_ifs with hamp hlt hgt hcr
  · decide
  · decide
  · decide
  · decide
  · simpa using Ne.symm hlt

lemma quote_not_mem_attributeChar (c : Char) : '"' ∉ attributeChar c := by
  unfold attributeChar
  split_ifs with hquote hline htab
  · decide
  · decide
  · decide
  · unfold textChar
    split_ifs
    · decide
    · decide
    · decide
    · decide
    · simpa using Ne.symm hquote

/-- A character that no character is written with is not in a written text. -/
lemma ne_of_mem_flatMap {f : Char → List Char} {c : Char} (hf : ∀ d, c ∉ f d) {s : List Char} :
    ∀ x ∈ s.flatMap f, x ≠ c := by
  rintro x hx rfl
  obtain ⟨d, -, hd⟩ := List.mem_flatMap.mp hx
  exact hf d hd

/-! ### Splitting -/

/-- A run of characters of one class ends where a character of another class follows. -/
lemma append_inj_of_stop {P : Char → Prop} {u v x y : List Char} (hu : ∀ c ∈ u, P c)
    (hv : ∀ c ∈ v, P c) (hx : ∀ c ∈ x.head?, ¬ P c) (hy : ∀ c ∈ y.head?, ¬ P c)
    (h : u ++ x = v ++ y) : u = v ∧ x = y := by
  induction u generalizing v with
  | nil =>
    cases v with
    | nil => exact ⟨rfl, h⟩
    | cons d v =>
      -- the other run would have to stop where this one goes on
      have hd : d ∈ x.head? := by
        rw [List.nil_append] at h
        rw [h]
        rfl
      exact absurd (hv d List.mem_cons_self) (hx d hd)
  | cons c u ih =>
    cases v with
    | nil =>
      have hc : c ∈ y.head? := by
        rw [List.nil_append] at h
        rw [← h]
        rfl
      exact absurd (hu c List.mem_cons_self) (hy c hc)
    | cons d v =>
      rw [List.cons_append, List.cons_append, List.cons.injEq] at h
      obtain ⟨rfl, h⟩ := h
      obtain ⟨rfl, hrest⟩ := ih (fun a ha => hu a (List.mem_cons_of_mem c ha))
        (fun a ha => hv a (List.mem_cons_of_mem c ha)) h
      exact ⟨rfl, hrest⟩

/-- Blocks that begin with a blank and can be told apart follow each other up to where no blank
stands. -/
lemma flatMap_append_inj {α β : Type} {P : α → Prop} {f : α → List Char} {view : α → β}
    (hblank : ∀ a, (f a).head? = some ' ')
    (hblock : ∀ a b x y, P a → P b → f a ++ x = f b ++ y → view a = view b ∧ x = y)
    {l m : List α} (hl : ∀ a ∈ l, P a) (hm : ∀ a ∈ m, P a) {x y : List Char}
    (hx : x.head? ≠ some ' ') (hy : y.head? ≠ some ' ') (h : l.flatMap f ++ x = m.flatMap f ++ y) :
    l.map view = m.map view ∧ x = y := by
  have hstart : ∀ (a : α) (rest : List α) (z : List Char),
      ((a :: rest).flatMap f ++ z).head? = some ' ' := by
    intro a rest z
    rw [List.flatMap_cons, List.append_assoc, List.head?_append, hblank]
    rfl
  induction l generalizing m with
  | nil =>
    cases m with
    | nil => exact ⟨rfl, h⟩
    | cons b m =>
      have hblanks := hstart b m y
      rw [← h, List.flatMap_nil, List.nil_append] at hblanks
      exact absurd hblanks hx
  | cons a l ih =>
    cases m with
    | nil =>
      have hblanks := hstart a l x
      rw [h, List.flatMap_nil, List.nil_append] at hblanks
      exact absurd hblanks hy
    | cons b m =>
      rw [List.flatMap_cons, List.flatMap_cons, List.append_assoc, List.append_assoc] at h
      obtain ⟨hview, hrest⟩ := hblock a b _ _ (hl a List.mem_cons_self) (hm b List.mem_cons_self) h
      obtain ⟨hviews, hend⟩ := ih (fun c hc => hl c (List.mem_cons_of_mem a hc))
        (fun c hc => hm c (List.mem_cons_of_mem b hc)) hrest
      exact ⟨congrArg₂ List.cons hview hviews, hend⟩

/-! ### Names -/

def IsName (s : String) : Prop := isName s.toList = true

instance (s : String) : Decidable (IsName s) := inferInstanceAs (Decidable (_ = true))

lemma IsName.isNameChar {s : String} (h : IsName s) {c : Char} (hc : c ∈ s.toList) :
    isNameChar c = true := by
  unfold IsName at h
  cases hs : s.toList with
  | nil => rw [hs] at hc; cases hc
  | cons d rest =>
    rw [hs] at h hc
    simp only [isName, Bool.and_eq_true, List.all_eq_true] at h
    rcases List.mem_cons.mp hc with rfl | hc
    · rw [Markup.isNameChar, h.1, Bool.true_or]
    · exact h.2 c hc

lemma stop_cons {c : Char} (hc : isNameChar c = false) {x : List Char} :
    ∀ d ∈ (c :: x).head?, isNameChar d = false := by
  rintro d hd
  rwa [← Option.some.inj hd]

/-- Names end where no character of a name follows. -/
lemma IsName.append_inj {s t : String} (hs : IsName s) (ht : IsName t) {x y : List Char}
    (hx : ∀ c ∈ x.head?, Markup.isNameChar c = false)
    (hy : ∀ c ∈ y.head?, Markup.isNameChar c = false) (h : s.toList ++ x = t.toList ++ y) :
    s = t ∧ x = y := by
  obtain ⟨hst, hxy⟩ := append_inj_of_stop (P := fun c => Markup.isNameChar c = true)
    (fun c hc => hs.isNameChar hc) (fun c hc => ht.isNameChar hc)
    (fun c hc => by simp [hx c hc]) (fun c hc => by simp [hy c hc]) h
  exact ⟨String.toList_injective hst, hxy⟩

/-! ### Fields -/

/-- What a tag holds behind its name: a declaration or an attribute. -/
@[ext] structure Field where
  pre : String
  name : String
  value : String

def Declaration.field (d : Declaration) : Field := ⟨"xmlns", d.1, d.2⟩

def Attribute.field (a : Attribute) : Field := ⟨a.pre, a.name.localName, a.value⟩

namespace Field

def chars (f : Field) : List Char :=
  ' ' :: (f.pre.toList ++ ':' :: (f.name.toList ++
    '=' :: '"' :: (f.value.toList.flatMap attributeChar ++ ['"'])))

structure Plain (f : Field) : Prop where
  pre : IsName f.pre
  name : IsName f.name

lemma chars_append_inj {f g : Field} (hf : f.Plain) (hg : g.Plain) {x y : List Char}
    (h : f.chars ++ x = g.chars ++ y) : f = g ∧ x = y := by
  simp only [chars, List.cons_append, List.append_assoc, List.cons.injEq, true_and] at h
  obtain ⟨hpre, h⟩ := hf.pre.append_inj hg.pre (stop_cons (by decide)) (stop_cons (by decide)) h
  obtain ⟨hname, h⟩ := hf.name.append_inj hg.name (stop_cons (by decide)) (stop_cons (by decide))
    (List.cons.inj h).2
  simp only [List.nil_append, List.cons.injEq, true_and] at h
  obtain ⟨hwritten, hrest⟩ :=
    append_inj_of_stop (ne_of_mem_flatMap quote_not_mem_attributeChar)
      (ne_of_mem_flatMap quote_not_mem_attributeChar) (by simp) (by simp) h
  have hvalue : f.value = g.value :=
    String.toList_injective (flatMap_injective readChar_attributeChar hwritten)
  exact ⟨Field.ext hpre hname hvalue, (List.cons.inj hrest).2⟩

lemma flatMap_chars_append_inj {fs gs : List Field} (hfs : ∀ f ∈ fs, f.Plain)
    (hgs : ∀ g ∈ gs, g.Plain) {x y : List Char} (hx : x.head? ≠ some ' ')
    (hy : y.head? ≠ some ' ') (h : fs.flatMap chars ++ x = gs.flatMap chars ++ y) :
    fs = gs ∧ x = y := by
  have hblocks : fs.map id = gs.map id ∧ x = y :=
    flatMap_append_inj (fun _ => rfl) (fun f g x y hf hg h => chars_append_inj hf hg h) hfs hgs
      hx hy h
  rwa [List.map_id, List.map_id] at hblocks

/-- A name ends before fields, and where it would end without them. -/
lemma stop_flatMap_chars (fs : List Field) {x : List Char}
    (hx : ∀ d ∈ x.head?, isNameChar d = false) :
    ∀ d ∈ (fs.flatMap chars ++ x).head?, isNameChar d = false := by
  cases fs with
  | nil => exact hx
  | cons f rest => exact stop_cons (by decide)

end Field

lemma Declaration.field_injective : Function.Injective Declaration.field := by
  rintro ⟨p, u⟩ ⟨p', u'⟩ h
  cases h
  rfl

lemma toList_declaration (d : Declaration) : d.written.toList = d.field.chars := by
  simp [Declaration.written, Declaration.field, Field.chars, writtenAttribute]

lemma toList_attribute (a : Attribute) : a.written.toList = a.field.chars := by
  simp [Attribute.written, Attribute.field, Field.chars, writtenAttribute, tagName]

/-! ### Elements -/

namespace Element

def fields (e : Element) : List Field :=
  e.declarations.map Declaration.field ++ e.attributes.map Attribute.field

/-- A prefix, and names wherever names are written. -/
structure Plain (e : Element) : Prop where
  pre : ∃ p, e.pre = some p ∧ IsName p
  localName : IsName e.name.localName
  fields : ∀ f ∈ e.fields, f.Plain

/-- All that is written of an element. -/
def visible (e : Element) : Option String × String × List Field × String :=
  (e.pre, e.name.localName, e.fields, e.text)

lemma toList_written {e : Element} {p : String} (h : e.pre = some p) : e.written.toList =
    '<' :: (p.toList ++ ':' :: (e.name.localName.toList ++ (e.fields.flatMap Field.chars ++
      '>' :: (e.text.toList.flatMap textChar ++
        '<' :: '/' :: (p.toList ++ ':' :: (e.name.localName.toList ++ ['>'])))))) := by
  simp [written, h, tagName, fields, String.toList_join, List.flatMap_map, toList_declaration,
    toList_attribute, writtenText]

lemma written_append_inj {e e' : Element} (he : e.Plain) (he' : e'.Plain) {x y : List Char}
    (h : e.written.toList ++ x = e'.written.toList ++ y) : e.visible = e'.visible ∧ x = y := by
  obtain ⟨p, hp, hpname⟩ := he.pre
  obtain ⟨p', hp', hpname'⟩ := he'.pre
  rw [toList_written hp, toList_written hp'] at h
  simp only [List.cons_append, List.append_assoc, List.cons.injEq, true_and] at h
  obtain ⟨rfl, h⟩ := hpname.append_inj hpname' (stop_cons (by decide)) (stop_cons (by decide)) h
  obtain ⟨hname, h⟩ := he.localName.append_inj he'.localName
    (Field.stop_flatMap_chars _ (stop_cons (by decide)))
    (Field.stop_flatMap_chars _ (stop_cons (by decide))) (List.cons.inj h).2
  obtain ⟨hfields, h⟩ := Field.flatMap_chars_append_inj he.fields he'.fields (by simp) (by simp) h
  obtain ⟨hwritten, h⟩ := append_inj_of_stop (ne_of_mem_flatMap lt_not_mem_textChar)
    (ne_of_mem_flatMap lt_not_mem_textChar) (by simp) (by simp) (List.cons.inj h).2
  have htext : e.text = e'.text :=
    String.toList_injective (flatMap_injective readChar_textChar hwritten)
  rw [hname] at h
  refine ⟨?_, ?_⟩
  · rw [visible, visible, hp, hp', hname, hfields, htext]
  · simpa using h

def line (e : Element) : List Char := ' ' :: ' ' :: (e.written.toList ++ ['\n'])

lemma flatMap_line_append_inj {es es' : List Element} (hes : ∀ e ∈ es, e.Plain)
    (hes' : ∀ e ∈ es', e.Plain) {x y : List Char} (hx : x.head? ≠ some ' ')
    (hy : y.head? ≠ some ' ') (h : es.flatMap line ++ x = es'.flatMap line ++ y) :
    es.map visible = es'.map visible ∧ x = y := by
  refine flatMap_append_inj (fun _ => rfl) (fun e e' x y he he' h => ?_) hes hes' hx hy h
  simp only [line, List.cons_append, List.append_assoc, List.cons.injEq, true_and] at h
  obtain ⟨hvisible, h⟩ := written_append_inj he he' h
  exact ⟨hvisible, by simpa using h⟩

end Element

/-! ### Trees -/

namespace Tree

structure Plain (t : Tree) : Prop where
  pre : IsName t.pre
  localName : IsName t.name.localName
  declarations : ∀ d ∈ t.declarations, IsName d.1
  children : ∀ e ∈ t.children, e.Plain

def closing (t : Tree) : List Char :=
  if t.children = [] then ['/', '>', '\n']
  else '>' :: '\n' :: (t.children.flatMap Element.line ++
    '<' :: '/' :: (t.pre.toList ++ ':' :: (t.name.localName.toList ++ ['>', '\n'])))

lemma toList_written (t : Tree) : t.written.toList =
    '<' :: (t.pre.toList ++ ':' :: (t.name.localName.toList ++
      ((t.declarations.map Declaration.field).flatMap Field.chars ++ t.closing))) := by
  unfold written closing
  dsimp only
  split
  · simp [tagName, String.toList_join, List.flatMap_map, toList_declaration]
  · simp [tagName, String.toList_join, List.flatMap_map, toList_declaration]
    rfl

lemma head?_closing (t : Tree) : t.closing.head? = some '/' ∨ t.closing.head? = some '>' := by
  unfold closing
  split
  · exact Or.inl rfl
  · exact Or.inr rfl

lemma stop_closing (t : Tree) : ∀ d ∈ t.closing.head?, isNameChar d = false := by
  intro d hd
  rcases t.head?_closing with h | h <;> rw [h] at hd <;> cases hd <;> decide

lemma closing_inj {t t' : Tree} (ht : t.Plain) (ht' : t'.Plain) (h : t.closing = t'.closing) :
    t.children.map Element.visible = t'.children.map Element.visible := by
  unfold closing at h
  -- a tree without children closes at once, and no tag with children is written so
  split at h <;> split at h
  · rename_i hnil hnil'
    rw [hnil, hnil']
  · cases h
  · cases h
  · simp only [List.cons.injEq, true_and] at h
    exact (Element.flatMap_line_append_inj ht.children ht'.children (by simp) (by simp) h).1

/-- **Written trees read one way**: the text of a tree tells its prefix, its declarations and all
that is written of its children. -/
lemma written_inj {t t' : Tree} (ht : t.Plain) (ht' : t'.Plain) (h : t.written = t'.written) :
    t.pre = t'.pre ∧ t.declarations = t'.declarations ∧
      t.children.map Element.visible = t'.children.map Element.visible := by
  have hchars : t.written.toList = t'.written.toList := congrArg String.toList h
  rw [toList_written, toList_written, List.cons.injEq] at hchars
  have hplain : ∀ {t : Tree}, t.Plain → ∀ f ∈ t.declarations.map Declaration.field, f.Plain := by
    intro t ht f hf
    obtain ⟨d, hd, rfl⟩ := List.mem_map.mp hf
    exact ⟨(by decide : IsName "xmlns"), ht.declarations d hd⟩
  have hblank : ∀ t : Tree, t.closing.head? ≠ some ' ' := by
    intro t
    rcases t.head?_closing with h | h <;> rw [h] <;> decide
  obtain ⟨hpre, hrest⟩ := ht.pre.append_inj ht'.pre (stop_cons (by decide)) (stop_cons (by decide))
    hchars.2
  obtain ⟨-, hrest⟩ := ht.localName.append_inj ht'.localName
    (Field.stop_flatMap_chars _ t.stop_closing) (Field.stop_flatMap_chars _ t'.stop_closing)
    (List.cons.inj hrest).2
  obtain ⟨hfields, hclosing⟩ := Field.flatMap_chars_append_inj (hplain ht) (hplain ht') (hblank t)
    (hblank t') hrest
  exact ⟨hpre, List.map_injective_iff.mpr Declaration.field_injective hfields,
    closing_inj ht ht' hclosing⟩

end Tree

end MetadataBag.Markup
