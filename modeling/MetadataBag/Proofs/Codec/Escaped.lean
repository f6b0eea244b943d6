import Mathlib.Data.List.Infix
import MetadataBag.Proofs.Codec.SinglePass

/-!
Which texts are escaped. What the markup codec writes has no special characters but ampersands that
begin an entity, and every such text is written for some other text. So writing undoes reading on
exactly these texts.
-/

namespace MetadataBag.Codec

def brackets : List Char := ['>', '<', '"', '\'']

def entityTexts : List String := ["&amp;", "&gt;", "&lt;", "&quot;", "&apos;"]

/-- None of the special characters but the ampersand, and that only at the start of an entity. -/
def Escaped (t : List Char) : Prop :=
  (∀ c ∈ brackets, c ∉ t) ∧
    ∀ rest, '&' :: rest <:+ t → ∃ e ∈ entityTexts, e.toList <+: '&' :: rest

lemma suffix_of_suffix_append {a : Char} {l rest t : List Char} (ha : a ∉ l)
    (h : a :: rest <:+ l ++ t) : a :: rest <:+ t := by
  induction l with
  | nil => exact h
  | cons b l ih =>
    rw [List.mem_cons, not_or] at ha
    rcases List.suffix_cons_iff.mp h with heq | hsuffix
    · exact absurd (List.cons.inj heq).1 ha.1
    · exact ih ha.2 hsuffix

namespace Escaped

variable {t : List Char}

lemma nil : Escaped [] := by
  refine ⟨by simp, fun rest h => ?_⟩
  cases List.suffix_nil.mp h

lemma of_append {l : List Char} (h : Escaped (l ++ t)) : Escaped t :=
  ⟨fun c hc hm => h.1 c hc (List.mem_append_right l hm),
    fun rest hrest => h.2 rest (hrest.trans (List.suffix_append l t))⟩

lemma append {l : List Char} (hamp : '&' ∉ l) (hl : ∀ c ∈ brackets, c ∉ l) (ht : Escaped t) :
    Escaped (l ++ t) := by
  refine ⟨fun c hc hm => ?_, fun rest hrest => ?_⟩
  · rcases List.mem_append.mp hm with hm | hm
    · exact hl c hc hm
    · exact ht.1 c hc hm
  · exact ht.2 rest (suffix_of_suffix_append hamp hrest)

lemma entity_append {e : String} (he : e ∈ entityTexts) (ht : Escaped t) :
    Escaped (e.toList ++ t) := by
  -- of an entity only the first character is an ampersand, and no bracket is in it
  have hbody : ∀ e ∈ entityTexts, e.toList = '&' :: e.toList.tail ∧
      '&' ∉ e.toList.tail ∧ (brackets.all fun c => c ∉ e.toList.tail) = true := by decide
  obtain ⟨hhead, hamp, htail⟩ := hbody e he
  have hrest : Escaped (e.toList.tail ++ t) :=
    ht.append hamp fun c hc => of_decide_eq_true (List.all_eq_true.mp htail c hc)
  rw [hhead, List.cons_append]
  refine ⟨fun c hc hm => ?_, fun rest hsuffix => ?_⟩
  · rcases List.mem_cons.mp hm with rfl | hm
    · exact absurd hc (by decide)
    · exact hrest.1 c hc hm
  · rcases List.suffix_cons_iff.mp hsuffix with heq | hsuffix
    · refine ⟨e, he, ?_⟩
      rw [heq, ← List.cons_append, ← hhead]
      exact List.prefix_append _ _
    · exact hrest.2 rest hsuffix

end Escaped

/-! ### Characters -/

lemma exists_escape_iff {c : Char} : (∃ x ∈ escapes, x.1 = c) ↔ c ∈ '&' :: brackets := by
  have hkeys : '&' :: brackets = escapes.map Prod.fst := rfl
  rw [hkeys, List.mem_map]

lemma escapeChar_of_mem {c : Char} (h : c ∈ '&' :: brackets) :
    ∃ e ∈ entityTexts, escapeChar c = e.toList := by
  have hall : ∀ x ∈ escapes, ∃ e ∈ entityTexts, escapeChar x.1 = e.toList := by decide
  obtain ⟨x, hx, rfl⟩ := exists_escape_iff.mpr h
  exact hall x hx

lemma escapeChar_of_not_mem {c : Char} (h : c ∉ '&' :: brackets) : escapeChar c = [c] :=
  escapeChar_eq_self fun x hx heq => h (exists_escape_iff.mp ⟨x, hx, heq⟩)

lemma exists_escapeChar_eq_entity {e : String} (h : e ∈ entityTexts) :
    ∃ c, escapeChar c = e.toList := by
  have hall : ∀ e ∈ entityTexts, ∃ x ∈ escapes, escapeChar x.1 = e.toList := by decide
  obtain ⟨x, -, hx⟩ := hall e h
  exact ⟨x.1, hx⟩

lemma escapeChar_ne_nil (c : Char) : escapeChar c ≠ [] := by
  by_cases h : c ∈ '&' :: brackets
  · have hall : ∀ x ∈ escapes, escapeChar x.1 ≠ [] := by decide
    obtain ⟨x, hx, rfl⟩ := exists_escape_iff.mpr h
    exact hall x hx
  · rw [escapeChar_of_not_mem h]
    exact List.cons_ne_nil c []

namespace Escaped

variable {t : List Char}

lemma escapeChar_append (c : Char) (ht : Escaped t) : Escaped (escapeChar c ++ t) := by
  by_cases h : c ∈ '&' :: brackets
  · obtain ⟨e, he, heq⟩ := escapeChar_of_mem h
    rw [heq]
    exact ht.entity_append he
  · rw [escapeChar_of_not_mem h]
    rw [List.mem_cons, not_or] at h
    refine ht.append (fun hm => h.1 (List.mem_singleton.mp hm).symm) fun d hd hm => h.2 ?_
    rwa [← List.mem_singleton.mp hm]

/-- An escaped text begins with a character in its written form. -/
lemma exists_escapeChar_append (h : Escaped t) (hne : t ≠ []) :
    ∃ c u, t = escapeChar c ++ u := by
  obtain ⟨a, rest, rfl⟩ := List.exists_cons_of_ne_nil hne
  -- an ampersand begins an entity, any other character stands for itself
  by_cases ha : a = '&'
  · subst ha
    obtain ⟨e, he, u, hu⟩ := h.2 rest (List.suffix_refl _)
    obtain ⟨c, hc⟩ := exists_escapeChar_eq_entity he
    exact ⟨c, u, by rw [hc, hu]⟩
  · have hplain : a ∉ '&' :: brackets := by
      rw [List.mem_cons, not_or]
      exact ⟨ha, fun hm => h.1 a hm List.mem_cons_self⟩
    exact ⟨a, rest, by rw [escapeChar_of_not_mem hplain]; rfl⟩

end Escaped

/-! ### Texts -/

lemma escaped_escapeMarkup (t : List Char) : Escaped (escapeMarkup t) := by
  rw [escapeMarkup_eq_flatMap]
  induction t with
  | nil => exact Escaped.nil
  | cons c rest ih =>
    rw [List.flatMap_cons]
    exact ih.escapeChar_append c

/-- Every escaped text is written for some text. -/
lemma Escaped.exists_escapeMarkup {t : List Char} (h : Escaped t) : ∃ x, t = escapeMarkup x := by
  induction hn : t.length using Nat.strongRecOn generalizing t with
  | ind n ih =>
  subst hn
  by_cases hne : t = []
  · exact ⟨[], by rw [hne]; rfl⟩
  obtain ⟨c, u, rfl⟩ := h.exists_escapeChar_append hne
  have hshort : u.length < (escapeChar c ++ u).length := by
    have hpos := List.length_pos_iff.mpr (escapeChar_ne_nil c)
    rw [List.length_append]
    omega
  obtain ⟨x, rfl⟩ := ih u.length hshort h.of_append rfl
  exact ⟨c :: x, by simp only [escapeMarkup_eq_flatMap, List.flatMap_cons]⟩

lemma escapeMarkup_unescapeMarkup_iff (t : List Char) :
    escapeMarkup (unescapeMarkup t) = t ↔ Escaped t := by
  constructor
  · intro h
    rw [← h]
    exact escaped_escapeMarkup _
  · intro h
    obtain ⟨x, rfl⟩ := h.exists_escapeMarkup
    rw [unescapeMarkup_escapeMarkup]

/-- **Codecs lose nothing**, whatever name they are asked for by. The markup codec writes escaped
texts only, and what it has read it writes as it was exactly if that was escaped. -/
theorem codec_round_trip (name : String) :
    (∀ s, (ofName name).unescape ((ofName name).escape s) = s) ∧
    Function.Injective (ofName name).escape ∧
    (∀ s, Escaped (markup.escape s).toList) ∧
    ∀ s, markup.escape (markup.unescape s) = s ↔ Escaped s.toList := by
  refine ⟨unescape_escape _, Function.LeftInverse.injective (unescape_escape _), fun s => ?_,
    fun s => ?_⟩
  · rw [escape, String.toList_ofList]
    exact escaped_escapeMarkup s.toList
  · rw [escape, unescape, ← String.toList_inj, String.toList_ofList, String.toList_ofList,
      escapeMarkup_unescapeMarkup_iff]

end MetadataBag.Codec
