import Mathlib.Data.List.Induction
import MetadataBag.Proofs.Codec.SinglePass

/-!
Where the characters of a decoded text come from. With a mark on every character that a replacement
has made, the replacements back do what they do without marks, and none of them ever meets a marked
character: no entity comes to be by decoding, so every one that is replaced has stood in the text
from the start.
-/

namespace MetadataBag.Codec

/-- A character of a text, and whether a replacement has made it. -/
structure Traced where
  char : Char
  made : Bool
  deriving DecidableEq

def marked (made : Bool) (t : List Char) : List Traced := t.map (⟨·, made⟩)

@[simp] lemma map_char_marked (made : Bool) (t : List Char) :
    (marked made t).map Traced.char = t := by
  rw [marked, List.map_map]
  exact List.map_id t

/-- `replaceFrom`, where the characters of the image are marked and all others stay as they are. -/
def traceFrom (pat image : List Char) : Nat → List Traced → List Traced
  | _, [] => []
  | skip + 1, _ :: rest => traceFrom pat image skip rest
  | 0, c :: rest =>
    if pat.isPrefixOf ((c :: rest).map Traced.char) then
      marked true image ++ traceFrom pat image (pat.length - 1) rest
    else c :: traceFrom pat image 0 rest

def trace (es : List (List Char × Char)) (t : List Char) : List Traced :=
  es.foldl (fun t e => traceFrom e.1 [e.2] 0 t) (marked false t)

lemma map_traceFrom (pat image : List Char) (n : Nat) (t : List Traced) :
    (traceFrom pat image n t).map Traced.char = replaceFrom pat image n (t.map Traced.char) := by
  induction t generalizing n with
  | nil => cases n <;> rfl
  | cons c rest ih =>
    cases n with
    | succ n => exact ih n
    | zero =>
      rw [List.map_cons, traceFrom, replaceFrom, List.map_cons]
      by_cases hpre : pat.isPrefixOf (c.char :: rest.map Traced.char) = true
      · rw [if_pos hpre, if_pos hpre, List.map_append, map_char_marked, ih]
      · rw [if_neg hpre, if_neg hpre, List.map_cons, ih]

/-- Without the marks it is the text after these replacements. -/
lemma map_trace (es : List (List Char × Char)) (t : List Char) :
    (trace es t).map Traced.char = es.foldl (fun t e => replaceAll e.1 [e.2] t) t := by
  -- the marks are those of any trace, so the induction is over it
  have hfold : ∀ u : List Traced,
      (es.foldl (fun t e => traceFrom e.1 [e.2] 0 t) u).map Traced.char =
        es.foldl (fun t e => replaceAll e.1 [e.2] t) (u.map Traced.char) := by
    induction es with
    | nil => exact fun _ => rfl
    | cons e es ih =>
      intro u
      rw [List.foldl_cons, List.foldl_cons, ih, map_traceFrom]
      rfl
  rw [trace, hfold, map_char_marked]

lemma mem_traceFrom {pat image : List Char} {n : Nat} {t : List Traced} {c : Traced}
    (h : c ∈ traceFrom pat image n t) : c ∈ t ∨ c.char ∈ image := by
  induction t generalizing n with
  | nil => cases n <;> cases h
  | cons d rest ih =>
    cases n with
    | succ n => exact (ih h).imp_left (List.mem_cons_of_mem d)
    | zero =>
      rw [traceFrom] at h
      split at h
      · rcases List.mem_append.mp h with h | h
        · obtain ⟨a, ha, rfl⟩ := List.mem_map.mp h
          exact Or.inr ha
        · exact (ih h).imp_left (List.mem_cons_of_mem d)
      · rcases List.mem_cons.mp h with rfl | h
        · exact Or.inl List.mem_cons_self
        · exact (ih h).imp_left (List.mem_cons_of_mem d)

/-- A marked character is the character of one of the entities that were replaced. -/
lemma exists_of_made {es : List (List Char × Char)} {t : List Char} {c : Traced}
    (h : c ∈ trace es t) (hmade : c.made = true) : ∃ e ∈ es, c.char = e.2 := by
  induction es using List.reverseRecOn with
  | nil =>
    obtain ⟨a, -, rfl⟩ := List.mem_map.mp h
    cases hmade
  | append_singleton es e ih =>
    rw [trace, List.foldl_append, List.foldl_cons, List.foldl_nil, ← trace] at h
    rcases mem_traceFrom h with h | h
    · obtain ⟨x, hx, hc⟩ := ih h
      exact ⟨x, List.mem_append_left [e] hx, hc⟩
    · exact ⟨e, by simp, List.mem_singleton.mp h⟩

/-- What a replacement meets has not been made by the ones before it, as long as no character that
they make belongs to its entity. -/
lemma not_made_of_occurrence {es : List (List Char × Char)} {e : List Char × Char}
    (hlate : ∀ x ∈ es, x.2 ∉ e.1) {t : List Char} {front occurrence back : List Traced}
    (htrace : trace es t = front ++ occurrence ++ back)
    (hchars : occurrence.map Traced.char = e.1) : ∀ c ∈ occurrence, c.made = false := by
  intro c hc
  by_contra hmade
  have hmem : c ∈ trace es t := by
    rw [htrace]
    exact List.mem_append_left back (List.mem_append_right front hc)
  obtain ⟨x, hx, heq⟩ := exists_of_made hmem (by simpa using hmade)
  refine hlate x hx ?_
  rw [← hchars, ← heq]
  exact List.mem_map_of_mem hc

/-- **Every entity is decoded once, in one pass.** Whatever the text, the replacements back are one
pass from left to right; before each of them the occurrences of its entity hold no character that
an earlier one has made. The replacements that escape write every character by itself, and so a
text in two parts part by part. -/
theorem markup_replaces_in_one_pass (s : String) :
    (markup.unescape s).toList = decodeOnce s.toList ∧
    (∀ (earlier later : List (List Char × Char)) (e : List Char × Char),
      unescapes = earlier ++ e :: later →
      (trace earlier s.toList).map Traced.char =
          earlier.foldl (fun t e => replaceAll e.1 [e.2] t) s.toList ∧
        ∀ front occurrence back, trace earlier s.toList = front ++ occurrence ++ back →
          occurrence.map Traced.char = e.1 → ∀ c ∈ occurrence, c.made = false) ∧
    (markup.escape s).toList = s.toList.flatMap escapeChar ∧
    ∀ t, markup.escape (s ++ t) = markup.escape s ++ markup.escape t := by
  have hescape : ∀ s, (markup.escape s).toList = s.toList.flatMap escapeChar := by
    intro s
    rw [escape, String.toList_ofList, escapeMarkup_eq_flatMap]
  refine ⟨?_, fun earlier later e h => ⟨map_trace earlier _, ?_⟩, hescape s, fun t => ?_⟩
  · rw [unescape, String.toList_ofList, unescapeMarkup_eq_decodeOnce]
  · intro front occurrence back htrace hchars
    have hall : unescapes.Pairwise fun a b => a.2 ∉ b.1 := by decide
    rw [h] at hall
    -- read off the table: no entity holds a character that one before it decodes to
    have hlate : ∀ x ∈ earlier, x.2 ∉ e.1 := fun x hx =>
      (List.pairwise_append.mp hall).2.2 x hx e List.mem_cons_self
    exact not_made_of_occurrence hlate htrace hchars
  · rw [← String.toList_inj, String.toList_append, hescape, hescape, hescape, String.toList_append,
      List.flatMap_append]

/-- An escaped entity beside an entity: when the ampersand's turn comes, only the first begins
with one. -/
theorem markup_replaces_in_one_pass_nested :
    (markup.unescape "&amp;lt;&lt;").toList = decodeOnce "&amp;lt;&lt;".toList ∧
    ∃ front occurrence back,
      trace (unescapes.take 4) "&amp;lt;&lt;".toList = front ++ occurrence ++ back ∧
      occurrence.map Traced.char = "&amp;".toList ∧ (∀ c ∈ occurrence, c.made = false) ∧
      (∃ c ∈ back, c.made = true) := by
  obtain ⟨hpass, hsteps, -, -⟩ := markup_replaces_in_one_pass "&amp;lt;&lt;"
  obtain ⟨-, hfresh⟩ := hsteps (unescapes.take 4) [] ("&amp;".toList, '&') rfl
  have htrace : trace (unescapes.take 4) "&amp;lt;&lt;".toList =
      [] ++ marked false "&amp;".toList ++ (marked false "lt;".toList ++ marked true ['<']) := by
    decide +kernel
  have hchars := map_char_marked false "&amp;".toList
  exact ⟨hpass, _, _, _, htrace, hchars, hfresh _ _ _ htrace hchars, ⟨'<', true⟩, by decide, rfl⟩

end MetadataBag.Codec
