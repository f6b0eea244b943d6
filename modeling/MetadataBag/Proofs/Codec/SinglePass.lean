import Mathlib.Data.List.Basic
import Mathlib.Tactic.Lemma
import MetadataBag.Codec

/-!
The markup codec in one pass. Five whole-text replacements in a row write every character by
itself, and five replacements back are one pass from left to right, since no character that an
entity is replaced by belongs to an entity that is replaced later. Hence unescaping undoes
escaping.
-/

namespace MetadataBag.Codec

/-! ### Replacing -/

lemma replaceFrom_eq_drop (pat image : List Char) (n : Nat) (t : List Char) :
    replaceFrom pat image n t = replaceAll pat image (t.drop n) := by
  induction t generalizing n with
  | nil => cases n <;> simp [replaceAll, replaceFrom]
  | cons c rest ih =>
    cases n with
    | zero => rfl
    | succ n => rw [replaceFrom, ih, List.drop_succ_cons]

lemma replaceAll_nil (pat image : List Char) : replaceAll pat image [] = [] := by
  simp [replaceAll, replaceFrom]

lemma replaceAll_append {pat : List Char} (hpat : pat ≠ []) (image rest : List Char) :
    replaceAll pat image (pat ++ rest) = image ++ replaceAll pat image rest := by
  obtain ⟨c, body, rfl⟩ := List.exists_cons_of_ne_nil hpat
  have hpre : (c :: body).isPrefixOf (c :: (body ++ rest)) = true := by
    rw [List.isPrefixOf_iff_prefix]
    exact ⟨rest, rfl⟩
  rw [List.cons_append, replaceAll, replaceFrom, if_pos hpre, replaceFrom_eq_drop]
  simp

lemma replaceAll_cons {pat : List Char} {c : Char} {rest : List Char} (h : ¬ pat <+: c :: rest)
    (image : List Char) :
    replaceAll pat image (c :: rest) = c :: replaceAll pat image rest := by
  have hpre : ¬ pat.isPrefixOf (c :: rest) = true := by
    rwa [List.isPrefixOf_iff_prefix]
  rw [replaceAll, replaceFrom, if_neg hpre]
  rfl

/-! ### Escaping -/

lemma replaceAll_singleton (a : Char) (image t : List Char) :
    replaceAll [a] image t = t.flatMap fun c => if c = a then image else [c] := by
  induction t with
  | nil => exact replaceAll_nil _ _
  | cons c rest ih =>
    rw [List.flatMap_cons, ← ih]
    by_cases h : c = a
    · subst h
      rw [if_pos rfl]
      exact replaceAll_append (by simp) image rest
    · have hpre : ¬ [a] <+: c :: rest := by
        rw [List.cons_prefix_cons]
        exact fun hc => h hc.1.symm
      rw [if_neg h, replaceAll_cons hpre]
      rfl

lemma foldl_replaceAll (es : List (Char × List Char)) (t : List Char) :
    es.foldl (fun t e => replaceAll [e.1] e.2 t) t =
      t.flatMap fun c => es.foldl (fun t e => replaceAll [e.1] e.2 t) [c] := by
  induction es generalizing t with
  | nil => simp
  | cons e rest ih =>
    simp only [List.foldl_cons]
    -- one replacement is a flat map over characters, and flat maps compose
    rw [ih, replaceAll_singleton, List.flatMap_assoc]
    congr 1
    funext c
    rw [ih (replaceAll _ _ [c]), replaceAll_singleton, List.flatMap_singleton]

lemma escapeChar_eq_self {c : Char} (h : ∀ e ∈ escapes, e.1 ≠ c) : escapeChar c = [c] := by
  rw [escapeChar, List.find?_eq_none.mpr (by simpa using h)]
  rfl

lemma escapeMarkup_singleton (c : Char) : escapeMarkup [c] = escapeChar c := by
  by_cases h : ∃ e ∈ escapes, e.1 = c
  · obtain ⟨e, he, rfl⟩ := h
    have hall : ∀ e ∈ escapes, escapeMarkup [e.1] = escapeChar e.1 := by decide
    exact hall e he
  · push Not at h
    -- no replacement finds a character that is not special
    have hkeep : ∀ es : List (Char × List Char), (∀ e ∈ es, e.1 ≠ c) →
        es.foldl (fun t e => replaceAll [e.1] e.2 t) [c] = [c] := by
      intro es hes
      induction es with
      | nil => rfl
      | cons e rest ih =>
        have hc : ¬ c = e.1 := fun hc => hes e (by simp) hc.symm
        rw [List.foldl_cons, replaceAll_singleton, List.flatMap_singleton, if_neg hc]
        exact ih fun x hx => hes x (by simp [hx])
    rw [escapeChar_eq_self h]
    exact hkeep escapes h

/-- The replacements one after the other write every character by itself. -/
lemma escapeMarkup_eq_flatMap (t : List Char) : escapeMarkup t = t.flatMap escapeChar := by
  rw [escapeMarkup, foldl_replaceAll]
  congr 1
  funext c
  exact escapeMarkup_singleton c

/-! ### Unescaping -/

/-- An ampersand and characters that are none. -/
def IsEntity (pat : List Char) : Prop := pat.head? = some '&' ∧ '&' ∉ pat.tail

instance (pat : List Char) : Decidable (IsEntity pat) := inferInstanceAs (Decidable (_ ∧ _))

lemma IsEntity.exists_body {pat : List Char} (h : IsEntity pat) :
    ∃ body, pat = '&' :: body ∧ '&' ∉ body := by
  obtain ⟨hhead, htail⟩ := h
  exact ⟨pat.tail, (List.eq_cons_of_mem_head? hhead), htail⟩

lemma IsEntity.ne_nil {pat : List Char} (h : IsEntity pat) : pat ≠ [] := by
  rintro rfl
  cases h.1

variable {entities : List (List Char × Char)}

lemma decodeFrom_eq_drop (entities : List (List Char × Char)) (n : Nat) (t : List Char) :
    decodeFrom entities n t = decodeFrom entities 0 (t.drop n) := by
  induction t generalizing n with
  | nil => cases n <;> simp [decodeFrom]
  | cons c rest ih =>
    cases n with
    | zero => rfl
    | succ n => rw [decodeFrom, ih, List.drop_succ_cons]

lemma entityAt?_eq_none {t : List Char} :
    entityAt? entities t = none ↔ ∀ e ∈ entities, ¬ e.1 <+: t := by
  simp [entityAt?, List.isPrefixOf_iff_prefix]

lemma decodeFrom_cons {c : Char} {rest : List Char}
    (h : ∀ e ∈ entities, ¬ e.1 <+: c :: rest) :
    decodeFrom entities 0 (c :: rest) = c :: decodeFrom entities 0 rest := by
  rw [decodeFrom, entityAt?_eq_none.mpr h]

/-- Where an entity begins, the first of the table that begins there is decoded. -/
lemma decodeFrom_of_find? {e : List Char × Char} {t : List Char} (hne : e.1 ≠ [])
    (h : entities.find? (fun e => e.1.isPrefixOf t) = some e) :
    decodeFrom entities 0 t = e.2 :: decodeFrom entities 0 (t.drop e.1.length) := by
  have hpre : e.1 <+: t := List.isPrefixOf_iff_prefix.mp (by simpa using List.find?_some h)
  obtain ⟨a, body, ha⟩ := List.exists_cons_of_ne_nil hne
  obtain ⟨rest, rfl⟩ := hpre
  have hat : entityAt? entities (e.1 ++ rest) = some (e.2, e.1.length) := by
    simp [entityAt?, h]
  rw [ha, List.cons_append] at hat ⊢
  rw [decodeFrom, hat]
  simp only [List.length_cons, Nat.add_sub_cancel, List.drop_succ_cons]
  rw [decodeFrom_eq_drop entities body.length]

/-- Characters that begin no entity are copied. -/
lemma decodeFrom_copy (hent : ∀ e ∈ entities, IsEntity e.1) {l : List Char} (hl : '&' ∉ l)
    (rest : List Char) :
    decodeFrom entities 0 (l ++ rest) = l ++ decodeFrom entities 0 rest := by
  induction l with
  | nil => rfl
  | cons c l ih =>
    rw [List.cons_append, decodeFrom_cons, ih fun hm => hl (by simp [hm]), List.cons_append]
    intro e he hpre
    obtain ⟨body, hbody, -⟩ := (hent e he).exists_body
    rw [hbody, List.cons_prefix_cons] at hpre
    exact hl (List.mem_cons.mpr (Or.inl hpre.1))

/-- What stands at the front of a decoded text and is no decoded character stood there before. -/
lemma prefix_of_prefix_decodeFrom {l t : List Char} (hent : ∀ e ∈ entities, IsEntity e.1)
    (hl : ∀ e ∈ entities, e.2 ∉ l) (h : l <+: decodeFrom entities 0 t) : l <+: t := by
  induction l generalizing t with
  | nil => exact List.nil_prefix
  | cons b l ih =>
    cases t with
    | nil => simp [decodeFrom] at h
    | cons c rest =>
      rcases hf : entities.find? (fun e => e.1.isPrefixOf (c :: rest)) with _ | e
      · have hnone : entityAt? entities (c :: rest) = none := by simp [entityAt?, hf]
        rw [decodeFrom_cons (entityAt?_eq_none.mp hnone), List.cons_prefix_cons] at h
        rw [List.cons_prefix_cons]
        exact ⟨h.1, ih (fun e he hm => hl e he (by simp [hm])) h.2⟩
      · -- the front of the text would be a decoded character
        have hmem := List.mem_of_find?_eq_some hf
        rw [decodeFrom_of_find? (hent e hmem).ne_nil hf, List.cons_prefix_cons] at h
        exact absurd (List.mem_cons.mpr (Or.inl h.1.symm)) (hl e hmem)

/-! ### One more entity -/

variable {e : List Char × Char}

/-- An entity that is not in the table is copied like any other text. -/
lemma decodeFrom_append_of_none (hent : ∀ x ∈ entities, IsEntity x.1) (he : IsEntity e.1)
    {rest : List Char} (hnone : ∀ x ∈ entities, ¬ x.1 <+: e.1 ++ rest) :
    decodeFrom entities 0 (e.1 ++ rest) = e.1 ++ decodeFrom entities 0 rest := by
  obtain ⟨body, hbody, hamp⟩ := he.exists_body
  rw [hbody, List.cons_append] at hnone ⊢
  rw [decodeFrom_cons hnone, decodeFrom_copy hent hamp, List.cons_append]

/-- No entity comes to be by decoding what follows its first character. -/
lemma not_prefix_cons_decodeFrom (hent : ∀ x ∈ entities, IsEntity x.1) (he : IsEntity e.1)
    (hlate : ∀ x ∈ entities, x.2 ∉ e.1) {c : Char} {rest : List Char} (h : ¬ e.1 <+: c :: rest) :
    ¬ e.1 <+: c :: decodeFrom entities 0 rest := by
  intro hpre
  obtain ⟨body, hbody, -⟩ := he.exists_body
  rw [hbody, List.cons_prefix_cons] at h hpre
  have hbody' : ∀ x ∈ entities, x.2 ∉ body := fun x hx hm => hlate x hx (by simp [hbody, hm])
  exact h ⟨hpre.1, prefix_of_prefix_decodeFrom hent hbody' hpre.2⟩

/-- No entity begins with a character that does not belong to it. -/
lemma not_prefix_cons_of_not_mem (he : IsEntity e.1) {c : Char} (hc : c ∉ e.1)
    (rest : List Char) : ¬ e.1 <+: c :: rest := by
  intro hpre
  obtain ⟨body, hbody, -⟩ := he.exists_body
  rw [hbody, List.cons_prefix_cons] at hpre
  exact hc (by rw [hbody, hpre.1]; exact List.mem_cons_self)

/-- One more entity in the table is one more replacement over the decoded text, if no decoded
character belongs to it. -/
lemma decodeFrom_concat (hent : ∀ x ∈ entities, IsEntity x.1) (he : IsEntity e.1)
    (hlate : ∀ x ∈ entities, x.2 ∉ e.1) (t : List Char) :
    decodeFrom (entities ++ [e]) 0 t = replaceAll e.1 [e.2] (decodeFrom entities 0 t) := by
  induction hn : t.length using Nat.strongRecOn generalizing t with
  | ind n ih =>
  subst hn
  rcases t with _ | ⟨c, rest⟩
  · simp [decodeFrom, replaceAll_nil]
  rcases hf : entities.find? (fun x => x.1.isPrefixOf (c :: rest)) with _ | x
  · have hnone : ∀ x ∈ entities, ¬ x.1 <+: c :: rest := by
      simpa [List.isPrefixOf_iff_prefix] using hf
    by_cases hpre : e.1 <+: c :: rest
    · -- the new entity begins here
      have hlast : (entities ++ [e]).find? (fun x => x.1.isPrefixOf (c :: rest)) = some e := by
        rw [List.find?_append, hf]
        simp [List.isPrefixOf_iff_prefix.mpr hpre]
      obtain ⟨u, hu⟩ := hpre
      have hshort : u.length < (c :: rest).length := by
        have hpos : 0 < e.1.length := List.length_pos_iff.mpr he.ne_nil
        rw [← hu, List.length_append]
        omega
      rw [decodeFrom_of_find? he.ne_nil hlast, ← hu, List.drop_left, ih u.length hshort u rfl,
        decodeFrom_append_of_none hent he (by rwa [hu]), replaceAll_append he.ne_nil]
      rfl
    · -- none begins here
      have hall : ∀ x ∈ entities ++ [e], ¬ x.1 <+: c :: rest := by
        intro x hx
        rcases List.mem_append.mp hx with hx | hx
        · exact hnone x hx
        · rw [List.mem_singleton.mp hx]
          exact hpre
      have hstill := not_prefix_cons_decodeFrom hent he hlate hpre
      rw [decodeFrom_cons hall, decodeFrom_cons hnone, replaceAll_cons hstill,
        ih rest.length (Nat.lt_succ_self _) rest rfl]
  · -- an older entity begins here
    have hmem := List.mem_of_find?_eq_some hf
    have hold : x.1 ≠ [] := (hent x hmem).ne_nil
    have hfirst : (entities ++ [e]).find? (fun x => x.1.isPrefixOf (c :: rest)) = some x := by
      rw [List.find?_append, hf]
      rfl
    have hshort : ((c :: rest).drop x.1.length).length < (c :: rest).length := by
      have hpos : 0 < x.1.length := List.length_pos_iff.mpr hold
      rw [List.length_drop, List.length_cons]
      omega
    have hfresh := not_prefix_cons_of_not_mem he (hlate x hmem)
    rw [decodeFrom_of_find? hold hfirst, decodeFrom_of_find? hold hf,
      replaceAll_cons (hfresh _), ih _ hshort _ rfl]

lemma foldl_replaceAll_decodeFrom (es : List (List Char × Char))
    (hent : ∀ x ∈ entities ++ es, IsEntity x.1)
    (hlate : (entities ++ es).Pairwise fun a b => a.2 ∉ b.1) (t : List Char) :
    es.foldl (fun t e => replaceAll e.1 [e.2] t) (decodeFrom entities 0 t) =
      decodeFrom (entities ++ es) 0 t := by
  induction es generalizing entities with
  | nil => simp
  | cons e es ih =>
    have hsplit : entities ++ e :: es = entities ++ [e] ++ es := by simp
    rw [hsplit] at hent hlate ⊢
    have hfresh : ∀ x ∈ entities, x.2 ∉ e.1 := fun x hx =>
      (List.pairwise_append.mp (List.pairwise_append.mp hlate).1).2.2 x hx e (by simp)
    rw [List.foldl_cons, ← decodeFrom_concat (fun x hx => hent x (by simp [hx]))
      (hent e (by simp)) hfresh, ih hent hlate]

lemma decodeFrom_nil (t : List Char) : decodeFrom [] 0 t = t := by
  induction t with
  | nil => rfl
  | cons c rest ih => rw [decodeFrom_cons (by simp), ih]

/-- The replacements one after the other decode every entity once, from left to right. -/
lemma unescapeMarkup_eq_decodeOnce (t : List Char) : unescapeMarkup t = decodeOnce t := by
  have h : unescapes.foldl (fun t e => replaceAll e.1 [e.2] t) (decodeFrom [] 0 t) =
      decodeFrom ([] ++ unescapes) 0 t :=
    foldl_replaceAll_decodeFrom unescapes (by decide) (by decide) t
  rw [decodeFrom_nil] at h
  exact h

/-! ### There and back -/

lemma decodeFrom_escapeChar (c : Char) (rest : List Char) :
    decodeFrom unescapes 0 (escapeChar c ++ rest) = c :: decodeFrom unescapes 0 rest := by
  by_cases h : ∃ e ∈ escapes, e.1 = c
  · obtain ⟨e, he, rfl⟩ := h
    simp only [escapes, List.mem_cons, List.not_mem_nil, or_false] at he
    rcases he with rfl | rfl | rfl | rfl | rfl <;> rfl
  · push Not at h
    -- a character that is not special is no ampersand, so no entity begins with it
    have hamp : '&' ∉ [c] := by
      have := h ('&', "&amp;".toList) (by decide)
      simpa using this
    rw [escapeChar_eq_self h, decodeFrom_copy (by decide) hamp]
    rfl

lemma unescapeMarkup_escapeMarkup (t : List Char) : unescapeMarkup (escapeMarkup t) = t := by
  rw [unescapeMarkup_eq_decodeOnce, escapeMarkup_eq_flatMap, decodeOnce]
  induction t with
  | nil => rfl
  | cons c rest ih => rw [List.flatMap_cons, decodeFrom_escapeChar, ih]

/-- What a codec writes it reads back. -/
@[simp] lemma unescape_escape (codec : Codec) (s : String) :
    codec.unescape (codec.escape s) = s := by
  cases codec with
  | markup => simp [escape, unescape, unescapeMarkup_escapeMarkup]
  | plain => rfl

end MetadataBag.Codec
