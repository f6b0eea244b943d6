import Mathlib.Data.List.Pairwise
import MetadataBag.Proofs.Date.Canonical
import MetadataBag.Proofs.Date.Spelling

/-!
The order in which formats are tried. Two accepted formats read one text only if it ends in a
capital `Z`, which is the letter of universal time to the one and the offset zero to the other;
both place the text on the same instant, so no order of the formats reads a text differently.
-/

namespace MetadataBag

/-! ### First matches -/

section FirstMatch

variable {α β : Type} {f : α → Option β} {l l' : List α}

/-- If all answers agree, the first one is any of them. -/
lemma findSome?_eq_some_iff_of_agree
    (hagree : ∀ a ∈ l, ∀ b ∈ l, ∀ x y, f a = some x → f b = some y → x = y) {x : β} :
    l.findSome? f = some x ↔ ∃ a ∈ l, f a = some x := by
  refine ⟨List.exists_of_findSome?_eq_some, fun ⟨a, ha, hax⟩ => ?_⟩
  rcases hfirst : l.findSome? f with _ | y
  · rw [List.findSome?_eq_none_iff.mp hfirst a ha] at hax
    cases hax
  · obtain ⟨b, hb, hby⟩ := List.exists_of_findSome?_eq_some hfirst
    rw [hagree b hb a ha y x hby hax]

lemma findSome?_eq_of_agree (hmem : ∀ a, a ∈ l ↔ a ∈ l')
    (hagree : ∀ a ∈ l, ∀ b ∈ l, ∀ x y, f a = some x → f b = some y → x = y) :
    l.findSome? f = l'.findSome? f := by
  have hagree' : ∀ a ∈ l', ∀ b ∈ l', ∀ x y, f a = some x → f b = some y → x = y :=
    fun a ha b hb => hagree a ((hmem a).mpr ha) b ((hmem b).mpr hb)
  ext x
  simp only [findSome?_eq_some_iff_of_agree hagree, findSome?_eq_some_iff_of_agree hagree', hmem]

end FirstMatch

/-! ### Formats that read no text in common -/

lemma Item.read_nil (i : Item) (p : Parts) : i.read p [] = none := by
  rcases h : i.read p [] with _ | ⟨q, rest⟩
  · rfl
  · obtain ⟨x, hx, hspells⟩ := read_spells h
    exact absurd (List.append_eq_nil_iff.mp hx.symm).1 hspells.ne_nil

/-- No text is read to its end by both. -/
def Apart (is js : List Item) : Prop :=
  ∀ p q q' cs, readItems is p cs = some (q, []) → readItems js p cs = some (q', []) → False

namespace Apart

variable {is js : List Item}

lemma symm (h : Apart is js) : Apart js is := fun p q q' cs hq hq' => h p q' q cs hq' hq

lemma append_left (pre : List Item) (h : Apart is js) : Apart (pre ++ is) (pre ++ js) := by
  intro p q q' cs hq hq'
  rw [readItems_append] at hq hq'
  obtain ⟨r, hr, hrest⟩ := Option.bind_eq_some_iff.mp hq
  obtain ⟨r', hr', hrest'⟩ := Option.bind_eq_some_iff.mp hq'
  rw [hr] at hr'
  cases hr'
  exact h r.1 q q' r.2 hrest hrest'

lemma cons {i j : Item} (h : ∀ p cs, i.read p cs = none ∨ j.read p cs = none)
    (is js : List Item) : Apart (i :: is) (j :: js) := by
  intro p q q' cs hq hq'
  obtain ⟨r, hr, -⟩ := Option.bind_eq_some_iff.mp hq
  obtain ⟨r', hr', -⟩ := Option.bind_eq_some_iff.mp hq'
  rcases h p cs with hnone | hnone
  · rw [hnone] at hr
    cases hr
  · rw [hnone] at hr'
    cases hr'

lemma cons_nil (i : Item) (is : List Item) : Apart (i :: is) [] := by
  intro p q q' cs hq hq'
  cases hq'
  rw [readItems, Item.read_nil] at hq
  cases hq

/-- A format that ends where another one goes on. -/
lemma longer (pre : List Item) (i : Item) (is : List Item) : Apart (pre ++ i :: is) pre := by
  have happend := (cons_nil i is).append_left pre
  rwa [List.append_nil] at happend

end Apart

/-- Two literals that are not one letter in two cases. -/
lemma read_literal_apart {l l' : Char} (h : l.toLower ≠ l'.toLower) (p : Parts) (cs : List Char) :
    Item.read (.literal l) p cs = none ∨ Item.read (.literal l') p cs = none := by
  by_contra hboth
  simp only [not_or, ← Option.isSome_iff_ne_none, Option.isSome_iff_exists] at hboth
  obtain ⟨⟨r, hr⟩, r', hr'⟩ := hboth
  obtain ⟨x, rfl, c, rfl, hc⟩ := Item.read_spells hr
  obtain ⟨y, hy, c', rfl, hc'⟩ := Item.read_spells hr'
  obtain ⟨rfl, -⟩ := List.cons.inj hy
  exact h (hc.symm.trans hc')

lemma read_letter_blank_apart (p : Parts) (cs : List Char) :
    Item.read (.literal 'T') p cs = none ∨ Item.read .blank p cs = none := by
  by_contra hboth
  simp only [not_or, ← Option.isSome_iff_ne_none, Option.isSome_iff_exists] at hboth
  obtain ⟨⟨r, hr⟩, r', hr'⟩ := hboth
  obtain ⟨x, rfl, c, rfl, hc⟩ := Item.read_spells hr
  obtain ⟨y, hy, c', z, rfl, hblank⟩ := Item.read_spells hr'
  obtain ⟨rfl, -⟩ := List.cons.inj hy
  -- the letter would have to be blank
  have hletter := isBlank_eq_false_of_letter (toNat_of_toLower_eq (by decide) hc)
  rw [hblank c List.mem_cons_self] at hletter
  cases hletter

namespace Format

lemma read_eq_some_iff {f : Format} {cs : List Char} {x : DateTime × Option Int} :
    f.read cs = some x ↔ ∃ q, readItems f.items {} cs = some (q, []) ∧
      q.civil? = some x.1 ∧ q.offset = x.2.map some := by
  obtain ⟨civil, offset⟩ := x
  unfold read
  split
  · rename_i q hq
    have hunique : ∀ q', some (q, ([] : List Char)) = some (q', []) ↔ q' = q := by simp [eq_comm]
    simp only [hq, hunique, exists_eq_left, Option.bind_eq_bind, Option.bind_eq_some_iff]
    constructor
    · rintro ⟨c, hc, h⟩
      split at h
      · rename_i ho
        cases h
        exact ⟨hc, ho⟩
      · cases h
      · rename_i o ho
        cases h
        exact ⟨hc, ho⟩
    · rintro ⟨hc, ho⟩
      refine ⟨civil, hc, ?_⟩
      cases offset <;> simp [ho]
  · rename_i hnone
    refine iff_of_false (by simp) ?_
    rintro ⟨q, hq, -⟩
    exact hnone q hq

/-- Texts that both formats read end in a capital `Z`, and name one instant. -/
def Agree (f g : Format) : Prop :=
  ∀ cs x y, f.read cs = some x → g.read cs = some y →
    cs.getLast? = some 'Z' ∧
      ∀ zone, f.placement.instant zone x.1 x.2 = g.placement.instant zone y.1 y.2

instance : Std.Symm Agree where
  symm _ _ h cs x y hx hy := ⟨(h cs y x hy hx).1, fun zone => ((h cs y x hy hx).2 zone).symm⟩

lemma agree_of_apart {f g : Format} (h : Apart f.items g.items) : Agree f g := by
  intro cs x y hx hy
  obtain ⟨q, hq, -⟩ := read_eq_some_iff.mp hx
  obtain ⟨q', hq', -⟩ := read_eq_some_iff.mp hy
  exact (h {} q q' cs hq hq').elim

lemma read_letter_offset {p q q' : Parts} {cs : List Char}
    (hletter : readItems [.literal 'Z'] p cs = some (q, []))
    (hoffset : readItems [.offset] p cs = some (q', [])) :
    cs = ['Z'] ∧ q = p ∧ q' = { p with offset := some (some 0) } := by
  obtain ⟨⟨p₁, rest⟩, hread, hend⟩ := Option.bind_eq_some_iff.mp hletter
  obtain ⟨⟨p₂, rest'⟩, hread', hend'⟩ := Option.bind_eq_some_iff.mp hoffset
  cases hend
  cases hend'
  obtain ⟨x, rfl, c, rfl, hc⟩ := Item.read_spells hread
  have hp : p₁ = p := by
    simp only [Item.read, List.append_nil] at hread
    split at hread <;> cases hread
    rfl
  simp only [Item.read, List.append_nil] at hread'
  split at hread'
  · rename_i heq
    cases heq
    cases hread'
    exact ⟨rfl, hp, rfl⟩
  · -- a sign is no letter
    obtain ⟨⟨o, rest⟩, htext, -⟩ := Option.map_eq_some_iff.mp hread'
    obtain ⟨sign, mid, heq, hsign, -⟩ := readOffsetText_takes htext
    cases heq
    have hletter := toNat_of_toLower_eq (by decide) hc
    rcases hsign with rfl | rfl <;> exact absurd hletter (by decide)

/-- The letter of universal time, and the offset zero. -/
lemma agree_letter_offset (pre : List Item) :
    Agree ⟨pre ++ [.literal 'Z'], .universal⟩ ⟨pre ++ [.offset], .offset⟩ := by
  intro cs x y hx hy
  obtain ⟨q, hq, hcivil, -⟩ := read_eq_some_iff.mp hx
  obtain ⟨q', hq', hcivil', hoffset⟩ := read_eq_some_iff.mp hy
  simp only [readItems_append] at hq hq'
  obtain ⟨⟨p, rest⟩, hpre, hletter⟩ := Option.bind_eq_some_iff.mp hq
  obtain ⟨⟨p', rest'⟩, hpre', hzero⟩ := Option.bind_eq_some_iff.mp hq'
  rw [hpre] at hpre'
  cases hpre'
  -- all that is left of the text is the letter
  obtain ⟨rfl, rfl, rfl⟩ := read_letter_offset hletter hzero
  obtain ⟨z, rfl, -⟩ := readItems_spelled hpre
  have hsame : x.1 = y.1 := Option.some.inj (hcivil.symm.trans hcivil')
  have hy2 : y.2 = some 0 := by
    rcases hy2 : y.2 with _ | o
    · rw [hy2] at hoffset
      cases hoffset
    · rw [hy2] at hoffset
      cases hoffset
      rfl
  refine ⟨List.getLast?_concat, fun zone => ?_⟩
  rw [Placement.instant, Placement.instant, hy2, hsame]
  exact (Instant.ofOffset_eq_ok_iff.mpr (Int.sub_zero _).symm).symm

/-- The formats with one thing between date and time. -/
lemma pairwise_withTime (i : Item) : (withTime i).Pairwise Agree := by
  have hletter := agree_letter_offset (date '-' ++ [i] ++ time)
  have hplain := fun last p p' => agree_of_apart (f := ⟨date '-' ++ [i] ++ time ++ [last], p⟩)
    (g := ⟨date '-' ++ [i] ++ time, p'⟩) (Apart.longer _ last [])
  simp only [withTime, List.pairwise_cons, List.mem_cons, List.not_mem_nil, or_false,
    forall_eq_or_imp, forall_eq, IsEmpty.forall_iff, implies_true, List.Pairwise.nil, and_true]
  exact ⟨⟨hletter, hplain _ _ _⟩, hplain _ _ _⟩

lemma items_of_mem_withTime {i : Item} {f : Format} (h : f ∈ withTime i) :
    ∃ is, f.items = date '-' ++ i :: is := by
  simp only [withTime, List.mem_cons, List.not_mem_nil, or_false] at h
  rcases h with rfl | rfl | rfl
  · exact ⟨time ++ [.literal 'Z'], by simp⟩
  · exact ⟨time ++ [.offset], by simp⟩
  · exact ⟨time, by simp⟩

lemma apart_colons (is : List Item) : Apart (date '-' ++ is) (date ':') :=
  (Apart.cons (read_literal_apart (by decide)) _ _).append_left [.field .year]

lemma pairwise_accepted : accepted.Pairwise Agree := by
  have hday : ∀ i, ∀ f ∈ withTime i, ∀ g ∈ [⟨date '-', .midday⟩, ⟨date ':', .midday⟩],
      Agree f g := by
    intro i f hf g hg
    obtain ⟨is, his⟩ := items_of_mem_withTime hf
    refine agree_of_apart ?_
    rw [his]
    simp only [List.mem_cons, List.not_mem_nil, or_false] at hg
    rcases hg with rfl | rfl
    · exact Apart.longer (date '-') i is
    · exact apart_colons (i :: is)
  have htime : ∀ f ∈ withTime (.literal 'T'), ∀ g ∈ withTime .blank, Agree f g := by
    intro f hf g hg
    obtain ⟨is, his⟩ := items_of_mem_withTime hf
    obtain ⟨js, hjs⟩ := items_of_mem_withTime hg
    refine agree_of_apart ?_
    rw [his, hjs]
    exact (Apart.cons read_letter_blank_apart is js).append_left (date '-')
  have hdays : [⟨date '-', .midday⟩, ⟨date ':', .midday⟩].Pairwise Agree :=
    List.pairwise_pair.mpr (agree_of_apart (apart_colons []))
  rw [accepted, List.pairwise_append, List.pairwise_append]
  -- times of one joint, times of different joints, then days
  refine ⟨⟨pairwise_withTime _, pairwise_withTime _, htime⟩, hdays, fun f hf => ?_⟩
  rcases List.mem_append.mp hf with hf | hf
  · exact hday _ f hf
  · exact hday _ f hf

/-- Formats that differ read a text in common only if it ends in a capital `Z`, and any that read
it place it on one instant. -/
lemma instant_eq_of_read {f g : Format} (hf : f ∈ accepted) (hg : g ∈ accepted) {cs : List Char}
    {x y : DateTime × Option Int} (hx : f.read cs = some x) (hy : g.read cs = some y) :
    (f ≠ g → cs.getLast? = some 'Z') ∧
      ∀ zone, f.placement.instant zone x.1 x.2 = g.placement.instant zone y.1 y.2 := by
  by_cases hfg : f = g
  · subst hfg
    rw [hx] at hy
    cases hy
    exact ⟨fun hne => absurd rfl hne, fun _ => rfl⟩
  · obtain ⟨hlast, hinstant⟩ := pairwise_accepted.forall hf hg hfg cs x y hx hy
    exact ⟨fun _ => hlast, hinstant⟩

end Format

namespace Instant

def placed? (zone : LocalZone) (cs : List Char) (f : Format) : Option (Except Error Instant) :=
  (f.read cs).map fun r => f.placement.instant zone r.1 r.2

lemma readBy_eq (formats : List Format) (zone : LocalZone) (cs : List Char) :
    readBy formats zone cs =
      match formats.findSome? (placed? zone cs) with
      | none => .ok none
      | some x => x.map some := by
  have hplaced : formats.findSome? (placed? zone cs) =
      (formats.findSome? fun f => (f.read cs).map fun r => (f.placement, r)).map
        fun r => r.1.instant zone r.2.1 r.2.2 := by
    rw [List.map_findSome?]
    congr 1
    funext f
    rw [placed?, Function.comp_apply, Option.map_map]
    rfl
  rw [hplaced, readBy]
  cases formats.findSome? fun f => (f.read cs).map fun r => (f.placement, r) <;> rfl

lemma readBy_perm {formats : List Format} (h : formats.Perm Format.accepted) (zone : LocalZone)
    (cs : List Char) : readBy formats zone cs = readBy Format.accepted zone cs := by
  rw [readBy_eq, readBy_eq, findSome?_eq_of_agree (fun _ => h.mem_iff)]
  intro f hf g hg x y hx hy
  obtain ⟨r, hr, rfl⟩ := Option.map_eq_some_iff.mp hx
  obtain ⟨r', hr', rfl⟩ := Option.map_eq_some_iff.mp hy
  exact (Format.instant_eq_of_read (h.mem_iff.mp hf) (h.mem_iff.mp hg) hr hr').2 zone

/-- **The order of the accepted formats is free.** Whatever formats read a text, they place it on
one instant, and formats that differ read one in common only if it ends in a capital `Z`. So trying
them in any other order gives what reading gives, failures included. -/
theorem order_of_formats_is_free (zone : LocalZone) (s : String) :
    (∀ f ∈ Format.accepted, ∀ g ∈ Format.accepted, ∀ x y,
      f.read (normalizeOffset s.toList) = some x → g.read (normalizeOffset s.toList) = some y →
      f.placement.instant zone x.1 x.2 = g.placement.instant zone y.1 y.2 ∧
        (f ≠ g → (normalizeOffset s.toList).getLast? = some 'Z')) ∧
    ∀ formats : List Format, formats.Perm Format.accepted →
      readBy formats zone (normalizeOffset s.toList) = parse zone s := by
  refine ⟨fun f hf g hg x y hx hy => ?_, fun formats h => readBy_perm h zone _⟩
  obtain ⟨hlast, hinstant⟩ := Format.instant_eq_of_read hf hg hx hy
  exact ⟨hinstant zone, hlast⟩

def letterFormat : Format :=
  ⟨Format.date '-' ++ [.literal 'T'] ++ Format.time ++ [.literal 'Z'], .universal⟩

def offsetFormat : Format :=
  ⟨Format.date '-' ++ [.literal 'T'] ++ Format.time ++ [.offset], .offset⟩

def leapNight : DateTime :=
  ⟨(Date.of? 2024 2 29).get (by decide), (TimeOfDay.of? 23 59 59).get (by decide)⟩

/-- Both formats read the text, with the last format tried first as well. -/
theorem order_of_formats_is_free_leap_night :
    letterFormat.read (normalizeOffset "2024-2-29t23:59:59Z".toList) = some (leapNight, none) ∧
    offsetFormat.read (normalizeOffset "2024-2-29t23:59:59Z".toList) = some (leapNight, some 0) ∧
    (normalizeOffset "2024-2-29t23:59:59Z".toList).getLast? = some 'Z' ∧
    Format.accepted.reverse.Perm Format.accepted ∧
    readBy Format.accepted.reverse .universal (normalizeOffset "2024-2-29t23:59:59Z".toList) =
      parse .universal "2024-2-29t23:59:59Z" := by
  have hletter : letterFormat.read (normalizeOffset "2024-2-29t23:59:59Z".toList) =
      some (leapNight, none) := by
    decide +kernel
  have hoffset : offsetFormat.read (normalizeOffset "2024-2-29t23:59:59Z".toList) =
      some (leapNight, some 0) := by
    decide +kernel
  have hperm : Format.accepted.reverse.Perm Format.accepted := List.reverse_perm _
  obtain ⟨hagree, horder⟩ := order_of_formats_is_free .universal "2024-2-29t23:59:59Z"
  have hlast := (hagree letterFormat (by decide) offsetFormat (by decide) _ _ hletter hoffset).2
  exact ⟨hletter, hoffset, hlast (by decide), hperm, horder _ hperm⟩

end Instant

end MetadataBag
