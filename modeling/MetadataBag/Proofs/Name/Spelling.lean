import Mathlib.Data.List.Count
import MetadataBag.Proofs.Registry.Resolution
import MetadataBag.Proofs.Registry.Extension

/-!
Names and the keys that they are read from. A key is spelled again by the name that it is read as,
unless it opens with its only colon, which is lost; and a name is read again from its spelling
exactly if the spelling shows where the prefix ends. So what a key defines is found under the key
exactly if the key is not one of those that lose their colon.
-/

namespace MetadataBag

namespace Name

/-- A colon, and behind it a text without colons. -/
def OpensWithColon (key : String) : Prop := ∃ l : String, key = ":" ++ l ∧ ':' ∉ l.toList

variable {key p l : String}

/-! ### Reading -/

lemma count_colon (p l : String) : (p ++ ":" ++ l).toList.count ':' =
    p.toList.count ':' + 1 + l.toList.count ':' := by
  rw [String.toList_append, String.toList_append, List.count_append, List.count_append]
  rfl

lemma parse_of_colon (hp : ':' ∉ p.toList) (hl : ':' ∉ l.toList) (uri : Option String) :
    parse (p ++ ":" ++ l) uri =
      { localName := l, uri, pre := if p = "" then none else some p } := by
  have hkey : (p ++ ":" ++ l).toList = p.toList ++ ':' :: l.toList := by
    simp [String.toList_append]
  have hfields : Text.fields ':' (p ++ ":" ++ l).toList = [p.toList, l.toList] := by
    rw [hkey, Text.fields_append_cons hp, Text.fields_of_not_mem hl]
  simp only [parse, hfields]
  simp

lemma parse_of_count (h : key.toList.count ':' ≠ 1) (uri : Option String) :
    parse key uri = { localName := key, uri } := by
  have hlength := Text.length_fields ':' key.toList
  unfold parse
  split
  · rename_i p l hfields
    rw [hfields] at hlength
    exact absurd (Nat.succ.inj hlength).symm h
  · rfl

lemma exists_colon (h : key.toList.count ':' = 1) :
    ∃ p l : String, key = p ++ ":" ++ l ∧ ':' ∉ p.toList ∧ ':' ∉ l.toList := by
  have hmem : ':' ∈ key.toList := List.count_pos_iff.mp (by omega)
  obtain ⟨p, l, hsplit⟩ := List.append_of_mem hmem
  have hkey : key = String.ofList p ++ ":" ++ String.ofList l := by
    rw [← String.toList_inj, hsplit]
    simp [String.toList_append]
  have hcount := count_colon (String.ofList p) (String.ofList l)
  rw [← hkey, h] at hcount
  exact ⟨_, _, hkey, List.count_eq_zero.mp (by omega), List.count_eq_zero.mp (by omega)⟩

/-! ### Spelling -/

lemma qualified_of_pre (n : ExpandedName) (hp : p ≠ "") :
    qualified { n with pre := some p } = p ++ ":" ++ n.localName := by
  simp [qualified, hp]

/-- The only colon is lost if it comes first. -/
lemma parse_of_opensWithColon (hl : ':' ∉ l.toList) (uri : Option String) :
    parse (":" ++ l) uri = { localName := l, uri } :=
  parse_of_colon (p := "") (by simp) hl uri

lemma qualified_parse (h : ¬ OpensWithColon key) (uri : Option String) :
    (parse key uri).qualified = key := by
  by_cases hcount : key.toList.count ':' = 1
  · obtain ⟨p, l, rfl, hp, hl⟩ := exists_colon hcount
    have hne : p ≠ "" := by
      rintro rfl
      exact h ⟨l, rfl, hl⟩
    rw [parse_of_colon hp hl, if_neg hne]
    exact qualified_of_pre _ hne
  · rw [parse_of_count hcount]
    rfl

lemma parse_qualified_parse (key : String) (uri : Option String) :
    parse (parse key uri).qualified uri = parse key uri := by
  by_cases h : OpensWithColon key
  · obtain ⟨l, rfl, hl⟩ := h
    have hcount : l.toList.count ':' ≠ 1 := by
      rw [List.count_eq_zero.mpr hl]
      decide
    rw [parse_of_opensWithColon hl]
    exact parse_of_count hcount uri
  · rw [qualified_parse h]

/-- Without a prefix there is no colon before the local part, and with one it is not the first. -/
lemma qualified_ne_colon (n : Name) : n.qualified ≠ ":" ++ n.localName := by
  obtain ⟨n, _ | p⟩ := n
  · exact (append_colon_ne "" n.localName).symm
  by_cases hp : p = ""
  · subst hp
    exact (append_colon_ne "" n.localName).symm
  · rw [qualified_of_pre n hp]
    intro h
    have hlength := congrArg String.length h
    simp [hp] at hlength

/-- **When a name is read again from its spelling.** -/
lemma parse_qualified_iff (n : Name) : parse n.qualified n.uri = n ↔
    (∃ p, n.pre = some p ∧ p ≠ "" ∧ ':' ∉ p.toList ∧ ':' ∉ n.localName.toList) ∨
      (n.pre = none ∧ n.localName.toList.count ':' ≠ 1) := by
  obtain ⟨⟨l, uri⟩, pre⟩ := n
  rcases pre with _ | p
  · have hspelled : qualified ⟨⟨l, uri⟩, none⟩ = l := rfl
    rw [hspelled]
    constructor
    · intro h
      refine Or.inr ⟨rfl, fun hcount => ?_⟩
      obtain ⟨p, l, rfl, hp, hl⟩ := exists_colon hcount
      rw [parse_of_colon hp hl] at h
      exact append_colon_ne p l (congrArg (·.localName) h).symm
    · rintro (⟨p, hp, -⟩ | ⟨-, hcount⟩)
      · cases hp
      · exact parse_of_count hcount uri
  · by_cases hp : p = ""
    · -- an empty prefix is spelled, and is never read
      subst hp
      have hunread : parse (qualified ⟨⟨l, uri⟩, some ""⟩) uri ≠ ⟨⟨l, uri⟩, some ""⟩ :=
        fun h => pre_parse_ne_empty _ _ (congrArg Name.pre h)
      simp [hunread]
    · have hspelled : qualified ⟨⟨l, uri⟩, some p⟩ = p ++ ":" ++ l := qualified_of_pre ⟨l, uri⟩ hp
      rw [hspelled]
      constructor
      · intro h
        have hcount : (p ++ ":" ++ l).toList.count ':' = 1 := by
          by_contra hcount
          rw [parse_of_count hcount] at h
          cases congrArg Name.pre h
        rw [count_colon] at hcount
        have hp' : ':' ∉ p.toList := List.count_eq_zero.mp (by omega)
        have hl : ':' ∉ l.toList := List.count_eq_zero.mp (by omega)
        exact Or.inl ⟨p, rfl, hp, hp', hl⟩
      · rintro (⟨q, hq, -, hq', hl⟩ | ⟨hnone, -⟩)
        · cases hq
          rw [parse_of_colon hq' hl, if_neg hp]
        · cases hnone

end Name

/-! ### Looking up -/

variable {r r' : Registry} {f : Factory} {p : Property} {key : String} {uri : Option String}

lemma Factory.define_ok (h : f.define r key uri = .ok (r', p)) :
    p = f.property key uri ∧ r.register p = .ok r' := by
  unfold Factory.define at h
  dsimp only at h
  rcases hr : r.register (f.property key uri) with e | r''
  · rw [hr] at h
    cases h
  · rw [hr] at h
    cases h
    exact ⟨rfl, hr⟩

lemma Factory.found_iff (h : f.define r key uri = .ok (r', p)) :
    (∃ q, r'.get? key = some q ∧ q.same p = true) ↔ ¬ Name.OpensWithColon key := by
  obtain ⟨rfl, hregister⟩ := Factory.define_ok h
  have hname : (f.property key uri).displayName = (Name.parse key uri).qualified := rfl
  constructor
  · rintro ⟨q, hq, hsame⟩ ⟨l, rfl, hl⟩
    have hlocal : q.name.localName = l := by
      have hparsed : (f.property (":" ++ l) uri).name = { localName := l, uri } :=
        Name.parse_of_opensWithColon hl uri
      rw [Property.toExpandedName_eq_of_same hsame, hparsed]
    -- what stands under the key is spelled as the key and has its local part: no name does both
    have hspelled : q.name.qualified = ":" ++ l := Registry.displayName_of_get? hq
    exact q.name.qualified_ne_colon (hlocal ▸ hspelled)
  · intro hopens
    rw [Name.qualified_parse hopens] at hname
    exact ⟨_, by rw [Registry.get?_of_register hregister, if_pos hname], Property.same_refl _⟩

/-- **Keys survive reading and spelling.** A key is spelled as it was, or without its only colon if
it opens with that, and its spelling is read as the same name. Any name is read again from its
spelling, prefix included, exactly if it has a prefix and no further colon, or no prefix and not
just one colon. At any moment of a registry's history, what is defined by a key is found under the
key exactly if the key does not lose its colon. -/
theorem keys_survive_spelling (calls : List Registry.Call) :
    (∀ (key : String) (uri : Option String),
      (¬ Name.OpensWithColon key → (Name.parse key uri).qualified = key) ∧
      (∀ l, key = ":" ++ l → ':' ∉ l.toList → (Name.parse key uri).qualified = l) ∧
      Name.parse (Name.parse key uri).qualified uri = Name.parse key uri) ∧
    (∀ n : Name, Name.parse n.qualified n.uri = n ↔
      (∃ p, n.pre = some p ∧ p ≠ "" ∧ ':' ∉ p.toList ∧ ':' ∉ n.localName.toList) ∨
        (n.pre = none ∧ n.localName.toList.count ':' ≠ 1)) ∧
    ∀ (f : Factory) (key : String) (uri : Option String) (r : Registry) (p : Property),
      f.define (Registry.after calls) key uri = .ok (r, p) →
        ((∃ q, r.get? key = some q ∧ q.same p = true) ↔ ¬ Name.OpensWithColon key) := by
  refine ⟨fun key uri => ⟨fun h => Name.qualified_parse h uri, ?_, ?_⟩, Name.parse_qualified_iff,
    fun f key uri r p h => Factory.found_iff h⟩
  · rintro l rfl hl
    rw [Name.parse_of_opensWithColon hl]
    rfl
  · exact Name.parse_qualified_parse key uri

/-- A key that loses its colon, and one with two colons. -/
theorem keys_survive_spelling_pages :
    (Name.parse ":pages" (some "urn:x")).qualified = "pages" ∧
    (Name.parse "a:b:pages" (some "urn:x")).qualified = "a:b:pages" ∧
    ∃ r p, Factory.define ⟨.integer, false, false⟩ (.after []) ":pages" (some "urn:x") =
        .ok (r, p) ∧ ¬ ∃ q, r.get? ":pages" = some q ∧ q.same p = true := by
  obtain ⟨hkeys, -, hfound⟩ := keys_survive_spelling []
  have hopens : Name.OpensWithColon ":pages" := ⟨"pages", rfl, by decide⟩
  have htwo : ¬ Name.OpensWithColon "a:b:pages" := by
    rintro ⟨l, hl, -⟩
    have hhead := congrArg (·.toList.head?) hl
    simp at hhead
  obtain ⟨⟨r, p⟩, hdefined⟩ : ∃ d,
      Factory.define ⟨.integer, false, false⟩ (.after []) ":pages" (some "urn:x") = .ok d :=
    ⟨_, rfl⟩
  refine ⟨(hkeys _ _).2.1 "pages" rfl (by decide), (hkeys _ _).1 htwo, r, p, hdefined, ?_⟩
  rw [hfound _ _ _ _ _ hdefined]
  exact not_not.mpr hopens

end MetadataBag
