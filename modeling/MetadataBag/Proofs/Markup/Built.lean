import Mathlib.Data.List.Forall2
import Mathlib.Data.List.Nodup
import Mathlib.Data.List.Perm.Subperm
import Mathlib.Data.List.TakeWhile
import MetadataBag.Proofs.Markup.Written

/-!
The trees of stores. A root declares names as prefixes, each of them once, so that a prefix stands
for one namespace; and every child tells which name and which value it was made for.
-/

namespace MetadataBag.Markup

attribute [ext] ExpandedName

lemma checkPrefix_ok {pre : String} {u : Unit} (h : checkPrefix pre = .ok u) : IsName pre := by
  unfold checkPrefix at h
  split at h
  · assumption
  · cases h

lemma checkName_ok {name : String} {u : Unit} (h : checkName name = .ok u) : IsName name := by
  unfold checkName at h
  split at h
  · assumption
  · cases h

/-! ### Free prefixes -/

lemma toList_numbered (n : Nat) : (numbered n).toList = 'n' :: 's' :: Nat.toDigits 10 n := by
  simp [numbered]

lemma numbered_injective : Function.Injective numbered := by
  intro m n h
  have hchars := congrArg String.toList h
  rw [toList_numbered, toList_numbered, List.cons.injEq, List.cons.injEq] at hchars
  simpa using congrArg (fun ds => Nat.ofDigitChars 10 ds 0) hchars.2.2

lemma isNameChar_of_isDigit {c : Char} (h : c.isDigit = true) : isNameChar c = true := by
  have hrange : 48 ≤ c.toNat ∧ c.toNat ≤ 57 := by
    simpa [Char.isDigit, UInt32.le_iff_toNat_le] using h
  have hmark : within marks c = true :=
    List.any_eq_true.mpr ⟨(0x30, 0x39), by decide, by simpa using hrange⟩
  rw [isNameChar, hmark, Bool.or_true]

lemma isName_numbered (n : Nat) : IsName (numbered n) := by
  rw [IsName, toList_numbered, isName, Bool.and_eq_true, List.all_eq_true]
  refine ⟨by decide, fun c hc => ?_⟩
  rcases List.mem_cons.mp hc with rfl | hc
  · decide
  · exact isNameChar_of_isDigit (Nat.isDigit_of_mem_toDigits (by decide) (by decide) hc)

/-- A text that begins otherwise is no numbered prefix. -/
lemma numbered_ne {n : Nat} {s : String} (h : s.toList.take 2 ≠ ['n', 's']) : numbered n ≠ s := by
  rintro rfl
  rw [toList_numbered] at h
  exact h rfl

variable {choose : Prefixing} {ds : List Declaration}

lemma inUse_freeNumber {n tries : Nat} (h : inUse ds (numbered (freeNumber ds n tries)) = true) :
    ∀ i ≤ tries, inUse ds (numbered (n + i)) = true := by
  induction tries generalizing n with
  | zero =>
    intro i hi
    rwa [Nat.le_zero.mp hi]
  | succ tries ih =>
    rw [freeNumber] at h
    split at h
    · rename_i hn
      intro i hi
      cases i with
      | zero => exact hn
      | succ i =>
        rw [← Nat.add_assoc, Nat.add_right_comm]
        exact ih h i (Nat.le_of_succ_le_succ hi)
    · rename_i hn
      exact absurd h hn

/-- Among more numbers than declarations one is free. -/
lemma freeNumber_free (ds : List Declaration) (n : Nat) :
    inUse ds (numbered (freeNumber ds n ds.length)) = false := by
  rw [← Bool.not_eq_true]
  intro hused
  have hsub : (List.range (ds.length + 1)).map (fun i => numbered (n + i)) ⊆ ds.map Prod.fst := by
    intro s hs
    obtain ⟨i, hi, rfl⟩ := List.mem_map.mp hs
    have hi := inUse_freeNumber hused i (Nat.le_of_lt_succ (List.mem_range.mp hi))
    simpa [inUse, numbered_ne (s := xmlPrefix) (by decide)] using hi
  have hnodup : ((List.range (ds.length + 1)).map fun i => numbered (n + i)).Nodup :=
    List.nodup_range.map fun i j h => Nat.add_left_cancel (numbered_injective h)
  -- there are more numbers than declared prefixes
  have hlen := (hnodup.subperm hsub).length_le
  rw [List.length_map, List.length_range, List.length_map] at hlen
  exact Nat.not_succ_le_self _ hlen

/-- Chosen prefixes are names, are not in use, and are not the name of the attribute of entries. -/
def Prefixing.Fresh (choose : Prefixing) : Prop :=
  ∀ ds next uri, IsName (choose ds next uri).1 ∧ inUse ds (choose ds next uri).1 = false ∧
    (choose ds next uri).1 ≠ keyName.localName

lemma newPrefix_fresh : Prefixing.Fresh newPrefix := by
  intro ds next uri
  have hnumber : ∀ n, IsName (numbered n) ∧ numbered n ≠ keyName.localName :=
    fun n => ⟨isName_numbered n, numbered_ne (by decide)⟩
  have hknown : ∀ e ∈ wellKnown, IsName e.2 ∧ e.2 ≠ keyName.localName := by decide
  unfold newPrefix
  dsimp only
  split
  · exact ⟨(hnumber _).1, freeNumber_free ds next, (hnumber _).2⟩
  · rename_i e pre hfind
    split
    · exact ⟨(hnumber _).1, freeNumber_free ds next, (hnumber _).2⟩
    · rename_i hfree
      obtain ⟨hname, hkey⟩ := hknown _ (List.mem_of_find?_eq_some hfind)
      exact ⟨hname, Bool.not_eq_true _ ▸ hfree, hkey⟩

/-! ### Declarations -/

/-- Declared prefixes are names, and each of them is declared once. -/
structure Sound (ds : List Declaration) : Prop where
  names : ∀ d ∈ ds, IsName d.1
  once : (ds.map Prod.fst).Nodup

lemma declared_cases {uri pre : String} (h : declared? ds uri = some pre) :
    (uri = xmlUri ∧ pre = xmlPrefix) ∨ ((pre, uri) ∈ ds ∧ pre ≠ xmlPrefix) := by
  unfold declared? at h
  split at h
  · rename_i huri
    exact Or.inl ⟨huri, (Option.some.inj h).symm⟩
  · obtain ⟨d, hd, rfl⟩ := Option.map_eq_some_iff.mp h
    have hdecl := List.find?_some hd
    simp only [ne_eq, decide_not, Bool.and_eq_true, decide_eq_true_eq, Bool.not_eq_true',
      decide_eq_false_iff_not] at hdecl
    obtain ⟨rfl, hpre⟩ := hdecl
    exact Or.inr ⟨List.mem_of_find?_eq_some hd, hpre⟩

namespace Sound

lemma isName_declared (hds : Sound ds) {uri pre : String} (h : declared? ds uri = some pre) :
    IsName pre := by
  rcases declared_cases h with ⟨-, rfl⟩ | ⟨hd, -⟩
  · decide
  · exact hds.names _ hd

/-- A prefix stands for one namespace. -/
lemma declared_inj (hds : Sound ds) {u v pre : String} (hu : declared? ds u = some pre)
    (hv : declared? ds v = some pre) : u = v := by
  rcases declared_cases hu with ⟨rfl, hpre⟩ | ⟨hu, hpre⟩ <;>
    rcases declared_cases hv with ⟨rfl, hpre'⟩ | ⟨hv, hpre'⟩
  · rfl
  · exact absurd hpre hpre'
  · exact absurd hpre' hpre
  · exact congrArg Prod.snd (List.inj_on_of_nodup_map hds.once hu hv rfl)

lemma append_new (hds : Sound ds) {pre : String} (hname : IsName pre)
    (hfree : inUse ds pre = false) (uri : String) : Sound (ds ++ [(pre, uri)]) := by
  have hnew : pre ∉ ds.map Prod.fst := by
    intro hmem
    obtain ⟨d, hd, rfl⟩ := List.mem_map.mp hmem
    have hused : inUse ds d.1 = true := by
      rw [inUse, Bool.or_eq_true, List.any_eq_true]
      exact Or.inr ⟨d, hd, decide_eq_true rfl⟩
    rw [hused] at hfree
    cases hfree
  constructor
  · intro d hd
    rcases List.mem_append.mp hd with hd | hd
    · exact hds.names d hd
    · rwa [List.mem_singleton.mp hd]
  · rw [List.map_append, List.map_singleton]
    exact List.nodup_append.mpr ⟨hds.once, List.nodup_singleton _,
      fun a ha b hb hab => hnew (by rwa [hab, List.mem_singleton.mp hb] at ha)⟩

end Sound

lemma rootDeclarations_ok {bindings : List (String × String)}
    (h : rootDeclarations bindings = .ok ds) : ds.Sublist bindings ∧ ∀ d ∈ ds, IsName d.1 := by
  induction bindings generalizing ds with
  | nil =>
    cases h
    exact ⟨List.Sublist.refl _, fun d hd => nomatch hd⟩
  | cons b rest ih =>
    obtain ⟨pre, uri⟩ := b
    rw [rootDeclarations] at h
    obtain ⟨-, -, h⟩ := bind_ok h
    obtain ⟨-, -, h⟩ := bind_ok h
    obtain ⟨-, -, h⟩ := bind_ok h
    obtain ⟨_, hpre, h⟩ := bind_ok h
    obtain ⟨ds', hrest, h⟩ := bind_ok h
    obtain ⟨hsub, hnames⟩ := ih hrest
    cases h
    split
    · exact ⟨hsub.cons _, hnames⟩
    · refine ⟨hsub.cons_cons _, fun d hd => ?_⟩
      rcases List.mem_cons.mp hd with rfl | hd
      · exact checkPrefix_ok hpre
      · exact hnames d hd

lemma root_ok (hchoose : choose.Fresh) {bindings : List (String × String)}
    (hb : (bindings.map Prod.fst).Nodup) {t : Tree} {next : Nat}
    (h : root choose bindings = .ok (t, next)) :
    t.name = rootName ∧ IsName t.pre ∧ Sound t.declarations := by
  obtain ⟨ds, hds, h⟩ := bind_ok h
  obtain ⟨hsub, hnames⟩ := rootDeclarations_ok hds
  have hsound : Sound ds := ⟨hnames, (hsub.map Prod.fst).nodup hb⟩
  dsimp only at h
  split at h
  · rename_i pre hpre
    cases h
    exact ⟨rfl, hsound.isName_declared hpre, hsound⟩
  · obtain ⟨hname, hfree, -⟩ := hchoose ds 0 entryNamespace
    cases h
    exact ⟨rfl, hname, hsound.append_new hname hfree entryNamespace⟩

/-! ### Tags -/

/-- What is read of a braced tag: the namespace ends at the first closing brace. -/
lemma readTag_ok {s : String} {rest : List Char} {tag : ExpandedName}
    (hs : s.toList = '\x7b' :: rest) (h : readTag s = .ok tag) :
    ∃ uri : String, rest = uri.toList ++ '\x7d' :: tag.localName.toList ∧
      '\x7d' ∉ uri.toList ∧ tag.uri = if uri = "" then none else some uri := by
  have hsplit := List.takeWhile_append_dropWhile (p := (· ≠ '\x7d')) (l := rest)
  have hbrace := List.head?_dropWhile_not (· ≠ '\x7d') rest
  simp only [readTag, hs] at h
  split at h
  · cases h
  · cases h
  · rename_i c name _ hdrop
    cases h
    rw [hdrop] at hsplit hbrace
    obtain rfl : c = '\x7d' := by simpa using hbrace
    refine ⟨String.ofList (rest.takeWhile (· ≠ '\x7d')), ?_, fun hmem => ?_, rfl⟩
    · rw [String.toList_ofList, String.toList_ofList]
      exact hsplit.symm
    · rw [String.toList_ofList] at hmem
      simpa using List.mem_takeWhile_imp hmem

/-- A name in a namespace that passes as a tag is the tag. A closing brace in the namespace would
leave one in the local part. -/
lemma tagOf_ok {n tag : ExpandedName} {uri : String} (huri : n.uri = some uri) (hne : uri ≠ "")
    (h : tagOf n = .ok tag) : tag = n ∧ IsName n.localName := by
  obtain ⟨-, -, h⟩ := bind_ok h
  obtain ⟨tag', hread, h⟩ := bind_ok h
  obtain ⟨_, hcheck, h⟩ := bind_ok h
  have hname := checkName_ok hcheck
  obtain rfl : tag' = tag := by
    dsimp only at h
    split at h
    · cases h
      rfl
    · obtain ⟨-, -, h⟩ := bind_ok h
      cases h
      rfl
  have htext : (tagText n).toList = '\x7b' :: (uri.toList ++ '\x7d' :: n.localName.toList) := by
    simp [tagText, huri, hne]
  obtain ⟨uri', hchars, hbefore, huri'⟩ := readTag_ok htext hread
  -- a name has no brace, so the only closing one ends the namespace
  have hbehind : '\x7d' ∉ tag'.localName.toList := fun hmem =>
    Bool.false_ne_true (hname.isNameChar hmem)
  obtain ⟨hsame, -, hlocal⟩ := (List.append_cons_inj_of_notMem hbefore hbehind).mp hchars.symm
  obtain rfl := String.toList_injective hsame
  rw [if_neg hne, ← huri] at huri'
  have htag : tag' = n := ExpandedName.ext (String.toList_injective hlocal) huri'
  exact ⟨htag, htag ▸ hname⟩

/-! ### Children -/

/-- A child that was made for a name and a value, below a root with a prefix and declarations. -/
inductive Shows (pre : String) (ds : List Declaration) (n : ExpandedName) (value : String) :
    Element → Prop
  | entry (huri : n.uri = some entryNamespace) :
    Shows pre ds n value ⟨entryName, some pre, [], [⟨keyName, pre, n.localName⟩], value⟩
  | declared {uri p : String} (huri : n.uri = some uri) (hname : IsName n.localName)
    (hp : declared? ds uri = some p) : Shows pre ds n value ⟨n, some p, [], [], value⟩
  | declaring {uri p : String} (huri : n.uri = some uri) (hname : IsName n.localName)
    (hp : IsName p) (hkey : p ≠ keyName.localName) :
    Shows pre ds n value ⟨n, some p, [(p, uri)], [], value⟩

namespace Shows

variable {pre value value' : String} {n n' : ExpandedName} {e e' : Element}

lemma plain (hpre : IsName pre) (hds : Sound ds) (h : Shows pre ds n value e) : e.Plain := by
  cases h with
  | entry huri =>
    refine ⟨⟨pre, rfl, hpre⟩, (by decide : IsName "entry"), fun f hf => ?_⟩
    obtain rfl := List.mem_singleton.mp hf
    exact ⟨hpre, (by decide : IsName "name")⟩
  | declared huri hname hp =>
    exact ⟨⟨_, rfl, hds.isName_declared hp⟩, hname, fun f hf => nomatch hf⟩
  | declaring huri hname hp hkey =>
    refine ⟨⟨_, rfl, hp⟩, hname, fun f hf => ?_⟩
    obtain rfl := List.mem_singleton.mp hf
    exact ⟨(by decide : IsName "xmlns"), hp⟩

/-- What is written of a child tells its name and its value: the key of an entry stands in its
attribute, and the namespace of any other name is either declared at the child or the one that the
root declares the prefix for. -/
lemma eq_of_visible (hds : Sound ds) (h : Shows pre ds n value e) (h' : Shows pre ds n' value' e')
    (hv : e.visible = e'.visible) : n = n' ∧ value = value' := by
  simp only [Element.visible, Element.fields, Prod.mk.injEq] at hv
  obtain ⟨hpre, hlocal, hfields, hvalue⟩ := hv
  cases h with
  | entry huri =>
    cases h' with
    | entry huri' =>
      obtain ⟨-, -, hkey⟩ := Field.mk.inj (List.head_eq_of_cons_eq hfields)
      exact ⟨ExpandedName.ext hkey (huri.trans huri'.symm), hvalue⟩
    | declared huri' hname' hp' => cases hfields
    | declaring huri' hname' hp' hkey' =>
      obtain ⟨-, hkey, -⟩ := Field.mk.inj (List.head_eq_of_cons_eq hfields)
      exact absurd hkey.symm hkey'
  | declared huri hname hp =>
    cases h' with
    | entry huri' => cases hfields
    | declared huri' hname' hp' =>
      obtain rfl := Option.some.inj hpre
      refine ⟨ExpandedName.ext hlocal ?_, hvalue⟩
      rw [huri, huri', hds.declared_inj hp hp']
    | declaring huri' hname' hp' hkey' => cases hfields
  | declaring huri hname hp hkey =>
    cases h' with
    | entry huri' =>
      obtain ⟨-, hkey', -⟩ := Field.mk.inj (List.head_eq_of_cons_eq hfields)
      exact absurd hkey' hkey
    | declared huri' hname' hp' => cases hfields
    | declaring huri' hname' hp' hkey' =>
      obtain ⟨-, -, hsame⟩ := Field.mk.inj (List.head_eq_of_cons_eq hfields)
      exact ⟨ExpandedName.ext hlocal (huri.trans ((congrArg some hsame).trans huri'.symm)), hvalue⟩

end Shows

lemma entryElement_shows {pre value : String} {n : ExpandedName} {e : Element}
    (hn : n.uri = some entryNamespace) (h : entryElement pre n.localName value = .ok e) :
    Shows pre ds n value e := by
  obtain ⟨-, -, h⟩ := bind_ok h
  obtain ⟨-, -, h⟩ := bind_ok h
  cases h
  exact .entry hn

lemma ownElement_shows (hchoose : choose.Fresh) {pre value uri : String} {n : ExpandedName}
    {next next' : Nat} {e : Element} (huri : n.uri = some uri) (hne : uri ≠ "")
    (h : ownElement choose ds next n value = .ok (e, next')) : Shows pre ds n value e := by
  obtain ⟨tag, htag, hchecked⟩ := bind_ok h
  obtain ⟨-, -, hmade⟩ := bind_ok hchecked
  obtain ⟨rfl, hname⟩ := tagOf_ok huri hne htag
  simp only [huri] at hmade
  split at hmade
  · rename_i p hp
    cases hmade
    exact .declared huri hname hp
  · obtain ⟨hp, -, hkey⟩ := hchoose ds next uri
    cases hmade
    exact .declaring huri hname hp hkey

lemma element_shows (hchoose : choose.Fresh) {t : Tree} {n : Name} {value : String}
    {next next' : Nat} {e : Element} (hn : n.isNamespaced = true)
    (h : element choose t next n value = .ok (e, next')) :
    Shows t.pre t.declarations n.toExpandedName value e := by
  rw [element] at h
  split at h
  · rename_i hentry
    obtain ⟨e', he, heq⟩ := map_ok h
    cases heq
    exact entryElement_shows (of_decide_eq_true hentry) he
  · obtain ⟨uri, huri, hne⟩ : ∃ uri, n.uri = some uri ∧ uri ≠ "" := by
      cases huri : n.uri with
      | none =>
        rw [Name.isNamespaced, huri] at hn
        cases hn
      | some uri =>
        rw [Name.isNamespaced, huri] at hn
        exact ⟨uri, rfl, of_decide_eq_true hn⟩
    exact ownElement_shows hchoose huri hne h

/-- What every child has that is made for a name and a value, the children have in order. -/
lemma forall₂_elements {t : Tree} {R : Name × String → Element → Prop} {l : List (Name × String)}
    {next : Nat} {es : List Element}
    (hR : ∀ r ∈ l, ∀ {next next' : Nat} {e : Element},
      element choose t next r.1 r.2 = .ok (e, next') → R r e)
    (h : elements choose t next l = .ok es) : List.Forall₂ R l es := by
  induction l generalizing next es with
  | nil =>
    cases h
    exact List.Forall₂.nil
  | cons r rest ih =>
    obtain ⟨n, value⟩ := r
    obtain ⟨⟨e, next'⟩, helement, h⟩ := bind_ok h
    obtain ⟨es', hrest, h⟩ := bind_ok h
    cases h
    exact .cons (hR _ List.mem_cons_self helement)
      (ih (fun r hr => hR r (List.mem_cons_of_mem _ hr)) hrest)

/-- The children that come of names and values show them, in order. -/
lemma elements_show (hchoose : choose.Fresh) {t : Tree} {l : List (Name × String)} {next : Nat}
    {es : List Element} (hl : ∀ r ∈ l, r.1.isNamespaced = true)
    (h : elements choose t next l = .ok es) :
    List.Forall₂ (fun r e => Shows t.pre t.declarations r.1.toExpandedName r.2 e) l es :=
  forall₂_elements (fun r hr _ _ _ he => element_shows hchoose (hl r hr) he) h

lemma plain_children {pre : String} {l : List (Name × String)} {es : List Element}
    (hpre : IsName pre) (hds : Sound ds)
    (h : List.Forall₂ (fun r e => Shows pre ds r.1.toExpandedName r.2 e) l es) :
    ∀ e ∈ es, e.Plain := by
  induction h with
  | nil => exact fun e he => nomatch he
  | cons hr _ ih =>
    intro e he
    rcases List.mem_cons.mp he with rfl | he
    · exact hr.plain hpre hds
    · exact ih e he

/-- What is written of the children tells the names and the values. -/
lemma eq_of_visible_children {pre : String} {l l' : List (Name × String)} {es es' : List Element}
    (hds : Sound ds)
    (h : List.Forall₂ (fun r e => Shows pre ds r.1.toExpandedName r.2 e) l es)
    (h' : List.Forall₂ (fun r e => Shows pre ds r.1.toExpandedName r.2 e) l' es')
    (hv : es.map Element.visible = es'.map Element.visible) :
    l.map (fun r => (r.1.toExpandedName, r.2)) = l'.map fun r => (r.1.toExpandedName, r.2) := by
  induction h generalizing l' es' with
  | nil =>
    cases h' with
    | nil => rfl
    | cons => cases hv
  | cons hr hrest ih =>
    cases h' with
    | nil => cases hv
    | cons hr' hrest' =>
      obtain ⟨hhead, htail⟩ := List.cons.inj hv
      obtain ⟨hname, hvalue⟩ := hr.eq_of_visible hds hr' hhead
      rw [List.map_cons, List.map_cons, hname, hvalue, ih hrest' htail]

end MetadataBag.Markup
