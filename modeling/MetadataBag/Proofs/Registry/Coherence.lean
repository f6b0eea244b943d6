import Mathlib.Data.List.Nodup
import MetadataBag.Proofs.Registry.Extension

/-!
A registry at any moment of its history. Every definition in it is simple and stands under its own
name. A call is refused for a composite, or for the sake of another definition of the name, and
changes nothing then; calls that neither replace nor forget keep every definition up to equality;
and the definitions are listed in the order of their names, each of them once.
-/

namespace MetadataBag.Registry

namespace Call

/-- The definition that a call registers, and whether it may take the place of another one. -/
def registers : Call → Option (Property × Bool)
  | .register p replace => some (p, replace)
  | .erase _ => none
  | .define f key uri => some (f.property key uri, false)

/-- The call registers a composite, or registers a definition under the name of an unequal one that
it may not replace. -/
def Refused (r : Registry) (c : Call) : Prop :=
  ∃ p replace, c.registers = some (p, replace) ∧
    (p.isComposite = true ∨
      replace = false ∧ ∃ q, r.get? p.displayName = some q ∧ q.same p = false)

def isAdditive : Call → Bool
  | .register _ replace => !replace
  | .erase _ => false
  | .define _ _ _ => true

end Call

variable {r r' : Registry} {p : Property} {replace : Bool} {c : Call}

/-! ### Refusals -/

lemma call_of_registers (h : c.registers = some (p, replace)) :
    r.call c = r.register p replace := by
  cases c with
  | register => cases h; rfl
  | erase => cases h
  | define f key uri =>
    cases h
    exact call_define r f key uri

lemma register_fails_iff : (∃ e, r.register p replace = .error e) ↔
    p.isComposite = true ∨
      replace = false ∧ ∃ q, r.get? p.displayName = some q ∧ q.same p = false := by
  unfold register
  by_cases hcomp : p.isComposite = true
  · simp [hcomp]
  rw [dif_neg hcomp]
  rcases hq : r.get? p.displayName with _ | q
  · simp [contains_eq_isSome, hq, hcomp]
  · cases replace <;> cases hsame : q.same p <;>
      simp [contains_eq_isSome, isNew, hq, hcomp, hsame]

/-- **When a call is refused**: exactly for a composite or for an unequal definition of the name. -/
lemma call_fails_iff : (∃ e, r.call c = .error e) ↔ c.Refused r := by
  unfold Call.Refused
  rcases hc : c.registers with _ | ⟨p, replace⟩
  · have herase : ∃ name, c = .erase name := by
      cases c with
      | erase name => exact ⟨name, rfl⟩
      | register => cases hc
      | define => cases hc
    obtain ⟨name, rfl⟩ := herase
    simp [call]
  · rw [call_of_registers hc, register_fails_iff]
    constructor
    · exact fun h => ⟨p, replace, rfl, h⟩
    · rintro ⟨p', replace', heq, h⟩
      cases heq
      exact h

lemma after_concat_of_refused {cs : List Call} (h : c.Refused (after cs)) :
    after (cs ++ [c]) = after cs := by
  obtain ⟨e, he⟩ := call_fails_iff.mpr h
  rw [after_concat, he]
  rfl

lemma get?_after_concat {cs : List Call} (hc : c.registers = some (p, replace))
    (h : ¬ c.Refused (after cs)) (name : String) : (after (cs ++ [c])).get? name =
      if p.displayName = name then some p else (after cs).get? name := by
  rcases hcall : (after cs).call c with e | r'
  · exact absurd (call_fails_iff.mp ⟨e, hcall⟩) h
  · have hregister : (after cs).register p replace = .ok r' := by
      rw [← call_of_registers hc, hcall]
    rw [after_concat, hcall]
    exact get?_of_register hregister name

/-! ### Definitions stay -/

lemma keeps_of_call (hc : c.isAdditive = true) (h : r.call c = .ok r') : r.Keeps r' := by
  cases c with
  | register p replace =>
    obtain rfl : replace = false := by simpa [Call.isAdditive] using hc
    exact keeps_of_register h
  | erase name => cases hc
  | define f key uri =>
    rw [call_define] at h
    exact keeps_of_register h

/-- Calls that neither replace nor forget keep every definition up to equality. -/
lemma keeps_after_append (cs : List Call) {cs' : List Call}
    (h : ∀ c ∈ cs', c.isAdditive = true) : (after cs).Keeps (after (cs ++ cs')) := by
  induction cs' using List.reverseRecOn with
  | nil =>
    rw [List.append_nil]
    exact .refl _
  | append_singleton cs' c ih =>
    have hbefore := ih fun c' hc' => h c' (List.mem_append_left [c] hc')
    have hc : c.isAdditive = true := h c (List.mem_append_right cs' List.mem_cons_self)
    rw [← List.append_assoc, after_concat]
    rcases hcall : (after (cs ++ cs')).call c with e | r'
    · exact hbefore
    · exact hbefore.trans (keeps_of_call hc hcall)

/-! ### The listing -/

lemma sorted_perm (r : Registry) : r.sorted.Perm r.definitions.entries :=
  List.mergeSort_perm _ _

lemma mem_sorted_iff {name : String} : (name, p) ∈ r.sorted ↔ r.get? name = some p := by
  rw [r.sorted_perm.mem_iff]
  exact ⟨OrderedMap.get?_of_mem_entries, OrderedMap.mem_entries_of_get?⟩

/-- No two definitions have one name, so their names ascend strictly. -/
lemma pairwise_sorted (r : Registry) : r.sorted.Pairwise fun a b => a.1 < b.1 := by
  have hsort : r.sorted.Pairwise fun a b => (!decide (b.1 < a.1)) = true := by
    apply List.pairwise_mergeSort
    · intro a b c hab hbc
      simp only [Bool.not_eq_true', decide_eq_false_iff_not, String.not_lt] at hab hbc ⊢
      exact String.le_trans hab hbc
    · intro a b
      simp only [Bool.or_eq_true, Bool.not_eq_true', decide_eq_false_iff_not, String.not_lt]
      exact String.le_total a.1 b.1
  have hweak : r.sorted.Pairwise fun a b => a.1 ≤ b.1 := by
    refine hsort.imp fun {a b} h => ?_
    simpa only [Bool.not_eq_true', decide_eq_false_iff_not, String.not_lt] using h
  -- sorting gives weak order; that each name is registered once makes it strict
  have hdistinct : r.sorted.Pairwise fun a b => a.1 ≠ b.1 := by
    have hnodup : (r.sorted.map Prod.fst).Nodup :=
      (r.sorted_perm.map Prod.fst).nodup_iff.mpr r.definitions.nodup
    exact List.pairwise_map.mp hnodup
  refine hweak.imp₂ (fun a b hle hne => ?_) hdistinct
  refine String.not_le.mp fun hge => ?_
  exact hne (String.le_antisymm hle hge)

lemma pairwise_toList (r : Registry) :
    (r.toList.map Property.displayName).Pairwise (· < ·) := by
  have hnames : r.toList.map Property.displayName = r.sorted.map Prod.fst := by
    rw [toList, List.map_map]
    exact List.map_congr_left fun e he => displayName_of_get? (mem_sorted_iff.mp he)
  rw [hnames]
  exact List.pairwise_map.mpr r.pairwise_sorted

lemma mem_toList_iff : p ∈ r.toList ↔ ∃ name, r.get? name = some p := by
  rw [toList, List.mem_map]
  constructor
  · rintro ⟨⟨name, q⟩, he, rfl⟩
    exact ⟨name, mem_sorted_iff.mp he⟩
  · rintro ⟨name, h⟩
    exact ⟨(name, p), mem_sorted_iff.mpr h, rfl⟩

/-- **A registry is coherent at any moment of its history.** Its definitions are simple and stand
under their own names. The next call is refused exactly for a composite or for an unequal
definition of the name, and then leaves the registry as it is; otherwise it registers what it was
given. Whatever calls follow, as long as they neither replace nor forget, a name goes on to stand
for an equal definition. The listing ascends strictly by name and has exactly the definitions that
names stand for, each of them once. -/
theorem registry_coherent_at_any_moment (cs : List Call) :
    let r := after cs
    (∀ name p, r.get? name = some p → p.isComposite = false ∧ p.displayName = name) ∧
    (∀ c : Call, ((∃ e, r.call c = .error e) ↔ c.Refused r) ∧
      (c.Refused r → after (cs ++ [c]) = r) ∧
      ∀ p replace, c.registers = some (p, replace) → ¬ c.Refused r → ∀ name,
        (after (cs ++ [c])).get? name = if p.displayName = name then some p else r.get? name) ∧
    (∀ cs', (∀ c ∈ cs', c.isAdditive = true) → ∀ name p, r.get? name = some p →
      ∃ q, (after (cs ++ cs')).get? name = some q ∧ p.same q = true) ∧
    (r.toList.map Property.displayName).Pairwise (· < ·) ∧
    r.toList.Nodup ∧
    ∀ p, p ∈ r.toList ↔ ∃ name, r.get? name = some p := by
  intro r
  have hascending := pairwise_toList r
  refine ⟨fun name p h => ⟨isComposite_of_get? h, displayName_of_get? h⟩,
    fun c => ⟨call_fails_iff, ?_, ?_⟩, ?_, hascending, ?_, fun p => mem_toList_iff⟩
  · exact after_concat_of_refused
  · intro p replace hc hnot name
    exact get?_after_concat hc hnot name
  · intro cs' h
    exact keeps_after_append cs h
  · have hdistinct : (r.toList.map Property.displayName).Nodup := by
      refine hascending.imp fun {s t} hlt heq => ?_
      rw [heq] at hlt
      exact String.lt_irrefl t hlt
    exact hdistinct.of_map

def shelf : List Call :=
  [ .define ⟨.text, false, false⟩ "b:x" (some "urn:x"), .define ⟨.date, false, false⟩ "b:x" none,
    .define ⟨.text, false, false⟩ "a:x" (some "urn:x"), .define ⟨.real, true, false⟩ "c" none,
    .erase "c" ]

def reshelve : List Call :=
  [ .define ⟨.text, true, true⟩ "b:x" (some "urn:x"),
    .register (.ofKey "b:x" (some "urn:x") .text false false) false ]

theorem registry_coherent_at_any_moment_shelf :
    (Call.define ⟨.text, true, true⟩ "b:x" (some "urn:x")).Refused (after shelf) ∧
    after (shelf ++ [.define ⟨.text, true, true⟩ "b:x" (some "urn:x")]) = after shelf ∧
    (∀ c ∈ reshelve, c.isAdditive = true) ∧
    (∃ q, (after (shelf ++ reshelve)).get? "b:x" = some q ∧
      (Property.ofKey "b:x" (some "urn:x") .text false false).same q = true) ∧
    ((after shelf).toList.map Property.displayName).Pairwise (· < ·) := by
  obtain ⟨-, hcalls, hkept, hascending, -, -⟩ := registry_coherent_at_any_moment shelf
  have hrefused : (Call.define ⟨.text, true, true⟩ "b:x" (some "urn:x")).Refused (after shelf) :=
    ⟨_, _, rfl, Or.inr ⟨rfl, _, rfl, by decide⟩⟩
  have hadditive : ∀ c ∈ reshelve, c.isAdditive = true := by
    simp [reshelve, Call.isAdditive]
  exact ⟨hrefused, (hcalls _).2.1 hrefused, hadditive, hkept reshelve hadditive "b:x" _ rfl,
    hascending⟩

end MetadataBag.Registry
