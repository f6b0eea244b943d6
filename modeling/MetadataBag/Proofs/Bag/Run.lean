import Mathlib.Tactic.Lemma
import MetadataBag.Proofs.Bag.Effect

/-!
Runs of writes. A write of many pairs is the writes of its pairs up to the first that is refused,
so what every write of one key preserves is preserved by every run; and a refused write leaves
nothing behind but the pairs before it.
-/

namespace MetadataBag

def Write.ofPair (e : String × Value) : Write := .set (some (.text e.1)) e.2

namespace Bag

def Accepts (r : Registry) : Bag → List Write → Prop
  | _, [] => True
  | b, w :: ws => (b.write r w).failure = none ∧ Accepts r (b.write r w).bag ws

variable {r : Registry} {b : Bag}

lemma write_refused {w : Write} (hw : w.isBulk = false) (h : (b.write r w).failure ≠ none) :
    (b.write r w).bag = b := (write_effect hw).refused_bag h

/-! ### Writes of many pairs -/

lemma setPairs_cons (e : String × Value) (rest : List (String × Value)) :
    setPairs r b (e :: rest) =
      if (b.write r (.ofPair e)).failure = none then setPairs r (b.write r (.ofPair e)).bag rest
      else b.write r (.ofPair e) := by
  have hw : b.write r (.ofPair e) = b.set r (some (.text e.1)) e.2 := rfl
  rw [hw, setPairs]
  rcases h : (b.set r (some (.text e.1)) e.2).failure with _ | e' <;> simp

lemma setPairs_done {l : List (String × Value)} (h : (setPairs r b l).failure = none) :
    b.Accepts r (l.map .ofPair) ∧ (setPairs r b l).bag = b.run r (l.map .ofPair) := by
  induction l generalizing b with
  | nil => exact ⟨trivial, rfl⟩
  | cons e rest ih =>
    rw [setPairs_cons] at h ⊢
    by_cases he : (b.write r (.ofPair e)).failure = none
    · rw [if_pos he] at h ⊢
      obtain ⟨hacc, hrun⟩ := ih h
      exact ⟨⟨he, hacc⟩, hrun⟩
    · rw [if_neg he] at h
      exact absurd h he

lemma setPairs_refused {e : Error} {l : List (String × Value)}
    (h : (setPairs r b l).failure = some e) :
    ∃ before p after, l = before ++ p :: after ∧ b.Accepts r (before.map .ofPair) ∧
      ((b.run r (before.map .ofPair)).write r (.ofPair p)).failure = some e ∧
      (setPairs r b l).bag = b.run r (before.map .ofPair) := by
  induction l generalizing b with
  | nil => simp [setPairs] at h
  | cons p rest ih =>
    rw [setPairs_cons] at h ⊢
    by_cases hp : (b.write r (.ofPair p)).failure = none
    · rw [if_pos hp] at h ⊢
      obtain ⟨before, q, after, rfl, hacc, hq, hbag⟩ := ih h
      exact ⟨p :: before, q, after, rfl, ⟨hp, hacc⟩, hq, hbag⟩
    · rw [if_neg hp] at h ⊢
      exact ⟨[], p, rest, rfl, trivial, h, write_refused rfl hp⟩

/-- A write of many pairs leaves what the writes of some of the first of them leave. -/
lemma setPairs_bag (l : List (String × Value)) :
    ∃ before, before <+: l ∧ (setPairs r b l).bag = b.run r (before.map .ofPair) := by
  rcases h : (setPairs r b l).failure with _ | e
  · exact ⟨l, List.prefix_rfl, (setPairs_done h).2⟩
  · obtain ⟨before, p, after, rfl, -, -, hbag⟩ := setPairs_refused h
    exact ⟨before, List.prefix_append _ _, hbag⟩

/-- **A refused write changes nothing**: not the slots, their values, order and prefixes, and not
the bound prefixes. Of a write of many pairs the pairs before the refused one remain, and they
are the same as if they had been written on their own. -/
theorem refused_write_changes_nothing (r : Registry) (b : Bag) :
    (∀ w : Write, w.isBulk = false → (b.write r w).failure ≠ none → (b.write r w).bag = b) ∧
    ∀ (values : OrderedMap String Value) (e : Error),
      (b.write r (.setAll values)).failure = some e →
      ∃ before p after, values.entries = before ++ p :: after ∧
        b.Accepts r (before.map .ofPair) ∧
        ((b.run r (before.map .ofPair)).write r (.ofPair p)).failure = some e ∧
        (b.write r (.setAll values)).bag = b.run r (before.map .ofPair) :=
  ⟨fun _ hw h => write_refused hw h, fun _ _ h => setPairs_refused h⟩

def refusedPairs : OrderedMap String Value :=
  ⟨[("a", .text "1"), ("b", .bool true), ("c", .text "2")], by decide⟩

theorem refused_write_changes_nothing_pairs :
    let b := empty .markup .universal
    (b.write .empty (.set (some (.text "b")) (.bool true))).bag = b ∧
    ∃ before p after, refusedPairs.entries = before ++ p :: after ∧
      b.Accepts .empty (before.map .ofPair) ∧
      ((b.run .empty (before.map .ofPair)).write .empty (.ofPair p)).failure =
        some .booleanValue ∧
      (b.write .empty (.setAll refusedPairs)).bag = b.run .empty (before.map .ofPair) := by
  intro b
  have hset : (b.write .empty (.set (some (.text "b")) (.bool true))).failure ≠ none := by
    decide
  have hpairs : (b.write .empty (.setAll refusedPairs)).failure = some .booleanValue := by
    decide +kernel
  obtain ⟨hsingle, hbulk⟩ := refused_write_changes_nothing .empty b
  exact ⟨hsingle _ rfl hset, hbulk _ _ hpairs⟩

/-! ### Invariants of runs -/

variable {P : Bag → Prop} {A : Write → Prop}

lemma run_preserves_of_single (hstep : ∀ b w, A w → P b → P (b.write r w).bag) (hb : P b)
    {ws : List Write} (hws : ∀ w ∈ ws, A w) : P (b.run r ws) := by
  induction ws generalizing b with
  | nil => exact hb
  | cons w ws ih =>
    rw [run_cons]
    exact ih (hstep b w (hws w List.mem_cons_self) hb)
      fun w' hw' => hws w' (List.mem_cons_of_mem w hw')

/-- **The run induction**: what every write of one key preserves, every run preserves. -/
theorem run_preserves (hpairs : ∀ values, A (.setAll values) → ∀ e ∈ values.entries, A (.ofPair e))
    (hstep : ∀ b w, w.isBulk = false → A w → P b → P (b.write r w).bag) (hb : P b)
    {ws : List Write} (hws : ∀ w ∈ ws, A w) : P (b.run r ws) := by
  refine run_preserves_of_single (fun b w hw hP => ?_) hb hws
  by_cases hbulk : w.isBulk = false
  · exact hstep b w hbulk hw hP
  obtain ⟨values, rfl⟩ : ∃ values, w = .setAll values := by
    cases w <;> simp_all [Write.isBulk]
  obtain ⟨before, hpre, hbag⟩ := setPairs_bag values.entries
  have hbefore : ∀ w' ∈ before.map Write.ofPair, w'.isBulk = false ∧ A w' := by
    intro w' hw'
    obtain ⟨e, he, rfl⟩ := List.mem_map.mp hw'
    exact ⟨rfl, hpairs values hw e (hpre.subset he)⟩
  have hrun := run_preserves_of_single (fun b w' hw' => hstep b w' hw'.1 hw'.2) hP hbefore
  rwa [← hbag] at hrun

end Bag

end MetadataBag
