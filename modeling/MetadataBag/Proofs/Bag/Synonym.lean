import MetadataBag.Proofs.Bag.Display
import MetadataBag.Proofs.Bag.Equality
import MetadataBag.Proofs.Bag.Transcript

/-!
A definition stands for its name. Whatever is asked of a bag or done to it under a text that names
a definition has the same answer, the same refusal and the same bag after it under the definition
itself; so in a run any of the names may be replaced by what they name.
-/

namespace MetadataBag

/-- What can be asked or done under a text and under a property alike. -/
inductive Request where
  | get?
  | getAll
  | isMultiValued
  | contains
  | add (value : Option String)
  | set (value : Value)
  | remove

def Request.under (k : Key) : Request → Operation
  | .get? => .read (.get? (some k))
  | .getAll => .read (.getAll (some k))
  | .isMultiValued => .read (.isMultiValued (some k))
  | .contains => .read (.contains (some k))
  | .add value => .write (.add (some k) value)
  | .set value => .write (.set (some k) value)
  | .remove => .write (.remove (some k))

/-- One operation, where a definition may stand for its name. -/
inductive Operation.Renamed (r : Registry) : Operation → Operation → Prop where
  | same (op : Operation) : Renamed r op op
  | under (q : Request) {s : String} {p : Property} (h : r.get? s = some p) :
      Renamed r (q.under (.text s)) (q.under (.property p))

namespace Bag

variable {r : Registry} {s : String} {p : Property}

/-- Both keys have one target, with one slot and one definition. -/
lemma assign_property (h : r.get? s = some p) (b : Bag)
    (values : List String) : b.assign r (.text s) values = b.assign r (.property p) values := by
  have htargets : (Key.property p).targets r = [.property p] := by
    rw [Key.targets_property, Property.members, Registry.isComposite_of_get? h]
    rfl
  have hdefinition : (Key.text s).definition? r = (Key.property p).definition? r := h
  unfold assign
  rw [Key.targets_text, htargets]
  simp only [singleTarget, List.filterMap_cons, hdefinition, List.foldl_cons, List.foldl_nil,
    Key.resolve_property_of_get? h]

lemma setValue_property (h : r.get? s = some p) (b : Bag) (value : Value) :
    b.set r (some (.text s)) value = b.set r (some (.property p)) value := by
  have hdefinition : (Key.text s).definition r = (Key.property p).definition r := by
    simp [Key.definition, h]
  have hassign := assign_property h b
  unfold set
  cases value <;> simp only [hdefinition, assignMembers, hassign]

lemma add_property (h : r.get? s = some p) (b : Bag) (value : Option String) :
    b.add r (some (.text s)) value = b.add r (some (.property p)) value := by
  have hdefinition : (Key.text s).definition? r = (Key.property p).definition? r := h
  rcases value with _ | value
  · rfl
  · unfold add
    simp only [hdefinition]
    rfl

/-- **One request** has one answer and leaves one bag under the name and under the definition. -/
lemma perform_property (h : r.get? s = some p) (b : Bag) (q : Request) :
    b.perform r (q.under (.text s)) = b.perform r (q.under (.property p)) := by
  have hresolve : (Key.property p).resolve r = (Key.text s).resolve r :=
    Key.resolve_property_of_get? h
  have hget : b.get? r (some (.text s)) = b.get? r (some (.property p)) := by
    rw [Bag.get?, Bag.get?, hresolve]
  cases q with
  | get? => simp only [Request.under, perform, answer, hget]
  | getAll => simp only [Request.under, perform, answer, getAll, hresolve]
  | isMultiValued => simp only [Request.under, perform, answer, isMultiValued, hresolve]
  | contains => simp only [Request.under, perform, answer, contains, hget]
  | add value => simp only [Request.under, perform, write, add_property h]
  | set value => simp only [Request.under, perform, write, setValue_property h]
  | remove => simp only [Request.under, perform, write, remove, hresolve]

lemma perform_renamed (b : Bag) {op op' : Operation} (h : op.Renamed r op') :
    b.perform r op = b.perform r op' := by
  cases h with
  | same => rfl
  | under q hp => exact perform_property hp b q

lemma transcript_renamed {ops ops' : List Operation}
    (h : List.Forall₂ (Operation.Renamed r) ops ops') (b : Bag) :
    b.transcript (ops.map (r, ·)) = b.transcript (ops'.map (r, ·)) ∧
      b.after (ops.map (r, ·)) = b.after (ops'.map (r, ·)) := by
  induction h generalizing b with
  | nil => exact ⟨rfl, rfl⟩
  | @cons op op' ops ops' hop _ ih =>
    have hstep := perform_renamed b hop
    obtain ⟨hanswers, hend⟩ := ih (b.perform r op').2
    simp only [List.map_cons, transcript, hstep, hanswers, true_and]
    simp only [after, List.foldl_cons, hstep]
    exact hend

/-- **A definition stands for its name**: every request under a text that names a definition has
the same answer under the definition, be it a refusal, and leaves the same bag, with the order and
prefixes of its names and its bindings. So the answers of a run and the bag after it stay the same
when definitions are put in the place of their names. -/
theorem definition_stands_for_name (calls : List Registry.Call) (b : Bag) :
    let r := Registry.after calls
    (∀ (s : String) (p : Property), r.get? s = some p → ∀ q : Request,
      b.perform r (q.under (.text s)) = b.perform r (q.under (.property p))) ∧
    ∀ ops ops' : List Operation, List.Forall₂ (Operation.Renamed r) ops ops' →
      b.transcript (ops.map (r, ·)) = b.transcript (ops'.map (r, ·)) ∧
        b.after (ops.map (r, ·)) = b.after (ops'.map (r, ·)) := by
  intro r
  exact ⟨fun s p h q => perform_property h b q, fun ops ops' h => transcript_renamed h b⟩

def pages : Property := .ofKey "t:pages" (some "urn:pages") .integer false false

def pagesCalls : List Registry.Call :=
  [.register (.ofKey "t:pages" none .text false true) false, .erase "t:words",
    .register pages true]

def pagesRequests : List Request := [.set (.integer 12), .add (some "13"), .getAll]

theorem definition_stands_for_name_pages :
    let r := Registry.after pagesCalls
    r.get? "t:pages" = some pages ∧
    captioned.perform r ((Request.set (.text "12")).under (.text "t:pages")) =
      captioned.perform r ((Request.set (.text "12")).under (.property pages)) ∧
    captioned.transcript ((pagesRequests.map (·.under (.text "t:pages"))).map (r, ·)) =
      captioned.transcript ((pagesRequests.map (·.under (.property pages))).map (r, ·)) ∧
    captioned.after ((pagesRequests.map (·.under (.text "t:pages"))).map (r, ·)) =
      captioned.after ((pagesRequests.map (·.under (.property pages))).map (r, ·)) := by
  intro r
  have hpages : r.get? "t:pages" = some pages := rfl
  obtain ⟨hsingle, hruns⟩ := definition_stands_for_name pagesCalls captioned
  refine ⟨hpages, hsingle _ _ hpages _, hruns _ _ ?_⟩
  exact .cons (.under _ hpages) (.cons (.under _ hpages) (.cons (.under _ hpages) .nil))

end Bag

end MetadataBag
