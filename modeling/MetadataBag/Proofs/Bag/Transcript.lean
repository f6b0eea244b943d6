import Mathlib.Tactic.Lemma
import MetadataBag.Bag
import MetadataBag.Markup.Print
import MetadataBag.XPath.Eval

/-!
Operations on a bag, reads and writes in any order, and what each of them answers. Definitions may
come and go in between, so every operation goes with the registry that it finds. Bags whose
answers agree, and go on to agree after every operation, have one transcript.
-/

namespace MetadataBag

inductive Read where
  | get? (key : Option Key)
  | getAll (key : Option Key)
  | getInt (property : Property)
  | getDate (property : Property)
  | isMultiValued (key : Option Key)
  | contains (key : Option Key)
  | names
  | size
  | items
  | namespaces
  | tree
  /-- The tree as text, or what stands in the way of it. -/
  | written
  | query (expression : String)
  /-- Whatever else is made of the items and the bindings, as by another kind of markup. -/
  | rendering (f : List (Name × List String) → List (String × String) → Except Error String)
  /-- The values by display name. -/
  | text

inductive Operation where
  | write (w : Write)
  | read (q : Read)

inductive Answer where
  | outcome (failure : Option Error)
  | first (value : Option String)
  | all (values : List String)
  | number (n : Except Error (Option Int))
  | instant (i : Except Error (Option Instant))
  | truth (holds : Bool)
  | count (n : Nat)
  | items (l : List (String × List String))
  | bindings (l : List (String × String))
  | tree (t : Except Error Markup.Tree)
  | found (value : Except Error String)
  | text (s : String)

namespace Bag

def answer (r : Registry) (b : Bag) : Read → Answer
  | .get? k => .first (b.get? r k)
  | .getAll k => .all (b.getAll r k)
  | .getInt p => .number (b.getInt r p)
  | .getDate p => .instant (b.getDate r p)
  | .isMultiValued k => .truth (b.isMultiValued r k)
  | .contains k => .truth (b.contains r k)
  | .names => .all b.names
  | .size => .count b.size
  | .items => .items b.items
  | .namespaces => .bindings b.namespaces
  | .tree => .tree (Markup.Tree.ofStore b.store)
  | .written => .text (Markup.shown b.store)
  | .query expression => .found (XPath.query b.store expression)
  | .rendering f => .found (f b.store.items b.namespaces)
  | .text => .text b.text

/-- The answer of an operation, and the bag after it. -/
def perform (r : Registry) (b : Bag) : Operation → Answer × Bag
  | .write w => (.outcome (b.write r w).failure, (b.write r w).bag)
  | .read q => (b.answer r q, b)

def after (b : Bag) (ops : List (Registry × Operation)) : Bag :=
  ops.foldl (fun b op => (b.perform op.1 op.2).2) b

def transcript : Bag → List (Registry × Operation) → List Answer
  | _, [] => []
  | b, op :: ops => (b.perform op.1 op.2).1 :: transcript (b.perform op.1 op.2).2 ops

/-- **The induction over transcripts**: what every operation preserves, and what shows one answer
to every operation, shows one transcript. -/
lemma transcript_eq_of_related {R : Bag → Bag → Prop}
    (hstep : ∀ {a b}, R a b → ∀ r op,
      (a.perform r op).1 = (b.perform r op).1 ∧ R (a.perform r op).2 (b.perform r op).2)
    {a b : Bag} (h : R a b) (ops : List (Registry × Operation)) :
    a.transcript ops = b.transcript ops ∧ R (a.after ops) (b.after ops) := by
  induction ops generalizing a b with
  | nil => exact ⟨rfl, h⟩
  | cons op ops ih =>
    obtain ⟨hanswer, hbags⟩ := hstep h op.1 op.2
    obtain ⟨hrest, hend⟩ := ih hbags
    exact ⟨List.cons_eq_cons.mpr ⟨hanswer, hrest⟩, hend⟩

end Bag

end MetadataBag
