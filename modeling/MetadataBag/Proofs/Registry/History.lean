import Mathlib.Data.List.Induction
import Mathlib.Tactic.Lemma
import MetadataBag.Key

/-!
The registries that calls lead to. A text that names a definition and the definition itself are
one key in each of them.
-/

namespace MetadataBag

namespace Registry

inductive Call (ν : Type := String) where
  | register (p : Property ν) (replace : Bool)
  | erase (name : String)
  | define (f : Factory) (key : String) (uri : Option ν)

variable {ν : Type} [Space ν]

def call (r : Registry ν) : Call ν → Except Error (Registry ν)
  | .register p replace => r.register p replace
  | .erase name => .ok (r.erase name)
  | .define f key uri => (f.define r key uri).map (·.1)

/-- The registry that calls make of an empty one; a refused call changes nothing. -/
def after (cs : List (Call ν)) : Registry ν :=
  cs.foldl (fun r c => (r.call c).toOption.getD r) empty

/-- A ready-made property is registered as any other. -/
lemma call_define (r : Registry ν) (f : Factory) (key : String) (uri : Option ν) :
    r.call (.define f key uri) = r.register (f.property key uri) := by
  simp only [Registry.call, Factory.define]
  cases r.register (f.property key uri) <;> rfl

lemma after_concat (cs : List (Call ν)) (c : Call ν) :
    after (cs ++ [c]) = ((after cs).call c).toOption.getD (after cs) := by
  simp [after]

end Registry

/-- A text that names a definition stands for the slot of the definition. -/
lemma Key.resolve_property_of_get? {ν : Type} [Space ν] {r : Registry ν} {name : String}
    {p : Property ν} (h : r.get? name = some p) :
    (Key.property p).resolve r = (Key.text name).resolve r := by
  simp only [resolve, Registry.displayName_of_get? h, resolveText, h]
  split <;> rfl

end MetadataBag
