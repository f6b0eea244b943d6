import Mathlib.Data.List.Forall2
import Mathlib.Tactic.Lemma
import MetadataBag.Catalog.Loading
import MetadataBag.Proofs.Registry.Extension

/-!
The course of loading a catalog. Loading goes through the properties and then through the
composites, and stops at the first entry that has none: what is left is told by how far it has
come.
-/

namespace MetadataBag.Catalog

def Reads (path : String) (declared : List (Value × Value)) (v : Value)
    (p : Property Namespace) : Prop :=
  propertyOf path declared v = .ok p

def Composes (path : String) (r : Registry Namespace) (v : Value) (c : Composite Namespace) :
    Prop :=
  compositeOf path r v = .ok c

namespace Loading

variable {l : Loading} {e : Error}

/-! ### Going on -/

section

variable {α : Type} {read : Loading → Value → Except Error α} {go : Loading → α → Loading}

end

/-! ### Properties -/

variable {path : String} {declared : List (Value × Value)} {p : Property Namespace}
  {vs : List Value}

end Loading

/-! ### The whole document -/

open Loading

end MetadataBag.Catalog
