import MetadataBag.Name
import MetadataBag.OrderedMap

/-!
The prefixes that writes have bound to namespaces. Bindings are added and rebound, never removed.
-/

namespace MetadataBag

structure Namespaces (ν : Type := String) where
  bindings : OrderedMap String ν
  deriving DecidableEq

variable {ν : Type}

namespace Namespaces

/-- The entry prefix is bound from the start. -/
def initial [Space ν] : Namespaces ν :=
  ⟨OrderedMap.empty.insert entryPrefix (Space.text entryNamespace)⟩

instance [Space ν] : Inhabited (Namespaces ν) := ⟨initial⟩

def uri? (ns : Namespaces ν) (pre : String) : Option ν := ns.bindings.get? pre

def register (ns : Namespaces ν) (pre : String) (uri : ν) : Namespaces ν :=
  ⟨ns.bindings.insert pre uri⟩

/-- The prefix and namespace that storing a value under a name binds. -/
def bindingOf [Space ν] (n : Name ν) : Option (String × ν) :=
  match n.pre, n.uri with
  | some p, some u => if p = "" ∨ Space.filled u = false then none else some (p, u)
  | _, _ => none

def record [Space ν] (ns : Namespaces ν) (n : Name ν) : Namespaces ν :=
  match bindingOf n with
  | none => ns
  | some (p, u) => ns.register p u

def toList (ns : Namespaces ν) : List (String × ν) := ns.bindings.entries

def size (ns : Namespaces ν) : Nat := ns.bindings.size

end Namespaces

end MetadataBag
