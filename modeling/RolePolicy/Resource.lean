import RolePolicy.Error
import RolePolicy.Json
import Std.Data.ExtTreeMap

namespace RolePolicy

abbrev Attributes := List (String × Json)

structure Resource where
  name : Option String
  typeName : String
  attributes : Option Attributes := none

namespace Resource

def identifier (r : Resource) (allTypes : Bool) : Option String :=
  match r.name with
  | some name => some name
  | none => if allTypes then some r.typeName else none

def requireName (r : Resource) : Except PolicyError String :=
  match r.name with
  | some name => .ok name
  | none => .error (.unnamedResource r.typeName)

end Resource

/-- A resource identifier, or every resource without a rule of its own. -/
inductive ResourceKey
  | named (id : String)
  | other
deriving DecidableEq

namespace ResourceKey

def isOther : ResourceKey → Bool
  | named _ => false
  | other => true

def text : ResourceKey → String
  | named id => id
  | other => "_other"

def order : ResourceKey → ResourceKey → Ordering
  | named a, named b => compare a b
  | named _, other => .lt
  | other, named _ => .gt
  | other, other => .eq

instance : Ord ResourceKey := ⟨order⟩

@[simp] theorem compare_named (a b : String) : compare (named a) (named b) = compare a b := rfl

@[simp] theorem compare_named_other (a : String) : compare (named a) other = .lt := rfl

@[simp] theorem compare_other_named (a : String) : compare other (named a) = .gt := rfl

@[simp] theorem compare_other : compare other other = .eq := rfl

instance : Std.TransOrd ResourceKey where
  eq_swap {a b} := by
    cases a <;> cases b <;> simp
    exact Std.OrientedOrd.eq_swap
  isLE_trans {a b c} h k := by
    cases a <;> cases b <;> cases c <;> simp_all
    exact Std.TransOrd.isLE_trans h k

instance : Std.LawfulEqOrd ResourceKey where
  eq_of_compare {a b} h := by
    cases a <;> cases b <;> simp_all

/-- The keys a declaration is stored under: an empty list, or one with `other`, means `other`. -/
def effective (keys : List ResourceKey) : List ResourceKey :=
  if keys.isEmpty || keys.any isOther then [other] else keys

end ResourceKey

end RolePolicy
