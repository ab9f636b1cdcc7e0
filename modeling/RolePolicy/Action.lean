import Std.Data.ExtTreeMap

namespace RolePolicy

structure Action where
  name : String
deriving DecidableEq

namespace Action

instance : Ord Action := ⟨fun a b => compare a.name b.name⟩

theorem compare_def (a b : Action) : compare a b = compare a.name b.name := rfl

instance : Std.TransOrd Action where
  eq_swap {a b} := by simpa only [compare_def] using Std.OrientedOrd.eq_swap
  isLE_trans {a b c} h k := by
    rw [compare_def] at h k ⊢
    exact Std.TransOrd.isLE_trans h k

instance : Std.LawfulEqOrd Action where
  eq_of_compare {a b} h := by
    rw [compare_def, Std.compare_eq_iff_eq] at h
    cases a; cases b; exact congrArg mk h

def sortDistinct (actions : List Action) : List Action :=
  (Std.ExtTreeMap.ofList (actions.map fun a => (a, ())) compare).keys

end Action

end RolePolicy
