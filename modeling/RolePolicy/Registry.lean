import RolePolicy.Config
import RolePolicy.RuleSet

namespace RolePolicy

structure Registry (χ : Type) where
  config : Config := {}
  roles : List (RuleSet χ) := []

namespace Registry

variable {χ : Type}

def names (g : Registry χ) : List String := g.roles.map RuleSet.name

def size (g : Registry χ) : Nat := g.roles.length

def isEmpty (g : Registry χ) : Bool := g.roles.isEmpty

def find? (g : Registry χ) (name : String) : Option (RuleSet χ) :=
  g.roles.find? (·.name == name)

def contains (g : Registry χ) (name : String) : Bool := (g.find? name).isSome

def add (g : Registry χ) (r : RuleSet χ) : Except PolicyError (Registry χ) :=
  if g.contains r.name then .error (.duplicateRole r.name)
  else .ok { g with roles := g.roles ++ [r] }

theorem find?_eq_some {g : Registry χ} {name : String} {r : RuleSet χ}
    (h : g.find? name = some r) : r ∈ g.roles ∧ r.name = name :=
  ⟨List.mem_of_find?_eq_some h, by simpa using List.find?_some h⟩

theorem contains_iff_mem_names {g : Registry χ} {name : String} :
    g.contains name ↔ name ∈ g.names := by
  simp [contains, find?, names, List.find?_isSome]

theorem add_of_contains {g : Registry χ} {r : RuleSet χ} (h : g.contains r.name) :
    g.add r = .error (.duplicateRole r.name) :=
  if_pos h

theorem add_of_not_contains {g : Registry χ} {r : RuleSet χ} (h : g.contains r.name = false) :
    g.add r = .ok { g with roles := g.roles ++ [r] } :=
  if_neg (by simp [h])

theorem find?_add {g g' : Registry χ} {r : RuleSet χ} (h : g.add r = .ok g') (name : String) :
    g'.find? name = (g.find? name).or (if r.name = name then some r else none) := by
  unfold add at h
  split at h
  · cases h
  · cases h
    simp [find?, List.find?_append, List.find?_cons]
    split <;> simp_all

def roleOf? (g : Registry χ) (a : Actor) : Option (RuleSet χ) := a.resolvedRole.bind g.find?

end Registry

end RolePolicy
