import RolePolicy.Action
import RolePolicy.Error

namespace RolePolicy

structure Ability where
  action : Action
  able : Option String
deriving DecidableEq

/-- Abilities are kept in the order of their registration. A group holds the atomic actions its
members stood for when it was registered. -/
structure Catalog where
  abilities : List Ability := []
  groups : Std.ExtTreeMap String (List Action) := ∅
  hasCrud : Bool := false
deriving DecidableEq

namespace Catalog

def actions (c : Catalog) : List Action := c.abilities.map Ability.action

def ability? (c : Catalog) (name : String) : Option Ability :=
  c.abilities.find? (·.action.name == name)

def isAction (c : Catalog) (name : String) : Bool := (c.ability? name).isSome

theorem isAction_iff {c : Catalog} {name : String} : c.isAction name ↔ ⟨name⟩ ∈ c.actions := by
  simp only [isAction, ability?, List.find?_isSome, actions, List.mem_map, beq_iff_eq]
  exact ⟨fun ⟨a, h, e⟩ => ⟨a, h, congrArg Action.mk e⟩,
    fun ⟨a, h, e⟩ => ⟨a, h, congrArg Action.name e⟩⟩

def ableFor? (c : Catalog) (name : String) : Option String := (c.ability? name).bind Ability.able

def actionForAble? (c : Catalog) (able : String) : Option Action :=
  (c.abilities.find? (·.able == some able)).map Ability.action

def contains (c : Catalog) (name : String) : Bool := c.isAction name || c.groups.contains name

def resolve (c : Catalog) (name : String) : Except CatalogError (List Action) :=
  if c.isAction name then .ok [⟨name⟩]
  else match c.groups[name]? with
    | some actions => .ok actions
    | none => .error (.unknownName name)

theorem contains_iff {c : Catalog} {name : String} :
    c.contains name ↔ ∃ actions, c.resolve name = .ok actions := by
  unfold contains resolve
  cases h : c.groups[name]? with
  | none => cases c.isAction name <;> simp_all [Std.ExtTreeMap.contains_eq_isSome_getElem?]
  | some l => cases c.isAction name <;> simp_all [Std.ExtTreeMap.contains_eq_isSome_getElem?]

def register (c : Catalog) (name : String) (able : Option String) : Except CatalogError Catalog :=
  match c.ability? name with
  | some known => if known.able = able then .ok c else .error (.duplicateAction name)
  | none =>
    if c.groups.contains name then .error (.duplicateAction name)
    else .ok { c with abilities := c.abilities ++ [⟨⟨name⟩, able⟩] }

def expand (c : Catalog) (members : List String) : Except CatalogError (List Action) :=
  (members.mapM c.resolve).map fun expansions => expansions.flatten.eraseDups

/-- A group may be registered again, also with itself as a member. -/
def registerGroup (c : Catalog) (name : String) (members : List String) :
    Except CatalogError Catalog :=
  if c.isAction name then .error (.duplicateAction name)
  else match c.expand members with
    | .error e => .error e
    | .ok [] => .error (.emptyGroup name)
    | .ok actions => .ok { c with groups := c.groups.insert name actions }

def crudAbilities : List Ability :=
  [⟨⟨"create"⟩, some "creatable"⟩, ⟨⟨"view"⟩, some "viewable"⟩,
    ⟨⟨"update"⟩, some "updatable"⟩, ⟨⟨"destroy"⟩, some "destroyable"⟩]

def crudGroup : String := "crud"

def registerAll (c : Catalog) : List Ability → Except CatalogError Unit × Catalog
  | [] => (.ok (), c)
  | a :: rest =>
    match c.register a.action.name a.able with
    | .ok c' => c'.registerAll rest
    | .error e => (.error e, c)

def registerCrud (c : Catalog) : Except CatalogError Unit × Catalog :=
  if c.hasCrud then (.ok (), c)
  else match c.registerAll crudAbilities with
    | (.error e, c') => (.error e, c')
    | (.ok (), c') =>
      match c'.registerGroup crudGroup (crudAbilities.map (·.action.name)) with
      | .error e => (.error e, c')
      | .ok c'' => (.ok (), { c'' with hasCrud := true })

end Catalog

inductive Registration
  | action (name : String)
  | ability (name able : String)
  | group (name : String) (members : List String)
  | crud
deriving DecidableEq

namespace Catalog

def settle (c : Catalog) : Except CatalogError Catalog → Except CatalogError Unit × Catalog
  | .ok c' => (.ok (), c')
  | .error e => (.error e, c)

def apply (c : Catalog) : Registration → Except CatalogError Unit × Catalog
  | .action name => c.settle (c.register name none)
  | .ability name able => c.settle (c.register name (some able))
  | .group name members => c.settle (c.registerGroup name members)
  | .crud => c.registerCrud

def applyAll (c : Catalog) (rs : List Registration) : Catalog :=
  rs.foldl (fun c r => (c.apply r).2) c

end Catalog

end RolePolicy
