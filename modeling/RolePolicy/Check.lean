import RolePolicy.Callback

namespace RolePolicy

inductive Check
  | const (value : Bool)
  | action (name : String)
  | role (name : Option String)
  | resource (name : Option String)
  | typeName (name : String)
  | actorAttribute (key : String) (value : Json)
  | resourceAttribute (key : String) (value : Json)
  | sameAttribute (actorKey resourceKey : String)
  | negation (t : Check)
  | both (s t : Check)
  | either (s t : Check)
deriving DecidableEq

namespace Check

def all (ts : List Check) : Check := ts.foldr both (const true)

def any (ts : List Check) : Check := ts.foldr either (const false)

def attribute? (attributes : Option Attributes) (key : String) : Option Json :=
  attributes.bind (·.lookup key)

def holds (q : Request) : Check → Bool
  | const value => value
  | action name => q.action.name == name
  | role name => q.actor.resolvedRole == name
  | resource name => q.resource.name == name
  | typeName name => q.resource.typeName == name
  | actorAttribute key value => attribute? q.actor.attributes key == some value
  | resourceAttribute key value => attribute? q.resource.attributes key == some value
  | sameAttribute actorKey resourceKey =>
    match attribute? q.actor.attributes actorKey, attribute? q.resource.attributes resourceKey with
    | some a, some b => a == b
    | _, _ => false
  | negation t => !t.holds q
  | both s t => s.holds q && t.holds q
  | either s t => s.holds q || t.holds q

end Check

/-- A callback with a check and an answer for either outcome. Its number tells it from others that
say the same. -/
structure Probe where
  number : Nat
  label : Option String
  check : Check
  yes : Option Bool
  no : Option Bool
deriving DecidableEq

instance : Callbacks Probe where
  holds p q := p.check.holds q
  ask p q := if p.check.holds q then p.yes else p.no

end RolePolicy
