import RolePolicy.Resource

namespace RolePolicy

structure Actor where
  role : Option String
  defaultRole : Option String := none
  attributes : Option Attributes := none

def Actor.resolvedRole (a : Actor) : Option String := a.role.or a.defaultRole

end RolePolicy
