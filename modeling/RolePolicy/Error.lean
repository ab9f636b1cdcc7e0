namespace RolePolicy

inductive CatalogError
  | duplicateAction (name : String)
  | unknownName (name : String)
  | emptyGroup (name : String)
deriving DecidableEq

def CatalogError.code : CatalogError → String
  | duplicateAction _ => "DUPLICATE_ACTION"
  | unknownName _ => "UNKNOWN_ACTION_OR_GROUP"
  | emptyGroup _ => "EMPTY_ACTION_GROUP"

def CatalogError.message : CatalogError → String
  | duplicateAction name => "Action " ++ name ++ " is already registered"
  | unknownName name => "Action or group " ++ name ++ " could not be found"
  | emptyGroup name => "Action group " ++ name ++ " resolves to no actions"

inductive PolicyError
  | catalog (cause : CatalogError)
  | duplicateRole (role : String)
  | noOpenRole
  | roleStillOpen (role : String)
  | missingRole (role : String)
  | missingParent (role parent : String)
  | permissionDenied (role action resource : String)
  | unnamedResource (typeName : String)
deriving DecidableEq

namespace PolicyError

def code : PolicyError → String
  | catalog cause => cause.code
  | duplicateRole _ => "DUPLICATE_ROLE"
  | noOpenRole => "OUTSIDE_ROLE_DEFINITION"
  | roleStillOpen _ => "ROLE_DEFINITION_IN_PROGRESS"
  | missingRole _ => "MISSING_ROLE"
  | missingParent _ _ => "MISSING_PARENT_ROLE"
  | permissionDenied _ _ _ => "PERMISSION_DENIED"
  | unnamedResource _ => "MISSING_RESOURCE_NAME"

def message : PolicyError → String
  | catalog cause => cause.message
  | duplicateRole role => "Role " ++ role ++ " already exists in the role registry"
  | noOpenRole => "Role permissions can only be defined inside a role definition"
  | roleStillOpen role => "Role " ++ role ++ " is still being defined"
  | missingRole role => "Role " ++ role ++ " could not be found in the registry"
  | missingParent role parent =>
    "Parent role " ++ parent ++ " of " ++ role ++ " could not be found in the registry"
  | permissionDenied role action resource =>
    "Role " ++ role ++ " doesn't have permission to " ++ action ++ " " ++ resource
  | unnamedResource typeName => "Resource of type " ++ typeName ++ " declares no name"

def isBuildError : PolicyError → Bool
  | catalog _ | duplicateRole _ | noOpenRole | roleStillOpen _ | unnamedResource _ => true
  | missingRole _ | missingParent _ _ | permissionDenied _ _ _ => false

end PolicyError

end RolePolicy
