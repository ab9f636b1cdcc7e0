import RolePolicy.Config

namespace RolePolicy

inductive Variable
  | defaultQueryResponse
  | actorMustPlayRole
  | allTypesAreResources
  | missingParent
deriving DecidableEq

abbrev Environment := Variable → Option ByteArray

namespace Environment

def text? (env : Environment) (v : Variable) : Option String := (env v).bind String.fromUTF8?

def flag? (env : Environment) (v : Variable) : Option Bool := (env.text? v).bind flagOfText?

def config (env : Environment) : Config where
  defaultQueryResponse :=
    (env.flag? .defaultQueryResponse).getD ({} : Config).defaultQueryResponse
  actorMustPlayRole := (env.flag? .actorMustPlayRole).getD ({} : Config).actorMustPlayRole
  allTypesAreResources :=
    (env.flag? .allTypesAreResources).getD ({} : Config).allTypesAreResources
  missingParent :=
    ((env.text? .missingParent).bind MissingParentPolicy.ofText?).getD ({} : Config).missingParent

end Environment

end RolePolicy
