import RolePolicy.Text.Blank
import RolePolicy.Text.Case

namespace RolePolicy

inductive MissingParentPolicy
  | skip
  | error
deriving DecidableEq

namespace MissingParentPolicy

def text : MissingParentPolicy → String
  | skip => "skip"
  | error => "error"

def ofText? (s : String) : Option MissingParentPolicy :=
  let word := Text.lower s
  if word = "skip" ∨ word = "ignore" then some skip
  else if word = "error" ∨ word = "strict" then some error
  else none

end MissingParentPolicy

def flagOfText? (s : String) : Option Bool :=
  let word := Text.lower (Text.trim s)
  if word ∈ ["1", "true", "yes", "on"] then some true
  else if word ∈ ["0", "false", "no", "off"] then some false
  else none

structure Config where
  defaultQueryResponse : Bool := false
  actorMustPlayRole : Bool := false
  allTypesAreResources : Bool := false
  missingParent : MissingParentPolicy := .skip
deriving DecidableEq

inductive Setting
  | defaultQueryResponse (value : Bool)
  | actorMustPlayRole (value : Bool)
  | allTypesAreResources (value : Bool)
  | missingParent (value : MissingParentPolicy)

def Config.set (c : Config) : Setting → Config
  | .defaultQueryResponse b => { c with defaultQueryResponse := b }
  | .actorMustPlayRole b => { c with actorMustPlayRole := b }
  | .allTypesAreResources b => { c with allTypesAreResources := b }
  | .missingParent p => { c with missingParent := p }

end RolePolicy
