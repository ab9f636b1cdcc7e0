import RolePolicy.Authorizer
import RolePolicy.Text.Quoted

namespace RolePolicy

def describeRecord (name : String) (fields : List (String × String)) : String :=
  name ++ " \x7b " ++ ", ".intercalate (fields.map fun (f, value) => f ++ ": " ++ value) ++ " \x7d"

def describeList (items : List String) : String := "[" ++ ", ".intercalate items ++ "]"

def describeMap (entries : List (String × String)) : String :=
  "\x7b" ++ ", ".intercalate (entries.map fun (key, value) => key ++ ": " ++ value) ++ "\x7d"

def describeOption : Option String → String
  | none => "None"
  | some value => "Some(" ++ value ++ ")"

def describeBool (b : Bool) : String := if b then "true" else "false"

def Action.describe (a : Action) : String := "Action(" ++ Text.quote a.name ++ ")"

variable {χ : Type}

def Condition.describe : Condition χ → String
  | ifHolds _ => "If(..)"
  | unlessHolds _ => "Unless(..)"

def Response.describe : Response χ → String
  | allow => "Allow"
  | deny => "Deny"
  | unset => "Unset"
  | predicate _ => "Predicate(..)"

def ActionRule.describe : ActionRule χ → String
  | everywhere response => response.describe
  | byResource rules =>
    describeMap (rules.toList.map fun (key, response) => (Text.quote key.text, response.describe))

def RuleSet.describe (r : RuleSet χ) : String :=
  describeRecord "RuleSet" [
    ("name", Text.quote r.name),
    ("responses", describeMap (r.rules.toList.map fun (a, rule) => (a.describe, rule.describe))),
    ("default_response", describeOption (r.defaultResponse.map Response.describe)),
    ("parents", describeList (r.parents.map Text.quote))]

def MissingParentPolicy.describe : MissingParentPolicy → String
  | skip => "Skip"
  | error => "Error"

def Config.describe (c : Config) : String :=
  describeRecord "EngineConfig" [
    ("default_query_response", describeBool c.defaultQueryResponse),
    ("actor_must_play_role", describeBool c.actorMustPlayRole),
    ("all_types_are_resources", describeBool c.allTypesAreResources),
    ("missing_parent", c.missingParent.describe)]

def Registry.describe (g : Registry χ) : String :=
  describeRecord "RoleRegistry" [
    ("roles", describeList (g.names.map Text.quote)),
    ("config", g.config.describe)]

def Catalog.describe (c : Catalog) : String :=
  let expansion (actions : List Action) := describeList (actions.map Action.describe)
  describeRecord "ActionCatalog" [
    ("actions", describeMap (c.abilities.map fun a =>
      (a.action.describe, describeOption (a.able.map Text.quote)))),
    ("order", expansion c.actions),
    ("resolved", describeMap (
      (c.actions.map fun a => (Text.quote a.name, expansion [a])) ++
      (c.groups.toList.map fun (name, actions) => (Text.quote name, expansion actions)))),
    ("crud", describeBool c.hasCrud)]

def Authorizer.describe (a : Authorizer χ) : String :=
  describeRecord "Authorizer" [("catalog", a.catalog.describe), ("registry", a.registry.describe)]

end RolePolicy
