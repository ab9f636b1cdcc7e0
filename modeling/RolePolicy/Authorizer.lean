import RolePolicy.Catalog
import RolePolicy.Search

namespace RolePolicy

structure Authorizer (χ : Type) where
  catalog : Catalog := {}
  registry : Registry χ := {}

namespace Authorizer

variable {χ : Type} [Callbacks χ]

def query (a : Authorizer χ) (q : Request) : Consulted χ (Except PolicyError Bool) :=
  a.registry.query q

def trace (a : Authorizer χ) (q : Request) : Consulted χ (Except PolicyError Trace) :=
  a.registry.trace q

def queryAble (a : Authorizer χ) (actor : Actor) (resource : Resource) (able : String) :
    Consulted χ (Except PolicyError Bool) :=
  match a.catalog.actionForAble? able with
  | none => pure (.error (.catalog (.unknownName able)))
  | some action => a.query ⟨actor, resource, action⟩

def denial (a : Authorizer χ) (q : Request) : PolicyError :=
  .permissionDenied (q.actor.resolvedRole.getD "none") q.action.name
    ((a.registry.identifier q).getD "unnamed")

def enforce (a : Authorizer χ) (q : Request) : Consulted χ (Except PolicyError Unit) :=
  if a.catalog.isAction q.action.name then do
    match ← a.query q with
    | .error e => pure (.error e)
    | .ok true => pure (.ok ())
    | .ok false => pure (.error (a.denial q))
  else pure (.error (.catalog (.unknownName q.action.name)))

end Authorizer

end RolePolicy
