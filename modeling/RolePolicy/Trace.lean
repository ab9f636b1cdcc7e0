import RolePolicy.RuleSet

namespace RolePolicy

structure TraceStep where
  role : String
  matched : Option MatchSource
  result : Option Bool
deriving DecidableEq

inductive DecisionSource
  | rule (role : String) (matched : MatchSource)
  | noRole
  | fallback
deriving DecidableEq

structure Trace where
  actorRole : Option String
  resource : Option String
  action : Action
  steps : List TraceStep
  decision : Bool
  source : DecisionSource
deriving DecidableEq

def Trace.visited (t : Trace) : List String := t.steps.map TraceStep.role

structure TraceRecord where
  id : String
  startedAt : String
  trace : Trace
deriving DecidableEq

end RolePolicy
