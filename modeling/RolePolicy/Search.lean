import RolePolicy.Lineage
import RolePolicy.Trace

/-! Answering requests: the first role of the lineage with an opinion decides. -/

namespace RolePolicy

structure Verdict where
  decision : Bool
  source : DecisionSource
deriving DecidableEq

structure Findings where
  steps : List TraceStep
  outcome : Except PolicyError Verdict

def Findings.after (step : TraceStep) (f : Findings) : Findings :=
  { f with steps := step :: f.steps }

namespace Registry

variable {χ : Type}

def missingParent? (g : Registry χ) (r : RuleSet χ) : Option String :=
  match g.config.missingParent with
  | .skip => none
  | .error => r.parents.find? fun p => !g.contains p

variable [Callbacks χ]

def consult (g : Registry χ) (q : Request) (id : Option String) :
    List (RuleSet χ) → Consulted χ Findings
  | [] => pure ⟨[], .ok ⟨g.config.defaultQueryResponse, .fallback⟩⟩
  | r :: rest => do
    let matched := (r.select id q.action).map Prod.snd
    let result ← r.evaluate q id
    let step : TraceStep := ⟨r.name, matched, result⟩
    match result, matched with
    | some decision, some source => pure ⟨[step], .ok ⟨decision, .rule r.name source⟩⟩
    | _, _ =>
      match g.missingParent? r with
      | some parent => pure ⟨[step], .error (.missingParent r.name parent)⟩
      | none => Findings.after step <$> g.consult q id rest

def identifier (g : Registry χ) (q : Request) : Option String :=
  q.resource.identifier g.config.allTypesAreResources

def search (g : Registry χ) (q : Request) : Consulted χ Findings :=
  match g.roleOf? q.actor with
  | some r => g.consult q (g.identifier q) (g.lineage r)
  | none =>
    if g.config.actorMustPlayRole then
      pure ⟨[], .error (.missingRole (q.actor.resolvedRole.getD "none"))⟩
    else pure ⟨[], .ok ⟨g.config.defaultQueryResponse, .noRole⟩⟩

def query (g : Registry χ) (q : Request) : Consulted χ (Except PolicyError Bool) :=
  (fun f => f.outcome.map Verdict.decision) <$> g.search q

def trace (g : Registry χ) (q : Request) : Consulted χ (Except PolicyError Trace) :=
  (fun f => f.outcome.map fun v =>
    { actorRole := q.actor.resolvedRole
      resource := g.identifier q
      action := q.action
      steps := f.steps
      decision := v.decision
      source := v.source }) <$> g.search q

end Registry

end RolePolicy
