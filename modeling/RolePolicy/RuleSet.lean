import RolePolicy.Response

namespace RolePolicy

inductive MatchSource
  | resource
  | wildcard
  | action
  | default
deriving DecidableEq

abbrev ResourceRules (χ : Type) := Std.ExtTreeMap ResourceKey (Response χ)

inductive ActionRule (χ : Type)
  | everywhere (response : Response χ)
  | byResource (rules : ResourceRules χ)
deriving DecidableEq

structure RuleSet (χ : Type) where
  name : String
  rules : Std.ExtTreeMap Action (ActionRule χ) := ∅
  defaultResponse : Option (Response χ) := none
  parents : List String := []
deriving DecidableEq

variable {χ : Type}

def ResourceRules.select (t : ResourceRules χ) (id : Option String) :
    Option (Response χ × MatchSource) :=
  match id.bind fun i => t[ResourceKey.named i]? with
  | some response => some (response, .resource)
  | none => t[ResourceKey.other]?.map (·, .wildcard)

def ActionRule.select (id : Option String) : ActionRule χ → Option (Response χ × MatchSource)
  | everywhere response => some (response, .action)
  | byResource rules => rules.select id

namespace RuleSet

def rule? (r : RuleSet χ) (action : Action) : Option (ActionRule χ) := r.rules[action]?

def responseFor? (r : RuleSet χ) (action : Action) (key : ResourceKey) : Option (Response χ) :=
  match r.rule? action with
  | some (.byResource rules) => rules[key]?
  | _ => none

def setDefault (r : RuleSet χ) (response : Response χ) : RuleSet χ :=
  { r with defaultResponse := some response }

def addParent (r : RuleSet χ) (name : String) : RuleSet χ :=
  if name ∈ r.parents then r else { r with parents := r.parents ++ [name] }

def addParents (r : RuleSet χ) (names : List String) : RuleSet χ := names.foldl addParent r

/-- A rule for all resources gives way to one by resource; other keys are kept. -/
def ruleWith (key : ResourceKey) (response : Response χ) : Option (ActionRule χ) → ActionRule χ
  | some (.byResource rules) => .byResource (rules.insert key response)
  | _ => .byResource ((∅ : ResourceRules χ).insert key response)

def declare (r : RuleSet χ) (action : Action) (key : ResourceKey) (response : Response χ) :
    RuleSet χ :=
  { r with rules := r.rules.insert action (ruleWith key response (r.rule? action)) }

@[simp] theorem rule?_declare (r : RuleSet χ) (a b : Action) (k : ResourceKey) (x : Response χ) :
    (r.declare a k x).rule? b = if a = b then some (ruleWith k x (r.rule? a)) else r.rule? b := by
  simp [declare, rule?, Std.ExtTreeMap.getElem?_insert]

theorem responseFor?_declare (r : RuleSet χ) (a : Action) (k l : ResourceKey) (x : Response χ) :
    (r.declare a k x).responseFor? a l = if k = l then some x else r.responseFor? a l := by
  rw [responseFor?, rule?_declare, if_pos rfl, responseFor?]
  rcases r.rule? a with _ | _ | rules
  all_goals simp [ruleWith, Std.ExtTreeMap.getElem?_insert]

def declareAll (r : RuleSet χ) (actions : List Action) (keys : List ResourceKey)
    (response : Response χ) : RuleSet χ :=
  actions.foldl (fun r a => keys.foldl (fun r k => r.declare a k response) r) r

def respond (r : RuleSet χ) (action : Action) (response : Response χ) : RuleSet χ :=
  { r with rules := r.rules.insert action (.everywhere response) }

@[simp] theorem rule?_respond (r : RuleSet χ) (a b : Action) (x : Response χ) :
    (r.respond a x).rule? b = if a = b then some (.everywhere x) else r.rule? b := by
  simp [respond, rule?, Std.ExtTreeMap.getElem?_insert]

def respondAll (r : RuleSet χ) (actions : List Action) (response : Response χ) : RuleSet χ :=
  actions.foldl (fun r a => r.respond a response) r

def select (r : RuleSet χ) (id : Option String) (action : Action) :
    Option (Response χ × MatchSource) :=
  ((r.rule? action).bind (·.select id)).or (r.defaultResponse.map (·, .default))

variable [Callbacks χ]

/-- Once a rule is selected nothing else of the role is consulted, even if it has no opinion. -/
def evaluate (r : RuleSet χ) (q : Request) (id : Option String) : Consulted χ (Option Bool) :=
  match r.select id q.action with
  | some (response, _) => response.evaluate q
  | none => pure none

def query (r : RuleSet χ) (q : Request) (allTypes : Bool) : Consulted χ (Option Bool) :=
  r.evaluate q (q.resource.identifier allTypes)

end RuleSet

end RolePolicy
