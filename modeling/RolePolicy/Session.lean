import RolePolicy.Catalog
import RolePolicy.RuleSet

/-! Sessions in which roles are defined one at a time. A clause is compiled against the polarity in
force and stored in the open role. -/

namespace RolePolicy

inductive Clause (χ : Type)
  | setDefault (response : Response χ)
  | addParents (names : List String)
  | declare (action : String) (keys : List ResourceKey) (condition : Option (Condition χ))
  | respond (action : String) (response : Response χ)

/-- A role under definition, with the origin of the next condition compiled for it. -/
structure Draft (χ : Type) where
  rules : RuleSet χ
  next : Origin

variable {χ : Type}

namespace Draft

def start (build : Nat) (name : String) (parents : List String) : Draft χ :=
  ⟨RuleSet.addParents { name } parents, { build }⟩

def compile (d : Draft χ) (p : Polarity) : Option (Condition χ) → Response χ × Origin
  | none => (.ofPolarity p, d.next)
  | some c => c.compile p d.next

def apply (catalog : Catalog) (p : Polarity) (d : Draft χ) :
    Clause χ → Except CatalogError (Draft χ)
  | .setDefault response => .ok { d with rules := d.rules.setDefault response }
  | .addParents names => .ok { d with rules := d.rules.addParents names }
  | .declare action keys condition =>
    (catalog.resolve action).map fun actions =>
      let (response, next) := d.compile p condition
      ⟨d.rules.declareAll actions (ResourceKey.effective keys) response, next⟩
  | .respond action response =>
    (catalog.resolve action).map fun actions =>
      { d with rules := d.rules.respondAll actions response }

end Draft

structure Session (χ : Type) where
  draft : Option (Draft χ) := none
  polarity : Polarity := .allow

namespace Session

def isDefining (s : Session χ) : Bool := s.draft.isSome

def start (s : Session χ) (build : Nat) (name : String) (parents : List String) :
    Except PolicyError (Session χ) :=
  match s.draft with
  | some d => .error (.roleStillOpen d.rules.name)
  | none => .ok { draft := some (Draft.start build name parents), polarity := .allow }

def apply (catalog : Catalog) (s : Session χ) (c : Clause χ) : Except PolicyError (Session χ) :=
  match s.draft with
  | none => .error .noOpenRole
  | some d =>
    match d.apply catalog s.polarity c with
    | .error e => .error (.catalog e)
    | .ok d' => .ok { s with draft := some d' }

def finish (s : Session χ) : Except PolicyError (RuleSet χ × Session χ) :=
  match s.draft with
  | none => .error .noOpenRole
  | some d => .ok (d.rules, {})

end Session

end RolePolicy
