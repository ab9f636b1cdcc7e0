import RolePolicy.Registry
import RolePolicy.Session

/-! Scripts of statements that define roles and file them, with blocks nested to any depth, and the
entries a run of a script leaves. -/

namespace RolePolicy

/-- A session at work on roles. Finished roles lie on a shelf, the latest first, until they are
added to the registry. Roles are numbered as they are opened, under whatever name. -/
structure Workshop (χ : Type) where
  session : Session χ := {}
  shelf : List (RuleSet χ) := []
  registry : Registry χ := {}
  builds : Nat := 0

variable {χ ω : Type}

inductive Step (χ ω : Type)
  | start (name : String) (parents : List String)
  | finish
  | clause (c : Clause χ)
  | addLatest
  | inspect (view : Catalog → Workshop χ → ω × Option PolicyError)

/-- A sequence of statements. One that is `caught` does not end the sequence by failing. -/
inductive Script (χ ω : Type)
  | done
  | step (s : Step χ ω) (caught : Bool) (rest : Script χ ω)
  | block (p : Polarity) (body : Script χ ω) (caught : Bool) (rest : Script χ ω)
  | role (name : String) (parents : List String) (body : Script χ ω) (caught : Bool)
      (rest : Script χ ω)

inductive Product (χ : Type)
  | nothing
  | role (r : RuleSet χ)
  | registered (size : Option Nat)

/-- The account of one statement: its outcome with the polarity and whether a role is open right
after it, or what an inspection saw. -/
inductive Entry (χ ω : Type)
  | step (outcome : Except PolicyError (Product χ)) (polarity : Polarity) (defining : Bool)
  | block (outcome : Except PolicyError (Product χ)) (polarity : Polarity) (defining : Bool)
      (body : List (Entry χ ω))
  | seen (answer : ω)

structure Run (χ ω : Type) where
  entries : List (Entry χ ω)
  failure : Option PolicyError
  workshop : Workshop χ

def failureOf {α : Type} : Except PolicyError α → Option PolicyError
  | .ok _ => none
  | .error e => some e

namespace Workshop

def clause (w : Workshop χ) (catalog : Catalog) (c : Clause χ) :
    Except PolicyError (Product χ) × Workshop χ :=
  match w.session.apply catalog c with
  | .ok s => (.ok .nothing, { w with session := s })
  | .error e => (.error e, w)

def start (w : Workshop χ) (name : String) (parents : List String) :
    Except PolicyError (Product χ) × Workshop χ :=
  match w.session.start w.builds name parents with
  | .ok s => (.ok .nothing, { w with session := s, builds := w.builds + 1 })
  | .error e => (.error e, w)

def finish (w : Workshop χ) : Except PolicyError (RuleSet χ) × Workshop χ :=
  match w.session.finish with
  | .ok (r, s) => (.ok r, { w with session := s })
  | .error e => (.error e, w)

def shelve : Except PolicyError (RuleSet χ) × Workshop χ →
    Except PolicyError (Product χ) × Workshop χ
  | (.ok r, w) => (.ok (.role r), { w with shelf := r :: w.shelf })
  | (.error e, w) => (.error e, w)

def addLatest (w : Workshop χ) : Except PolicyError (Product χ) × Workshop χ :=
  match w.shelf with
  | [] => (.ok (.registered none), w)
  | r :: shelf =>
    match w.registry.add r with
    | .ok g => (.ok (.registered (some g.size)), { w with shelf := shelf, registry := g })
    | .error e => (.error e, { w with shelf := shelf })

def entryOf (outcome : Except PolicyError (Product χ)) (w : Workshop χ) : Entry χ ω :=
  .step outcome w.session.polarity w.session.isDefining

def blockEntry (outcome : Except PolicyError (Product χ)) (w : Workshop χ)
    (body : List (Entry χ ω)) : Entry χ ω :=
  .block outcome w.session.polarity w.session.isDefining body

end Workshop

structure Done (χ ω : Type) where
  entry : Entry χ ω
  failure : Option PolicyError
  workshop : Workshop χ

namespace Done

def step : Except PolicyError (Product χ) × Workshop χ → Done χ ω
  | (outcome, w) => ⟨w.entryOf outcome, failureOf outcome, w⟩

def block (body : List (Entry χ ω)) : Except PolicyError (Product χ) × Workshop χ → Done χ ω
  | (outcome, w) => ⟨w.blockEntry outcome body, failureOf outcome, w⟩

def andThen (d : Done χ ω) (caught : Bool) (rest : Workshop χ → Run χ ω) : Run χ ω :=
  match d.failure, caught with
  | some e, false => ⟨[d.entry], some e, d.workshop⟩
  | _, _ =>
    let r := rest d.workshop
    ⟨d.entry :: r.entries, r.failure, r.workshop⟩

end Done

def Step.run (catalog : Catalog) (w : Workshop χ) : Step χ ω → Done χ ω
  | .start name parents => .step (w.start name parents)
  | .finish => .step (Workshop.shelve w.finish)
  | .clause c => .step (w.clause catalog c)
  | .addLatest => .step w.addLatest
  | .inspect view => ⟨.seen (view catalog w).1, (view catalog w).2, w⟩

namespace Workshop

def setPolarity (w : Workshop χ) (p : Polarity) : Workshop χ :=
  { w with session := { w.session with polarity := p } }

def within (w : Workshop χ) (p : Polarity) (body : Workshop χ → Run χ ω) :
    List (Entry χ ω) × Except PolicyError (Product χ) × Workshop χ :=
  if w.session.isDefining then
    let r := body (w.setPolarity p)
    (r.entries, (match r.failure with | none => .ok .nothing | some e => .error e),
      r.workshop.setPolarity w.session.polarity)
  else ([], .error .noOpenRole, w)

/-- Opens a role, runs a block in it and closes it. A block that fails takes the role with it. -/
def define (w : Workshop χ) (name : String) (parents : List String)
    (body : Workshop χ → Run χ ω) :
    List (Entry χ ω) × Except PolicyError (RuleSet χ) × Workshop χ :=
  match w.session.start w.builds name parents with
  | .error e => ([], .error e, w)
  | .ok s =>
    let r := body { w with session := s, builds := w.builds + 1 }
    match r.failure with
    | some e => (r.entries, .error e, { r.workshop with session := {} })
    | none => (r.entries, r.workshop.finish)

end Workshop

namespace Script

def run (catalog : Catalog) : Script χ ω → Workshop χ → Run χ ω
  | done, w => ⟨[], none, w⟩
  | step s caught rest, w => (s.run catalog w).andThen caught (rest.run catalog)
  | block p body caught rest, w =>
    let (entries, result) := w.within p (body.run catalog)
    (Done.block entries result).andThen caught (rest.run catalog)
  | role name parents body caught rest, w =>
    let (entries, result) := w.define name parents (body.run catalog)
    (Done.block entries (Workshop.shelve result)).andThen caught (rest.run catalog)

end Script

end RolePolicy
