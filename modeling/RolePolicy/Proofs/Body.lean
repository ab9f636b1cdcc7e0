import RolePolicy.Proofs.LastWriter
import RolePolicy.Script

/-! Bodies of roles that are made of clauses and blocks alone. What such a body does is what its
clauses do one after another, each under the polarity of the innermost block around it. -/

namespace RolePolicy

variable {χ ω : Type}

def Clause.failure? (catalog : Catalog) : Clause χ → Option PolicyError
  | declare action _ _ | respond action _ => failureOf ((catalog.resolve action).mapError .catalog)
  | setDefault _ | addParents _ => none

def stops (caught : Bool) (failure : Option PolicyError) : Bool := !caught && failure.isSome

inductive Body (χ : Type)
  | done
  | clause (c : Clause χ) (caught : Bool) (rest : Body χ)
  | block (p : Polarity) (body : Body χ) (caught : Bool) (rest : Body χ)

namespace Body

def script : Body χ → Script χ ω
  | done => .done
  | clause c caught rest => .step (.clause c) caught rest.script
  | block p body caught rest => .block p body.script caught rest.script

def failure? (catalog : Catalog) : Body χ → Option PolicyError
  | done => none
  | clause c caught rest =>
    if stops caught (c.failure? catalog) then c.failure? catalog else rest.failure? catalog
  | block _ body caught rest =>
    if stops caught (body.failure? catalog) then body.failure? catalog else rest.failure? catalog

def reached (catalog : Catalog) (p : Polarity) : Body χ → List (Statement χ)
  | done => []
  | clause c caught rest =>
    ⟨p, c⟩ :: if stops caught (c.failure? catalog) then [] else rest.reached catalog p
  | block q body caught rest =>
    body.reached catalog q ++
      if stops caught (body.failure? catalog) then [] else rest.reached catalog p

def issued (catalog : Catalog) (p : Polarity) (body : Body χ) : List (Statement χ) :=
  (body.reached catalog p).filter fun s => (s.clause.failure? catalog).isNone

end Body

section

variable {catalog : Catalog} {d d' : Draft χ} {s : Statement χ} {w : Workshop χ} {p : Polarity}
  {c : Clause χ} {e : PolicyError}

lemma Draft.failureOf_issue (catalog : Catalog) (d : Draft χ) (s : Statement χ) :
    failureOf ((d.issue catalog s).mapError .catalog) = s.clause.failure? catalog := by
  obtain ⟨p, c⟩ := s
  cases c with
  | setDefault | addParents => rfl
  | declare action | respond action =>
    simp only [issue, apply, Clause.failure?]
    cases catalog.resolve action <;> rfl

lemma Draft.exists_issue (h : s.clause.failure? catalog = none) :
    ∃ d', d.issue catalog s = .ok d' := by
  rw [← d.failureOf_issue] at h
  cases hs : d.issue catalog s with
  | ok d' => exact ⟨d', rfl⟩
  | error e => simp [hs, failureOf, Except.mapError] at h

lemma Draft.issueAll_append {statements rest : List (Statement χ)}
    (h : d.issueAll catalog statements = .ok d') :
    d.issueAll catalog (statements ++ rest) = d'.issueAll catalog rest := by
  induction statements generalizing d with
  | nil =>
    cases h
    rfl
  | cons s statements ih =>
    obtain ⟨d₁, hs, hr⟩ := issueAll_cons.mp h
    rw [List.cons_append, issueAll, hs]
    exact ih hr

lemma Workshop.clause_of_issue (hw : w.session = ⟨some d, p⟩)
    (hs : d.issue catalog ⟨p, c⟩ = .ok d') :
    w.clause catalog c = (.ok .nothing, { w with session := ⟨some d', p⟩ }) := by
  have hd : d.apply catalog p c = .ok d' := hs
  simp [clause, Session.apply, hw, hd]

lemma Workshop.clause_of_failure? (hw : w.session = ⟨some d, p⟩)
    (hc : c.failure? catalog = some e) : w.clause catalog c = (.error e, w) := by
  have hd := (d.failureOf_issue catalog ⟨p, c⟩).trans hc
  rw [Draft.issue] at hd
  cases ha : d.apply catalog p c with
  | ok d' => simp [ha, failureOf, Except.mapError] at hd
  | error e' =>
    simp only [ha, failureOf, Except.mapError, Option.some.injEq] at hd
    simp [clause, Session.apply, hw, ha, hd]

lemma Done.andThen_eq (f : Done χ ω) (caught : Bool) (rest : Workshop χ → Run χ ω) :
    f.andThen caught rest =
      if stops caught f.failure then ⟨[f.entry], f.failure, f.workshop⟩
      else ⟨f.entry :: (rest f.workshop).entries, (rest f.workshop).failure,
        (rest f.workshop).workshop⟩ := by
  obtain ⟨entry, failure, w⟩ := f
  cases failure <;> cases caught <;> rfl

lemma Script.run_block (catalog : Catalog) (p : Polarity) (body : Script χ ω) (caught : Bool)
    (rest : Script χ ω) (w : Workshop χ) :
    (block p body caught rest).run catalog w =
      (Done.block (w.within p (body.run catalog)).1 (w.within p (body.run catalog)).2).andThen
        caught (rest.run catalog) :=
  rfl

lemma Done.failure_block_within (hw : w.session = ⟨some d, p⟩) (q : Polarity)
    (run : Workshop χ → Run χ ω) :
    (Done.block (w.within q run).1 (w.within q run).2).failure =
      (run (w.setPolarity q)).failure := by
  rw [Workshop.within, hw]
  simp only [Session.isDefining, Option.isSome_some, if_true, Done.block]
  cases (run (w.setPolarity q)).failure <;> rfl

lemma Done.workshop_block_within (hw : w.session = ⟨some d, p⟩) (q : Polarity)
    (run : Workshop χ → Run χ ω) :
    (Done.block (w.within q run).1 (w.within q run).2).workshop =
      (run (w.setPolarity q)).workshop.setPolarity p := by
  rw [Workshop.within, hw]
  rfl

end

namespace Body

variable {catalog : Catalog} {d : Draft χ} {w : Workshop χ} {p q : Polarity} {caught : Bool}
  {c : Clause χ} {e : PolicyError} {body rest : Body χ}

lemma issued_clause (hc : c.failure? catalog = none) :
    (clause c caught rest).issued catalog p = ⟨p, c⟩ :: rest.issued catalog p := by
  simp [issued, reached, hc, stops]

lemma issued_clause_of_failure? (hc : c.failure? catalog = some e) :
    (clause c caught rest).issued catalog p =
      if stops caught (some e) then [] else rest.issued catalog p := by
  rw [issued, reached, List.filter_cons_of_neg (by simp [hc]), hc]
  split <;> rfl

lemma issued_block : (block q body caught rest).issued catalog p =
    body.issued catalog q ++
      if stops caught (body.failure? catalog) then [] else rest.issued catalog p := by
  rw [issued, reached, List.filter_append]
  split <;> rfl

lemma run_script (catalog : Catalog) (body : Body χ) (hw : w.session = ⟨some d, p⟩) :
    ∃ d', d.issueAll catalog (body.issued catalog p) = .ok d' ∧
      (body.script.run catalog w : Run χ ω).failure = body.failure? catalog ∧
      (body.script.run catalog w : Run χ ω).workshop = { w with session := ⟨some d', p⟩ } := by
  induction body generalizing w d p with
  | done => exact ⟨d, rfl, rfl, by rw [← hw]; rfl⟩
  | clause c caught rest ih =>
    rw [script, Script.run, Done.andThen_eq, Step.run, failure?]
    cases hc : c.failure? catalog with
    | none =>
      obtain ⟨d₁, hd⟩ := Draft.exists_issue (d := d) (s := ⟨p, c⟩) hc
      obtain ⟨d', hi, hf, hr⟩ := ih (w := { w with session := ⟨some d₁, p⟩ }) rfl
      rw [Workshop.clause_of_issue hw hd, issued_clause hc, Draft.issueAll, hd]
      simp only [Done.step, failureOf, stops, Option.isSome_none, Bool.and_false]
      exact ⟨d', hi, hf, hr⟩
    | some e =>
      rw [Workshop.clause_of_failure? hw hc, issued_clause_of_failure? hc]
      by_cases hs : stops caught (some e)
      · simp only [Done.step, failureOf, hs, if_true]
        exact ⟨d, rfl, trivial, by rw [← hw]⟩
      · simp only [Done.step, failureOf, hs]
        exact ih hw
  | block q body caught rest ihb ihr =>
    -- the body leaves the draft changed and nothing else: the polarity before it comes back
    obtain ⟨d₁, hi₁, hf₁, hr₁⟩ := ihb (w := w.setPolarity q) (d := d) (p := q)
      (by rw [Workshop.setPolarity, hw])
    rw [script, Script.run_block, Done.andThen_eq, Done.failure_block_within hw,
      Done.workshop_block_within hw, hf₁, hr₁, failure?, issued_block, Draft.issueAll_append hi₁]
    by_cases hs : stops caught (body.failure? catalog)
    · simp only [hs, if_true]
      exact ⟨d₁, rfl, trivial, rfl⟩
    · simp only [hs]
      exact ihr rfl

lemma define_script {name : String} {parents : List String} {r : RuleSet χ}
    (hw : w.session.draft = none)
    (h : (w.define name parents (body.script.run catalog : Workshop χ → Run χ ω)).2.1 = .ok r) :
    LastWriter catalog w.builds name parents (body.issued catalog .allow) r := by
  obtain ⟨d, hi, hf, hr⟩ := run_script (ω := ω) catalog body
    (w := { w with session := ⟨some (Draft.start w.builds name parents), .allow⟩
                   builds := w.builds + 1 }) rfl
  rw [Workshop.define, Session.start_of_closed hw] at h
  simp only [hf, hr] at h
  cases hb : body.failure? catalog with
  | some e => simp [hb] at h
  | none =>
    simp only [hb, Workshop.finish, Session.finish, Except.ok.injEq] at h
    rw [← h]
    exact (LastWriter.start catalog w.builds name parents).issueAll rfl hi

end Body

end RolePolicy
