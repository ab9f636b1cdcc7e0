import RolePolicy.Proofs.Explanation
import RolePolicy.Proofs.Locality
import RolePolicy.Proofs.Refusals

/-! Where errors come from. Configuration fails with build errors alone, and a search never does.
Questions about a name that the catalog does not know are refused with a build error all the same.
-/

namespace RolePolicy

variable {χ ω α : Type}

def FailsBuilding (x : Except PolicyError α) : Prop := ∀ e, x = .error e → e.isBuildError

def Run.StopsBuilding (r : Run χ ω) : Prop := ∀ e, r.failure = some e → e.isBuildError

def Step.Propagates : Step χ ω → Prop
  | inspect view => ∀ catalog w e, (view catalog w).2 = some e → ∃ cause, e = .catalog cause
  | start _ _ | finish | clause _ | addLatest => True

def Script.Propagates : Script χ ω → Prop
  | done => True
  | step s _ rest => s.Propagates ∧ rest.Propagates
  | block _ body _ rest | role _ _ body _ rest => body.Propagates ∧ rest.Propagates

def Directive.Propagates : Directive χ ω → Prop
  | register _ => True
  | role _ _ body => body.Propagates
  | inspect view => ∀ catalog e, (view catalog).2 = some e → ∃ cause, e = .catalog cause

lemma failsBuilding_ok (a : α) : FailsBuilding (.ok a) := nofun

lemma failsBuilding_error {e : PolicyError} (h : e.isBuildError) :
    FailsBuilding (.error e : Except PolicyError α) := by
  rintro _ ⟨⟩
  exact h

lemma failsBuilding_mapError (x : Except CatalogError α) :
    FailsBuilding (x.mapError PolicyError.catalog) := by
  cases x with
  | ok a => exact failsBuilding_ok a
  | error cause => exact failsBuilding_error rfl

lemma FailsBuilding.of_failureOf {x : Except PolicyError α} (h : FailsBuilding x) {e : PolicyError}
    (he : failureOf x = some e) : e.isBuildError :=
  h e (Configurator.exists_error_of_failure he)

lemma Registry.failsBuilding_add (g : Registry χ) (r : RuleSet χ) : FailsBuilding (g.add r) := by
  rw [add]
  split
  · exact failsBuilding_error rfl
  · exact failsBuilding_ok _

namespace Workshop

variable {w : Workshop χ} {body : Workshop χ → Run χ ω}

lemma failsBuilding_clause (w : Workshop χ) (catalog : Catalog) (c : Clause χ) :
    FailsBuilding (w.clause catalog c).1 := by
  rw [clause, Session.apply]
  cases w.session.draft with
  | none => exact failsBuilding_error rfl
  | some d =>
    cases hd : d.apply catalog w.session.polarity c with
    | ok d' =>
      simp only [hd]
      exact failsBuilding_ok _
    | error cause =>
      simp only [hd]
      exact failsBuilding_error rfl

lemma failsBuilding_start (w : Workshop χ) (name : String) (parents : List String) :
    FailsBuilding (w.start name parents).1 := by
  rw [start, Session.start]
  cases w.session.draft with
  | none => exact failsBuilding_ok _
  | some d => exact failsBuilding_error rfl

lemma failsBuilding_finish (w : Workshop χ) : FailsBuilding w.finish.1 := by
  rw [finish, Session.finish]
  cases w.session.draft with
  | none => exact failsBuilding_error rfl
  | some d => exact failsBuilding_ok _

lemma failsBuilding_shelve {x : Except PolicyError (RuleSet χ) × Workshop χ}
    (h : FailsBuilding x.1) : FailsBuilding (shelve x).1 := by
  obtain ⟨outcome, w⟩ := x
  cases outcome with
  | ok r => exact failsBuilding_ok _
  | error e => exact failsBuilding_error (h e rfl)

lemma failsBuilding_addLatest (w : Workshop χ) : FailsBuilding w.addLatest.1 := by
  rw [addLatest]
  cases w.shelf with
  | nil => exact failsBuilding_ok _
  | cons r shelf =>
    cases hr : w.registry.add r with
    | ok g =>
      simp only [hr]
      exact failsBuilding_ok _
    | error e =>
      simp only [hr]
      exact failsBuilding_error (w.registry.failsBuilding_add r e hr)

lemma failsBuilding_within (w : Workshop χ) (p : Polarity)
    (hb : ∀ v, (body v).StopsBuilding) : FailsBuilding (w.within p body).2.1 := by
  rw [within]
  cases w.session.isDefining with
  | false => exact failsBuilding_error rfl
  | true =>
    simp only [if_true]
    cases hf : (body (w.setPolarity p)).failure with
    | none => exact failsBuilding_ok _
    | some e => exact failsBuilding_error (hb _ e hf)

lemma failsBuilding_define (w : Workshop χ) (name : String) (parents : List String)
    (hb : ∀ v, (body v).StopsBuilding) : FailsBuilding (w.define name parents body).2.1 := by
  rw [define, Session.start]
  cases w.session.draft with
  | some d => exact failsBuilding_error rfl
  | none =>
    simp only
    split
    · rename_i e hf
      exact failsBuilding_error (hb _ e hf)
    · exact failsBuilding_finish _

end Workshop

lemma Done.stopsBuilding_andThen {f : Done χ ω} {rest : Workshop χ → Run χ ω}
    (hf : ∀ e, f.failure = some e → e.isBuildError) (hr : ∀ v, (rest v).StopsBuilding)
    (caught : Bool) : (f.andThen caught rest).StopsBuilding := by
  intro e he
  rw [andThen_eq] at he
  split at he
  · exact hf e he
  · exact hr _ e he

lemma Step.isBuildError_of_failure {s : Step χ ω} (hs : s.Propagates) (catalog : Catalog)
    (w : Workshop χ) {e : PolicyError} (he : (s.run catalog w).failure = some e) :
    e.isBuildError := by
  cases s with
  | start name parents => exact (w.failsBuilding_start name parents).of_failureOf he
  | finish => exact (Workshop.failsBuilding_shelve w.failsBuilding_finish).of_failureOf he
  | clause c => exact (w.failsBuilding_clause catalog c).of_failureOf he
  | addLatest => exact w.failsBuilding_addLatest.of_failureOf he
  | inspect view =>
    obtain ⟨cause, rfl⟩ := hs catalog w e he
    rfl

lemma Script.stopsBuilding_run {script : Script χ ω} (hs : script.Propagates) (catalog : Catalog)
    (w : Workshop χ) : (script.run catalog w).StopsBuilding := by
  induction script generalizing w with
  | done => nofun
  | step s caught rest ih =>
    exact Done.stopsBuilding_andThen (fun _ => s.isBuildError_of_failure hs.1 catalog w) (ih hs.2)
      caught
  | block p body caught rest ihb ih =>
    rw [run_block]
    have hb := w.failsBuilding_within p (ihb hs.1)
    exact Done.stopsBuilding_andThen (fun _ => hb.of_failureOf) (ih hs.2) caught
  | role name parents body caught rest ihb ih =>
    rw [run_role]
    have hb := Workshop.failsBuilding_shelve (w.failsBuilding_define name parents (ihb hs.1))
    exact Done.stopsBuilding_andThen (fun _ => hb.of_failureOf) (ih hs.2) caught

namespace Configurator

variable {c : Configurator χ} {d : Directive χ ω} {e : PolicyError}

lemma failsBuilding_register (c : Configurator χ) (r : Registration) :
    FailsBuilding (c.register r).1 :=
  failsBuilding_mapError (c.catalog.apply r).1

lemma failsBuilding_role (c : Configurator χ) (name : String) (parents : List String)
    {body : Script χ ω} (hb : body.Propagates) : FailsBuilding (c.role name parents body).2.1 := by
  have hd : FailsBuilding (Workshop.define { c.aside with session := {} } name parents
      (body.run c.catalog)).2.1 :=
    Workshop.failsBuilding_define _ name parents fun w => Script.stopsBuilding_run hb c.catalog w
  rw [role]
  simp only
  split
  · rename_i e he
    exact failsBuilding_error (hd e he)
  · rename_i r _
    split
    · rename_i e he
      exact failsBuilding_error (c.registry.failsBuilding_add r e he)
    · exact failsBuilding_ok _

lemma isBuildError_of_failure (hd : d.Propagates) (he : (c.apply d).2.1 = some e) :
    e.isBuildError := by
  cases d with
  | register r => exact (c.failsBuilding_register r).of_failureOf he
  | role name parents body => exact (c.failsBuilding_role name parents hd).of_failureOf he
  | inspect view =>
    obtain ⟨cause, rfl⟩ := hd c.catalog e he
    rfl

lemma failure_run_cons (c : Configurator χ) (d : Directive.Guarded χ ω)
    (rest : List (Directive.Guarded χ ω)) :
    (c.run (d :: rest)).2.1 =
      if stops d.caught (c.apply d.directive).2.1 then (c.apply d.directive).2.1
      else ((c.apply d.directive).2.2.run rest).2.1 := by
  rw [run]
  cases hf : (c.apply d.directive).2.1 with
  | none => simp [hf, stops]
  | some e => cases hc : d.caught <;> simp [hf, stops]

lemma isBuildError_of_run {pass : List (Directive.Guarded χ ω)}
    (hp : ∀ d ∈ pass, d.directive.Propagates) (he : (c.run pass).2.1 = some e) :
    e.isBuildError := by
  induction pass generalizing c with
  | nil => cases he
  | cons d pass ih =>
    obtain ⟨hd, hp⟩ := List.forall_mem_cons.mp hp
    rw [failure_run_cons] at he
    split at he
    · exact isBuildError_of_failure hd he
    · exact ih hp he

end Configurator

lemma Authorizer.failsBuilding_configure (config : Config) {pass : List (Directive.Guarded χ ω)}
    (hp : ∀ d ∈ pass, d.directive.Propagates) :
    FailsBuilding (Authorizer.configure config pass).2 := by
  simp only [configure]
  split
  · rename_i entries e c hr
    exact failsBuilding_error (Configurator.isBuildError_of_run hp (by rw [hr]))
  · exact failsBuilding_ok _

/-- The errors that the statements of a configuration return, whatever their state. Bodies and
passes add no errors of their own. -/
inductive ConfigurationError (χ ω : Type) : PolicyError → Prop
  | register (c : Configurator χ) (r : Registration) {e : PolicyError} :
      (c.register r).1 = .error e → ConfigurationError χ ω e
  | start (w : Workshop χ) (name : String) (parents : List String) {e : PolicyError} :
      (w.start name parents).1 = .error e → ConfigurationError χ ω e
  | finish (w : Workshop χ) {e : PolicyError} :
      w.finish.1 = .error e → ConfigurationError χ ω e
  | clause (w : Workshop χ) (catalog : Catalog) (c : Clause χ) {e : PolicyError} :
      (w.clause catalog c).1 = .error e → ConfigurationError χ ω e
  | block (w : Workshop χ) (catalog : Catalog) (p : Polarity) {body : Script χ ω}
      {e : PolicyError} : body.Propagates → (w.within p (body.run catalog)).2.1 = .error e →
      ConfigurationError χ ω e
  | define (w : Workshop χ) (catalog : Catalog) (name : String) (parents : List String)
      {body : Script χ ω} {e : PolicyError} : body.Propagates →
      (w.define name parents (body.run catalog)).2.1 = .error e → ConfigurationError χ ω e
  | add (g : Registry χ) (r : RuleSet χ) {e : PolicyError} :
      g.add r = .error e → ConfigurationError χ ω e
  | role (c : Configurator χ) (name : String) (parents : List String) {body : Script χ ω}
      {e : PolicyError} : body.Propagates → (c.role name parents body).2.1 = .error e →
      ConfigurationError χ ω e
  | configure (config : Config) {pass : List (Directive.Guarded χ ω)} {e : PolicyError} :
      (∀ d ∈ pass, d.directive.Propagates) → (Authorizer.configure config pass).2 = .error e →
      ConfigurationError χ ω e

lemma ConfigurationError.isBuildError {e : PolicyError} (h : ConfigurationError χ ω e) :
    e.isBuildError := by
  cases h with
  | register c r he => exact c.failsBuilding_register r e he
  | start w name parents he => exact w.failsBuilding_start name parents e he
  | finish w he => exact w.failsBuilding_finish e he
  | clause w catalog c he => exact w.failsBuilding_clause catalog c e he
  | block w catalog p hb he =>
    exact w.failsBuilding_within p (Script.stopsBuilding_run hb catalog) e he
  | define w catalog name parents hb he =>
    exact w.failsBuilding_define name parents (Script.stopsBuilding_run hb catalog) e he
  | add g r he => exact g.failsBuilding_add r e he
  | role c name parents hb he => exact c.failsBuilding_role name parents hb e he
  | configure config hp he => exact Authorizer.failsBuilding_configure config hp e he

section

variable {g : Registry χ} {a : Authorizer χ} {q : Request} {e : PolicyError} {ask : Reaction χ}

lemma Registry.isBuildError_of_searchBy (h : (g.searchBy ask q).answer.outcome = .error e) :
    e.isBuildError = false := by
  rcases error_of_searchBy h with ⟨role, rfl⟩ | ⟨role, parent, rfl⟩ <;> rfl

variable [Callbacks χ]

lemma Registry.isBuildError_of_query (h : (g.query q).answer = .error e) :
    e.isBuildError = false := by
  rcases error_of_query h with ⟨role, rfl⟩ | ⟨role, parent, rfl⟩ <;> rfl

lemma Registry.isBuildError_of_trace (h : (g.trace q).answer = .error e) :
    e.isBuildError = false := by
  rw [answer_trace] at h
  cases ho : (g.search q).answer.outcome with
  | ok v => simp [ho, Except.map] at h
  | error e' =>
    simp only [ho, Except.map, Except.error.injEq] at h
    subst h
    rw [← searchBy_steady] at ho
    exact isBuildError_of_searchBy ho

lemma Authorizer.isBuildError_of_queryAble {actor : Actor} {resource : Resource} {able : String}
    (h : (a.queryAble actor resource able).answer = .error e) :
    e.isBuildError ↔ a.catalog.actionForAble? able = none := by
  rw [queryAble] at h
  cases ha : a.catalog.actionForAble? able with
  | none =>
    rw [ha] at h
    cases h
    simp [PolicyError.isBuildError]
  | some action =>
    rw [ha] at h
    simp [Registry.isBuildError_of_query h]

lemma Authorizer.isBuildError_of_enforce (h : (a.enforce q).answer = .error e) :
    e.isBuildError ↔ a.catalog.isAction q.action.name = false := by
  rw [enforce] at h
  cases hn : a.catalog.isAction q.action.name with
  | false =>
    rw [hn] at h
    cases h
    simp [PolicyError.isBuildError]
  | true =>
    rw [hn, if_pos rfl, Consulted.answer_bind] at h
    cases hq : (a.query q).answer with
    | error e' =>
      simp only [hq, Consulted.answer_pure, Except.error.injEq] at h
      subst h
      simp [Registry.isBuildError_of_query hq]
    | ok b =>
      cases b with
      | true => simp [hq] at h
      | false =>
        simp only [hq, Consulted.answer_pure, Except.error.injEq] at h
        subst h
        simp [denial, PolicyError.isBuildError]

end

theorem isBuildError_by_origin [Callbacks χ] (e : PolicyError) :
    (ConfigurationError χ ω e → e.isBuildError) ∧
    (∀ (g : Registry χ) (q : Request),
      (g.query q).answer = .error e ∨ (g.trace q).answer = .error e ∨
        (∃ ask c, g.LoopFinds ask q c ∧ c.answer.outcome = .error e) → e.isBuildError = false) ∧
    (∀ (a : Authorizer χ) (q : Request),
      (a.query q).answer = .error e ∨ (a.trace q).answer = .error e → e.isBuildError = false) ∧
    (∀ (a : Authorizer χ) (actor : Actor) (resource : Resource) (able : String),
      (a.queryAble actor resource able).answer = .error e →
        (e.isBuildError ↔ a.catalog.actionForAble? able = none)) ∧
    ∀ (a : Authorizer χ) (q : Request), (a.enforce q).answer = .error e →
      (e.isBuildError ↔ a.catalog.isAction q.action.name = false) := by
  refine ⟨ConfigurationError.isBuildError, fun g q h => ?_, fun a q h => ?_,
    fun a actor resource able => Authorizer.isBuildError_of_queryAble,
    fun a q => Authorizer.isBuildError_of_enforce⟩
  · rcases h with h | h | ⟨ask, c, hc, h⟩
    · exact Registry.isBuildError_of_query h
    · exact Registry.isBuildError_of_trace h
    · obtain rfl := hc.eq_searchBy
      exact Registry.isBuildError_of_searchBy h
  · rcases h with h | h
    · exact Registry.isBuildError_of_query h
    · exact Registry.isBuildError_of_trace h

def counter : Authorizer Probe := { catalog := Catalog.applyAll {} [.crud] }

theorem counter_isBuildError :
    let q : Request := ⟨{ role := some "a" }, ⟨some "b", "&str", none⟩, ⟨"view"⟩⟩
    (Authorizer.configure {} (Configurator.strict hearing)).2 =
      .error (.catalog (.duplicateAction "view")) ∧
    (PolicyError.catalog (.duplicateAction "view")).isBuildError ∧
    (counter.enforce q).answer = .error (.permissionDenied "a" "view" "b") ∧
    ¬ (PolicyError.permissionDenied "a" "view" "b").isBuildError := by
  intro q
  have hp : ∀ d ∈ Configurator.strict hearing, d.directive.Propagates := by
    simp [Configurator.strict, hearing, Directive.Propagates, hastyScript, Script.Propagates,
      Step.Propagates]
  have hc : (Authorizer.configure {} (Configurator.strict hearing)).2 =
      .error (.catalog (.duplicateAction "view")) := rfl
  have he : (counter.enforce q).answer = .error (.permissionDenied "a" "view" "b") := by
    decide +kernel
  obtain ⟨hconfiguration, _⟩ :=
    isBuildError_by_origin (χ := Probe) (ω := Unit) (.catalog (.duplicateAction "view"))
  obtain ⟨_, _, _, _, henforce⟩ :=
    isBuildError_by_origin (χ := Probe) (ω := Unit) (.permissionDenied "a" "view" "b")
  refine ⟨hc, hconfiguration (.configure {} hp hc), he, ?_⟩
  rw [henforce counter q he]
  decide +kernel

theorem counter_unknown_names :
    let actor : Actor := { role := some "a" }
    let resource : Resource := ⟨some "b", "&str", none⟩
    (counter.enforce ⟨actor, resource, ⟨"crud"⟩⟩).answer = .error (.catalog (.unknownName "crud")) ∧
    (PolicyError.catalog (.unknownName "crud")).isBuildError = true ∧
    (counter.queryAble actor resource "flyable").answer =
      .error (.catalog (.unknownName "flyable")) ∧
    (PolicyError.catalog (.unknownName "flyable")).isBuildError = true :=
  ⟨by decide +kernel, rfl, by decide +kernel, rfl⟩

end RolePolicy
