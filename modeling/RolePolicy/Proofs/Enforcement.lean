import RolePolicy.Authorizer
import RolePolicy.Check
import RolePolicy.Proofs.Explanation
import RolePolicy.Proofs.Visits

namespace RolePolicy

variable {χ : Type}

def Trace.judgement (t : Trace) : Except PolicyError Unit :=
  if t.decision then .ok ()
  else .error (.permissionDenied (t.actorRole.getD "none") t.action.name
    (t.resource.getD "unnamed"))

namespace Catalog

variable {c : Catalog} {able : String} {x : Ability}

def FirstAble (c : Catalog) (able : String) (x : Ability) : Prop :=
  ∃ before after, c.abilities = before ++ x :: after ∧ x.able = some able ∧
    ∀ y ∈ before, y.able ≠ some able

lemma actionForAble?_of_firstAble (h : c.FirstAble able x) :
    c.actionForAble? able = some x.action := by
  obtain ⟨before, after, hc, hx, hb⟩ := h
  have hf : c.abilities.find? (·.able == some able) = some x :=
    List.find?_eq_some_iff_append.mpr ⟨by simp [hx], before, after, hc, by simpa using hb⟩
  rw [actionForAble?, hf, Option.map_some]

lemma actionForAble?_eq_none_iff :
    c.actionForAble? able = none ↔ ∀ x ∈ c.abilities, x.able ≠ some able := by
  simp [actionForAble?]

lemma exists_firstAble {action : Action}
    (h : c.actionForAble? able = some action) : ∃ x, c.FirstAble able x := by
  obtain ⟨x, hf, _⟩ := Option.map_eq_some_iff.mp h
  obtain ⟨hx, before, after, hc, hb⟩ := List.find?_eq_some_iff_append.mp hf
  exact ⟨x, before, after, hc, by simpa using hx, by simpa using hb⟩

lemma isAction_of_firstAble (h : c.FirstAble able x) :
    c.isAction x.action.name := by
  obtain ⟨before, after, hc, _⟩ := h
  exact isAction_iff.mpr (List.mem_map.mpr ⟨x, by simp [hc], rfl⟩)

end Catalog

namespace Authorizer

variable [Callbacks χ] {a : Authorizer χ} {q : Request} {actor : Actor} {resource : Resource}
  {able : String} {x : Ability}

structure Enforces (a : Authorizer χ) (q : Request) : Prop where
  granted : (a.enforce q).answer = .ok () ↔
    a.catalog.isAction q.action.name ∧ (a.query q).answer = .ok true
  unknown : a.catalog.isAction q.action.name = false →
    (a.enforce q).answer = .error (.catalog (.unknownName q.action.name))
  failed : a.catalog.isAction q.action.name →
    ∀ e, (a.query q).answer = .error e → (a.enforce q).answer = .error e
  denied : a.catalog.isAction q.action.name → (a.query q).answer = .ok false →
    ∃ t, (a.trace q).answer = .ok t ∧ t.decision = false ∧
      (a.enforce q).answer = .error (.permissionDenied (t.actorRole.getD "none") q.action.name
        (t.resource.getD "unnamed"))
  judged : a.catalog.isAction q.action.name →
    (a.enforce q).answer = (a.trace q).answer.bind Trace.judgement

structure AnswersAble (a : Authorizer χ) (actor : Actor) (resource : Resource) (able : String) :
    Prop where
  first : ∀ x, a.catalog.FirstAble able x →
    a.queryAble actor resource able = a.query ⟨actor, resource, x.action⟩
  unknown : (a.queryAble actor resource able).answer = .error (.catalog (.unknownName able)) ↔
    ∀ x ∈ a.catalog.abilities, x.able ≠ some able
  enforced : (a.queryAble actor resource able).answer = .ok true →
    ∃ x, a.catalog.FirstAble able x ∧ (a.enforce ⟨actor, resource, x.action⟩).answer = .ok ()

lemma answer_query_eq (a : Authorizer χ) (q : Request) :
    (a.query q).answer = (a.trace q).answer.map Trace.decision := by
  change (a.registry.search q).answer.outcome.map Verdict.decision =
    (a.registry.trace q).answer.map Trace.decision
  rw [Registry.answer_trace]
  cases (a.registry.search q).answer.outcome <;> rfl

lemma subject_of_trace {t : Trace} (h : (a.trace q).answer = .ok t) :
    t.actorRole = q.actor.resolvedRole ∧ t.resource = a.registry.identifier q ∧
      t.action = q.action := by
  have ht : (a.registry.search q).answer.outcome.map
      (a.registry.traceOf q (a.registry.search q).answer.steps) = .ok t := h
  cases ho : (a.registry.search q).answer.outcome with
  | error e => simp [ho, Except.map] at ht
  | ok v =>
    simp only [ho, Except.map, Except.ok.injEq] at ht
    subst ht
    exact ⟨rfl, rfl, rfl⟩

lemma enforce_of_not_isAction (h : a.catalog.isAction q.action.name = false) :
    (a.enforce q).answer = .error (.catalog (.unknownName q.action.name)) := by
  rw [enforce, if_neg (by simp [h]), Consulted.answer_pure]

lemma enforce_of_isAction (h : a.catalog.isAction q.action.name) :
    (a.enforce q).answer = (a.trace q).answer.bind Trace.judgement := by
  have hq := a.answer_query_eq q
  rw [enforce, if_pos h, Consulted.answer_bind, hq]
  cases ht : (a.trace q).answer with
  | error e => rfl
  | ok t =>
    obtain ⟨hrole, hresource, haction⟩ := subject_of_trace ht
    have hd : a.denial q = .permissionDenied (t.actorRole.getD "none") t.action.name
        (t.resource.getD "unnamed") := by
      rw [hrole, hresource, haction, denial]
    simp only [Except.map, Except.bind, Trace.judgement]
    cases t.decision with
    | true => rfl
    | false => exact congrArg Except.error hd

lemma judgement_eq_ok_iff {t : Trace} : t.judgement = .ok () ↔ t.decision = true := by
  cases hd : t.decision <;> simp [Trace.judgement, hd]

lemma enforces (a : Authorizer χ) (q : Request) : a.Enforces q := by
  have hq := a.answer_query_eq q
  refine ⟨?_, enforce_of_not_isAction, fun hn e he => ?_, fun hn hf => ?_, enforce_of_isAction⟩
  · cases hn : a.catalog.isAction q.action.name with
    | false => simp [enforce_of_not_isAction hn]
    | true =>
      rw [enforce_of_isAction hn, hq]
      cases (a.trace q).answer with
      | error e => simp [Except.bind, Except.map]
      | ok t => simp [Except.bind, Except.map, judgement_eq_ok_iff]
  · rw [hq] at he
    rw [enforce_of_isAction hn]
    cases ht : (a.trace q).answer with
    | error e' =>
      rw [ht] at he
      cases he
      rfl
    | ok t =>
      rw [ht] at he
      cases he
  · rw [hq] at hf
    rw [enforce_of_isAction hn]
    cases ht : (a.trace q).answer with
    | error e =>
      rw [ht] at hf
      cases hf
    | ok t =>
      rw [ht] at hf
      have hd : t.decision = false := Except.ok.inj hf
      obtain ⟨_, _, haction⟩ := subject_of_trace ht
      refine ⟨t, rfl, hd, ?_⟩
      simp [Except.bind, Trace.judgement, hd, haction]

lemma queryAble_of_firstAble (h : a.catalog.FirstAble able x) :
    a.queryAble actor resource able = a.query ⟨actor, resource, x.action⟩ := by
  rw [queryAble, Catalog.actionForAble?_of_firstAble h]

lemma queryAble_of_none (h : a.catalog.actionForAble? able = none) :
    a.queryAble actor resource able = pure (.error (.catalog (.unknownName able))) := by
  rw [queryAble, h]

lemma answersAble (a : Authorizer χ) (actor : Actor) (resource : Resource) (able : String) :
    a.AnswersAble actor resource able := by
  refine ⟨fun x => queryAble_of_firstAble, ?_, fun h => ?_⟩
  · rw [← Catalog.actionForAble?_eq_none_iff]
    cases hk : a.catalog.actionForAble? able with
    | none => simp [queryAble_of_none hk]
    | some action =>
      -- A query has errors of its own, none of which is about a name of the catalog.
      obtain ⟨x, hx⟩ := Catalog.exists_firstAble hk
      rw [queryAble_of_firstAble hx]
      refine iff_of_false (fun he => ?_) (by simp)
      rcases Registry.error_of_query he with ⟨_, h⟩ | ⟨_, _, h⟩ <;> cases h
  · cases hk : a.catalog.actionForAble? able with
    | none => simp [queryAble_of_none hk] at h
    | some action =>
      obtain ⟨x, hx⟩ := Catalog.exists_firstAble hk
      rw [queryAble_of_firstAble hx] at h
      exact ⟨x, hx, (a.enforces _).granted.mpr ⟨Catalog.isAction_of_firstAble hx, h⟩⟩

theorem enforce_agrees (a : Authorizer χ) (q : Request) (able : String) :
    a.Enforces q ∧ a.AnswersAble q.actor q.resource able :=
  ⟨a.enforces q, a.answersAble q.actor q.resource able⟩

example : (enforce (χ := Probe) { catalog := Catalog.applyAll {} [.crud] }
    ⟨{ role := none }, ⟨none, "invoice", none⟩, ⟨"view"⟩⟩).answer =
      .error (.permissionDenied "none" "view" "unnamed") := by
  decide +kernel

end Authorizer

end RolePolicy
