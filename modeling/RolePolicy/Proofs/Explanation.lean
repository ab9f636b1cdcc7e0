import RolePolicy.Check
import RolePolicy.Proofs.Ancestry
import RolePolicy.Proofs.Consultation

namespace RolePolicy.Registry

variable {χ : Type} [Callbacks χ] {g : Registry χ} {q : Request} {r s : RuleSet χ} {v : Verdict}
  {roles : List (RuleSet χ)} {f : Findings}

def Reports (g : Registry χ) (q : Request) (s : TraceStep) : Prop :=
  ∃ r, g.find? s.role = some r ∧
    s.matched =
      (r.select (q.resource.identifier g.config.allTypesAreResources) q.action).map Prod.snd ∧
    s.result = (r.query q g.config.allTypesAreResources).answer

def Concludes (g : Registry χ) (last : TraceStep) (v : Verdict) : Prop :=
  (∃ source, v.source = .rule last.role source ∧ last.matched = some source ∧
    last.result = some v.decision) ∨
  (v.source = .fallback ∧ last.result = none ∧ v.decision = g.config.defaultQueryResponse)

structure Explains (g : Registry χ) (q : Request) (t : Trace) : Prop where
  actorRole_eq : t.actorRole = q.actor.resolvedRole
  resource_eq : t.resource = q.resource.identifier g.config.allTypesAreResources
  action_eq : t.action = q.action
  noRole_iff : t.source = .noRole ↔ g.roleOf? q.actor = none
  noRole : g.roleOf? q.actor = none → t.steps = [] ∧ t.decision = g.config.defaultQueryResponse
  first : ∀ r, g.roleOf? q.actor = some r → ∃ step rest, t.steps = step :: rest ∧
    step.role = r.name ∧ q.actor.resolvedRole = some r.name
  reports : ∀ s ∈ t.steps, g.Reports q s
  last : ∀ r, g.roleOf? q.actor = some r → ∃ past step, t.steps = past ++ [step] ∧
    (∀ s ∈ past, s.result = none) ∧ g.Concludes step ⟨t.decision, t.source⟩

lemma reports_stepAt (h : g.find? r.name = some r) : g.Reports q (g.stepAt q r) :=
  ⟨r, h, rfl, rfl⟩

omit [Callbacks χ] in
lemma resolvedRole_of_roleOf? (h : g.roleOf? q.actor = some r) :
    q.actor.resolvedRole = some r.name := by
  obtain ⟨name, hn, hr⟩ := Option.bind_eq_some_iff.mp h
  obtain ⟨_, rfl⟩ := find?_eq_some hr
  exact hn

lemma Answers.concludes (h : g.Answers q r v) : g.Concludes (g.stepAt q r) v := by
  have ho := h.opinion
  obtain ⟨response, source, hs, _, hv⟩ := h
  refine Or.inl ⟨source, hv, ?_, ho⟩
  rw [stepAt, hs]
  rfl

lemma Finds.reports (h : g.Finds q (g.lineage r) f) (hr : g.find? r.name = some r) :
    ∀ s ∈ f.steps, g.Reports q s := by
  intro s hs
  obtain ⟨visited, rest, he, hf⟩ := h.exists_steps_eq
  rw [hf] at hs
  obtain ⟨t, ht, rfl⟩ := List.mem_map.mp hs
  have hm : t ∈ g.lineage r := by
    rw [he]
    exact List.mem_append_left rest ht
  exact reports_stepAt (find?_of_mem_lineage hr hm)

lemma Finds.concludes (h : g.Finds q (r :: roles) f) (hv : f.outcome = .ok v) :
    ∃ past step, f.steps = past ++ [step] ∧ (∀ s ∈ past, s.result = none) ∧
      g.Concludes step v := by
  have silent (past : List (RuleSet χ)) (hp : ∀ s ∈ past, g.Passes q s) :
      ∀ s ∈ past.map (g.stepAt q), s.result = none := by
    intro s hs
    obtain ⟨t, ht, rfl⟩ := List.mem_map.mp hs
    exact (hp t ht).silent
  cases h with
  | answered past s rest w he hp ha =>
    obtain rfl := Except.ok.inj hv
    exact ⟨past.map (g.stepAt q), g.stepAt q s, by simp, silent past hp, ha.concludes⟩
  | blocked => cases hv
  | exhausted hp =>
    obtain rfl := Except.ok.inj hv
    obtain ⟨past, last, he⟩ := List.eq_nil_or_concat (r :: roles) |>.resolve_left (by simp)
    rw [List.concat_eq_append] at he
    rw [he] at hp ⊢
    refine ⟨past.map (g.stepAt q), g.stepAt q last, by simp, ?_, ?_⟩
    · exact silent past fun s hs => hp s (List.mem_append_left _ hs)
    · exact Or.inr ⟨rfl, (hp last (by simp)).silent, rfl⟩

omit [Callbacks χ] in
lemma Concludes.source_ne_noRole {step : TraceStep} (h : g.Concludes step v) :
    v.source ≠ .noRole := by
  rcases h with ⟨source, hv, _⟩ | ⟨hv, _⟩ <;> simp [hv]

def traceOf (g : Registry χ) (q : Request) (steps : List TraceStep) (v : Verdict) : Trace where
  actorRole := q.actor.resolvedRole
  resource := g.identifier q
  action := q.action
  steps := steps
  decision := v.decision
  source := v.source

lemma answer_trace (g : Registry χ) (q : Request) :
    (g.trace q).answer =
      (g.search q).answer.outcome.map (g.traceOf q (g.search q).answer.steps) :=
  rfl

lemma explains_of_role (hr : g.roleOf? q.actor = some r)
    (hv : (g.search q).answer.outcome = .ok v) :
    g.Explains q (g.traceOf q (g.search q).answer.steps v) := by
  have hf := search_finds hr
  obtain ⟨rest, hl⟩ : ∃ rest, g.lineage r = r :: rest := ⟨_, by rw [lineage, walk]⟩
  have hreports := hf.reports (find?_of_roleOf? hr)
  obtain ⟨visited, unasked, he, hsteps⟩ := hf.exists_steps_eq
  rw [hl] at hf he
  obtain ⟨past, step, hpast, hsilent, hconcludes⟩ := hf.concludes hv
  refine ⟨rfl, rfl, rfl, ?_, ?_, ?_, hreports, ?_⟩
  · simp [hr, traceOf, hconcludes.source_ne_noRole]
  · simp [hr]
  · intro s hs
    obtain rfl := Option.some.inj (hr.symm.trans hs)
    cases visited with
    | nil => simp [hsteps] at hpast
    | cons t visited =>
      obtain rfl := (List.cons.inj he).1
      exact ⟨_, _, hsteps, rfl, resolvedRole_of_roleOf? hr⟩
  · exact fun _ _ => ⟨past, step, hpast, hsilent, hconcludes⟩

lemma explains_of_no_role (hr : g.roleOf? q.actor = none)
    (hv : (g.search q).answer.outcome = .ok v) :
    g.Explains q (g.traceOf q (g.search q).answer.steps v) := by
  have hs : g.search q = if g.config.actorMustPlayRole
      then pure ⟨[], .error (.missingRole (q.actor.resolvedRole.getD "none"))⟩
      else pure ⟨[], .ok ⟨g.config.defaultQueryResponse, .noRole⟩⟩ := by rw [search, hr]
  cases hm : g.config.actorMustPlayRole with
  | true => simp [hs, hm] at hv
  | false =>
    have hf : (g.search q).answer = ⟨[], .ok ⟨g.config.defaultQueryResponse, .noRole⟩⟩ := by
      simp [hs, hm]
    rw [hf] at hv ⊢
    obtain rfl := Except.ok.inj hv
    constructor <;> simp [traceOf, identifier, hr]

theorem trace_explains (g : Registry χ) (q : Request) :
    (g.trace q).answer.map Trace.decision = (g.query q).answer ∧
      ∀ t, (g.trace q).answer = .ok t → g.Explains q t := by
  constructor
  · rw [answer_trace]
    cases ho : (g.search q).answer.outcome <;> simp [query, ho, Except.map, traceOf]
  · intro t ht
    rw [answer_trace] at ht
    cases ho : (g.search q).answer.outcome with
    | error e => simp [ho, Except.map] at ht
    | ok v =>
      simp only [ho, Except.map, Except.ok.injEq] at ht
      rw [← ht]
      cases hr : g.roleOf? q.actor with
      | some r => exact explains_of_role hr ho
      | none => exact explains_of_no_role hr ho

def branch : Registry Probe where
  config := { allTypesAreResources := true }
  roles := [
    { name := "clerk", parents := ["ghost", "manager"],
      rules := (∅ : Std.ExtTreeMap Action (ActionRule Probe)).insert ⟨"view"⟩
        (.byResource ((∅ : ResourceRules Probe).insert (.named "invoice")
          (.predicate (.callback ⟨0, none, .const true, none, none⟩)))) },
    { name := "manager", parents := ["clerk"], defaultResponse := some .deny }]

theorem branch_trace_explains :
    let q : Request := ⟨{ role := none, defaultRole := some "clerk" }, ⟨none, "invoice", none⟩,
      ⟨"view"⟩⟩
    let t : Trace := ⟨some "clerk", some "invoice", ⟨"view"⟩,
      [⟨"clerk", some .resource, none⟩, ⟨"manager", some .default, some false⟩], false,
      .rule "manager" .default⟩
    (branch.trace q).answer = .ok t ∧ (branch.query q).answer = .ok false ∧
      branch.Explains q t := by
  intro q t
  have ht : (branch.trace q).answer = .ok t := by decide +kernel
  obtain ⟨hq, he⟩ := trace_explains branch q
  rw [ht] at hq
  exact ⟨ht, hq.symm, he t ht⟩

end RolePolicy.Registry
