import RolePolicy.Check
import RolePolicy.Proofs.Ancestry
import RolePolicy.Proofs.Consultation

/-! A search that may not go past a missing parent beside the one that skips it: they agree, unless
a role without opinion that declares such a parent is the first to stop either. -/

namespace RolePolicy.Registry

variable {χ : Type} {g : Registry χ} {q : Request} {r s : RuleSet χ} {roles : List (RuleSet χ)}
  {f : Findings}

def lenient (g : Registry χ) : Registry χ :=
  { g with config := { g.config with missingParent := .skip } }

lemma lineage_lenient (g : Registry χ) (r : RuleSet χ) : g.lenient.lineage r = g.lineage r := by
  have h : g.lenient.find? = g.find? := rfl
  exact lineage_of_find?_eq h r

lemma missingParent?_of_error (h : g.config.missingParent = .error) (r : RuleSet χ) :
    g.missingParent? r = r.parents.find? fun p => !g.contains p := by
  rw [missingParent?, h]

variable [Callbacks χ]

def halts (g : Registry χ) (q : Request) (r : RuleSet χ) : Bool :=
  (g.opinion q r).isSome || r.parents.any fun p => !g.contains p

inductive Rules (g : Registry χ) (q : Request) (roles : List (RuleSet χ)) :
    Except PolicyError Bool → Prop
  | opinion (s : RuleSet χ) (b : Bool) : roles.find? (g.halts q) = some s →
      g.opinion q s = some b → Rules g q roles (.ok b)
  | missing (s : RuleSet χ) (parent : String) : roles.find? (g.halts q) = some s →
      g.opinion q s = none → s.parents.find? (fun p => !g.contains p) = some parent →
      Rules g q roles (.error (.missingParent s.name parent))
  | nobody : roles.find? (g.halts q) = none → Rules g q roles (.ok g.config.defaultQueryResponse)

lemma halts_of_opinion {b : Bool} (h : g.opinion q r = some b) : g.halts q r = true := by
  simp [halts, h]

lemma halts_of_missing {parent : String}
    (h : r.parents.find? (fun p => !g.contains p) = some parent) : g.halts q r = true := by
  have hp := List.mem_of_find?_eq_some h
  have hm := List.find?_some h
  simp only [halts, Bool.or_eq_true, List.any_eq_true]
  exact Or.inr ⟨parent, hp, hm⟩

lemma Passes.halts_eq_false (he : g.config.missingParent = .error) (h : g.Passes q r) :
    g.halts q r = false := by
  have hu := h.unblocked
  rw [missingParent?_of_error he] at hu
  simpa [halts, h.silent] using hu

lemma find?_halts {past rest : List (RuleSet χ)} (he : g.config.missingParent = .error)
    (hp : ∀ s ∈ past, g.Passes q s) (hr : g.halts q r = true) :
    (past ++ r :: rest).find? (g.halts q) = some r := by
  refine List.find?_eq_some_iff_append.mpr ⟨hr, past, rest, rfl, fun s hs => ?_⟩
  simp [(hp s hs).halts_eq_false he]

lemma Finds.rules (he : g.config.missingParent = .error) (h : g.Finds q roles f) :
    g.Rules q roles (f.outcome.map Verdict.decision) := by
  cases h with
  | answered past r rest v hr hp hv =>
    rw [hr]
    exact .opinion r v.decision (find?_halts he hp (halts_of_opinion hv.opinion)) hv.opinion
  | blocked past r rest parent hr hp ho hm =>
    rw [missingParent?_of_error he] at hm
    rw [hr]
    exact .missing r parent (find?_halts he hp (halts_of_missing hm)) ho hm
  | exhausted hp =>
    refine .nobody (List.find?_eq_none.mpr fun s hs => ?_)
    simp [(hp s hs).halts_eq_false he]

lemma Passes.lenient (h : g.Passes q r) : g.lenient.Passes q r :=
  ⟨h.silent, missingParent?_of_skip rfl r⟩

def Blocks (g : Registry χ) (q : Request) (roles : List (RuleSet χ)) (r : RuleSet χ)
    (parent : String) : Prop :=
  roles.find? (g.halts q) = some r ∧ g.opinion q r = none ∧
    r.parents.find? (fun p => !g.contains p) = some parent

lemma Finds.lenient_or_blocked (he : g.config.missingParent = .error) (h : g.Finds q roles f) :
    g.lenient.Finds q roles f ∨ ∃ s parent, g.Blocks q roles s parent ∧ g.stepAt q s ∈ f.steps ∧
      f.outcome = .error (.missingParent s.name parent) := by
  cases h with
  | answered past r rest v hr hp hv =>
    exact Or.inl (.answered past r rest v hr (fun s hs => (hp s hs).lenient) hv)
  | blocked past r rest parent hr hp ho hm =>
    rw [missingParent?_of_error he] at hm
    have hf : roles.find? (g.halts q) = some r := by
      rw [hr]
      exact find?_halts he hp (halts_of_missing hm)
    exact Or.inr ⟨r, parent, ⟨hf, ho, hm⟩, by simp, rfl⟩
  | exhausted hp => exact Or.inl (.exhausted fun s hs => (hp s hs).lenient)

lemma exists_steps_consult (g : Registry χ) (q : Request) (r : RuleSet χ)
    (rest : List (RuleSet χ)) : ∃ steps,
      (g.consult q (g.identifier q) (r :: rest)).answer.steps = g.stepAt q r :: steps := by
  rcases g.consult_cases q r with ⟨v, hv⟩ | hp | ⟨ho, parent, hm⟩
  · exact ⟨[], by rw [consult_answers hv]⟩
  · exact ⟨_, by rw [consult_passes hp]; rfl⟩
  · exact ⟨[], by rw [consult_blocked ho hm]⟩

lemma steps_consult_lenient (g : Registry χ) (q : Request) (roles : List (RuleSet χ)) :
    (g.consult q (g.identifier q) roles).answer.steps <+:
      (g.lenient.consult q (g.lenient.identifier q) roles).answer.steps := by
  induction roles with
  | nil => exact List.prefix_refl _
  | cons r rest ih =>
    rcases g.consult_cases q r with ⟨v, hv⟩ | hp | ⟨ho, parent, hm⟩
    · have hl : g.lenient.Answers q r v := hv
      rw [consult_answers hv, consult_answers hl]
      exact List.prefix_refl _
    · rw [consult_passes hp, consult_passes hp.lenient]
      exact List.cons_prefix_cons.mpr ⟨rfl, ih⟩
    · obtain ⟨steps, hs⟩ := g.lenient.exists_steps_consult q r rest
      rw [consult_blocked ho hm, hs]
      exact List.cons_prefix_cons.mpr ⟨rfl, List.nil_prefix⟩

def Unhindered (g : Registry χ) (steps : List TraceStep) : Prop :=
  ∀ step ∈ steps, step.result = none → ∀ s, g.find? step.role = some s →
    ∀ p ∈ s.parents, g.contains p

lemma Blocks.not_unhindered {parent : String} {steps : List TraceStep}
    (h : g.Blocks q roles s parent) (hs : g.find? s.name = some s) (hm : g.stepAt q s ∈ steps) :
    ¬ g.Unhindered steps := by
  intro hu
  have hp := List.mem_of_find?_eq_some h.2.2
  have hc := List.find?_some h.2.2
  have hc' := hu _ hm h.2.1 s hs parent hp
  simp [hc'] at hc

def AgreesWith (g g' : Registry χ) (q : Request) : Prop :=
  (g.query q).answer = (g'.query q).answer ∧ (g.trace q).answer = (g'.trace q).answer

lemma agreesWith_lenient (h : (g.search q).answer = (g.lenient.search q).answer) :
    g.AgreesWith g.lenient q := by
  constructor
  · exact congrArg (fun f => f.outcome.map Verdict.decision) h
  · exact congrArg (fun f => f.outcome.map fun v =>
      (⟨q.actor.resolvedRole, g.identifier q, q.action, f.steps, v.decision, v.source⟩ : Trace)) h

lemma search_lenient (hr : g.roleOf? q.actor = some r) :
    g.lenient.search q = g.lenient.consult q (g.lenient.identifier q) (g.lineage r) := by
  have hl : g.lenient.roleOf? q.actor = some r := hr
  rw [search_of_role hl, lineage_lenient]

lemma agrees_or_blocked (he : g.config.missingParent = .error)
    (hr : g.roleOf? q.actor = some r) :
    g.AgreesWith g.lenient q ∨ ∃ s parent, g.Blocks q (g.lineage r) s parent ∧
      g.stepAt q s ∈ (g.search q).answer.steps ∧
      (g.search q).answer.outcome = .error (.missingParent s.name parent) := by
  rcases (search_finds hr).lenient_or_blocked he with hf | hb
  · refine Or.inl (agreesWith_lenient ?_)
    rw [search_lenient hr, hf.answer_eq]
  · exact Or.inr hb

theorem query_strict (he : g.config.missingParent = .error) (hr : g.roleOf? q.actor = some r) :
    g.lenient.lineage r = (List.range g.size).flatMap (g.lenient.level r) ∧
    (∀ s, s ∈ g.lenient.lineage r ↔ g.lenient.Reaches r s) ∧
    (g.lenient.search q).answer.visited <+: (g.lenient.lineage r).map RuleSet.name ∧
    g.Rules q (g.lenient.lineage r) (g.query q).answer ∧
    (g.AgreesWith g.lenient q ∨ ∃ s parent, g.Blocks q (g.lenient.lineage r) s parent ∧
      (g.query q).answer = .error (.missingParent s.name parent) ∧
      (g.trace q).answer = .error (.missingParent s.name parent)) ∧
    (g.search q).answer.steps <+: (g.lenient.search q).answer.steps ∧
    (g.Unhindered (g.search q).answer.steps → g.AgreesWith g.lenient q) := by
  have hf : g.find? r.name = some r := find?_of_roleOf? hr
  have hl : g.lenient.find? r.name = some r := hf
  have hrl : g.lenient.roleOf? q.actor = some r := hr
  refine ⟨lineage_eq hl, fun s => mem_lineage_iff hl, ?_, ?_, ?_, ?_, fun hu => ?_⟩
  · obtain ⟨visited, rest, hv, hs⟩ := (search_finds hrl).exists_steps_eq
    rw [hv, Findings.visited, hs, List.map_map, List.map_append]
    exact List.prefix_append _ _
  · rw [lineage_lenient]
    exact (search_finds hr).rules he
  · rw [lineage_lenient]
    refine (agrees_or_blocked he hr).imp_right ?_
    rintro ⟨s, parent, hb, _, ho⟩
    refine ⟨s, parent, hb, ?_, ?_⟩
    · simp [query, ho, Except.map]
    · simp [trace, ho, Except.map]
  · rw [search_lenient hr, search_of_role hr]
    exact g.steps_consult_lenient q (g.lineage r)
  · rcases agrees_or_blocked he hr with ha | ⟨s, parent, hb, hm, _⟩
    · exact ha
    · have hs := find?_of_mem_lineage hf (List.mem_of_find?_eq_some hb.1)
      exact (hb.not_unhindered hs hm hu).elim

def fence : Registry Probe where
  config := { missingParent := .error }
  roles := [
    { name := "author", parents := ["editor", "owner"] },
    { name := "editor", parents := ["author", "ghost", "phantom"] },
    { name := "owner", defaultResponse := some .allow }]

theorem fence_query_strict :
    let q : Request := ⟨{ role := some "author" }, ⟨some "doc", "&str", none⟩, ⟨"view"⟩⟩
    let author : RuleSet Probe := { name := "author", parents := ["editor", "owner"] }
    fence.config.missingParent = .error ∧ fence.roleOf? q.actor = some author ∧
      (fence.query q).answer = .error (.missingParent "editor" "ghost") ∧
      fence.Rules q (fence.lenient.lineage author) (fence.query q).answer ∧
      (fence.lenient.query q).answer = .ok true := by
  intro q author
  have he : fence.config.missingParent = .error := rfl
  have hr : fence.roleOf? q.actor = some author := rfl
  obtain ⟨_, _, _, hrules, _⟩ := query_strict he hr
  exact ⟨he, hr, by decide +kernel, hrules, by decide +kernel⟩

end RolePolicy.Registry
