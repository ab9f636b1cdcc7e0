import Mathlib.Tactic.Common
import RolePolicy.Search

namespace RolePolicy

def Findings.visited (f : Findings) : List String := f.steps.map TraceStep.role

namespace Registry

variable {χ : Type} {g : Registry χ} {q : Request} {r : RuleSet χ} {b : Bool} {v : Verdict}

lemma find?_of_roleOf? (h : g.roleOf? q.actor = some r) : g.find? r.name = some r := by
  obtain ⟨name, _, hr⟩ := Option.bind_eq_some_iff.mp h
  obtain ⟨_, rfl⟩ := find?_eq_some hr
  exact hr

lemma missingParent?_of_skip (h : g.config.missingParent = .skip) (r : RuleSet χ) :
    g.missingParent? r = none := by
  rw [missingParent?, h]

variable [Callbacks χ]

def opinion (g : Registry χ) (q : Request) (r : RuleSet χ) : Option Bool :=
  (r.evaluate q (g.identifier q)).answer

def stepAt (g : Registry χ) (q : Request) (r : RuleSet χ) : TraceStep :=
  ⟨r.name, (r.select (g.identifier q) q.action).map Prod.snd, g.opinion q r⟩

structure Passes (g : Registry χ) (q : Request) (r : RuleSet χ) : Prop where
  silent : g.opinion q r = none
  unblocked : g.missingParent? r = none

def Answers (g : Registry χ) (q : Request) (r : RuleSet χ) (v : Verdict) : Prop :=
  ∃ response source, r.select (g.identifier q) q.action = some (response, source) ∧
    (response.evaluate q).answer = some v.decision ∧ v.source = .rule r.name source

lemma opinion_eq_some_iff : g.opinion q r = some b ↔
    ∃ response source, r.select (g.identifier q) q.action = some (response, source) ∧
      (response.evaluate q).answer = some b := by
  rw [opinion, RuleSet.evaluate]
  cases h : r.select (g.identifier q) q.action with
  | none => simp
  | some found => simp [Prod.ext_iff]

lemma Answers.opinion (h : g.Answers q r v) : g.opinion q r = some v.decision := by
  obtain ⟨response, source, hs, he, _⟩ := h
  exact opinion_eq_some_iff.mpr ⟨response, source, hs, he⟩

lemma exists_answers (h : g.opinion q r = some b) : ∃ v, v.decision = b ∧ g.Answers q r v := by
  obtain ⟨response, source, hs, he⟩ := opinion_eq_some_iff.mp h
  exact ⟨⟨b, .rule r.name source⟩, rfl, response, source, hs, he, rfl⟩

lemma consult_answers (h : g.Answers q r v) (rest : List (RuleSet χ)) :
    (g.consult q (g.identifier q) (r :: rest)).answer = ⟨[g.stepAt q r], .ok v⟩ := by
  have ho := h.opinion
  obtain ⟨response, source, hs, _, hv⟩ := h
  rw [opinion] at ho
  simp only [consult, Consulted.answer_bind, stepAt, opinion, ho, hs, Option.map_some]
  rw [← hv]
  rfl

lemma consult_blocked {parent : String} (ho : g.opinion q r = none)
    (hp : g.missingParent? r = some parent) (rest : List (RuleSet χ)) :
    (g.consult q (g.identifier q) (r :: rest)).answer =
      ⟨[g.stepAt q r], .error (.missingParent r.name parent)⟩ := by
  rw [opinion] at ho
  simp only [consult, Consulted.answer_bind, stepAt, opinion, ho, hp]
  rfl

lemma consult_passes (h : g.Passes q r) (rest : List (RuleSet χ)) :
    (g.consult q (g.identifier q) (r :: rest)).answer =
      (g.consult q (g.identifier q) rest).answer.after (g.stepAt q r) := by
  have ho := h.silent
  rw [opinion] at ho
  simp only [consult, Consulted.answer_bind, stepAt, opinion, ho, h.unblocked]
  rfl

lemma consult_cases (g : Registry χ) (q : Request) (r : RuleSet χ) :
    (∃ v, g.Answers q r v) ∨ g.Passes q r ∨
      (g.opinion q r = none ∧ ∃ parent, g.missingParent? r = some parent) := by
  cases ho : g.opinion q r with
  | some b =>
    obtain ⟨v, _, hv⟩ := exists_answers ho
    exact Or.inl ⟨v, hv⟩
  | none =>
    cases hp : g.missingParent? r with
    | none => exact Or.inr (Or.inl ⟨ho, hp⟩)
    | some parent => exact Or.inr (Or.inr ⟨rfl, parent, rfl⟩)

inductive Finds (g : Registry χ) (q : Request) (roles : List (RuleSet χ)) : Findings → Prop
  | answered (past : List (RuleSet χ)) (r : RuleSet χ) (rest : List (RuleSet χ)) (v : Verdict) :
      roles = past ++ r :: rest → (∀ s ∈ past, g.Passes q s) → g.Answers q r v →
      Finds g q roles ⟨(past ++ [r]).map (g.stepAt q), .ok v⟩
  | blocked (past : List (RuleSet χ)) (r : RuleSet χ) (rest : List (RuleSet χ))
      (parent : String) :
      roles = past ++ r :: rest → (∀ s ∈ past, g.Passes q s) → g.opinion q r = none →
      g.missingParent? r = some parent →
      Finds g q roles
        ⟨(past ++ [r]).map (g.stepAt q), .error (.missingParent r.name parent)⟩
  | exhausted : (∀ s ∈ roles, g.Passes q s) →
      Finds g q roles ⟨roles.map (g.stepAt q), .ok ⟨g.config.defaultQueryResponse, .fallback⟩⟩

lemma Finds.after {roles : List (RuleSet χ)} {f : Findings} (hr : g.Passes q r)
    (h : g.Finds q roles f) : g.Finds q (r :: roles) (f.after (g.stepAt q r)) := by
  have hpast : ∀ past : List (RuleSet χ), (∀ s ∈ past, g.Passes q s) →
      ∀ s ∈ r :: past, g.Passes q s := fun past hp s hs => by
    rcases List.mem_cons.mp hs with rfl | hs
    · exact hr
    · exact hp s hs
  cases h with
  | answered past s rest v he hp hv =>
    exact .answered (r :: past) s rest v (by simp [he]) (hpast past hp) hv
  | blocked past s rest parent he hp ho hm =>
    exact .blocked (r :: past) s rest parent (by simp [he]) (hpast past hp) ho hm
  | exhausted hp => exact .exhausted (hpast roles hp)

lemma consult_finds (g : Registry χ) (q : Request) (roles : List (RuleSet χ)) :
    g.Finds q roles (g.consult q (g.identifier q) roles).answer := by
  induction roles with
  | nil => exact .exhausted (by simp)
  | cons r roles ih =>
    rcases g.consult_cases q r with ⟨v, hv⟩ | hr | ⟨ho, parent, hp⟩
    · rw [consult_answers hv]
      exact .answered [] r roles v rfl (by simp) hv
    · rw [consult_passes hr]
      exact ih.after hr
    · rw [consult_blocked ho hp]
      exact .blocked [] r roles parent rfl (by simp) ho hp

lemma Finds.exists_steps_eq {roles : List (RuleSet χ)} {f : Findings} (h : g.Finds q roles f) :
    ∃ visited rest, roles = visited ++ rest ∧ f.steps = visited.map (g.stepAt q) := by
  cases h with
  | answered past r rest v he => exact ⟨past ++ [r], rest, by simp [he], rfl⟩
  | blocked past r rest parent he => exact ⟨past ++ [r], rest, by simp [he], rfl⟩
  | exhausted => exact ⟨roles, [], by simp, rfl⟩

lemma consult_append {past : List (RuleSet χ)} (h : ∀ s ∈ past, g.Passes q s)
    (rest : List (RuleSet χ)) :
    (g.consult q (g.identifier q) (past ++ rest)).answer =
      ⟨past.map (g.stepAt q) ++ (g.consult q (g.identifier q) rest).answer.steps,
        (g.consult q (g.identifier q) rest).answer.outcome⟩ := by
  induction past with
  | nil => rfl
  | cons r past ih =>
    rw [List.cons_append, consult_passes (h r List.mem_cons_self),
      ih fun s hs => h s (List.mem_cons_of_mem r hs)]
    rfl

lemma Finds.answer_eq {roles : List (RuleSet χ)} {f : Findings} (h : g.Finds q roles f) :
    (g.consult q (g.identifier q) roles).answer = f := by
  cases h with
  | answered past r rest v he hp hv =>
    rw [he, consult_append hp, consult_answers hv, List.map_append]
    rfl
  | blocked past r rest parent he hp ho hm =>
    rw [he, consult_append hp, consult_blocked ho hm, List.map_append]
    rfl
  | exhausted hp =>
    have h := consult_append hp []
    rw [List.append_nil] at h
    rw [h]
    simp [consult]

lemma search_of_role (h : g.roleOf? q.actor = some r) :
    g.search q = g.consult q (g.identifier q) (g.lineage r) := by
  rw [search, h]

lemma search_finds (h : g.roleOf? q.actor = some r) :
    g.Finds q (g.lineage r) (g.search q).answer := by
  rw [search_of_role h]
  exact g.consult_finds q _

end Registry

end RolePolicy
