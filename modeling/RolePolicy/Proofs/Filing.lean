import Mathlib.Tactic.Common
import RolePolicy.Configurator

namespace RolePolicy.Configurator

variable {χ ω : Type} {c : Configurator χ} {pass : List (Directive.Guarded χ ω)} {r : RuleSet χ}

def Files (c : Configurator χ) (d : Directive χ ω) (r : RuleSet χ) : Prop :=
  ∃ name parents script, d = .role name parents script ∧
    (Workshop.define { c.aside with session := {} } name parents (script.run c.catalog)).2.1 =
      .ok r ∧
    c.registry.contains r.name = false

lemma registry_apply (c : Configurator χ) (d : Directive χ ω) :
    (c.apply d).2.2.registry = c.registry ∨
      ∃ r, c.Files d r ∧
        (c.apply d).2.2.registry = { c.registry with roles := c.registry.roles ++ [r] } := by
  cases d with
  | register | inspect => exact Or.inl rfl
  | role name parents script =>
    cases hd : (Workshop.define { c.aside with session := {} } name parents
        (script.run c.catalog)).2.1 with
    | error e => exact Or.inl (by simp only [apply, role, hd])
    | ok r =>
      cases hn : c.registry.contains r.name with
      | true => exact Or.inl (by simp only [apply, role, hd, Registry.add, hn, if_true])
      | false =>
        refine Or.inr ⟨r, ⟨name, parents, script, rfl, hd, hn⟩, ?_⟩
        simp [apply, role, hd, Registry.add, hn]

lemma run_cons (c : Configurator χ) (d : Directive.Guarded χ ω) :
    (∀ rest, (c.run (d :: rest)).2.2 = (c.apply d.directive).2.2) ∨
      ∀ rest, (c.run (d :: rest)).2.2 = ((c.apply d.directive).2.2.run rest).2.2 := by
  cases hf : (c.apply d.directive).2.1 with
  | none => exact Or.inr fun rest => by simp only [run, hf]
  | some e =>
    cases hc : d.caught with
    | true => exact Or.inr fun rest => by simp only [run, hf, hc]
    | false => exact Or.inl fun rest => by simp only [run, hf, hc]

lemma mem_roles_apply {d : Directive χ ω} (h : r ∈ (c.apply d).2.2.registry.roles) :
    r ∈ c.registry.roles ∨ c.Files d r := by
  rcases c.registry_apply d with hk | ⟨s, hs, hk⟩
  · rw [hk] at h
    exact Or.inl h
  · rw [hk] at h
    rcases List.mem_append.mp h with h | h
    · exact Or.inl h
    · obtain rfl := List.mem_singleton.mp h
      exact Or.inr hs

lemma mem_roles_run (h : r ∈ (c.run pass).2.2.registry.roles) :
    r ∈ c.registry.roles ∨ ∃ before d after, pass = before ++ d :: after ∧
      (c.run before).2.2.Files d.directive r := by
  induction pass generalizing c with
  | nil => exact Or.inl h
  | cons d pass ih =>
    have first (h : r ∈ (c.apply d.directive).2.2.registry.roles) : r ∈ c.registry.roles ∨
        ∃ before d' after, d :: pass = before ++ d' :: after ∧
          (c.run before).2.2.Files d'.directive r := by
      rcases mem_roles_apply h with h | h
      · exact Or.inl h
      · exact Or.inr ⟨[], d, pass, rfl, h⟩
    rcases c.run_cons d with hc | hc
    · rw [hc] at h
      exact first h
    · rw [hc] at h
      rcases ih h with h | ⟨before, d', after, rfl, hf⟩
      · exact first h
      · refine Or.inr ⟨d :: before, d', after, rfl, ?_⟩
        rw [hc]
        exact hf

lemma config_run (c : Configurator χ) (pass : List (Directive.Guarded χ ω)) :
    (c.run pass).2.2.registry.config = c.registry.config := by
  induction pass generalizing c with
  | nil => rfl
  | cons d pass ih =>
    have hd : (c.apply d.directive).2.2.registry.config = c.registry.config := by
      rcases c.registry_apply d.directive with hk | ⟨r, _, hk⟩ <;> rw [hk]
    rcases c.run_cons d with hc | hc
    · rw [hc, hd]
    · rw [hc, ih, hd]

end RolePolicy.Configurator
