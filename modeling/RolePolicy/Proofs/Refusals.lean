import RolePolicy.Proofs.FreshSession
import RolePolicy.Proofs.RoleInvariants

/-! A configuration pass in which statements are refused, and nobody minds, comes to the same as the
pass without them: a refused statement leaves catalog and registry as they were. -/

namespace RolePolicy

variable {χ ω : Type}

/-- Directives that are refused as a whole, of which role definitions look at nothing but the
session. The CRUD actions are registered one by one. -/
def Directive.SelfContained : Directive χ ω → Prop
  | register r => r ≠ .crud
  | role _ _ body => ∀ catalog, body.Builds catalog
  | inspect _ => True

namespace Configurator

variable {c c' : Configurator χ} {d : Directive χ ω} {e : PolicyError}

structure Agrees (c c' : Configurator χ) : Prop where
  catalog_eq : c'.catalog = c.catalog
  registry_eq : c'.registry = c.registry
  builds_eq : c'.aside.builds = c.aside.builds

lemma exists_error_of_failure {α : Type} {x : Except PolicyError α} (h : failureOf x = some e) :
    x = .error e := by
  cases x with
  | ok a => cases h
  | error e' => rw [Option.some.inj h]

lemma Agrees.role (h : c.Agrees c') (name : String) (parents : List String) {body : Script χ ω}
    (hb : ∀ catalog, body.Builds catalog) :
    (c'.role name parents body).2.1 = (c.role name parents body).2.1 ∧
      (c.role name parents body).2.2.Agrees (c'.role name parents body).2.2 := by
  -- both definitions start in a fresh session, and the body looks at nothing else
  have hw : ({ c'.aside with session := {} } : Workshop χ).Alike { c.aside with session := {} } :=
    ⟨rfl, h.builds_eq⟩
  obtain ⟨_, ho, ha⟩ := hw.define name parents fun _ _ => Script.alike_run (hb c.catalog)
  cases hr : (Workshop.define { c.aside with session := {} } name parents
      (body.run c.catalog)).2.1 with
  | error e =>
    rw [hr] at ho
    simp only [Configurator.role, h.catalog_eq, h.registry_eq, hr, ho, true_and]
    exact ⟨rfl, rfl, h.builds_eq⟩
  | ok r =>
    rw [hr] at ho
    simp only [Configurator.role, h.catalog_eq, h.registry_eq, hr, ho]
    cases c.registry.add r with
    | error e => exact ⟨rfl, rfl, rfl, h.builds_eq⟩
    | ok g => exact ⟨rfl, rfl, rfl, ha.builds⟩

lemma Agrees.apply (h : c.Agrees c') (hd : d.SelfContained) :
    (c'.apply d).2.1 = (c.apply d).2.1 ∧ (c.apply d).2.2.Agrees (c'.apply d).2.2 := by
  cases d with
  | register r =>
    have hr : (c'.register r).1 = (c.register r).1 ∧
        (c'.register r).2.catalog = (c.register r).2.catalog := by
      simp only [register, h.catalog_eq, and_self]
    exact ⟨congrArg failureOf hr.1, hr.2, h.registry_eq, h.builds_eq⟩
  | role name parents body =>
    obtain ⟨ho, ha⟩ := h.role name parents hd
    exact ⟨congrArg failureOf ho, ha⟩
  | inspect view =>
    refine ⟨?_, h⟩
    simp only [Configurator.apply, h.catalog_eq]

def strict (ds : List (Directive χ ω)) : List (Directive.Guarded χ ω) := ds.map (⟨·, false⟩)

end Configurator

def hastyScript : Script Probe Unit :=
  .block .deny
    (.step (.clause (.declare "view" [] none)) false
      (.step (.clause (.respond "ghost" .allow)) false .done)) false .done

def hearing : List (Directive Probe Unit) :=
  [.register (.action "view"), .register (.ability "view" "viewable"),
    .register (.group "edit" ["view", "ghost"]), .role "clerk" [] hastyScript,
    .role "clerk" ["manager"] .done, .role "clerk" [] .done, .register (.group "view" ["view"])]

end RolePolicy
