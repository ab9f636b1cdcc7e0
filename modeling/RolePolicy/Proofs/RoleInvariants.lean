import RolePolicy.Proofs.Body
import RolePolicy.Proofs.Filing
import RolePolicy.Proofs.Registrations

/-! Properties that a new role has and that no statement takes from it. Every role has them that
comes out of a script, whatever the script does, and so has every role that is filed. -/

namespace RolePolicy

variable {χ ω : Type} {catalog : Catalog} {P : RuleSet χ → Prop}

structure RuleSet.Invariant (catalog : Catalog) (P : RuleSet χ → Prop) : Prop where
  start : ∀ build name parents, P (Draft.start build name parents).rules
  issue : ∀ (d d' : Draft χ) (s : Statement χ), P d.rules → d.issue catalog s = .ok d' → P d'.rules

def Session.Bears (P : RuleSet χ → Prop) (s : Session χ) : Prop := ∀ d, s.draft = some d → P d.rules

structure Workshop.Bears (P : RuleSet χ → Prop) (w : Workshop χ) : Prop where
  session : w.session.Bears P
  shelf : ∀ r ∈ w.shelf, P r
  registry : ∀ r ∈ w.registry.roles, P r

lemma Session.bears_of_none {s : Session χ} (h : s.draft = none) : s.Bears P := by
  intro d hd
  cases h.symm.trans hd

lemma Session.Bears.apply {s s' : Session χ} {c : Clause χ} (hs : s.Bears P)
    (hP : ∀ (d d' : Draft χ) (s : Statement χ), P d.rules → d.issue catalog s = .ok d' → P d'.rules)
    (h : s.apply catalog c = .ok s') : s'.Bears P := by
  rw [Session.apply] at h
  split at h
  · cases h
  · rename_i d hd
    split at h
    · cases h
    · rename_i d' hd'
      cases h
      rintro _ ⟨⟩
      exact hP d d' ⟨s.polarity, c⟩ (hs d hd) hd'

lemma Session.Bears.start (hP : RuleSet.Invariant catalog P) {s s' : Session χ} {build : Nat}
    {name : String} {parents : List String} (h : s.start build name parents = .ok s') :
    s'.Bears P := by
  obtain ⟨_, rfl⟩ := start_eq_ok_iff.mp h
  rintro _ ⟨⟩
  exact hP.start build name parents

lemma Session.Bears.finish {s s' : Session χ} {r : RuleSet χ} (hs : s.Bears P)
    (h : s.finish = .ok (r, s')) : P r ∧ s'.Bears P := by
  rw [Session.finish] at h
  split at h
  · cases h
  · rename_i d hd
    cases h
    exact ⟨hs d hd, bears_of_none rfl⟩

namespace Workshop

variable {w : Workshop χ} {name : String} {parents : List String}

lemma bears_empty : ({} : Workshop χ).Bears P := by
  constructor <;> simp [Session.bears_of_none]

def Yields (P : RuleSet χ → Prop) (x : Except PolicyError (RuleSet χ) × Workshop χ) : Prop :=
  (∀ r, x.1 = .ok r → P r) ∧ x.2.Bears P

lemma yields_error {e : PolicyError} (hw : w.Bears P) : Yields P (.error e, w) := by
  refine ⟨?_, hw⟩
  rintro r ⟨⟩

lemma Bears.withSession (hw : w.Bears P) {s : Session χ} (hs : s.Bears P) {builds : Nat} :
    ({ w with session := s, builds := builds } : Workshop χ).Bears P :=
  ⟨hs, hw.shelf, hw.registry⟩

lemma Bears.clause (hP : RuleSet.Invariant catalog P) (hw : w.Bears P) (c : Clause χ) :
    (w.clause catalog c).2.Bears P := by
  rw [Workshop.clause]
  split
  · rename_i s hs
    exact hw.withSession (hw.session.apply hP.issue hs)
  · exact hw

lemma Bears.start (hP : RuleSet.Invariant catalog P) (hw : w.Bears P) :
    (w.start name parents).2.Bears P := by
  rw [Workshop.start]
  split
  · rename_i s hs
    exact hw.withSession (.start hP hs)
  · exact hw

lemma Bears.finish (hw : w.Bears P) : Yields P w.finish := by
  rw [Workshop.finish]
  split
  · rename_i r s hs
    obtain ⟨hr, hs⟩ := hw.session.finish hs
    refine ⟨?_, hw.withSession hs⟩
    rintro _ ⟨⟩
    exact hr
  · exact yields_error hw

lemma Yields.shelve {x : Except PolicyError (RuleSet χ) × Workshop χ} (h : Yields P x) :
    (shelve x).2.Bears P := by
  obtain ⟨outcome, w⟩ := x
  obtain ⟨hr, hw⟩ := h
  cases outcome with
  | error e => exact hw
  | ok r => exact ⟨hw.session, List.forall_mem_cons.mpr ⟨hr r rfl, hw.shelf⟩, hw.registry⟩

lemma Bears.addLatest (hw : w.Bears P) : w.addLatest.2.Bears P := by
  rw [Workshop.addLatest]
  split
  · exact hw
  · rename_i r shelf hs
    have hshelf := hw.shelf
    rw [hs] at hshelf
    obtain ⟨hr, hshelf⟩ := List.forall_mem_cons.mp hshelf
    split
    · rename_i g hg
      refine ⟨hw.session, hshelf, ?_⟩
      rw [Registry.add] at hg
      split at hg
      · cases hg
      · cases hg
        exact List.forall_mem_append.mpr ⟨hw.registry, by simpa using hr⟩
    · exact ⟨hw.session, hshelf, hw.registry⟩

variable {body : Workshop χ → Run χ ω}

lemma Bears.within (hw : w.Bears P) (p : Polarity)
    (hb : ∀ v : Workshop χ, v.Bears P → (body v).workshop.Bears P) :
    (w.within p body).2.2.Bears P := by
  rw [Workshop.within]
  split
  · have h := hb (w.setPolarity p) ⟨hw.session, hw.shelf, hw.registry⟩
    exact ⟨h.session, h.shelf, h.registry⟩
  · exact hw

lemma Bears.define (hP : RuleSet.Invariant catalog P) (hw : w.Bears P)
    (hb : ∀ v : Workshop χ, v.Bears P → (body v).workshop.Bears P) :
    Yields P (w.define name parents body).2 := by
  rw [Workshop.define]
  split
  · exact yields_error hw
  · rename_i s hs
    have h := hb { w with session := s, builds := w.builds + 1 } (hw.withSession (.start hP hs))
    simp only
    split
    · exact yields_error (h.withSession (Session.bears_of_none rfl))
    · exact h.finish

end Workshop

lemma Done.bears_andThen {d : Done χ ω} {caught : Bool} {rest : Workshop χ → Run χ ω}
    (hd : d.workshop.Bears P) (hr : ∀ v : Workshop χ, v.Bears P → (rest v).workshop.Bears P) :
    (d.andThen caught rest).workshop.Bears P := by
  rw [andThen_eq]
  split
  · exact hd
  · exact hr _ hd

lemma Step.bears_run (hP : RuleSet.Invariant catalog P) {w : Workshop χ} (hw : w.Bears P)
    (s : Step χ ω) : (s.run catalog w).workshop.Bears P := by
  cases s with
  | start name parents => exact hw.start hP
  | finish => exact hw.finish.shelve
  | clause c => exact hw.clause hP c
  | addLatest => exact hw.addLatest
  | inspect view => exact hw

lemma Script.bears_run (hP : RuleSet.Invariant catalog P) {w : Workshop χ} (hw : w.Bears P)
    (script : Script χ ω) : (script.run catalog w).workshop.Bears P := by
  induction script generalizing w with
  | done => exact hw
  | step s caught rest ih => exact Done.bears_andThen (s.bears_run hP hw) fun _ => ih
  | block p body caught rest ihb ih =>
    exact Done.bears_andThen (hw.within p fun _ => ihb) fun _ => ih
  | role name parents body caught rest ihb ih =>
    exact Done.bears_andThen (hw.define hP fun _ => ihb).shelve fun _ => ih

structure RuleSet.Lasting (P : Catalog → RuleSet χ → Prop) : Prop where
  invariant : ∀ c : Catalog, c.Sound → RuleSet.Invariant c (P c)
  becomes : ∀ (c c' : Catalog) (r : RuleSet χ), c.Becomes c' → P c r → P c' r

namespace Configurator

variable {P : Catalog → RuleSet χ → Prop} {c : Configurator χ}

structure Bears (P : Catalog → RuleSet χ → Prop) (c : Configurator χ) : Prop where
  sound : c.catalog.Sound
  registry : ∀ r ∈ c.registry.roles, P c.catalog r
  aside : c.aside.Bears (P c.catalog)

lemma Bears.register (hP : RuleSet.Lasting P) (hc : c.Bears P) (r : Registration) :
    (c.register r).2.Bears P := by
  have hb : c.catalog.Becomes (c.register r).2.catalog := c.catalog.becomes_apply r
  have hp (s : RuleSet χ) : P c.catalog s → P (c.register r).2.catalog s := hP.becomes _ _ s hb
  refine ⟨hc.sound.becomes hb, fun s hs => hp s (hc.registry s hs), ?_, ?_, ?_⟩
  · exact fun d hd => hp d.rules (hc.aside.session d hd)
  · exact fun s hs => hp s (hc.aside.shelf s hs)
  · exact fun s hs => hp s (hc.aside.registry s hs)

lemma role_frame (c : Configurator χ) (name : String) (parents : List String)
    (body : Script χ ω) :
    (c.role name parents body).2.2.catalog = c.catalog ∧
      ∃ n, (c.role name parents body).2.2.aside = { (Workshop.define { c.aside with session := {} }
        name parents (body.run c.catalog)).2.2 with builds := n } := by
  simp only [role]
  split
  · exact ⟨rfl, _, rfl⟩
  · split <;> exact ⟨rfl, _, rfl⟩

lemma Bears.role (hP : RuleSet.Lasting P) (hc : c.Bears P) (name : String)
    (parents : List String) (body : Script χ ω) : (c.role name parents body).2.2.Bears P := by
  have hi := hP.invariant c.catalog hc.sound
  have hw : ({ c.aside with session := {} } : Workshop χ).Bears (P c.catalog) :=
    hc.aside.withSession (Session.bears_of_none rfl)
  obtain ⟨hr, hd⟩ : Workshop.Yields (P c.catalog) (Workshop.define { c.aside with session := {} }
      name parents (body.run c.catalog)).2 := hw.define hi fun v hv => body.bears_run hi hv
  obtain ⟨hcatalog, n, haside⟩ := c.role_frame name parents body
  refine ⟨hcatalog ▸ hc.sound, ?_, ?_⟩
  · rw [hcatalog]
    intro r hm
    rcases mem_roles_apply (d := .role name parents body) hm with hm | ⟨_, _, _, he, hf, _⟩
    · exact hc.registry r hm
    · cases he
      exact hr r hf
  · rw [hcatalog, haside]
    exact ⟨hd.session, hd.shelf, hd.registry⟩

lemma Bears.apply (hP : RuleSet.Lasting P) (hc : c.Bears P) (d : Directive χ ω) :
    (c.apply d).2.2.Bears P := by
  cases d with
  | register r => exact hc.register hP r
  | role name parents body => exact hc.role hP name parents body
  | inspect view => exact hc

lemma Bears.run (hP : RuleSet.Lasting P) (hc : c.Bears P) (pass : List (Directive.Guarded χ ω)) :
    (c.run pass).2.2.Bears P := by
  induction pass generalizing c with
  | nil => exact hc
  | cons d pass ih =>
    have hd := hc.apply hP d.directive
    rcases c.run_cons d with he | he
    · rw [he]
      exact hd
    · rw [he]
      exact ih hd

lemma bears_start (P : Catalog → RuleSet χ → Prop) (config : Config) :
    ({ registry := { config := config } } : Configurator χ).Bears P :=
  ⟨Catalog.sound_empty, nofun, Workshop.bears_empty⟩

end Configurator

lemma Authorizer.configure_eq_ok_iff {config : Config} {pass : List (Directive.Guarded χ ω)}
    {entries : List (DirectiveEntry χ ω)} {a : Authorizer χ} :
    Authorizer.configure config pass = (entries, .ok a) ↔
      ∃ c, Configurator.run { registry := { config := config } } pass = (entries, none, c) ∧
        a = ⟨c.catalog, c.registry⟩ := by
  simp only [configure]
  generalize Configurator.run { registry := { config := config } } pass = run
  obtain ⟨entries', failure, c⟩ := run
  cases failure with
  | none => simp [eq_comm]
  | some e => simp

lemma Authorizer.bears_of_configure {P : Catalog → RuleSet χ → Prop} (hP : RuleSet.Lasting P)
    {config : Config} {pass : List (Directive.Guarded χ ω)} {entries : List (DirectiveEntry χ ω)}
    {a : Authorizer χ} (h : Authorizer.configure config pass = (entries, .ok a)) :
    a.catalog.Sound ∧ ∀ r ∈ a.registry.roles, P a.catalog r := by
  have hc := (Configurator.bears_start P config).run hP pass
  obtain ⟨c, hr, rfl⟩ := configure_eq_ok_iff.mp h
  rw [hr] at hc
  exact ⟨hc.sound, hc.registry⟩

end RolePolicy
