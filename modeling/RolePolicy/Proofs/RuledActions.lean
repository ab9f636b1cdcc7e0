import RolePolicy.Check
import RolePolicy.Proofs.Locality
import RolePolicy.Proofs.RoleInvariants

namespace RolePolicy

variable {χ ω : Type}

lemma Clause.Touches.isAction {catalog : Catalog} {c : Clause χ} {a : Action}
    (h : c.Touches catalog a) (hs : catalog.Sound) : catalog.isAction a.name := by
  obtain ⟨name, actions, hr, ha⟩ : ∃ name, catalog.StandsFor name a := by
    cases c with
    | setDefault | addParents => exact h.elim False.elim False.elim
    | declare name keys condition => exact ⟨name, h.resolve_right id⟩
    | respond name x => exact ⟨name, h.resolve_left id⟩
  exact Catalog.isAction_iff.mpr ((hs.resolve hr).2.2 a ha)

namespace RuleSet

def Within (catalog : Catalog) (r : RuleSet χ) : Prop :=
  ∀ a ∈ r.rules.keys, catalog.isAction a.name

lemma mem_keys_iff {r : RuleSet χ} {a : Action} : a ∈ r.rules.keys ↔ (r.rule? a).isSome := by
  rw [Std.ExtTreeMap.mem_keys, Std.ExtTreeMap.mem_iff_isSome_getElem?, rule?]

lemma invariant_within {catalog : Catalog} (hs : catalog.Sound) :
    Invariant catalog (Within catalog : RuleSet χ → Prop) where
  start build name parents := by
    intro a ha
    rw [Draft.start, addParents_frame] at ha
    simp at ha
  issue d d' s hd h := by
    intro a ha
    by_cases ht : s.clause.Touches catalog a
    · exact ht.isAction hs
    · rw [mem_keys_iff, Draft.rule?_issue_of_not_touches h ht, ← mem_keys_iff] at ha
      exact hd a ha

lemma lasting_within : Lasting (Within : Catalog → RuleSet χ → Prop) where
  invariant _ := invariant_within
  becomes _ _ _ hc h a ha := hc.isAction (h a ha)

lemma Within.matched {catalog : Catalog} {r : RuleSet χ} (h : r.Within catalog) {a : Action}
    (ha : catalog.isAction a.name = false) (id : Option String) :
    (r.select id a).map Prod.snd = none ∨ (r.select id a).map Prod.snd = some .default := by
  have hr : r.rule? a = none := by
    by_contra hr
    have hk := h a (mem_keys_iff.mpr (Option.isSome_iff_ne_none.mpr hr))
    cases hk.symm.trans ha
  rw [select, hr, Option.bind_none, Option.none_or]
  cases r.defaultResponse with
  | none => exact Or.inl rfl
  | some x => exact Or.inr rfl

end RuleSet

def Unruled (steps : List TraceStep) : Prop :=
  ∀ s ∈ steps, s.matched = none ∨ s.matched = some .default

namespace Authorizer

variable {a : Authorizer χ} {q : Request}

lemma unruled_searchBy (hr : ∀ r ∈ a.registry.roles, r.Within a.catalog)
    (hq : a.catalog.isAction q.action.name = false) (ask : Reaction χ) :
    Unruled (a.registry.searchBy ask q).answer.steps := by
  intro step hs
  obtain ⟨r, hf, hm⟩ := Registry.exists_of_mem_steps_searchBy hs
  rw [hm]
  exact (hr r (Registry.find?_eq_some hf).1).matched hq _

lemma enforce_ne_unknownName [Callbacks χ] (h : a.catalog.isAction q.action.name) (name : String) :
    (a.enforce q).answer ≠ .error (.catalog (.unknownName name)) := by
  rw [enforce, if_pos h, Consulted.answer_bind]
  cases hq : (a.query q).answer with
  | error e =>
    rintro ⟨⟩
    rcases Registry.error_of_query hq with ⟨_, he⟩ | ⟨_, _, he⟩ <;> cases he
  | ok b => cases b <;> simp [denial]

end Authorizer

theorem Authorizer.configure_rules_atomic {config : Config} {pass : List (Directive.Guarded χ ω)}
    {entries : List (DirectiveEntry χ ω)} {a : Authorizer χ}
    (h : Authorizer.configure config pass = (entries, .ok a)) :
    (∀ r ∈ a.registry.roles, ∀ b ∈ r.rules.keys, a.catalog.isAction b.name) ∧
    (∀ q : Request, a.catalog.isAction q.action.name = false →
      (∀ ask c, a.registry.LoopFinds ask q c → Unruled c.answer.steps) ∧
      ∀ [Callbacks χ] t, (a.trace q).answer = .ok t → Unruled t.steps) ∧
    ∀ [Callbacks χ] (q : Request), (∃ r ∈ a.registry.roles, q.action ∈ r.rules.keys) →
      ∀ name, (a.enforce q).answer ≠ .error (.catalog (.unknownName name)) := by
  obtain ⟨_, hr⟩ := bears_of_configure RuleSet.lasting_within h
  refine ⟨hr, fun q hq => ⟨fun ask c hc => ?_, fun {_} t ht => ?_⟩, fun {_} q hq => ?_⟩
  · rw [hc.eq_searchBy]
    exact unruled_searchBy hr hq ask
  · have hs := unruled_searchBy hr hq .steady
    rw [Registry.searchBy_steady] at hs
    obtain ⟨v, _, rfl⟩ := exists_of_map_eq_ok ht
    exact hs
  · obtain ⟨r, hm, hk⟩ := hq
    exact enforce_ne_unknownName (hr r hm q.action hk)

def filingScript : Script Probe Unit :=
  .step (.clause (.declare "edit" [.named "file"] none)) false
    (.step (.clause (.respond "shred" .allow)) true
      (.step (.clause (.setDefault .deny)) false .done))

def archive : List (Directive.Guarded Probe Unit) :=
  [⟨.register (.action "view"), false⟩, ⟨.register (.action "update"), false⟩,
    ⟨.register (.group "edit" ["view", "update"]), false⟩,
    ⟨.role "clerk" [] filingScript, false⟩, ⟨.register (.action "edit"), true⟩,
    ⟨.register (.group "edit" ["view"]), false⟩, ⟨.register (.action "shred"), false⟩,
    ⟨.role "clerk" ["clerk"] (.step (.clause (.respond "shred" .allow)) false .done), true⟩]

theorem archive_rules_atomic :
    let q (name : String) : Request :=
      ⟨{ role := some "clerk" }, ⟨some "file", "&str", none⟩, ⟨name⟩⟩
    let t : Trace := ⟨some "clerk", some "file", ⟨"edit"⟩,
      [⟨"clerk", some .default, some false⟩], false, .rule "clerk" .default⟩
    ∃ entries a r, Authorizer.configure {} archive = (entries, .ok a) ∧
      a.registry.find? "clerk" = some r ∧ r.rules.keys = [⟨"update"⟩, ⟨"view"⟩] ∧
      (∀ b ∈ r.rules.keys, a.catalog.isAction b.name) ∧
      a.catalog.resolve "edit" = .ok [⟨"view"⟩] ∧ a.catalog.isAction "edit" = false ∧
      (a.trace (q "edit")).answer = .ok t ∧ Unruled t.steps ∧
      ∀ name, (a.enforce (q "update")).answer ≠ .error (.catalog (.unknownName name)) := by
  intro q t
  obtain ⟨entries, a, r, hc, hr, hk, hg, hn, ht⟩ : ∃ entries a r,
      Authorizer.configure {} archive = (entries, .ok a) ∧ a.registry.find? "clerk" = some r ∧
      r.rules.keys = [⟨"update"⟩, ⟨"view"⟩] ∧ a.catalog.resolve "edit" = .ok [⟨"view"⟩] ∧
      a.catalog.isAction "edit" = false ∧ (a.trace (q "edit")).answer = .ok t :=
    ⟨_, _, _, rfl, rfl, by decide +kernel, by decide +kernel, by decide +kernel,
      by decide +kernel⟩
  obtain ⟨hatomic, hunruled, henforce⟩ := Authorizer.configure_rules_atomic hc
  have hm : r ∈ a.registry.roles := (Registry.find?_eq_some hr).1
  refine ⟨entries, a, r, hc, hr, hk, hatomic r hm, hg, hn, ht, (hunruled _ hn).2 t ht, ?_⟩
  apply henforce (q "update")
  exact ⟨r, hm, by simp [hk, q]⟩

end RolePolicy
