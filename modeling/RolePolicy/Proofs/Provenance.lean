import RolePolicy.Proofs.Ancestry
import RolePolicy.Proofs.Consultation
import RolePolicy.Proofs.Filing
import RolePolicy.Proofs.Precedence

namespace RolePolicy

variable {χ ω : Type}

section

variable [Callbacks χ]

def Condition.Met (c : Condition χ) (p : Polarity) (q : Request) : Prop :=
  match c with
  | ifHolds check => Callbacks.holds check q = p.grants
  | unlessHolds check => Callbacks.holds check q = p.negate.grants

def Statement.Grants (catalog : Catalog) (q : Request) (id : Option String) (s : Statement χ) :
    Prop :=
  match s.clause with
  | .setDefault x => (x.evaluate q).answer = some true
  | .respond action x => catalog.StandsFor action q.action ∧ (x.evaluate q).answer = some true
  | .declare action keys condition =>
    catalog.StandsFor action q.action ∧
      (keys = [] ∨ .other ∈ keys ∨ ∃ i, id = some i ∧ .named i ∈ keys) ∧
      match condition with
      | none => s.polarity = .allow
      | some c => c.Met s.polarity q
  | .addParents _ => False

end

section

variable {catalog : Catalog} {a : Action} {k : ResourceKey} {q : Request} {id : Option String}
  {s : Statement χ} {x : Response χ} {build : Nat} {role : String} {parents : List String}
  {statements before : List (Statement χ)} {r : RuleSet χ}

def ResourceKey.Fits (id : Option String) (k : ResourceKey) : Prop :=
  k = other ∨ ∃ i, id = some i ∧ k = named i

lemma ResourceKey.Covers.of_fits {keys : List ResourceKey} (h : ResourceKey.Covers keys k)
    (hk : ResourceKey.Fits id k) :
    keys = [] ∨ .other ∈ keys ∨ ∃ i, id = some i ∧ .named i ∈ keys := by
  by_cases hw : keys = [] ∨ .other ∈ keys
  · exact hw.imp_right Or.inl
  · rw [ResourceKey.Covers, if_neg hw] at h
    rcases hk with rfl | ⟨i, hi, rfl⟩
    · exact (hw (Or.inr h)).elim
    · exact Or.inr (Or.inr ⟨i, hi, h⟩)

lemma RuleSet.select_cases {source : MatchSource} (h : r.select id a = some (x, source)) :
    r.rule? a = some (.everywhere x) ∨ (∃ k, ResourceKey.Fits id k ∧ r.responseFor? a k = some x) ∨
      r.defaultResponse = some x := by
  cases select_eq_iff.mp h with
  | action x hx => exact Or.inl hx
  | resource i x hi hx => exact Or.inr (Or.inl ⟨.named i, Or.inr ⟨i, hi, rfl⟩, hx⟩)
  | wildcard x hu hx => exact Or.inr (Or.inl ⟨.other, Or.inl rfl, hx⟩)
  | default x hu ho hx => exact Or.inr (Or.inr hx)

variable [Callbacks χ]

lemma Condition.met_of_respond {c : Condition χ} {p : Polarity} {o : Origin}
    (h : ((c.respond p o).evaluate q).answer = some true) : c.Met p q := by
  cases c <;> simpa [respond, Response.evaluate, Predicate.call, expected, check, Met] using h

lemma Response.allow_of_ofPolarity {p : Polarity}
    (h : ((ofPolarity p : Response χ).evaluate q).answer = some true) : p = .allow := by
  cases p with
  | allow => rfl
  | deny => cases h

lemma Statement.grants_of_declared (hd : s.clause.DeclaresAt catalog q.action k)
    (hk : ResourceKey.Fits id k) (hx : s.declared build before = some x)
    (he : (x.evaluate q).answer = some true) : s.Grants catalog q id := by
  obtain ⟨p, c⟩ := s
  cases c with
  | setDefault | addParents | respond => exact hd.elim
  | declare action keys condition =>
    refine ⟨hd.1, hd.2.of_fits hk, ?_⟩
    cases condition with
    | none =>
      cases hx
      exact Response.allow_of_ofPolarity he
    | some c =>
      cases hx
      exact Condition.met_of_respond he

lemma Statement.grants_of_respondsWith (hs : s.clause.RespondsWith catalog q.action x)
    (he : (x.evaluate q).answer = some true) : s.Grants catalog q id := by
  obtain ⟨p, c⟩ := s
  cases c with
  | setDefault | addParents | declare => exact hs.elim
  | respond action y =>
    obtain ⟨ha, rfl⟩ := hs
    exact ⟨ha, he⟩

lemma Statement.grants_of_default? (hs : s.clause.default? = some x)
    (he : (x.evaluate q).answer = some true) : s.Grants catalog q id := by
  obtain ⟨p, c⟩ := s
  cases c with
  | respond | addParents | declare => cases hs
  | setDefault y =>
    cases hs
    exact he

lemma LastWriter.exists_grants (h : LastWriter catalog build role parents statements r)
    (hr : (r.evaluate q id).answer = some true) : ∃ s ∈ statements, s.Grants catalog q id := by
  rw [RuleSet.evaluate] at hr
  split at hr
  · rename_i x source hx
    rcases RuleSet.select_cases hx with hx | ⟨k, hk, hx⟩ | hx
    · obtain ⟨before, s, hl, hs⟩ := (h.everywhere _ x).mp hx
      exact ⟨s, hl.mem, Statement.grants_of_respondsWith hs hr⟩
    · obtain ⟨before, s, hl, hd, hs⟩ := (h.responseFor? _ k x).mp hx
      exact ⟨s, hl.mem, Statement.grants_of_declared hd hk hs hr⟩
    · rw [h.default] at hx
      obtain ⟨s, hs, hd⟩ := List.mem_filterMap.mp (List.mem_of_getLast? hx)
      exact ⟨s, hs, Statement.grants_of_default? hd hr⟩
  · cases hr

end

lemma Registry.exists_grantor [Callbacks χ] {g : Registry χ} {q : Request}
    (hd : g.config.defaultQueryResponse = false) (hq : (g.query q).answer = .ok true) :
    ∃ r s, g.roleOf? q.actor = some r ∧ g.Reaches r s ∧ g.find? s.name = some s ∧
      g.opinion q s = some true := by
  have hv : (g.search q).answer.outcome.map Verdict.decision = .ok true := hq
  cases hr : g.roleOf? q.actor with
  | none =>
    rw [search, hr] at hv
    cases hm : g.config.actorMustPlayRole <;> simp [hm, hd, Except.map] at hv
  | some r =>
    have hf := find?_of_roleOf? hr
    have h := search_finds hr
    generalize (g.search q).answer = f at h hv
    cases h with
    | answered past s rest v he hp ha =>
      have hs : g.Reaches r s := (mem_lineage_iff hf).mp (by simp [he])
      have hb : v.decision = true := Except.ok.inj hv
      exact ⟨r, s, rfl, hs, hs.registered hf, hb ▸ ha.opinion⟩
    | blocked => cases hv
    | exhausted => simp [Except.map, hd] at hv

def Configurator.Stated (c : Configurator χ) (pass : List (Directive.Guarded χ ω)) (r : RuleSet χ)
    (catalog : Catalog) (s : Statement χ) : Prop :=
  ∃ before name parents body caught after,
    pass = before ++ ⟨.role name parents (Body.script body), caught⟩ :: after ∧
    (c.run before).2.2.Files (Directive.role name parents body.script : Directive χ ω) r ∧
    catalog = (c.run before).2.2.catalog ∧ s ∈ body.issued catalog .allow

lemma Configurator.Files.stated [Callbacks χ] {c : Configurator χ}
    {before : List (Directive.Guarded χ ω)} {d : Directive.Guarded χ ω} {r : RuleSet χ}
    {q : Request} {id : Option String} (h : (c.run before).2.2.Files d.directive r)
    (after : List (Directive.Guarded χ ω))
    (hb : ∀ name parents script, d.directive = .role name parents script →
      ∃ body : Body χ, script = body.script)
    (hr : (r.evaluate q id).answer = some true) :
    ∃ catalog s, c.Stated (before ++ d :: after) r catalog s ∧ s.Grants catalog q id := by
  obtain ⟨directive, caught⟩ := d
  obtain ⟨name, parents, script, rfl, hd, hn⟩ := h
  obtain ⟨body, rfl⟩ := hb name parents script rfl
  obtain ⟨s, hs, hg⟩ := (Body.define_script rfl hd).exists_grants hr
  exact ⟨_, s, ⟨before, name, parents, body, caught, after, rfl,
    ⟨name, parents, body.script, rfl, hd, hn⟩, rfl, hs⟩, hg⟩

lemma Authorizer.registry_of_configure {config : Config} {pass : List (Directive.Guarded χ ω)}
    {entries : List (DirectiveEntry χ ω)} {a : Authorizer χ}
    (h : Authorizer.configure config pass = (entries, .ok a)) :
    a.registry =
      (Configurator.run { registry := { config := config } } pass).2.2.registry := by
  rw [configure] at h
  split at h
  · cases h
  · rename_i hr
    cases h
    rw [hr]

theorem Authorizer.query_grant_stated [Callbacks χ] {config : Config}
    {pass : List (Directive.Guarded χ ω)} {entries : List (DirectiveEntry χ ω)}
    {a : Authorizer χ} {q : Request}
    (hc : Authorizer.configure config pass = (entries, .ok a))
    (hb : ∀ d ∈ pass, ∀ name parents script, d.directive = .role name parents script →
      ∃ body : Body χ, script = body.script)
    (hd : config.defaultQueryResponse = false) (hq : (a.query q).answer = .ok true) :
    ∃ r s catalog t, a.registry.roleOf? q.actor = some r ∧ a.registry.Reaches r s ∧
      a.registry.find? s.name = some s ∧
      Configurator.Stated { registry := { config := config } } pass s catalog t ∧
      t.Grants catalog q (a.registry.identifier q) := by
  have hg := Authorizer.registry_of_configure hc
  have hconfig : a.registry.config.defaultQueryResponse = false := by
    rw [hg, Configurator.config_run]
    exact hd
  obtain ⟨r, s, hr, hrs, hs, ho⟩ := Registry.exists_grantor hconfig hq
  have hm := (Registry.find?_eq_some hs).1
  rw [hg] at hm
  rcases Configurator.mem_roles_run hm with hm | ⟨before, d, after, rfl, hf⟩
  · cases hm
  · obtain ⟨catalog, t, ht, htg⟩ := hf.stated after (hb d (by simp)) ho
    exact ⟨r, s, catalog, t, hr, hrs, hs, ht, htg⟩

def clerkBody : Body Probe :=
  .block .deny
    (.block .allow
      (.clause (.declare "edit" [.named "draft"]
        (some (.ifHolds ⟨0, none, .const true, none, none⟩))) false .done) false
      (.clause (.declare "edit" [.named "final"] none) false
        (.clause (.declare "print" [] none) false .done))) true .done

def office : List (Directive.Guarded Probe Unit) :=
  [⟨.register (.action "view"), false⟩, ⟨.register (.action "update"), false⟩,
    ⟨.register (.group "edit" ["view", "update"]), false⟩,
    ⟨.role "manager" ["clerk", "ghost"] .done, false⟩,
    ⟨.role "clerk" ["manager"] clerkBody.script, false⟩]

theorem office_grant_stated :
    let q : Request := ⟨{ role := some "manager" }, ⟨some "draft", "&str", none⟩, ⟨"update"⟩⟩
    ∃ entries a, Authorizer.configure {} office = (entries, .ok a) ∧ (a.query q).answer = .ok true ∧
      ∃ r s catalog t, a.registry.roleOf? q.actor = some r ∧ a.registry.Reaches r s ∧
        a.registry.find? s.name = some s ∧
        Configurator.Stated { registry := { config := {} } } office s catalog t ∧
        t.Grants catalog q (a.registry.identifier q) := by
  intro q
  have hb : ∀ d ∈ office, ∀ name parents script, d.directive = .role name parents script →
      ∃ body : Body Probe, script = body.script := by
    intro d hd name parents script hs
    simp only [office, List.mem_cons, List.not_mem_nil, or_false] at hd
    rcases hd with rfl | rfl | rfl | rfl | rfl
    · cases hs
    · cases hs
    · cases hs
    · cases hs
      exact ⟨.done, rfl⟩
    · cases hs
      exact ⟨clerkBody, rfl⟩
  obtain ⟨entries, a, hc, hq⟩ : ∃ entries a,
      Authorizer.configure {} office = (entries, .ok a) ∧ (a.query q).answer = .ok true :=
    ⟨_, _, rfl, by decide +kernel⟩
  exact ⟨entries, a, hc, hq, Authorizer.query_grant_stated hc hb rfl hq⟩

end RolePolicy
