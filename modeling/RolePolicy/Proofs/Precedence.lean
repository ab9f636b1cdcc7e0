import RolePolicy.Proofs.Body

/-! Which response of a role governs a request. A rule for the action goes before a rule for the
very resource, that before the wildcard, and the default comes last. A resource may be spelled like
the wildcard and is still a resource. -/

namespace RolePolicy

variable {χ ω : Type}

namespace RuleSet

variable {r r' : RuleSet χ} {id : Option String} {a : Action} {x : Response χ}
  {found : Option (Response χ × MatchSource)}

def Unnamed (r : RuleSet χ) (id : Option String) (a : Action) : Prop :=
  (∀ x, r.rule? a ≠ some (.everywhere x)) ∧ ∀ i, id = some i → r.responseFor? a (.named i) = none

inductive Governs (r : RuleSet χ) (id : Option String) (a : Action) :
    Option (Response χ × MatchSource) → Prop
  | action (x : Response χ) : r.rule? a = some (.everywhere x) → Governs r id a (some (x, .action))
  | resource (i : String) (x : Response χ) : id = some i → r.responseFor? a (.named i) = some x →
      Governs r id a (some (x, .resource))
  | wildcard (x : Response χ) : r.Unnamed id a → r.responseFor? a .other = some x →
      Governs r id a (some (x, .wildcard))
  | default (x : Response χ) : r.Unnamed id a → r.responseFor? a .other = none →
      r.defaultResponse = some x → Governs r id a (some (x, .default))
  | nothing : r.Unnamed id a → r.responseFor? a .other = none → r.defaultResponse = none →
      Governs r id a none

lemma select_of_everywhere (h : r.rule? a = some (.everywhere x)) :
    r.select id a = some (x, .action) := by
  rw [select, h]
  rfl

lemma select_eq (h : ∀ x, r.rule? a ≠ some (.everywhere x)) : r.select id a =
    ((id.bind fun i => r.responseFor? a (.named i)).map (·, .resource)).or
      (((r.responseFor? a .other).map (·, .wildcard)).or
        (r.defaultResponse.map (·, .default))) := by
  have hk (k : ResourceKey) : r.responseFor? a k = (r.rule? a).bind fun
      | .byResource rules => rules[k]?
      | .everywhere _ => none := by
    rw [responseFor?]
    rcases r.rule? a with _ | _ | _ <;> rfl
  simp only [select, hk]
  cases hr : r.rule? a with
  | none => cases id <;> rfl
  | some rule =>
    cases rule with
    | everywhere x => exact absurd hr (h x)
    | byResource rules =>
      simp only [Option.bind_some, ActionRule.select, ResourceRules.select]
      cases id.bind fun i => rules[ResourceKey.named i]? <;> rfl

lemma Unnamed.select_eq (h : r.Unnamed id a) : r.select id a =
    ((r.responseFor? a .other).map (·, .wildcard)).or (r.defaultResponse.map (·, .default)) := by
  have hn : (id.bind fun i => r.responseFor? a (.named i)) = none := by
    cases id with
    | none => rfl
    | some i => exact h.2 i rfl
  rw [RuleSet.select_eq h.1, hn, Option.map_none, Option.none_or]

lemma select_of_named {i : String} (h : r.responseFor? a (.named i) = some x) :
    r.select (some i) a = some (x, .resource) := by
  have hr : ∀ y, r.rule? a ≠ some (.everywhere y) := fun y hy => by
    cases (responseFor?_of_everywhere hy).symm.trans h
  rw [select_eq hr, Option.bind_some, h]
  rfl

lemma Governs.select_eq (h : r.Governs id a found) : r.select id a = found := by
  cases h with
  | action x hx => exact select_of_everywhere hx
  | resource i x hi hx => rw [hi, select_of_named hx]
  | wildcard x hu hx => rw [hu.select_eq, hx]; rfl
  | default x hu ho hx => rw [hu.select_eq, ho, hx]; rfl
  | nothing hu ho hd => rw [hu.select_eq, ho, hd]; rfl

lemma governs_select (r : RuleSet χ) (id : Option String) (a : Action) :
    r.Governs id a (r.select id a) := by
  by_cases he : ∃ x, r.rule? a = some (.everywhere x)
  · obtain ⟨x, hx⟩ := he
    rw [select_of_everywhere hx]
    exact .action x hx
  by_cases hn : ∃ i x, id = some i ∧ r.responseFor? a (.named i) = some x
  · obtain ⟨i, x, rfl, hx⟩ := hn
    rw [select_of_named hx]
    exact .resource i x rfl hx
  have hu : r.Unnamed id a := by
    refine ⟨fun x hx => he ⟨x, hx⟩, fun i hi => ?_⟩
    exact Option.eq_none_iff_forall_ne_some.mpr fun x hx => hn ⟨i, x, hi, hx⟩
  rw [hu.select_eq]
  cases ho : r.responseFor? a .other with
  | some x => exact .wildcard x hu ho
  | none =>
    cases hd : r.defaultResponse with
    | some x => exact .default x hu ho hd
    | none => exact .nothing hu ho hd

lemma select_eq_iff : r.select id a = found ↔ r.Governs id a found :=
  ⟨fun h => h ▸ r.governs_select id a, Governs.select_eq⟩

lemma select_eq_resource_iff : r.select id a = some (x, .resource) ↔
    ∃ i, id = some i ∧ r.responseFor? a (.named i) = some x := by
  rw [select_eq_iff]
  constructor
  · rintro (_ | ⟨i, _, hi, hx⟩)
    exact ⟨i, hi, hx⟩
  · rintro ⟨i, hi, hx⟩
    exact .resource i x hi hx

lemma evaluate_of_select [Callbacks χ] {q : Request} {source : MatchSource}
    (h : r.select id q.action = some (x, source)) : r.evaluate q id = x.evaluate q := by
  rw [evaluate, h]

end RuleSet

def Response.SilentOn [Callbacks χ] (x : Response χ) (q : Request) : Prop :=
  x = .unset ∨ ∃ p, x = .predicate p ∧ p.call q = none

lemma Response.silentOn_iff [Callbacks χ] {x : Response χ} {q : Request} :
    x.SilentOn q ↔ (x.evaluate q).answer = none := by
  cases x <;> simp [SilentOn, evaluate]

lemma RuleSet.answer_eq_none_iff [Callbacks χ] {r : RuleSet χ} {id : Option String}
    {q : Request} : (r.evaluate q id).answer = none ↔
      ∀ x source, r.select id q.action = some (x, source) → x.SilentOn q := by
  cases h : r.select id q.action with
  | none => simp [evaluate, h]
  | some f =>
    obtain ⟨x, source⟩ := f
    simp [evaluate, h, Response.silentOn_iff]

/-- The statement that a selected response goes back to, which no later one overrules. -/
inductive Decides (catalog : Catalog) (build : Nat) (statements : List (Statement χ))
    (id : Option String) (a : Action) : Response χ → MatchSource → Prop
  | action (before : List (Statement χ)) (s : Statement χ) (x : Response χ) :
      IsLast (fun s => s.clause.Touches catalog a) before s statements →
      s.clause.RespondsWith catalog a x → Decides catalog build statements id a x .action
  | resource (i : String) (before : List (Statement χ)) (s : Statement χ) (x : Response χ) :
      id = some i →
      IsLast (fun s => s.clause.DeclaresAt catalog a (.named i) ∨ s.clause.Responds catalog a)
        before s statements →
      s.clause.DeclaresAt catalog a (.named i) → s.declared build before = some x →
      Decides catalog build statements id a x .resource
  | wildcard (before : List (Statement χ)) (s : Statement χ) (x : Response χ) :
      IsLast (fun s => s.clause.DeclaresAt catalog a .other ∨ s.clause.Responds catalog a)
        before s statements →
      s.clause.DeclaresAt catalog a .other → s.declared build before = some x →
      Decides catalog build statements id a x .wildcard
  | default (x : Response χ) :
      (statements.filterMap fun s => s.clause.default?).getLast? = some x →
      Decides catalog build statements id a x .default

lemma LastWriter.decides {catalog : Catalog} {build : Nat} {role : String}
    {parents : List String} {statements : List (Statement χ)} {r : RuleSet χ}
    {id : Option String} {a : Action} {x : Response χ} {source : MatchSource}
    (h : LastWriter catalog build role parents statements r)
    (hx : r.select id a = some (x, source)) : Decides catalog build statements id a x source := by
  cases RuleSet.select_eq_iff.mp hx with
  | action x hr =>
    obtain ⟨before, s, hl, hs⟩ := (h.everywhere a x).mp hr
    exact .action before s x hl hs
  | resource i x hi hr =>
    obtain ⟨before, s, hl, hd, hs⟩ := (h.responseFor? a _ x).mp hr
    exact .resource i before s x hi hl hd hs
  | wildcard x hu hr =>
    obtain ⟨before, s, hl, hd, hs⟩ := (h.responseFor? a _ x).mp hr
    exact .wildcard before s x hl hd hs
  | default x hu ho hd =>
    rw [h.default] at hd
    exact .default x hd

def Body.Makes (catalog : Catalog) (body : Body χ) (r : RuleSet χ) : Prop :=
  ∃ (w w' : Workshop χ) (name : String) (parents : List String),
    w.start name parents = (.ok .nothing, w') ∧
      (body.script.run catalog w' : Run χ Unit).workshop.finish.1 = .ok r

lemma Body.Makes.lastWriter {catalog : Catalog} {body : Body χ} {r : RuleSet χ}
    (h : body.Makes catalog r) :
    ∃ build parents, LastWriter catalog build r.name parents (body.issued catalog .allow) r := by
  obtain ⟨w, w', name, parents, hw, hr⟩ := h
  have hw' : w'.session = ⟨some (Draft.start w.builds name parents), .allow⟩ := by
    rw [Workshop.start] at hw
    cases hd : w.session.draft with
    | none =>
      rw [Session.start_of_closed hd] at hw
      cases hw
      rfl
    | some d =>
      rw [Session.start_of_open hd] at hw
      cases hw
  obtain ⟨d, hi, _, hrun⟩ := body.run_script (ω := Unit) catalog hw'
  simp only [hrun, Workshop.finish, Session.finish, Except.ok.injEq] at hr
  subst hr
  have hl := (LastWriter.start catalog w.builds name parents).issueAll rfl hi
  rw [List.nil_append] at hl
  exact ⟨w.builds, parents, hl.name_eq ▸ hl⟩

lemma Body.Makes.decides {catalog : Catalog} {body : Body χ} {r : RuleSet χ}
    (h : body.Makes catalog r) (id : Option String) (a : Action) :
    ∃ build, ∀ x source, r.select id a = some (x, source) →
      Decides catalog build (body.issued catalog .allow) id a x source := by
  obtain ⟨build, parents, hl⟩ := h.lastWriter
  exact ⟨build, fun x source => hl.decides⟩

lemma Draft.responseFor?_issueAll {catalog : Catalog} {d d' : Draft χ} {a : Action}
    {k : ResourceKey} {statements : List (Statement χ)}
    (h : d.issueAll catalog statements = .ok d')
    (hs : ∀ s ∈ statements,
      ¬ s.clause.DeclaresAt catalog a k ∧ ¬ s.clause.Responds catalog a) :
    d'.rules.responseFor? a k = d.rules.responseFor? a k := by
  induction statements generalizing d with
  | nil =>
    cases h
    rfl
  | cons s statements ih =>
    obtain ⟨d₁, hi, hr⟩ := issueAll_cons.mp h
    obtain ⟨⟨hk, ha⟩, hs⟩ := List.forall_mem_cons.mp hs
    rw [ih hr hs, responseFor?_issue_of_not hi hk ha]

theorem RuleSet.select_precedence [Callbacks χ] (r : RuleSet χ) (id : Option String)
    (a : Action) :
    (∀ found, r.select id a = found ↔ r.Governs id a found) ∧
    (∀ q : Request, q.action = a →
      (∀ x source, r.select id a = some (x, source) → r.evaluate q id = x.evaluate q) ∧
      ((r.evaluate q id).answer = none ↔
        ∀ x source, r.select id a = some (x, source) → x.SilentOn q)) ∧
    (∀ (catalog : Catalog) (body : Body χ), body.Makes catalog r →
      ∃ build, ∀ x source, r.select id a = some (x, source) →
        Decides catalog build (body.issued catalog .allow) id a x source) ∧
    ∀ (catalog : Catalog) (w : Workshop χ) (o : Origin) (p : Polarity) (body : Body χ) (i : String)
      (x : Response χ), w.session = ⟨some ⟨r, o⟩, p⟩ → id = some i →
      r.select id a = some (x, .resource) →
      (∀ s ∈ body.issued catalog p,
        ¬ s.clause.DeclaresAt catalog a (.named i) ∧ ¬ s.clause.Responds catalog a) →
      ∃ d : Draft χ, (body.script.run catalog w : Run χ ω).workshop =
          { w with session := ⟨some d, p⟩ } ∧ d.rules.select id a = some (x, .resource) := by
  refine ⟨fun found => select_eq_iff, fun q hq => ?_, fun catalog body hm => hm.decides id a,
    fun catalog w o p body i x hw hi hx hs => ?_⟩
  · subst hq
    exact ⟨fun x source => evaluate_of_select, answer_eq_none_iff⟩
  · obtain ⟨d, hd, _, hrun⟩ := body.run_script (ω := ω) catalog hw
    subst hi
    obtain ⟨_, ⟨⟩, hx⟩ := select_eq_resource_iff.mp hx
    refine ⟨d, hrun, select_of_named ?_⟩
    rw [Draft.responseFor?_issueAll hd hs, hx]

def post : RuleSet Probe :=
  ((({ name := "post" } : RuleSet Probe).declare ⟨"view"⟩ (.named "_other") .deny).declare
    ⟨"view"⟩ .other .allow).respond ⟨"update"⟩ .unset |>.setDefault .allow

def postBody : Body Probe :=
  .block .deny (.clause (.declare "view" [.named "_other"] none) false .done) false
    (.clause (.declare "view" [.named "memo", .other] none) false
      (.clause (.respond "update" .unset) false
        (.clause (.setDefault .allow) false .done)))

def postscript : Body Probe :=
  .clause (.declare "edit" [.named "memo"] none) false
    (.block .deny (.clause (.declare "edit" [] none) false
      (.clause (.setDefault .deny) false .done)) false .done)

theorem post_select_precedence :
    let q : Request := ⟨{ role := none }, ⟨some "_other", "&str", none⟩, ⟨"update"⟩⟩
    ResourceKey.text .other = ResourceKey.text (.named "_other") ∧ postBody.Makes desk post ∧
    post.select (some "_other") ⟨"view"⟩ = some (.deny, .resource) ∧
    (∃ build, Decides desk build (postBody.issued desk .allow) (some "_other") ⟨"view"⟩ .deny
      .resource) ∧
    post.select (some "memo") ⟨"view"⟩ = some (.allow, .wildcard) ∧
    (post.evaluate q (some "_other")).answer = none ∧
    ∃ d : Draft Probe,
      (postscript.script.run desk { session := ⟨some ⟨post, ⟨0, 0⟩⟩, .allow⟩ } :
        Run Probe Unit).workshop = { session := ⟨some d, .allow⟩ } ∧
      d.rules.select (some "_other") ⟨"view"⟩ = some (.deny, .resource) := by
  intro q
  have hm : postBody.Makes desk post := ⟨{}, _, "post", [], rfl, rfl⟩
  obtain ⟨hview, _, hdecides, hkeeps⟩ :=
    RuleSet.select_precedence (ω := Unit) post (some "_other") ⟨"view"⟩
  obtain ⟨hmemo, _⟩ := RuleSet.select_precedence (ω := Unit) post (some "memo") ⟨"view"⟩
  obtain ⟨hupdate, hsilent, _⟩ :=
    RuleSet.select_precedence (ω := Unit) post (some "_other") ⟨"update"⟩
  have hv : post.select (some "_other") ⟨"view"⟩ = some (.deny, .resource) :=
    (hview _).mpr (.resource "_other" .deny rfl rfl)
  have hn : post.Unnamed (some "memo") ⟨"view"⟩ := by
    refine ⟨fun x hx => ?_, ?_⟩
    · cases hx
    · rintro _ ⟨⟩
      rfl
  have hu : post.select (some "_other") ⟨"update"⟩ = some (.unset, .action) :=
    (hupdate _).mpr (.action .unset rfl)
  have hs : ∀ s ∈ postscript.issued desk .allow,
      ¬ s.clause.DeclaresAt desk ⟨"view"⟩ (.named "_other") ∧
        ¬ s.clause.Responds desk ⟨"view"⟩ := by
    have hi : postscript.issued desk .allow =
        [⟨.allow, .declare "edit" [.named "memo"] none⟩, ⟨.deny, .declare "edit" [] none⟩,
          ⟨.deny, .setDefault .deny⟩] := rfl
    simp [hi, Clause.DeclaresAt, Clause.Responds, ResourceKey.Covers]
  obtain ⟨build, hb⟩ := hdecides desk postBody hm
  refine ⟨rfl, hm, hv, ⟨build, hb _ _ hv⟩, ?_, ?_, ?_⟩
  · exact (hmemo _).mpr (.wildcard .allow hn rfl)
  · refine (hsilent q rfl).2.mpr fun x source hx => ?_
    obtain ⟨rfl, rfl⟩ := Prod.mk.inj (Option.some.inj (hx.symm.trans hu))
    exact Or.inl rfl
  · exact hkeeps desk _ ⟨0, 0⟩ .allow postscript "_other" .deny rfl rfl hv hs

end RolePolicy
