import RolePolicy.Proofs.Explanation
import RolePolicy.Proofs.Locality
import RolePolicy.Proofs.Precedence

/-! Roles that are made of declarations, conditional ones among them, and of a literal default. What
such a role selects it also answers, so that a search ends where something is selected. -/

namespace RolePolicy

variable {χ : Type}

def Clause.Decisive : Clause χ → Prop
  | setDefault x => x = .allow ∨ x = .deny
  | respond _ _ => False
  | addParents _ | declare _ _ _ => True

def Body.Decisive : Body χ → Prop
  | done => True
  | clause c _ rest => c.Decisive ∧ rest.Decisive
  | block _ body _ rest => body.Decisive ∧ rest.Decisive

def Polarity.verdict [Callbacks χ] (p : Polarity) (q : Request) : Option (Condition χ) → Bool
  | none => p.grants
  | some (.ifHolds check) => Callbacks.holds check q == p.grants
  | some (.unlessHolds check) => Callbacks.holds check q == p.negate.grants

inductive Settles [Callbacks χ] (catalog : Catalog) (statements : List (Statement χ)) (q : Request)
    (id : Option String) : MatchSource → Bool → Prop
  | resource (i : String) (before : List (Statement χ)) (p : Polarity) (action : String)
      (keys : List ResourceKey) (condition : Option (Condition χ)) : id = some i →
      IsLast (fun s => s.clause.DeclaresAt catalog q.action (.named i)) before
        ⟨p, .declare action keys condition⟩ statements →
      Settles catalog statements q id .resource (p.verdict q condition)
  | wildcard (before : List (Statement χ)) (p : Polarity) (action : String)
      (keys : List ResourceKey) (condition : Option (Condition χ)) :
      IsLast (fun s => s.clause.DeclaresAt catalog q.action .other) before
        ⟨p, .declare action keys condition⟩ statements →
      Settles catalog statements q id .wildcard (p.verdict q condition)
  | default (b : Bool) :
      (statements.filterMap fun s => s.clause.default?).getLast? = some (.ofBool b) →
      Settles catalog statements q id .default b

def Response.Decisive : Response χ → Prop
  | allow | deny => True
  | unset => False
  | predicate (.callback _) => False
  | predicate (.condition _ _ _) => True

section

variable {catalog : Catalog} {build : Nat} {statements before : List (Statement χ)}
  {s : Statement χ} {id : Option String} {a : Action} {x : Response χ} {source : MatchSource}
  {q : Request}

lemma Body.Decisive.reached {body : Body χ} (h : body.Decisive) (catalog : Catalog)
    (p : Polarity) : ∀ s ∈ body.reached catalog p, s.clause.Decisive := by
  induction body generalizing p with
  | done => simp [Body.reached]
  | clause c caught rest ih =>
    refine List.forall_mem_cons.mpr ⟨h.1, ?_⟩
    split
    · simp
    · exact ih h.2 p
  | block q body caught rest ihb ihr =>
    refine List.forall_mem_append.mpr ⟨ihb h.1 q, ?_⟩
    split
    · simp
    · exact ihr h.2 p

lemma Body.Decisive.issued {body : Body χ} (h : body.Decisive) :
    ∀ s ∈ body.issued catalog .allow, s.clause.Decisive :=
  fun s hs => h.reached catalog .allow s (List.mem_of_mem_filter hs)

lemma Clause.Decisive.not_responds {c : Clause χ} (h : c.Decisive) : ¬ c.Responds catalog a := by
  cases c with
  | respond => exact h.elim
  | setDefault | addParents | declare => exact id

lemma IsLast.weaken {α : Type} {P Q : α → Prop} {before l : List α} {y : α}
    (h : IsLast P before y l) (hy : Q y) (hq : ∀ z, Q z → P z) : IsLast Q before y l := by
  obtain ⟨after, rfl, _, hn⟩ := h
  exact ⟨after, rfl, hy, fun z hz hqz => hn z hz (hq z hqz)⟩

lemma Statement.declared_cases (h : s.declared build before = some x) :
    ∃ p action keys condition, s = ⟨p, .declare action keys condition⟩ ∧
      x.Decisive ∧ ∀ [Callbacks χ] (q : Request),
        (x.evaluate q).answer = some (p.verdict q condition) := by
  obtain ⟨p, c⟩ := s
  cases c with
  | setDefault | addParents | respond => cases h
  | declare action keys condition =>
    refine ⟨p, action, keys, condition, rfl, ?_⟩
    rcases condition with _ | check | check
    · cases h
      cases p <;> exact ⟨trivial, fun _ => rfl⟩
    · cases h
      exact ⟨trivial, fun _ => rfl⟩
    · cases h
      exact ⟨trivial, fun _ => rfl⟩

lemma exists_ofBool_of_default (hs : ∀ s ∈ statements, s.clause.Decisive)
    (h : (statements.filterMap fun s => s.clause.default?).getLast? = some x) :
    ∃ b, x = .ofBool b := by
  obtain ⟨s, hm, hd⟩ := List.mem_filterMap.mp (List.mem_of_getLast? h)
  have hc := hs s hm
  obtain ⟨p, c⟩ := s
  cases c with
  | addParents | declare | respond => cases hd
  | setDefault y =>
    obtain rfl := Option.some.inj hd
    rcases hc with rfl | rfl
    · exact ⟨true, rfl⟩
    · exact ⟨false, rfl⟩

lemma Decides.settles (h : Decides catalog build statements id a x source)
    (hs : ∀ s ∈ statements, s.clause.Decisive) :
    x.Decisive ∧ ∀ [Callbacks χ] (q : Request), q.action = a →
      ∃ b, (x.evaluate q).answer = some b ∧ Settles catalog statements q id source b := by
  cases h with
  | action before s x hl hr =>
    exact ((hs s hl.mem).not_responds (Clause.responds_iff.mpr ⟨x, hr⟩)).elim
  | resource i before s x hi hl hd hx =>
    obtain ⟨p, action, keys, condition, rfl, hx, ha⟩ := Statement.declared_cases hx
    refine ⟨hx, fun q hq => ⟨_, ha q, ?_⟩⟩
    subst hq
    exact .resource i before p action keys condition hi (hl.weaken hd fun _ => Or.inl)
  | wildcard before s x hl hd hx =>
    obtain ⟨p, action, keys, condition, rfl, hx, ha⟩ := Statement.declared_cases hx
    refine ⟨hx, fun q hq => ⟨_, ha q, ?_⟩⟩
    subst hq
    exact .wildcard before p action keys condition (hl.weaken hd fun _ => Or.inl)
  | default x hx =>
    obtain ⟨b, rfl⟩ := exists_ofBool_of_default hs hx
    cases b <;> exact ⟨trivial, fun q _ => ⟨_, rfl, .default _ hx⟩⟩

end

def RuleSet.Decisive (r : RuleSet χ) : Prop :=
  ∀ id a x source, r.select id a = some (x, source) → x.Decisive

lemma Body.Makes.decisive {catalog : Catalog} {body : Body χ} {r : RuleSet χ}
    (h : body.Makes catalog r) (hb : body.Decisive) : r.Decisive := by
  intro id a x source hx
  obtain ⟨build, hd⟩ := h.decides id a
  exact ((hd x source hx).settles hb.issued).1

def Reaction.Settled (ask : Reaction χ) : Prop :=
  ∀ before origin check expected q, (ask before ⟨.condition origin check expected, q⟩).isSome

lemma Reaction.settled_steady [Callbacks χ] : Reaction.Settled (χ := χ) .steady :=
  fun _ _ _ _ _ => rfl

lemma Response.Decisive.isSome_evaluateBy {x : Response χ} (h : x.Decisive) {ask : Reaction χ}
    (ha : ask.Settled) (before : List (Call χ)) (q : Request) :
    (x.evaluateBy ask before q).answer.isSome := by
  cases x with
  | allow | deny => rfl
  | unset => exact h.elim
  | predicate p =>
    cases p with
    | callback c => exact h.elim
    | condition origin check expected => exact ha before origin check expected q

def Findings.EndsAtMatch (f : Findings) : Prop :=
  ∀ past step rest source, f.steps = past ++ step :: rest → step.matched = some source →
    rest = [] ∧ ∃ b, step.result = some b ∧ f.outcome = .ok ⟨b, .rule step.role source⟩

lemma Findings.EndsAtMatch.after {f : Findings} (h : f.EndsAtMatch) {step : TraceStep}
    (hs : step.matched = none) : (f.after step).EndsAtMatch := by
  intro past s rest source he hm
  cases past with
  | nil =>
    obtain ⟨rfl, _⟩ := List.cons.inj he
    cases hs.symm.trans hm
  | cons t past => exact h past s rest source (List.cons.inj he).2 hm

lemma Findings.endsAtMatch_nil {outcome : Except PolicyError Verdict} :
    Findings.EndsAtMatch ⟨[], outcome⟩ := by
  intro past step rest source he
  simp at he

namespace Registry

variable {g : Registry χ} {q : Request} {ask : Reaction χ} {roles : List (RuleSet χ)}

lemma endsAtMatch_consultBy (hr : ∀ r ∈ roles, r.Decisive) (ha : ask.Settled)
    (before : List (Call χ)) : (g.consultBy ask q roles before).answer.EndsAtMatch := by
  induction roles generalizing before with
  | nil => exact Findings.endsAtMatch_nil
  | cons r roles ih =>
    obtain ⟨hr, hroles⟩ := List.forall_mem_cons.mp hr
    cases hm : r.select (g.identifier q) q.action with
    | none =>
      have hm' : g.matched q r = none := by rw [matched, hm, Option.map_none]
      cases he : g.ending q r (r.evaluateBy ask before q (g.identifier q)).answer with
      | none =>
        rw [consultBy_next he]
        exact (ih hroles _).after hm'
      | some outcome =>
        rw [consultBy_ended he]
        exact Findings.endsAtMatch_nil.after (f := ⟨[], outcome⟩) hm'
    | some found =>
      obtain ⟨x, source⟩ := found
      have hm' : g.matched q r = some source := by rw [matched, hm, Option.map_some]
      have hx := (hr _ _ x source hm).isSome_evaluateBy ha before q
      obtain ⟨b, hb⟩ := Option.isSome_iff_exists.mp hx
      have he : g.ending q r (r.evaluateBy ask before q (g.identifier q)).answer =
          some (.ok ⟨b, .rule r.name source⟩) := by
        rw [RuleSet.evaluateBy, hm]
        simp only [hb, ending, hm']
      have hb' : (r.evaluateBy ask before q (g.identifier q)).answer = some b := by
        rw [RuleSet.evaluateBy, hm]
        exact hb
      rw [consultBy_ended he, hm', hb']
      intro past step rest source' hs hsource
      obtain ⟨rfl, hs⟩ | ⟨_, _, hs⟩ := List.cons_eq_append_iff.mp hs
      · obtain ⟨rfl, rfl⟩ := List.cons.inj hs
        obtain rfl := Option.some.inj hsource
        exact ⟨rfl, b, rfl, rfl⟩
      · simp at hs

lemma endsAtMatch_searchBy (hr : ∀ r ∈ g.roles, r.Decisive) (ha : ask.Settled) :
    (g.searchBy ask q).answer.EndsAtMatch := by
  rw [searchBy]
  cases hrole : g.roleOf? q.actor with
  | some r =>
    have hl : ∀ s ∈ g.lineage r, s.Decisive := fun s hs =>
      hr s (find?_eq_some (find?_of_mem_lineage (find?_of_roleOf? hrole) hs)).1
    exact endsAtMatch_consultBy hl ha []
  | none => cases g.config.actorMustPlayRole <;> exact Findings.endsAtMatch_nil

end Registry

theorem decisive_roles [Callbacks χ] (q : Request) :
    (∀ (catalog : Catalog) (body : Body χ) (r : RuleSet χ) (id : Option String),
      body.Decisive → body.Makes catalog r →
      ((r.evaluate q id).answer = none ↔ r.select id q.action = none) ∧
      ∀ x source, r.select id q.action = some (x, source) → ∃ b,
        (r.evaluate q id).answer = some b ∧
        Settles catalog (body.issued catalog .allow) q id source b) ∧
    (∀ (p : Polarity) (check : χ),
      p.verdict q (some (.ifHolds check)) = p.negate.verdict q (some (.unlessHolds check))) ∧
    ∀ g : Registry χ,
      (∀ r ∈ g.roles, ∃ (catalog : Catalog) (body : Body χ), body.Decisive ∧
        body.Makes catalog r) →
      (∀ t past step rest source, (g.trace q).answer = .ok t → t.steps = past ++ step :: rest →
        step.matched = some source →
        rest = [] ∧ step.result = some t.decision ∧ t.source = .rule step.role source) ∧
      ∀ (ask : Reaction χ) (c : Consulted χ Findings), ask.Settled → g.LoopFinds ask q c →
        c.answer.EndsAtMatch := by
  refine ⟨fun catalog body r id hb hm => ?_, fun p check => ?_, fun g hg => ?_⟩
  · obtain ⟨build, hd⟩ := hm.decides id q.action
    have hs (x : Response χ) (source : MatchSource) (hx : r.select id q.action = some (x, source)) :
        ∃ b, (r.evaluate q id).answer = some b ∧
          Settles catalog (body.issued catalog .allow) q id source b := by
      rw [RuleSet.evaluate_of_select hx]
      exact ((hd x source hx).settles hb.issued).2 q rfl
    refine ⟨?_, hs⟩
    cases hx : r.select id q.action with
    | none => simp [RuleSet.evaluate, hx]
    | some found =>
      obtain ⟨b, ha, _⟩ := hs found.1 found.2 hx
      simp [ha]
  · cases p <;> rfl
  · have hr : ∀ r ∈ g.roles, r.Decisive := fun r hr => by
      obtain ⟨catalog, body, hb, hm⟩ := hg r hr
      exact hm.decisive hb
    refine ⟨fun t past step rest source ht hsteps hmatched => ?_, fun ask c ha hc => ?_⟩
    · rw [Registry.answer_trace, ← g.searchBy_steady q] at ht
      obtain ⟨v, hv, rfl⟩ := exists_of_map_eq_ok ht
      obtain ⟨hrest, b, hb, ho⟩ := Registry.endsAtMatch_searchBy (q := q) hr
        Reaction.settled_steady past step rest source hsteps hmatched
      rw [ho] at hv
      cases hv
      exact ⟨hrest, hb, rfl⟩
    · obtain rfl := hc.eq_searchBy
      exact Registry.endsAtMatch_searchBy hr ha

def gateBody : Body Probe :=
  .clause (.addParents ["owner"]) false
    (.block .deny
      (.clause (.declare "view" [.named "memo"]
        (some (.unlessHolds ⟨0, none, .role (some "clerk"), none, none⟩))) false
        (.block .allow
          (.clause (.declare "update" [] (some (.ifHolds ⟨1, none, .const false, none, none⟩)))
            false .done) false .done)) false .done)

def ownerBody : Body Probe := .clause (.setDefault .allow) false .done

def gate : RuleSet Probe :=
  (({ name := "gate", parents := ["owner"] } : RuleSet Probe).declare ⟨"view"⟩ (.named "memo")
    (.predicate (.condition ⟨0, 0⟩ ⟨0, none, .role (some "clerk"), none, none⟩ true))).declare
    ⟨"update"⟩ .other (.predicate (.condition ⟨0, 1⟩ ⟨1, none, .const false, none, none⟩ true))

def lodge : Registry Probe where
  roles := [gate, { name := "owner", defaultResponse := some .allow }]

theorem lodge_decisive_roles :
    let q : Request := ⟨{ role := some "gate" }, ⟨some "memo", "&str", none⟩, ⟨"update"⟩⟩
    let t : Trace := ⟨some "gate", some "memo", ⟨"update"⟩,
      [⟨"gate", some .wildcard, some false⟩], false, .rule "gate" .wildcard⟩
    gateBody.Decisive ∧ gateBody.Makes desk gate ∧
    (gate.evaluate q (some "memo")).answer ≠ none ∧
    Settles desk (gateBody.issued desk .allow) q (some "memo") .wildcard false ∧
    (∀ r ∈ lodge.roles, ∃ (catalog : Catalog) (body : Body Probe), body.Decisive ∧
      body.Makes catalog r) ∧
    (lodge.trace q).answer = .ok t ∧ t.source = .rule "gate" .wildcard ∧
    (lodge.searchBy (fun before _ => some before.isEmpty) q).answer.EndsAtMatch := by
  intro q t
  obtain ⟨hroles, _, hregistry⟩ := decisive_roles (χ := Probe) q
  have hd : gateBody.Decisive := by simp [gateBody, Body.Decisive, Clause.Decisive]
  have hm : gateBody.Makes desk gate := ⟨{}, _, "gate", [], rfl, rfl⟩
  have ho : ownerBody.Makes desk { name := "owner", defaultResponse := some .allow } :=
    ⟨{}, _, "owner", [], rfl, rfl⟩
  have hl : ∀ r ∈ lodge.roles, ∃ (catalog : Catalog) (body : Body Probe), body.Decisive ∧
      body.Makes catalog r := by
    intro r hr
    simp only [lodge, List.mem_cons, List.not_mem_nil, or_false] at hr
    rcases hr with rfl | rfl
    · exact ⟨desk, gateBody, hd, hm⟩
    · exact ⟨desk, ownerBody, ⟨Or.inl rfl, trivial⟩, ho⟩
  have ht : (lodge.trace q).answer = .ok t := by decide +kernel
  obtain ⟨hnone, hsettles⟩ := hroles desk gateBody gate (some "memo") hd hm
  have hg : gate.select (some "memo") ⟨"update"⟩ = some (.predicate (.condition ⟨0, 1⟩
      ⟨1, none, .const false, none, none⟩ true), .wildcard) := rfl
  obtain ⟨b, hb, hs⟩ := hsettles _ .wildcard hg
  have hf : (gate.evaluate q (some "memo")).answer = some false := by decide +kernel
  obtain rfl := Option.some.inj (hf.symm.trans hb)
  obtain ⟨htrace, hloop⟩ := hregistry lodge hl
  refine ⟨hd, hm, fun hn => ?_, hs, hl, ht, ?_, ?_⟩
  · cases hg.symm.trans (hnone.mp hn)
  · exact (htrace t [] _ [] .wildcard ht rfl rfl).2.2
  · exact hloop _ _ (fun _ _ _ _ _ => rfl) (lodge.loopFinds_searchBy _ q)

end RolePolicy
