import RolePolicy.Proofs.Indistinct

/-! What each setting of a registry does to its replies: registries with the same roles, and with
settings that differ in one only, part ways where that one is for and nowhere else. -/

namespace RolePolicy

variable {χ : Type}

namespace Reply

def failed (e : PolicyError) : Reply := ⟨.error e, .error e⟩

def given (t : Trace) : Reply := ⟨.ok t.decision, .ok t⟩

inductive Apart (b b' : Bool) : Reply → Reply → Prop
  | failed (e : PolicyError) : Apart b b' (failed e) (failed e)
  | ruled (t : Trace) (role : String) (source : MatchSource) : t.source = .rule role source →
      Apart b b' (given t) (given t)
  | unruled (t : Trace) : t.source = .noRole ∨ t.source = .fallback →
      Apart b b' (given { t with decision := b }) (given { t with decision := b' })

end Reply

lemma RuleSet.select_none_ne_resource {r : RuleSet χ} {a : Action} :
    (r.select none a).map Prod.snd ≠ some .resource := by
  intro h
  obtain ⟨⟨x, source⟩, hs, rfl⟩ := Option.map_eq_some_iff.mp h
  rw [select, Option.or_eq_some_iff] at hs
  rcases hs with hs | ⟨_, hs⟩
  · obtain ⟨rule, _, hx⟩ := Option.bind_eq_some_iff.mp hs
    cases rule with
    | everywhere => cases hx
    | byResource t => simp [ActionRule.select, ResourceRules.select] at hx
  · simp at hs

def Verdict.withDefault (b : Bool) (v : Verdict) : Verdict :=
  match v.source with
  | .rule _ _ => v
  | .noRole | .fallback => { v with decision := b }

def Findings.withDefault (b : Bool) (f : Findings) : Findings :=
  { f with outcome := f.outcome.map (Verdict.withDefault b) }

namespace Registry

variable {g g' : Registry χ} {q q' : Request} {r : RuleSet χ} {ask : Reaction χ}

def set (g : Registry χ) (s : Setting) : Registry χ := { g with config := g.config.set s }

def replyBy (g : Registry χ) (ask : Reaction χ) (q : Request) : Reply :=
  g.replyOf q (g.searchBy ask q).answer

def reply [Callbacks χ] (g : Registry χ) (q : Request) : Reply :=
  ⟨(g.query q).answer, (g.trace q).answer⟩

lemma reply_eq [Callbacks χ] (g : Registry χ) : g.reply = g.replyBy .steady := by
  funext q
  rw [replyBy, searchBy_steady]
  rfl

lemma roleOf?_set (g : Registry χ) (s : Setting) : (g.set s).roleOf? = g.roleOf? := rfl

lemma lineage_set (g : Registry χ) (s : Setting) (r : RuleSet χ) :
    (g.set s).lineage r = g.lineage r := by
  have h : (g.set s).find? = g.find? := rfl
  exact lineage_of_find?_eq h r

lemma ending_withDefault (b : Bool) {result : Option Bool} {outcome : Except PolicyError Verdict}
    (h : g.ending q r result = some outcome) :
    outcome.map (Verdict.withDefault b) = outcome := by
  obtain ⟨b', source, _, _, rfl⟩ | ⟨parent, _, rfl⟩ := ending_cases h <;> rfl

lemma consultBy_set_default (g : Registry χ) (ask : Reaction χ) (q : Request) (b : Bool)
    (roles : List (RuleSet χ)) (before : List (Call χ)) :
    ((g.set (.defaultQueryResponse b)).consultBy ask q roles before).answer =
      (g.consultBy ask q roles before).answer.withDefault b := by
  induction roles generalizing before with
  | nil => rfl
  | cons r rest ih =>
    have he' : (g.set (.defaultQueryResponse b)).ending q r = g.ending q r := rfl
    cases he : g.ending q r (r.evaluateBy ask before q (g.identifier q)).answer with
    | some outcome =>
      rw [consultBy_ended he, consultBy_ended (he' ▸ he), Findings.withDefault]
      simp only [ending_withDefault b he]
      rfl
    | none =>
      rw [consultBy_next he, consultBy_next (he' ▸ he)]
      exact congrArg (Findings.after ⟨r.name, g.matched q r, none⟩) (ih _)

lemma searchBy_set_default (g : Registry χ) (ask : Reaction χ) (q : Request) (b : Bool) :
    ((g.set (.defaultQueryResponse b)).searchBy ask q).answer =
      (g.searchBy ask q).answer.withDefault b := by
  rw [searchBy, searchBy, roleOf?_set]
  cases g.roleOf? q.actor with
  | some r =>
    simp only [lineage_set]
    exact g.consultBy_set_default ask q b _ _
  | none =>
    have hm : (g.set (.defaultQueryResponse b)).config.actorMustPlayRole =
        g.config.actorMustPlayRole := rfl
    rw [hm]
    cases g.config.actorMustPlayRole <;> rfl

lemma apart_withDefault (g : Registry χ) (q : Request) (b b' : Bool) (f : Findings) :
    Reply.Apart b b' (g.replyOf q (f.withDefault b)) (g.replyOf q (f.withDefault b')) := by
  obtain ⟨steps, outcome⟩ := f
  cases outcome with
  | error e => exact .failed e
  | ok v =>
    let t := g.traceOf q steps v
    obtain ⟨decision, source⟩ := v
    cases source with
    | rule role matched => exact .ruled t role matched rfl
    | noRole => exact .unruled t (Or.inl rfl)
    | fallback => exact .unruled t (Or.inr rfl)

section

variable (hf : g'.find? = g.find?)
  (hd : g'.config.defaultQueryResponse = g.config.defaultQueryResponse)
  (hi : g'.identifier q = g.identifier q) (hp : g'.missingParent? = g.missingParent?)

include hd hi hp

lemma consultBy_congr (roles : List (RuleSet χ)) (before : List (Call χ)) :
    g'.consultBy ask q roles before = g.consultBy ask q roles before := by
  induction roles generalizing before with
  | nil => rw [consultBy, consultBy, hd]
  | cons r rest ih =>
    have hm : g'.matched q r = g.matched q r := by rw [matched, matched, hi]
    have he : g'.ending q r = g.ending q r := by
      funext result
      simp only [ending, hm, hp]
    simp only [consultBy, hi, hm, he, ih]

include hf

lemma replyBy_congr (hm : g.roleOf? q.actor = none →
    g'.config.actorMustPlayRole = g.config.actorMustPlayRole) :
    g'.replyBy ask q = g.replyBy ask q := by
  have hs : g'.searchBy ask q = g.searchBy ask q := by
    rw [searchBy, searchBy, roleOf?, hf, ← roleOf?]
    cases hr : g.roleOf? q.actor with
    | some r =>
      simp only [lineage_of_find?_eq hf]
      exact consultBy_congr hd hi hp _ _
    | none => rw [hm hr, hd]
  have ht : g'.traceOf q = g.traceOf q := by
    funext steps v
    rw [traceOf, traceOf, hi]
  rw [replyBy, replyBy, hs, replyOf, replyOf, ht]

end

lemma ending_of_skip (hg : g.config.missingParent = .skip) {result : Option Bool}
    {outcome : Except PolicyError Verdict} (h : g.ending q r result = some outcome) :
    ∃ b source, result = some b ∧ g.matched q r = some source ∧
      outcome = .ok ⟨b, .rule r.name source⟩ := by
  rcases ending_cases h with h | ⟨parent, hp, _⟩
  · exact h
  · rw [missingParent?, hg] at hp
    cases hp

lemma exists_verdict_consultBy (hg : g.config.missingParent = .skip) (ask : Reaction χ)
    (q : Request) (roles : List (RuleSet χ)) (before : List (Call χ)) :
    ∃ v, (g.consultBy ask q roles before).answer.outcome = .ok v := by
  induction roles generalizing before with
  | nil => exact ⟨_, rfl⟩
  | cons r rest ih =>
    cases he : g.ending q r (r.evaluateBy ask before q (g.identifier q)).answer with
    | some outcome =>
      rw [consultBy_ended he]
      obtain ⟨b, source, _, _, rfl⟩ := ending_of_skip hg he
      exact ⟨_, rfl⟩
    | none =>
      rw [consultBy_next he]
      exact ih _

lemma ending_eq_or_blocked (g : Registry χ) (q : Request) (r : RuleSet χ) (result : Option Bool) :
    (g.set (.missingParent .error)).ending q r result =
      (g.set (.missingParent .skip)).ending q r result ∨
    ∃ p ∈ r.parents, g.contains p = false ∧
      (g.set (.missingParent .error)).ending q r result =
        some (.error (.missingParent r.name p)) ∧
      (g.set (.missingParent .skip)).ending q r result = none := by
  have hm : (g.set (.missingParent .error)).matched q r =
      (g.set (.missingParent .skip)).matched q r := rfl
  simp only [ending, hm]
  split
  · exact Or.inl rfl
  · cases hp : (g.set (.missingParent .error)).missingParent? r with
    | none => exact Or.inl rfl
    | some p =>
      have hf : r.parents.find? (fun n => !g.contains n) = some p := hp
      exact Or.inr ⟨p, List.mem_of_find?_eq_some hf, by simpa using List.find?_some hf, rfl, rfl⟩

lemma consultBy_eq_or_blocked (g : Registry χ) (ask : Reaction χ) (q : Request)
    (roles : List (RuleSet χ)) (before : List (Call χ)) :
    ((g.set (.missingParent .error)).consultBy ask q roles before).answer =
      ((g.set (.missingParent .skip)).consultBy ask q roles before).answer ∨
    ∃ r ∈ roles, ∃ p ∈ r.parents, g.contains p = false ∧
      ((g.set (.missingParent .error)).consultBy ask q roles before).answer.outcome =
        .error (.missingParent r.name p) ∧
      ∃ step ∈ ((g.set (.missingParent .skip)).consultBy ask q roles before).answer.steps,
        step.role = r.name ∧ step.result = none := by
  induction roles generalizing before with
  | nil => exact Or.inl rfl
  | cons r rest ih =>
    rcases g.ending_eq_or_blocked q r (r.evaluateBy ask before q (g.identifier q)).answer with
      he | ⟨p, hp, hc, hs, hl⟩
    · cases hl : (g.set (.missingParent .skip)).ending q r
        (r.evaluateBy ask before q (g.identifier q)).answer with
      | some outcome =>
        rw [consultBy_ended (he.trans hl), consultBy_ended hl]
        exact Or.inl rfl
      | none =>
        rw [consultBy_next (he.trans hl), consultBy_next hl]
        rcases ih (before ++ g.selectedCalls q r) with
          he | ⟨t, ht, p, hp, hc, ho, step, hstep, hby⟩
        · exact Or.inl (congrArg (Findings.after ⟨r.name, g.matched q r, none⟩) he)
        · exact Or.inr ⟨t, List.mem_cons_of_mem r ht, p, hp, hc, ho, step,
            List.mem_cons_of_mem _ hstep, hby⟩
    · rw [consultBy_ended hs, consultBy_next hl]
      exact Or.inr ⟨r, List.mem_cons_self, p, hp, hc, rfl, _, List.mem_cons_self, rfl, rfl⟩

inductive Hindered (g : Registry χ) : Reply → Reply → Prop
  | never (a : Reply) : Hindered g a a
  | blocked (r : RuleSet χ) (p : String) (t : Trace) (step : TraceStep) :
      g.find? r.name = some r → p ∈ r.parents → g.contains p = false → step ∈ t.steps →
      step.role = r.name → step.result = none →
      Hindered g (.failed (.missingParent r.name p)) (.given t)

structure SettingsApart (g : Registry χ) (q : Request) (alike : Request → Prop)
    (reply : Registry χ → Request → Reply) : Prop where
  default : ∀ b b', Reply.Apart b b' (reply (g.set (.defaultQueryResponse b)) q)
    (reply (g.set (.defaultQueryResponse b')) q)
  playing : (g.roleOf? q.actor).isSome →
    reply (g.set (.actorMustPlayRole true)) q = reply (g.set (.actorMustPlayRole false)) q
  stranger : g.roleOf? q.actor = none →
    reply (g.set (.actorMustPlayRole true)) q =
      .failed (.missingRole (q.actor.resolvedRole.getD "none")) ∧
    reply (g.set (.actorMustPlayRole false)) q =
      .given ⟨q.actor.resolvedRole, g.identifier q, q.action, [], g.config.defaultQueryResponse,
        .noRole⟩
  named : q.resource.name.isSome →
    reply (g.set (.allTypesAreResources true)) q = reply (g.set (.allTypesAreResources false)) q
  typed : q.resource.name = none → ∀ resource : Resource,
    resource.name = some q.resource.typeName → alike { q with resource } →
      reply (g.set (.allTypesAreResources true)) { q with resource } =
        reply (g.set (.allTypesAreResources true)) q
  untyped : q.resource.name = none → ∀ resource : Resource, resource.name = none →
    alike { q with resource } → reply (g.set (.allTypesAreResources false)) { q with resource } =
      reply (g.set (.allTypesAreResources false)) q
  unmatched : q.resource.name = none → ∀ t,
    (reply (g.set (.allTypesAreResources false)) q).trace = .ok t → t.resource = none ∧
      ∀ step ∈ t.steps, ∃ r, g.find? step.role = some r ∧
        step.matched = (r.select none q.action).map Prod.snd ∧ step.matched ≠ some .resource
  missingParent : g.Hindered (reply (g.set (.missingParent .error)) q)
    (reply (g.set (.missingParent .skip)) q)

lemma identifier_of_name {name : String} (h : q.resource.name = some name) :
    g.identifier q = some name := by
  rw [identifier, Resource.identifier, h]

lemma identifier_of_typed (hg : g.config.allTypesAreResources = true)
    (h : q.resource.name = none) : g.identifier q = some q.resource.typeName := by
  simp only [identifier, Resource.identifier, h, hg, if_true]

lemma identifier_of_untyped (hg : g.config.allTypesAreResources = false)
    (h : q.resource.name = none) : g.identifier q = none := by
  simp [identifier, Resource.identifier, h, hg]

lemma replyOf_of_error {f : Findings} {e : PolicyError} (h : f.outcome = .error e) :
    g.replyOf q f = .failed e := by
  rw [replyOf, h]
  rfl

lemma exists_verdict_of_trace_replyOf {f : Findings} {t : Trace}
    (h : (g.replyOf q f).trace = .ok t) : ∃ v, f.outcome = .ok v ∧ t = g.traceOf q f.steps v :=
  exists_of_map_eq_ok h

lemma replyOf_of_ok {f : Findings} {v : Verdict} (h : f.outcome = .ok v) :
    g.replyOf q f = .given (g.traceOf q f.steps v) := by
  rw [replyOf, h]
  rfl

lemma replyBy_of_refusal (hm : g.config.actorMustPlayRole = true) (h : g.roleOf? q.actor = none) :
    g.replyBy ask q = .failed (.missingRole (q.actor.resolvedRole.getD "none")) := by
  apply replyOf_of_error
  simp only [searchBy, h, hm, if_true, Consulted.answer_pure]

lemma replyBy_of_default (hm : g.config.actorMustPlayRole = false) (h : g.roleOf? q.actor = none) :
    g.replyBy ask q = .given ⟨q.actor.resolvedRole, g.identifier q, q.action, [],
      g.config.defaultQueryResponse, .noRole⟩ := by
  have hs : (g.searchBy ask q).answer = ⟨[], .ok ⟨g.config.defaultQueryResponse, .noRole⟩⟩ := by
    simp [searchBy, h, hm]
  rw [replyBy, hs]
  rfl

lemma Indistinct.replyBy (h : g.Indistinct q q') (hi : g.Impartial ask q q') :
    g.replyBy ask q' = g.replyBy ask q := by
  rw [Registry.replyBy, Registry.replyBy, (h.searchBy hi).answer_eq, h.replyOf_eq]

lemma hindered_replyBy (g : Registry χ) (ask : Reaction χ) (q : Request) :
    g.Hindered ((g.set (.missingParent .error)).replyBy ask q)
      ((g.set (.missingParent .skip)).replyBy ask q) := by
  rw [replyBy, replyBy]
  cases hr : g.roleOf? q.actor with
  | none =>
    have hs : (g.set (.missingParent .error)).searchBy ask q =
        (g.set (.missingParent .skip)).searchBy ask q := by
      rw [searchBy, searchBy, roleOf?_set, roleOf?_set, hr]
      rfl
    rw [hs]
    exact .never _
  | some r =>
    have hs (s : Setting) : (g.set s).searchBy ask q =
        (g.set s).consultBy ask q (g.lineage r) [] := by
      simp only [searchBy, roleOf?_set, hr, lineage_set]
    rw [hs, hs]
    rcases g.consultBy_eq_or_blocked ask q (g.lineage r) [] with
      he | ⟨t, ht, p, hp, hc, ho, step, hstep, hrole, hresult⟩
    · rw [he]
      exact .never _
    · have hskip : (g.set (.missingParent .skip)).config.missingParent = .skip := rfl
      obtain ⟨v, hv⟩ := exists_verdict_consultBy hskip ask q (g.lineage r) []
      have hf := find?_of_mem_lineage (find?_of_roleOf? hr) ht
      rw [replyOf_of_error ho, replyOf_of_ok hv]
      exact .blocked t p _ step hf hp hc hstep hrole hresult

lemma settingsApart_replyBy (g : Registry χ) (ask : Reaction χ) (q : Request) :
    g.SettingsApart q (g.Impartial ask q) fun g' q' => g'.replyBy ask q' where
  default b b' := by
    rw [replyBy, replyBy, searchBy_set_default, searchBy_set_default]
    exact g.apart_withDefault q b b' _
  playing h := by
    obtain ⟨r, hr⟩ := Option.isSome_iff_exists.mp h
    exact replyBy_congr rfl rfl rfl rfl fun hn => by cases hn.symm.trans hr
  stranger h := ⟨replyBy_of_refusal rfl h, replyBy_of_default rfl h⟩
  named h := by
    obtain ⟨name, hn⟩ := Option.isSome_iff_exists.mp h
    have hi : (g.set (.allTypesAreResources true)).identifier q =
        (g.set (.allTypesAreResources false)).identifier q := by
      rw [identifier_of_name hn, identifier_of_name hn]
    exact replyBy_congr rfl rfl hi rfl fun _ => rfl
  typed h resource hn hi := by
    have hq : (g.set (.allTypesAreResources true)).Indistinct q { q with resource } :=
      ⟨rfl, rfl, by rw [identifier_of_name hn, identifier_of_typed rfl h]⟩
    exact hq.replyBy hi
  untyped h resource hn hi := by
    have hq : (g.set (.allTypesAreResources false)).Indistinct q { q with resource } :=
      ⟨rfl, rfl, by rw [identifier_of_untyped rfl hn, identifier_of_untyped rfl h]⟩
    exact hq.replyBy hi
  unmatched h t ht := by
    have hi : (g.set (.allTypesAreResources false)).identifier q = none :=
      identifier_of_untyped rfl h
    obtain ⟨v, _, rfl⟩ := exists_verdict_of_trace_replyOf ht
    refine ⟨hi, fun step hs => ?_⟩
    obtain ⟨r, hr, hm⟩ := exists_of_mem_steps_searchBy hs
    rw [matched, hi] at hm
    exact ⟨r, hr, hm, hm ▸ RuleSet.select_none_ne_resource⟩
  missingParent := g.hindered_replyBy ask q

theorem settings_apart (g : Registry χ) (q : Request) :
    (∀ ask : Reaction χ, g.SettingsApart q (g.Impartial ask q) fun g' q' => g'.replyBy ask q') ∧
    ∀ [Callbacks χ], g.SettingsApart q (fun q' => ∀ p, g.Holds p → p.call q' = p.call q) reply := by
  refine ⟨fun ask => g.settingsApart_replyBy ask q, fun {_} => ?_⟩
  have h := g.settingsApart_replyBy .steady q
  simp only [← reply_eq] at h
  exact { h with
    typed := fun hq resource hn hp => h.typed hq resource hn (impartial_steady hp)
    untyped := fun hq resource hn hp => h.untyped hq resource hn (impartial_steady hp) }

def lodge : Registry Probe where
  roles := [
    RuleSet.declare { name := "porter", parents := ["ghost", "warden"] } ⟨"enter"⟩ (.named "gate")
      .allow,
    RuleSet.setDefault { name := "warden" }
      (.predicate (.callback ⟨0, none, .role (some "porter"), none, some false⟩))]

theorem lodge_settings_apart :
    let q : Request := ⟨{ role := some "porter" }, ⟨none, "gate", none⟩, ⟨"enter"⟩⟩
    let resource : Resource := ⟨some "gate", "&str", some []⟩
    (∀ p, lodge.Holds p → p.call { q with resource } = p.call q) ∧
      (lodge.set (.allTypesAreResources true)).reply { q with resource } =
        (lodge.set (.allTypesAreResources true)).reply q ∧
      ((lodge.set (.allTypesAreResources true)).query q).answer = .ok true ∧
      Reply.Apart false true ((lodge.set (.defaultQueryResponse false)).reply q)
        ((lodge.set (.defaultQueryResponse true)).reply q) ∧
      ((lodge.set (.defaultQueryResponse false)).query q).answer = .ok false ∧
      ((lodge.set (.defaultQueryResponse true)).query q).answer = .ok true ∧
      (lodge.set (.missingParent .error)).reply q = .failed (.missingParent "porter" "ghost") ∧
      (lodge.set (.missingParent .error)).reply q ≠ (lodge.set (.missingParent .skip)).reply q := by
  intro q resource
  have hp : ∀ p, lodge.Holds p → p.call { q with resource } = p.call q := by
    rintro p ⟨r, hr, hs⟩
    simp only [lodge, List.mem_cons, List.not_mem_nil, or_false] at hr
    rcases hr with rfl | rfl
    · rcases RuleSet.stores_of_declare hs with he | hs
      · cases he
      · exact (RuleSet.not_stores_mk hs).elim
    · rcases RuleSet.stores_of_setDefault hs with he | hs
      · cases he
        rfl
      · exact (RuleSet.not_stores_mk hs).elim
  have h := (settings_apart lodge q).2
  exact ⟨hp, h.typed rfl resource rfl hp, by decide +kernel, h.default false true,
    by decide +kernel, by decide +kernel, by decide +kernel, by decide +kernel⟩

end Registry

end RolePolicy
