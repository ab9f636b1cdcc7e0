import RolePolicy.Proofs.QueueLoop

/-! Which roles a search visits: the first ones of the lineage, so none of them twice, and all of
them if no role decides. -/

namespace RolePolicy.Registry

variable {χ : Type} {g : Registry χ} {q : Request} {r : RuleSet χ} {roles : List (RuleSet χ)}

def selectedCalls (g : Registry χ) (q : Request) (r : RuleSet χ) : List (Call χ) :=
  match r.select (g.identifier q) q.action with
  | some (.predicate p, _) => [⟨p, q⟩]
  | _ => []

lemma calls_evaluateBy (ask : Reaction χ) (before : List (Call χ)) (r : RuleSet χ) :
    (r.evaluateBy ask before q (g.identifier q)).calls = g.selectedCalls q r := by
  rw [RuleSet.evaluateBy, selectedCalls]
  cases r.select (g.identifier q) q.action with
  | none => rfl
  | some found =>
    obtain ⟨response, source⟩ := found
    cases response <;> rfl

lemma exists_matched_of_answer {ask : Reaction χ} {before : List (Call χ)} {b : Bool}
    (h : (r.evaluateBy ask before q (g.identifier q)).answer = some b) :
    ∃ source, g.matched q r = some source := by
  rw [RuleSet.evaluateBy] at h
  cases hs : r.select (g.identifier q) q.action with
  | none => simp [hs] at h
  | some found => exact ⟨found.2, by simp [matched, hs]⟩

lemma answer_eq_none_of_ending {ask : Reaction χ} {before : List (Call χ)}
    (h : g.ending q r (r.evaluateBy ask before q (g.identifier q)).answer = none) :
    (r.evaluateBy ask before q (g.identifier q)).answer = none := by
  cases ha : (r.evaluateBy ask before q (g.identifier q)).answer with
  | none => rfl
  | some b =>
    obtain ⟨source, hm⟩ := exists_matched_of_answer ha
    simp [ha, ending, hm] at h

lemma ending_cases {result : Option Bool} {outcome : Except PolicyError Verdict}
    (h : g.ending q r result = some outcome) :
    (∃ b source, result = some b ∧ g.matched q r = some source ∧
      outcome = .ok ⟨b, .rule r.name source⟩) ∨
    ∃ parent, g.missingParent? r = some parent ∧
      outcome = .error (.missingParent r.name parent) := by
  simp only [ending] at h
  split at h
  · rename_i b source hm
    exact Or.inl ⟨b, source, rfl, hm, (Option.some.inj h).symm⟩
  · obtain ⟨parent, hp, he⟩ := Option.map_eq_some_iff.mp h
    exact Or.inr ⟨parent, hp, he.symm⟩

variable {rest visited : List (RuleSet χ)} {before : List (Call χ)} {ask : Reaction χ}

lemma consultBy_ended {outcome : Except PolicyError Verdict}
    (h : g.ending q r (r.evaluateBy ask before q (g.identifier q)).answer = some outcome) :
    g.consultBy ask q (r :: rest) before =
      ⟨⟨[⟨r.name, g.matched q r, (r.evaluateBy ask before q (g.identifier q)).answer⟩], outcome⟩,
        g.selectedCalls q r⟩ := by
  rw [← calls_evaluateBy ask before r, consultBy]
  simp only [bind, h, Consulted.answer_pure, Consulted.calls_pure, List.append_nil]

lemma consultBy_next
    (h : g.ending q r (r.evaluateBy ask before q (g.identifier q)).answer = none) :
    g.consultBy ask q (r :: rest) before =
      ⟨(g.consultBy ask q rest (before ++ g.selectedCalls q r)).answer.after
          ⟨r.name, g.matched q r, none⟩,
        g.selectedCalls q r ++ (g.consultBy ask q rest (before ++ g.selectedCalls q r)).calls⟩ := by
  have hn := answer_eq_none_of_ending h
  rw [hn] at h
  rw [← calls_evaluateBy ask before r, consultBy]
  simp only [bind, hn, h, Consulted.answer_map, Consulted.calls_map]

lemma exists_of_mem_steps_consultBy {step : TraceStep}
    (hs : step ∈ (g.consultBy ask q roles before).answer.steps) :
    ∃ r ∈ roles, step.role = r.name ∧ step.matched = g.matched q r := by
  induction roles generalizing before with
  | nil => cases hs
  | cons r rest ih =>
    cases he : g.ending q r (r.evaluateBy ask before q (g.identifier q)).answer with
    | some outcome =>
      rw [consultBy_ended he] at hs
      obtain rfl := List.mem_singleton.mp hs
      exact ⟨r, List.mem_cons_self, rfl, rfl⟩
    | none =>
      rw [consultBy_next he] at hs
      rcases List.mem_cons.mp hs with rfl | hs
      · exact ⟨r, List.mem_cons_self, rfl, rfl⟩
      · obtain ⟨t, ht, hst⟩ := ih hs
        exact ⟨t, List.mem_cons_of_mem r ht, hst⟩

lemma exists_missingParent_of_consultBy {e : PolicyError}
    (h : (g.consultBy ask q roles before).answer.outcome = .error e) :
    ∃ role parent, e = .missingParent role parent := by
  induction roles generalizing before with
  | nil => cases h
  | cons r rest ih =>
    cases he : g.ending q r (r.evaluateBy ask before q (g.identifier q)).answer with
    | some outcome =>
      rw [consultBy_ended he] at h
      obtain ⟨_, _, _, _, rfl⟩ | ⟨parent, _, rfl⟩ := ending_cases he
      · cases h
      · exact ⟨r.name, parent, (Except.error.inj h).symm⟩
    | none =>
      rw [consultBy_next he] at h
      exact ih h

structure Tour (g : Registry χ) (q : Request) (roles visited : List (RuleSet χ))
    (c : Consulted χ Findings) : Prop where
  initial : visited <+: roles
  visited_eq : c.answer.visited = visited.map RuleSet.name
  calls_eq : c.calls = visited.flatMap (g.selectedCalls q)
  silent : ∀ s ∈ c.answer.steps.dropLast, s.result = none
  decided : ∀ b role source, c.answer.outcome = .ok ⟨b, .rule role source⟩ →
    c.answer.steps.getLast? = some ⟨role, some source, some b⟩
  exhausted : ∀ b, c.answer.outcome = .ok ⟨b, .fallback⟩ → visited = roles

lemma Tour.ended {result : Option Bool} {outcome : Except PolicyError Verdict}
    (h : g.ending q r result = some outcome) (rest : List (RuleSet χ)) :
    g.Tour q (r :: rest) [r]
      ⟨⟨[⟨r.name, g.matched q r, result⟩], outcome⟩, g.selectedCalls q r⟩ where
  initial := ⟨rest, rfl⟩
  visited_eq := rfl
  calls_eq := by simp
  silent := by simp
  decided b role source hb := by
    obtain ⟨b', source', rfl, hm, rfl⟩ | ⟨parent, _, rfl⟩ := ending_cases h
    · cases hb
      simp [hm]
    · cases hb
  exhausted b hb := by
    obtain ⟨_, _, _, _, rfl⟩ | ⟨parent, _, rfl⟩ := ending_cases h <;> cases hb

lemma Tour.next {c : Consulted χ Findings} (h : g.Tour q rest visited c) (r : RuleSet χ) :
    g.Tour q (r :: rest) (r :: visited)
      ⟨c.answer.after ⟨r.name, g.matched q r, none⟩, g.selectedCalls q r ++ c.calls⟩ where
  initial := List.cons_prefix_cons.mpr ⟨rfl, h.initial⟩
  visited_eq := congrArg (r.name :: ·) h.visited_eq
  calls_eq := by rw [List.flatMap_cons, h.calls_eq]
  silent s hs := by
    have hs : s ∈ (⟨r.name, g.matched q r, none⟩ :: c.answer.steps).dropLast := hs
    cases hc : c.answer.steps with
    | nil => simp [hc] at hs
    | cons t steps =>
      rw [hc, List.dropLast_cons_cons] at hs
      rcases List.mem_cons.mp hs with rfl | hs
      · rfl
      · exact h.silent s (hc ▸ hs)
  decided b role source hb := by
    have hl := h.decided b role source hb
    simp [Findings.after, List.getLast?_cons, hl]
  exhausted b hb := congrArg (r :: ·) (h.exhausted b hb)

lemma consultBy_tour (g : Registry χ) (ask : Reaction χ) (q : Request) (roles : List (RuleSet χ))
    (before : List (Call χ)) :
    ∃ visited, g.Tour q roles visited (g.consultBy ask q roles before) := by
  induction roles generalizing before with
  | nil =>
    exact ⟨[], List.prefix_refl _, rfl, rfl, by simp [consultBy], by simp [consultBy],
      fun _ _ => rfl⟩
  | cons r rest ih =>
    cases he : g.ending q r (r.evaluateBy ask before q (g.identifier q)).answer with
    | some outcome =>
      rw [consultBy_ended he]
      exact ⟨[r], .ended he rest⟩
    | none =>
      obtain ⟨visited, hv⟩ := ih (before ++ g.selectedCalls q r)
      rw [consultBy_next he]
      exact ⟨r :: visited, hv.next r⟩

def candidates (g : Registry χ) (q : Request) : List (RuleSet χ) :=
  match g.roleOf? q.actor with
  | some r => g.lineage r
  | none => []

lemma mem_candidates_iff {s : RuleSet χ} :
    s ∈ g.candidates q ↔ ∃ r, g.roleOf? q.actor = some r ∧ g.Reaches r s := by
  rw [candidates]
  cases hr : g.roleOf? q.actor with
  | none => simp
  | some r => simp [mem_lineage_iff (find?_of_roleOf? hr)]

lemma nodup_candidates (g : Registry χ) (q : Request) :
    ((g.candidates q).map RuleSet.name).Nodup := by
  rw [candidates]
  cases hr : g.roleOf? q.actor with
  | none => simp
  | some r => exact nodup_lineage (find?_of_roleOf? hr)

lemma length_candidates_le (g : Registry χ) (q : Request) : (g.candidates q).length ≤ g.size := by
  rw [candidates]
  cases hr : g.roleOf? q.actor with
  | none => simp
  | some r => exact length_lineage_le (find?_of_roleOf? hr)

lemma searchBy_tour (g : Registry χ) (ask : Reaction χ) (q : Request) :
    ∃ visited, g.Tour q (g.candidates q) visited (g.searchBy ask q) := by
  rw [searchBy, candidates]
  cases g.roleOf? q.actor with
  | some r => exact g.consultBy_tour ask q (g.lineage r) []
  | none =>
    refine ⟨[], ?_⟩
    cases g.config.actorMustPlayRole <;>
      exact ⟨List.prefix_refl _, rfl, rfl, by simp, by simp, fun _ _ => rfl⟩

lemma exists_of_mem_steps_searchBy {step : TraceStep}
    (hs : step ∈ (g.searchBy ask q).answer.steps) :
    ∃ r, g.find? step.role = some r ∧ step.matched = g.matched q r := by
  rw [searchBy] at hs
  cases hr : g.roleOf? q.actor with
  | some r =>
    rw [hr] at hs
    obtain ⟨t, ht, hrole, hmatched⟩ := exists_of_mem_steps_consultBy hs
    refine ⟨t, ?_, hmatched⟩
    rw [hrole]
    exact find?_of_mem_lineage (find?_of_roleOf? hr) ht
  | none =>
    rw [hr] at hs
    cases hm : g.config.actorMustPlayRole <;> simp [hm] at hs

lemma error_of_searchBy {e : PolicyError} (h : (g.searchBy ask q).answer.outcome = .error e) :
    (∃ role, e = .missingRole role) ∨ ∃ role parent, e = .missingParent role parent := by
  rw [searchBy] at h
  cases hr : g.roleOf? q.actor with
  | some r =>
    rw [hr] at h
    exact Or.inr (exists_missingParent_of_consultBy h)
  | none =>
    rw [hr] at h
    cases hm : g.config.actorMustPlayRole with
    | true =>
      simp only [hm, if_true, Consulted.answer_pure] at h
      exact Or.inl ⟨_, (Except.error.inj h).symm⟩
    | false => simp [hm] at h

lemma error_of_query [Callbacks χ] {e : PolicyError} (h : (g.query q).answer = .error e) :
    (∃ role, e = .missingRole role) ∨ ∃ role parent, e = .missingParent role parent := by
  have hs : (g.search q).answer.outcome.map Verdict.decision = .error e := h
  rw [← searchBy_steady] at hs
  cases ho : (g.searchBy .steady q).answer.outcome with
  | error e' =>
    rw [ho] at hs
    cases hs
    exact error_of_searchBy ho
  | ok v =>
    rw [ho] at hs
    cases hs

structure VisitsOnce (g : Registry χ) (q : Request) (f : Findings) : Prop where
  nodup : f.visited.Nodup
  reached : ∀ n ∈ f.visited, ∃ r s, g.roleOf? q.actor = some r ∧ g.Reaches r s ∧
    g.find? n = some s
  length_le : f.visited.length ≤ g.size
  complete : ∀ b, f.outcome = .ok ⟨b, .fallback⟩ → ∀ r s, g.roleOf? q.actor = some r →
    g.Reaches r s → s.name ∈ f.visited

lemma Tour.visitsOnce {visited : List (RuleSet χ)} {c : Consulted χ Findings}
    (h : g.Tour q (g.candidates q) visited c) : g.VisitsOnce q c.answer where
  nodup := by
    rw [h.visited_eq]
    exact (g.nodup_candidates q).sublist (h.initial.sublist.map RuleSet.name)
  reached n hn := by
    rw [h.visited_eq] at hn
    obtain ⟨s, hs, rfl⟩ := List.mem_map.mp hn
    obtain ⟨r, hr, hrs⟩ := mem_candidates_iff.mp (h.initial.subset hs)
    exact ⟨r, s, hr, hrs, hrs.registered (find?_of_roleOf? hr)⟩
  length_le := by
    rw [h.visited_eq, List.length_map]
    exact h.initial.length_le.trans (g.length_candidates_le q)
  complete b hb r s hr hs := by
    rw [h.visited_eq, h.exhausted b hb]
    exact List.mem_map_of_mem (mem_candidates_iff.mpr ⟨r, hr, hs⟩)

theorem search_visits_once (g : Registry χ) (q : Request) :
    (∀ ask : Reaction χ, ∃ c : Consulted χ Findings,
      (∀ turns, g.size ≤ turns → g.loopSearch ask q turns = some <$> c) ∧
        g.VisitsOnce q c.answer) ∧
    ∀ [Callbacks χ], g.VisitsOnce q (g.search q).answer ∧
      g.loopSearch .steady q g.size = some <$> g.search q := by
  refine ⟨fun ask => ?_, fun {_} => ?_⟩
  · obtain ⟨visited, hv⟩ := g.searchBy_tour ask q
    exact ⟨g.searchBy ask q, fun turns => g.loopSearch_eq ask q, hv.visitsOnce⟩
  · obtain ⟨visited, hv⟩ := g.searchBy_tour .steady q
    rw [← searchBy_steady]
    exact ⟨hv.visitsOnce, g.loopSearch_eq .steady q (Nat.le_refl _)⟩

def circle : Registry Probe where
  roles := [
    { name := "a", parents := ["a", "ghost", "b"] },
    { name := "b", parents := ["a", "c"],
      defaultResponse := some (.predicate (.callback ⟨0, none, .const true, none, none⟩)) },
    { name := "c", parents := ["b"],
      defaultResponse := some (.predicate (.callback ⟨0, none, .const true, none, none⟩)) }]

theorem circle_visits_once :
    let q : Request := ⟨{ role := some "a" }, ⟨some "doc", "&str", none⟩, ⟨"view"⟩⟩
    let ask : Reaction Probe := fun before _ => if before.isEmpty then none else some true
    ∃ c, (∀ turns, 3 ≤ turns → circle.loopSearch ask q turns = some <$> c) ∧
      circle.VisitsOnce q c.answer ∧ c.answer.visited = ["a", "b", "c"] ∧
      c.answer.outcome = .ok ⟨true, .rule "c" .default⟩ := by
  intro q ask
  obtain ⟨c, hl, hv⟩ := (search_visits_once circle q).1 ask
  have ha : c.answer = ⟨[⟨"a", none, none⟩, ⟨"b", some .default, none⟩,
      ⟨"c", some .default, some true⟩], .ok ⟨true, .rule "c" .default⟩⟩ :=
    Option.some.inj (congrArg Consulted.answer (hl 3 (Nat.le_refl 3))).symm
  exact ⟨c, hl, hv, by rw [ha]; rfl, by rw [ha]⟩

end RolePolicy.Registry
