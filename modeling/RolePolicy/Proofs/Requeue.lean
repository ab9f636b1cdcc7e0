import RolePolicy.Proofs.QueueLoop

/-! A search that keeps no account of the roles it has asked, and asks some of them again. The
search that does keep one finds the same. -/

namespace RolePolicy.Registry

variable {χ : Type} {g : Registry χ} {r s : RuleSet χ} {names seen seen' : List String}

def queueParents (g : Registry χ) (r : RuleSet χ) (queue : List (RuleSet χ)) :
    List String → Except PolicyError (List (RuleSet χ))
  | [] => .ok queue
  | name :: names =>
    match g.find? name with
    | some s =>
      if s.name ∈ queue.map RuleSet.name then g.queueParents r queue names
      else g.queueParents r (queue ++ [s]) names
    | none =>
      match g.config.missingParent with
      | .skip => g.queueParents r queue names
      | .error => .error (.missingParent r.name name)

section

variable [Callbacks χ]

def requeue (g : Registry χ) (q : Request) : Nat → List (RuleSet χ) → Option Findings
  | _, [] => some ⟨[], .ok ⟨g.config.defaultQueryResponse, .fallback⟩⟩
  | 0, _ :: _ => none
  | n + 1, r :: rest =>
    let matched := (r.select (g.identifier q) q.action).map Prod.snd
    let result := (r.evaluate q (g.identifier q)).answer
    let step : TraceStep := ⟨r.name, matched, result⟩
    match result, matched with
    | some decision, some source => some ⟨[step], .ok ⟨decision, .rule r.name source⟩⟩
    | _, _ =>
      match g.queueParents r rest r.parents with
      | .error e => some ⟨[step], .error e⟩
      | .ok queue => (g.requeue q n queue).map (Findings.after step)

def requeueSearch (g : Registry χ) (q : Request) (pops : Nat) : Option Findings :=
  match g.roleOf? q.actor with
  | some r => g.requeue q pops [r]
  | none =>
    if g.config.actorMustPlayRole then
      some ⟨[], .error (.missingRole (q.actor.resolvedRole.getD "none"))⟩
    else some ⟨[], .ok ⟨g.config.defaultQueryResponse, .noRole⟩⟩

end

lemma queueParents_eq_push {f : Frontier χ} (names : List String)
    (h : ∀ n, n ∈ f.queued ↔ n ∈ f.queue.map RuleSet.name) :
    g.queueParents r f.queue names = (g.push r f names).map Frontier.queue := by
  induction names generalizing f with
  | nil => rfl
  | cons n names ih =>
    rw [queueParents, push]
    cases g.find? n with
    | none =>
      cases g.config.missingParent with
      | skip => exact ih h
      | error => rfl
    | some s =>
      by_cases hs : s.name ∈ f.queued
      · simp only [hs, (h s.name).mp hs, if_true, ih h]
      · have hq : s.name ∉ f.queue.map RuleSet.name := fun hq => hs ((h s.name).mpr hq)
        simp only [hs, hq, if_false]
        exact ih (f := ⟨f.queue ++ [s], s.name :: f.queued⟩) (by simp [h, or_comm])

lemma queueParents_eq (g : Registry χ) (r : RuleSet χ) (queue : List (RuleSet χ)) :
    g.queueParents r queue r.parents =
      match g.missingParent? r with
      | some parent => .error (.missingParent r.name parent)
      | none => .ok (queue ++ g.unseen (queue.map RuleSet.name) r.parents) := by
  have hm : g.missingAmong? r.parents = g.missingParent? r := rfl
  have hq := g.queueParents_eq_push (r := r) (f := ⟨queue, queue.map RuleSet.name⟩) r.parents
    fun _ => Iff.rfl
  rw [hq, push_eq, hm]
  cases g.missingParent? r <;> rfl

lemma filter_unseen (g : Registry χ) (seen later names : List String) :
    (g.unseen seen names).filter (fun s => s.name ∉ later) = g.unseen (later ++ seen) names := by
  induction names generalizing seen with
  | nil => rfl
  | cons n names ih =>
    rw [unseen, unseen]
    cases hn : g.find? n with
    | none => exact ih seen
    | some s =>
      obtain ⟨_, rfl⟩ := find?_eq_some hn
      by_cases hs : s.name ∈ seen
      · simp only [hs, if_true, List.mem_append, or_true, ih]
      · by_cases hl : s.name ∈ later
        · simp only [hs, hl, if_true, if_false, List.mem_append, true_or]
          rw [List.filter_cons_of_neg (by simp [hl]), ih]
          exact unseen_congr (by grind) names
        · simp only [hs, hl, if_false, List.mem_append, or_self]
          rw [List.filter_cons_of_pos (by simp [hl]), ih]
          exact congrArg (s :: ·) (unseen_congr (by simp [or_left_comm]) names)

variable {rest : List (RuleSet χ)}

lemma nodup_requeued (hn : ((r :: rest).map RuleSet.name).Nodup) (names : List String) :
    ((rest ++ g.unseen (rest.map RuleSet.name) names).map RuleSet.name).Nodup := by
  rw [List.map_append, List.nodup_append']
  refine ⟨(List.nodup_cons.mp hn).2, nodup_unseen .., fun n hn hn' => ?_⟩
  obtain ⟨s, hs, rfl⟩ := List.mem_map.mp hn'
  exact (mem_unseen.mp hs).2.1 hn

lemma registered_requeued (h : ∀ s ∈ r :: rest, g.find? s.name = some s) (names : List String) :
    ∀ s ∈ rest ++ g.unseen (rest.map RuleSet.name) names, g.find? s.name = some s := by
  intro s hs
  rcases List.mem_append.mp hs with hs | hs
  · exact h s (List.mem_cons_of_mem r hs)
  · exact (mem_unseen.mp hs).2.2

lemma mem_requeued {p : String} (hp : p ∈ r.parents) (hc : g.contains p) :
    p ∈ (rest ++ g.unseen (rest.map RuleSet.name) r.parents).map RuleSet.name := by
  by_cases hr : p ∈ rest.map RuleSet.name
  · simp only [List.map_append, List.mem_append]
    exact Or.inl hr
  · obtain ⟨s, hs⟩ := Option.isSome_iff_exists.mp hc
    obtain ⟨_, rfl⟩ := find?_eq_some hs
    exact List.mem_map_of_mem (List.mem_append_right rest (mem_unseen.mpr ⟨hp, hr, hs⟩))

variable [Callbacks χ] {q : Request} {v : Verdict} {asked : List String} {queue : List (RuleSet χ)}

lemma requeue_answers (h : g.Answers q r v) (n : Nat) (rest : List (RuleSet χ)) :
    g.requeue q (n + 1) (r :: rest) = some ⟨[g.stepAt q r], .ok v⟩ := by
  have ho := h.opinion
  obtain ⟨response, source, hs, _, hv⟩ := h
  rw [opinion] at ho
  simp only [requeue, stepAt, opinion, ho, hs, Option.map_some]
  rw [← hv]

lemma requeue_blocked {parent : String} (ho : g.opinion q r = none)
    (hp : g.missingParent? r = some parent) (n : Nat) (rest : List (RuleSet χ)) :
    g.requeue q (n + 1) (r :: rest) =
      some ⟨[g.stepAt q r], .error (.missingParent r.name parent)⟩ := by
  rw [opinion] at ho
  simp only [requeue, stepAt, opinion, ho, queueParents_eq, hp]

lemma requeue_passes (h : g.Passes q r) (n : Nat) (rest : List (RuleSet χ)) :
    g.requeue q (n + 1) (r :: rest) =
      (g.requeue q n (rest ++ g.unseen (rest.map RuleSet.name) r.parents)).map
        (Findings.after (g.stepAt q r)) := by
  have ho := h.silent
  rw [opinion] at ho
  simp only [requeue, stepAt, opinion, ho, queueParents_eq, h.unblocked]

/-- The queues of both searches, when one of them has asked some roles: it has the other's queue
without them, and their parents are known to both. -/
structure Follows (g : Registry χ) (q : Request) (asked seen : List String)
    (queue requeued : List (RuleSet χ)) : Prop where
  queue_eq : queue = requeued.filter fun s => s.name ∉ asked
  mem_seen : ∀ n, n ∈ seen ↔ n ∈ asked ∨ n ∈ requeued.map RuleSet.name
  nodup : (requeued.map RuleSet.name).Nodup
  registered : ∀ s ∈ requeued, g.find? s.name = some s
  passed : ∀ n ∈ asked, ∃ s, g.find? n = some s ∧ g.Passes q s ∧
    ∀ p ∈ s.parents, g.contains p → p ∈ asked ∨ p ∈ requeued.map RuleSet.name

lemma Follows.start (hr : g.find? r.name = some r) : g.Follows q [] [r.name] [r] [r] where
  queue_eq := by simp
  mem_seen := by simp
  nodup := by simp
  registered := by simpa using hr
  passed := by simp

lemma Follows.again (h : g.Follows q asked seen queue (r :: rest)) (hr : r.name ∈ asked) :
    g.Passes q r ∧
      g.Follows q asked seen queue (rest ++ g.unseen (rest.map RuleSet.name) r.parents) := by
  obtain ⟨s, hs, hp, hparents⟩ := h.passed r.name hr
  obtain rfl : r = s := Option.some.inj ((h.registered r List.mem_cons_self).symm.trans hs)
  have hu : ∀ t ∈ g.unseen (rest.map RuleSet.name) r.parents, t.name ∈ asked := by
    intro t ht
    obtain ⟨hn, hrest, hf⟩ := mem_unseen.mp ht
    rcases hparents t.name hn (by simp [contains, hf]) with ha | hm
    · exact ha
    · rcases List.mem_cons.mp hm with he | hm
      · exact he ▸ hr
      · exact (hrest hm).elim
  refine ⟨hp, ?_, fun n => ?_, nodup_requeued h.nodup _, registered_requeued h.registered _, ?_⟩
  · have hn : (g.unseen (rest.map RuleSet.name) r.parents).filter (fun t => t.name ∉ asked) = [] :=
      List.filter_eq_nil_iff.mpr fun t ht => by simpa using hu t ht
    rw [h.queue_eq, List.filter_append, hn, List.append_nil,
      List.filter_cons_of_neg (by simpa using hr)]
  · rw [h.mem_seen]
    simp only [List.map_cons, List.map_append, List.mem_cons, List.mem_append]
    constructor
    · rintro (ha | rfl | hm)
      · exact Or.inl ha
      · exact Or.inl hr
      · exact Or.inr (Or.inl hm)
    · rintro (ha | hm | hm)
      · exact Or.inl ha
      · exact Or.inr (Or.inr hm)
      · obtain ⟨t, ht, rfl⟩ := List.mem_map.mp hm
        exact Or.inl (hu t ht)
  · intro n hn
    obtain ⟨s, hs, hp, hparents⟩ := h.passed n hn
    refine ⟨s, hs, hp, fun p hm hc => ?_⟩
    rcases hparents p hm hc with ha | hm
    · exact Or.inl ha
    · rcases List.mem_cons.mp hm with rfl | hm
      · exact Or.inl hr
      · exact Or.inr (by simp only [List.map_append, List.mem_append]; exact Or.inl hm)

lemma Follows.queue_cons (h : g.Follows q asked seen queue (r :: rest)) (hr : r.name ∉ asked) :
    queue = r :: rest.filter fun s => s.name ∉ asked := by
  rw [h.queue_eq, List.filter_cons_of_pos (by simpa using hr)]

lemma Follows.first (h : g.Follows q asked seen queue (r :: rest)) (hp : g.Passes q r) :
    g.Follows q (r.name :: asked) ((g.unseen seen r.parents).map RuleSet.name ++ seen)
      ((rest.filter fun s => s.name ∉ asked) ++ g.unseen seen r.parents)
      (rest ++ g.unseen (rest.map RuleSet.name) r.parents) := by
  have hrest : r.name ∉ rest.map RuleSet.name := (List.nodup_cons.mp h.nodup).1
  have hseen : ∀ n, n ∈ seen ↔ n ∈ (r.name :: asked) ++ rest.map RuleSet.name := by
    intro n
    rw [h.mem_seen]
    simp [or_left_comm]
  have hu : g.unseen seen r.parents =
      (g.unseen (rest.map RuleSet.name) r.parents).filter fun s => s.name ∉ r.name :: asked := by
    rw [filter_unseen]
    exact unseen_congr hseen _
  refine ⟨?_, fun n => ?_, nodup_requeued h.nodup _, registered_requeued h.registered _, ?_⟩
  · rw [List.filter_append, ← hu]
    congr 1
    refine List.filter_congr fun s hs => ?_
    have hne : s.name ≠ r.name := fun he => hrest (he ▸ List.mem_map_of_mem hs)
    simp [hne]
  · have hn : n ∈ (g.unseen seen r.parents).map RuleSet.name ∨ n ∈ seen ↔
        n ∈ (g.unseen (rest.map RuleSet.name) r.parents).map RuleSet.name ∨ n ∈ seen := by
      rw [hu, hseen]
      simp only [List.mem_map, List.mem_filter, List.mem_append, decide_eq_true_eq]
      grind
    rw [List.mem_append, hn, hseen]
    simp only [List.mem_append, List.map_append]
    tauto
  · intro n hn
    rcases List.mem_cons.mp hn with rfl | hn
    · exact ⟨r, h.registered r List.mem_cons_self, hp, fun p hm hc => Or.inr (mem_requeued hm hc)⟩
    · obtain ⟨s, hs, hps, hparents⟩ := h.passed n hn
      refine ⟨s, hs, hps, fun p hm hc => ?_⟩
      rcases hparents p hm hc with ha | hm
      · exact Or.inl (List.mem_cons_of_mem _ ha)
      · rcases List.mem_cons.mp hm with rfl | hm
        · exact Or.inl List.mem_cons_self
        · exact Or.inr (by simp only [List.map_append, List.mem_append]; exact Or.inl hm)

def sameRole (a b : TraceStep) : Bool := a.role == b.role

def firstSteps (asked : List String) (steps : List TraceStep) : List TraceStep :=
  (steps.filter fun s => s.role ∉ asked).eraseDupsBy sameRole

lemma firstSteps_again (hr : r.name ∈ asked) (steps : List TraceStep) :
    firstSteps asked (g.stepAt q r :: steps) = firstSteps asked steps := by
  simp [firstSteps, stepAt, hr]

lemma firstSteps_first (hr : r.name ∉ asked) (steps : List TraceStep) :
    firstSteps asked (g.stepAt q r :: steps) =
      g.stepAt q r :: firstSteps (r.name :: asked) steps := by
  rw [firstSteps, List.filter_cons, if_pos (by simp [stepAt, hr]), List.eraseDupsBy_cons,
    List.filter_filter, firstSteps]
  congr 2
  refine List.filter_congr fun s _ => ?_
  by_cases hs : s.role = r.name <;> simp [sameRole, stepAt, hs, Ne.symm]

lemma consult_follows {n : Nat} {f : Findings}
    (h : g.Follows q asked seen queue rest) (hf : g.requeue q n rest = some f) :
    (g.consult q (g.identifier q) (g.walk queue seen)).answer =
      ⟨firstSteps asked f.steps, f.outcome⟩ := by
  induction n generalizing asked seen queue rest f with
  | zero =>
    cases rest with
    | nil =>
      obtain rfl := h.queue_eq
      cases hf
      simp [walk, consult, firstSteps]
    | cons r rest => cases hf
  | succ n ih =>
    cases rest with
    | nil =>
      obtain rfl := h.queue_eq
      cases hf
      simp [walk, consult, firstSteps]
    | cons r rest =>
      by_cases hr : r.name ∈ asked
      · obtain ⟨hp, h'⟩ := h.again hr
        rw [requeue_passes hp] at hf
        obtain ⟨f', hf', rfl⟩ := Option.map_eq_some_iff.mp hf
        rw [ih h' hf', Findings.after, firstSteps_again hr]
      · rw [h.queue_cons hr, walk]
        rcases g.consult_cases q r with ⟨v, hv⟩ | hp | ⟨ho, parent, hp⟩
        · rw [requeue_answers hv] at hf
          cases hf
          rw [consult_answers hv, firstSteps_first hr]
          rfl
        · rw [requeue_passes hp] at hf
          obtain ⟨f', hf', rfl⟩ := Option.map_eq_some_iff.mp hf
          rw [consult_passes hp, ih (h.first hp) hf', Findings.after, Findings.after,
            firstSteps_first hr]
        · rw [requeue_blocked ho hp] at hf
          cases hf
          rw [consult_blocked ho hp, firstSteps_first hr]
          rfl

theorem query_eq_requeue {pops : Nat} {f : Findings} (h : g.requeueSearch q pops = some f) :
    (g.query q).answer = f.outcome.map Verdict.decision ∧
      (g.search q).answer = ⟨f.steps.eraseDupsBy sameRole, f.outcome⟩ := by
  have hs : (g.search q).answer = ⟨f.steps.eraseDupsBy sameRole, f.outcome⟩ := by
    cases hr : g.roleOf? q.actor with
    | some r =>
      rw [requeueSearch, hr] at h
      have hf := consult_follows (.start (find?_of_roleOf? hr)) h
      rw [search_of_role hr, lineage, hf, firstSteps]
      simp
    | none =>
      rw [requeueSearch, hr] at h
      rw [search, hr]
      cases hm : g.config.actorMustPlayRole <;> simp only [hm] at h ⊢ <;> cases h <;> rfl
  exact ⟨congrArg (fun f => f.outcome.map Verdict.decision) hs, hs⟩

def forgetful : Registry Probe where
  roles := [
    { name := "a", parents := ["b", "c"] },
    { name := "b",
      defaultResponse := some (.predicate (.callback ⟨0, none, .const true, none, none⟩)) },
    { name := "c", parents := ["b"] }]

theorem forgetful_requeue :
    let q : Request := ⟨{ role := some "a" }, ⟨some "doc", "&str", none⟩, ⟨"view"⟩⟩
    let steps : List TraceStep := [⟨"a", none, none⟩, ⟨"b", some .default, none⟩,
      ⟨"c", none, none⟩, ⟨"b", some .default, none⟩]
    forgetful.requeueSearch q 4 = some ⟨steps, .ok ⟨false, .fallback⟩⟩ ∧
      (forgetful.query q).answer = .ok false ∧
      (forgetful.search q).answer = ⟨steps.take 3, .ok ⟨false, .fallback⟩⟩ := by
  intro q steps
  have h : forgetful.requeueSearch q 4 = some ⟨steps, .ok ⟨false, .fallback⟩⟩ := by rfl
  have hs : steps.eraseDupsBy sameRole = steps.take 3 := by decide
  exact ⟨h, (query_eq_requeue h).1, hs ▸ (query_eq_requeue h).2⟩

end RolePolicy.Registry
