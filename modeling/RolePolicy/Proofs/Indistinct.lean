import RolePolicy.Check
import RolePolicy.Proofs.Explanation
import RolePolicy.Proofs.Locality
import RolePolicy.Proofs.Provenance

/-! A search knows an actor by the role and a resource by the identifier. Requests alike in these
are answered alike, unless a predicate that some role holds tells them apart. -/

namespace RolePolicy

variable {χ : Type}

def RuleSet.Stores (r : RuleSet χ) (x : Response χ) : Prop :=
  (∃ a, r.rule? a = some (.everywhere x)) ∨ (∃ a k, r.responseFor? a k = some x) ∨
    r.defaultResponse = some x

lemma RuleSet.stores_of_select {r : RuleSet χ} {id : Option String} {a : Action} {x : Response χ}
    {source : MatchSource} (h : r.select id a = some (x, source)) : r.Stores x := by
  rcases RuleSet.select_cases h with hx | ⟨k, _, hx⟩ | hx
  · exact Or.inl ⟨a, hx⟩
  · exact Or.inr (Or.inl ⟨a, k, hx⟩)
  · exact Or.inr (Or.inr hx)

lemma RuleSet.not_stores_mk {name : String} {parents : List String} {x : Response χ} :
    ¬ ({ name, parents } : RuleSet χ).Stores x := by
  simp [Stores, responseFor?, rule?]

lemma RuleSet.stores_of_declare {r : RuleSet χ} {a : Action} {k : ResourceKey} {x y : Response χ}
    (h : (r.declare a k x).Stores y) : y = x ∨ r.Stores y := by
  rcases h with ⟨b, hb⟩ | ⟨b, l, hl⟩ | hd
  · rw [rule?_declare] at hb
    split at hb
    · cases hr : r.rule? a with
      | none => simp [hr, ruleWith] at hb
      | some rule => cases rule <;> simp [hr, ruleWith] at hb
    · exact Or.inr (Or.inl ⟨b, hb⟩)
  · by_cases hab : a = b
    · subst hab
      rw [responseFor?_declare] at hl
      split at hl
      · exact Or.inl (Option.some.inj hl).symm
      · exact Or.inr (Or.inr (Or.inl ⟨a, l, hl⟩))
    · rw [responseFor?, rule?_declare, if_neg hab] at hl
      exact Or.inr (Or.inr (Or.inl ⟨b, l, hl⟩))
  · exact Or.inr (Or.inr (Or.inr hd))

lemma RuleSet.stores_of_setDefault {r : RuleSet χ} {x y : Response χ}
    (h : (r.setDefault x).Stores y) : y = x ∨ r.Stores y := by
  rcases h with ha | hk | hd
  · exact Or.inr (Or.inl ha)
  · exact Or.inr (Or.inr (Or.inl hk))
  · exact Or.inl (Option.some.inj hd).symm

structure Reply where
  decision : Except PolicyError Bool
  trace : Except PolicyError Trace
deriving DecidableEq

namespace Registry

variable {g : Registry χ} {q q' : Request} {r : RuleSet χ} {ask : Reaction χ}
  {past : List (Predicate χ)} {p : Predicate χ}

def replyOf (g : Registry χ) (q : Request) (f : Findings) : Reply :=
  ⟨f.outcome.map Verdict.decision, f.outcome.map (g.traceOf q f.steps)⟩

def Holds (g : Registry χ) (p : Predicate χ) : Prop := ∃ r ∈ g.roles, r.Stores (.predicate p)

structure Indistinct (g : Registry χ) (q q' : Request) : Prop where
  action_eq : q'.action = q.action
  role_eq : q'.actor.resolvedRole = q.actor.resolvedRole
  identifier_eq : g.identifier q' = g.identifier q

def Impartial (g : Registry χ) (ask : Reaction χ) (q q' : Request) : Prop :=
  ∀ past p, (∀ s ∈ p :: past, g.Holds s) →
    ask (past.map (Call.mk · q')) ⟨p, q'⟩ = ask (past.map (Call.mk · q)) ⟨p, q⟩

lemma impartial_steady [Callbacks χ] (h : ∀ p, g.Holds p → p.call q' = p.call q) :
    g.Impartial .steady q q' :=
  fun _ p hp => h p (hp p List.mem_cons_self)

def selectedPredicates (g : Registry χ) (q : Request) (r : RuleSet χ) : List (Predicate χ) :=
  (g.selectedCalls q r).map Call.predicate

lemma selectedCalls_eq_map (g : Registry χ) (q : Request) (r : RuleSet χ) :
    g.selectedCalls q r = (g.selectedPredicates q r).map (Call.mk · q) := by
  rw [selectedPredicates, selectedCalls]
  split <;> rfl

lemma holds_of_mem_selectedPredicates (hr : r ∈ g.roles) (hp : p ∈ g.selectedPredicates q r) :
    g.Holds p := by
  rw [selectedPredicates, selectedCalls] at hp
  split at hp
  · rename_i s source hs
    obtain rfl : p = s := by simpa using hp
    exact ⟨r, hr, RuleSet.stores_of_select hs⟩
  · cases hp

section

variable (h : g.Indistinct q q')
include h

lemma Indistinct.select_eq (r : RuleSet χ) :
    r.select (g.identifier q') q'.action = r.select (g.identifier q) q.action := by
  rw [h.action_eq, h.identifier_eq]

lemma Indistinct.matched_eq (r : RuleSet χ) : g.matched q' r = g.matched q r := by
  rw [matched, matched, h.select_eq r]

lemma Indistinct.selectedCalls_eq (r : RuleSet χ) :
    g.selectedCalls q' r = (g.selectedPredicates q r).map (Call.mk · q') := by
  have hp : g.selectedPredicates q' r = g.selectedPredicates q r := by
    simp only [selectedPredicates, selectedCalls, h.select_eq r]
    split <;> rfl
  rw [selectedCalls_eq_map, hp]

lemma Indistinct.answer_evaluateBy (hi : g.Impartial ask q q') (hr : r ∈ g.roles)
    (hp : ∀ p ∈ past, g.Holds p) :
    (r.evaluateBy ask (past.map (Call.mk · q')) q' (g.identifier q')).answer =
      (r.evaluateBy ask (past.map (Call.mk · q)) q (g.identifier q)).answer := by
  rw [RuleSet.evaluateBy, RuleSet.evaluateBy, h.select_eq r]
  cases hs : r.select (g.identifier q) q.action with
  | none => rfl
  | some found =>
    obtain ⟨x, source⟩ := found
    cases x with
    | allow | deny | unset => rfl
    | predicate p =>
      have hg : g.Holds p := ⟨r, hr, RuleSet.stores_of_select hs⟩
      apply hi past p
      exact List.forall_mem_cons.mpr ⟨hg, hp⟩

lemma Indistinct.ending_evaluateBy (hi : g.Impartial ask q q') (hr : r ∈ g.roles)
    (hp : ∀ p ∈ past, g.Holds p) :
    g.ending q' r (r.evaluateBy ask (past.map (Call.mk · q')) q' (g.identifier q')).answer =
      g.ending q r (r.evaluateBy ask (past.map (Call.mk · q)) q (g.identifier q)).answer := by
  rw [h.answer_evaluateBy hi hr hp]
  simp only [ending, h.matched_eq]

structure Parallel (g : Registry χ) (q q' : Request) (c c' : Consulted χ Findings) : Prop where
  answer_eq : c'.answer = c.answer
  calls_eq : ∃ called : List (Predicate χ), (∀ p ∈ called, g.Holds p) ∧
    c.calls = called.map (Call.mk · q) ∧ c'.calls = called.map (Call.mk · q')

lemma Indistinct.consultBy (hi : g.Impartial ask q q') {roles : List (RuleSet χ)}
    (hr : ∀ r ∈ roles, r ∈ g.roles) (hp : ∀ p ∈ past, g.Holds p) :
    g.Parallel q q' (g.consultBy ask q roles (past.map (Call.mk · q)))
      (g.consultBy ask q' roles (past.map (Call.mk · q'))) := by
  induction roles generalizing past with
  | nil => exact ⟨rfl, [], by simp, rfl, rfl⟩
  | cons r roles ih =>
    -- so far both have called the same predicates, which impartial ones do not tell apart
    obtain ⟨hr, hroles⟩ := List.forall_mem_cons.mp hr
    have hsel : ∀ p ∈ g.selectedPredicates q r, g.Holds p := fun p =>
      holds_of_mem_selectedPredicates hr
    have he' := h.ending_evaluateBy hi hr hp
    cases he : g.ending q r
      (r.evaluateBy ask (past.map (Call.mk · q)) q (g.identifier q)).answer with
    | some outcome =>
      rw [consultBy_ended he, consultBy_ended (he'.trans he), h.matched_eq,
        h.answer_evaluateBy hi hr hp]
      exact ⟨rfl, g.selectedPredicates q r, hsel, selectedCalls_eq_map g q r, h.selectedCalls_eq r⟩
    | none =>
      have hrest := ih hroles (List.forall_mem_append.mpr ⟨hp, hsel⟩)
      rw [List.map_append, List.map_append] at hrest
      obtain ⟨hans, called, hc, hcalls, hcalls'⟩ := hrest
      rw [consultBy_next he, consultBy_next (he'.trans he), h.matched_eq, h.selectedCalls_eq,
        selectedCalls_eq_map]
      refine ⟨congrArg (Findings.after _) hans, g.selectedPredicates q r ++ called,
        List.forall_mem_append.mpr ⟨hsel, hc⟩, ?_, ?_⟩
      · rw [List.map_append, hcalls]
      · rw [List.map_append, hcalls']

lemma Indistinct.roleOf?_eq : g.roleOf? q'.actor = g.roleOf? q.actor := by
  rw [roleOf?, roleOf?, h.role_eq]

lemma Indistinct.searchBy (hi : g.Impartial ask q q') :
    g.Parallel q q' (g.searchBy ask q) (g.searchBy ask q') := by
  rw [Registry.searchBy, Registry.searchBy, h.roleOf?_eq, h.role_eq]
  cases hr : g.roleOf? q.actor with
  | none => cases g.config.actorMustPlayRole <;> exact ⟨rfl, [], by simp, rfl, rfl⟩
  | some r =>
    have hl : ∀ s ∈ g.lineage r, s ∈ g.roles := fun s hs =>
      (find?_eq_some (find?_of_mem_lineage (find?_of_roleOf? hr) hs)).1
    exact h.consultBy hi hl (List.forall_mem_nil g.Holds)

lemma Indistinct.replyOf_eq (f : Findings) : g.replyOf q' f = g.replyOf q f := by
  have ht : g.traceOf q' f.steps = g.traceOf q f.steps := by
    funext v
    rw [traceOf, traceOf, h.role_eq, h.identifier_eq, h.action_eq]
  rw [replyOf, replyOf, ht]

lemma Indistinct.search [Callbacks χ] (hp : ∀ p, g.Holds p → p.call q' = p.call q) :
    g.Parallel q q' (g.search q) (g.search q') := by
  rw [← searchBy_steady, ← searchBy_steady]
  exact h.searchBy (impartial_steady hp)

lemma Indistinct.query_eq_and_trace_eq [Callbacks χ] (hp : ∀ p, ¬ g.Holds p) :
    g.query q' = g.query q ∧ g.trace q' = g.trace q := by
  obtain ⟨hans, called, hc, hcalls, hcalls'⟩ := h.search fun p hg => (hp p hg).elim
  obtain rfl : called = [] := List.eq_nil_iff_forall_not_mem.mpr fun p hm => hp p (hc p hm)
  have hn : (g.search q').calls = (g.search q).calls := hcalls'.trans hcalls.symm
  have hs : g.search q' = g.search q :=
    calc g.search q' = ⟨(g.search q').answer, (g.search q').calls⟩ := rfl
      _ = g.search q := by rw [hans, hn]
  refine ⟨by rw [query, query, hs], ?_⟩
  rw [trace, trace, hs, h.role_eq, h.identifier_eq, h.action_eq]

end

theorem reply_indistinct (g : Registry χ) :
    (∀ q q', g.Indistinct q q' →
      (∀ ask, g.Impartial ask q q' → ∃ c c', g.LoopFinds ask q c ∧ g.LoopFinds ask q' c' ∧
        g.replyOf q' c'.answer = g.replyOf q c.answer) ∧
      ∀ [Callbacks χ], (∀ p, g.Holds p → p.call q' = p.call q) →
        (g.query q').answer = (g.query q).answer ∧ (g.trace q').answer = (g.trace q).answer) ∧
    ((∀ p, ¬ g.Holds p) → ∀ [Callbacks χ],
      (∀ q q', g.Indistinct q q' → g.query q' = g.query q ∧ g.trace q' = g.trace q) ∧
      (g.config.allTypesAreResources = true → ∀ role name other typeName x y u v a,
        g.trace ⟨⟨none, some role, y⟩, ⟨none, name, v⟩, a⟩ =
          g.trace ⟨⟨some role, other, x⟩, ⟨some name, typeName, u⟩, a⟩)) := by
  refine ⟨fun q q' h => ⟨fun ask hi => ?_, fun {_} hp => ?_⟩, fun hp {_} => ⟨?_, ?_⟩⟩
  · refine ⟨_, _, g.loopFinds_searchBy ask q, g.loopFinds_searchBy ask q', ?_⟩
    rw [(h.searchBy hi).answer_eq, h.replyOf_eq]
  · have hr : g.replyOf q' (g.search q').answer = g.replyOf q (g.search q).answer := by
      rw [(h.search hp).answer_eq, h.replyOf_eq]
    exact ⟨congrArg Reply.decision hr, congrArg Reply.trace hr⟩
  · intro q q' h
    exact h.query_eq_and_trace_eq hp
  · intro hg role name other typeName x y u v a
    have h : g.Indistinct ⟨⟨some role, other, x⟩, ⟨some name, typeName, u⟩, a⟩
        ⟨⟨none, some role, y⟩, ⟨none, name, v⟩, a⟩ :=
      ⟨rfl, rfl, by simp only [identifier, Resource.identifier, hg, if_true]⟩
    exact (h.query_eq_and_trace_eq hp).2

def window : Registry Probe where
  config := { allTypesAreResources := true }
  roles := [
    RuleSet.declare { name := "clerk", parents := ["auditor"] } ⟨"view"⟩ (.named "invoice")
      (.predicate (.callback ⟨0, none, .role (some "clerk"), none, some false⟩)),
    RuleSet.setDefault { name := "auditor" }
      (.predicate (.condition ⟨0, 0⟩ ⟨1, none, .action "view", none, none⟩ true))]

theorem window_reply_indistinct :
    let q : Request := ⟨⟨some "clerk", none, none⟩, ⟨some "invoice", "&str", none⟩, ⟨"view"⟩⟩
    let q' : Request := ⟨⟨none, some "clerk", some []⟩, ⟨none, "invoice", some []⟩, ⟨"view"⟩⟩
    let plain : Registry Probe :=
      ⟨{ allTypesAreResources := true }, [RuleSet.setDefault { name := "clerk" } .deny]⟩
    window.Indistinct q q' ∧
      ((∀ p, window.Holds p → p.call q' = p.call q) ∧ (window.trace q).answer.map Trace.visited =
        .ok ["clerk", "auditor"] ∧ (window.trace q').answer = (window.trace q).answer) ∧
      (window.Impartial hesitant q q' ∧ ∃ c c', window.LoopFinds hesitant q c ∧
        window.LoopFinds hesitant q' c' ∧
        window.replyOf q' c'.answer = window.replyOf q c.answer) ∧
      (∀ p, ¬ plain.Holds p) ∧ plain.Indistinct q q' ∧ plain.trace q' = plain.trace q := by
  intro q q' plain
  have h : window.Indistinct q q' := ⟨rfl, rfl, rfl⟩
  have hp : ∀ p, window.Holds p → p.call q' = p.call q := by
    rintro p ⟨r, hr, hs⟩
    simp only [window, List.mem_cons, List.not_mem_nil, or_false] at hr
    rcases hr with rfl | rfl
    · rcases RuleSet.stores_of_declare hs with he | hs
      · cases he
        rfl
      · exact (RuleSet.not_stores_mk hs).elim
    · rcases RuleSet.stores_of_setDefault hs with he | hs
      · cases he
        rfl
      · exact (RuleSet.not_stores_mk hs).elim
  have hi : window.Impartial hesitant q q' := by
    intro past p _
    cases past <;> rfl
  have hn : ∀ p, ¬ plain.Holds p := by
    rintro p ⟨r, hr, hs⟩
    obtain rfl := List.mem_singleton.mp hr
    rcases RuleSet.stores_of_setDefault hs with he | hs
    · cases he
    · exact RuleSet.not_stores_mk hs
  have hq : plain.Indistinct q q' := ⟨rfl, rfl, rfl⟩
  obtain ⟨hby, hat⟩ := (reply_indistinct window).1 q q' h
  refine ⟨h, ⟨hp, by decide +kernel, (hat hp).2⟩, ⟨hi, hby hesitant hi⟩, hn, hq, ?_⟩
  exact ((reply_indistinct plain).2 hn).1 q q' hq |>.2

end Registry

end RolePolicy
