import RolePolicy.Authorizer
import RolePolicy.Proofs.Visits

namespace RolePolicy

variable {χ : Type}

structure Registry.CallsSelected (g : Registry χ) (q : Request) (c : Consulted χ Findings) :
    Prop where
  visits : g.VisitsOnce q c.answer
  calls_eq : c.calls = (c.answer.visited.filterMap g.find?).flatMap (g.selectedCalls q)
  silent : ∀ s ∈ c.answer.steps.dropLast, s.result = none
  decided : ∀ b role source, c.answer.outcome = .ok ⟨b, .rule role source⟩ →
    c.answer.steps.getLast? = some ⟨role, some source, some b⟩

lemma Registry.filterMap_names {g : Registry χ} {roles : List (RuleSet χ)}
    (h : ∀ r ∈ roles, g.find? r.name = some r) :
    (roles.map RuleSet.name).filterMap g.find? = roles := by
  rw [List.filterMap_map]
  exact (List.filterMap_congr h).trans List.filterMap_some

lemma Registry.Tour.callsSelected {g : Registry χ} {q : Request} {visited : List (RuleSet χ)}
    {c : Consulted χ Findings} (h : g.Tour q (g.candidates q) visited c) :
    g.CallsSelected q c where
  visits := h.visitsOnce
  calls_eq := by
    have hr : ∀ r ∈ visited, g.find? r.name = some r := by
      intro r hr
      obtain ⟨s, hs, hrs⟩ := mem_candidates_iff.mp (h.initial.subset hr)
      exact hrs.registered (find?_of_roleOf? hs)
    rw [h.visited_eq, filterMap_names hr, h.calls_eq]
  silent := h.silent
  decided := h.decided

namespace Authorizer

variable [Callbacks χ]

lemma calls_query (a : Authorizer χ) (q : Request) :
    (a.query q).calls = (a.registry.search q).calls :=
  Consulted.calls_map _ _

lemma calls_trace (a : Authorizer χ) (q : Request) :
    (a.trace q).calls = (a.registry.search q).calls :=
  Consulted.calls_map _ _

lemma calls_enforce (a : Authorizer χ) (q : Request) :
    (a.enforce q).calls = if a.catalog.isAction q.action.name then (a.query q).calls else [] := by
  rw [enforce]
  split
  · rw [Consulted.calls_bind]
    cases (a.query q).answer with
    | error e => exact List.append_nil _
    | ok granted => cases granted <;> exact List.append_nil _
  · rfl

lemma calls_queryAble (a : Authorizer χ) (actor : Actor) (resource : Resource) (able : String) :
    (a.queryAble actor resource able).calls =
      match a.catalog.actionForAble? able with
      | some action => (a.query ⟨actor, resource, action⟩).calls
      | none => [] := by
  rw [queryAble]
  cases a.catalog.actionForAble? able <;> rfl

lemma calls_query_of_no_role {a : Authorizer χ} {q : Request}
    (h : a.registry.roleOf? q.actor = none) : (a.query q).calls = [] := by
  rw [calls_query, Registry.search, h]
  cases a.registry.config.actorMustPlayRole <;> rfl

omit [Callbacks χ] in
theorem calls_selected (a : Authorizer χ) (q : Request) (able : String) :
    (∀ ask : Reaction χ, ∃ c : Consulted χ Findings,
      (∀ turns, a.registry.size ≤ turns → a.registry.loopSearch ask q turns = some <$> c) ∧
        a.registry.CallsSelected q c) ∧
    ∀ [Callbacks χ],
      a.registry.CallsSelected q (a.registry.search q) ∧
      (a.query q).calls = (a.registry.search q).calls ∧
      (a.trace q).calls = (a.registry.search q).calls ∧
      (a.enforce q).calls = (if a.catalog.isAction q.action.name then (a.query q).calls else []) ∧
      (a.queryAble q.actor q.resource able).calls =
        (match a.catalog.actionForAble? able with
        | some action => (a.query ⟨q.actor, q.resource, action⟩).calls
        | none => []) ∧
      (a.registry.roleOf? q.actor = none → (a.query q).calls = []) := by
  refine ⟨fun ask => ?_, fun {_} => ⟨?_, a.calls_query q, a.calls_trace q, a.calls_enforce q,
    a.calls_queryAble q.actor q.resource able, calls_query_of_no_role⟩⟩
  · obtain ⟨visited, hv⟩ := a.registry.searchBy_tour ask q
    exact ⟨a.registry.searchBy ask q, fun turns => a.registry.loopSearch_eq ask q,
      hv.callsSelected⟩
  · obtain ⟨visited, hv⟩ := a.registry.searchBy_tour .steady q
    rw [← Registry.searchBy_steady]
    exact hv.callsSelected

end Authorizer

def library : Authorizer Probe where
  catalog := Catalog.applyAll {} [.ability "view" "viewable", .action "update"]
  registry := {
    roles := [
      { name := "reader", parents := ["member", "guest"],
        rules := (∅ : Std.ExtTreeMap Action (ActionRule Probe))
          |>.insert ⟨"view"⟩ (.everywhere (.predicate (.callback ⟨0, none, .const true, none, none⟩)))
          |>.insert ⟨"update"⟩
            (.everywhere (.predicate (.callback ⟨1, none, .const true, none, none⟩))) },
      { name := "member", parents := ["reader"],
        defaultResponse :=
          some (.predicate (.callback ⟨2, none, .const true, some true, none⟩)) },
      { name := "guest",
        defaultResponse :=
          some (.predicate (.callback ⟨3, none, .const true, some true, none⟩)) }] }

theorem library_calls_selected :
    let q : Request := ⟨{ role := some "reader" }, ⟨some "doc", "&str", none⟩, ⟨"view"⟩⟩
    let stranger : Request := { q with actor := { role := none } }
    (library.query q).calls.map Call.predicate = [.callback ⟨0, none, .const true, none, none⟩,
      .callback ⟨2, none, .const true, some true, none⟩] ∧
    (library.enforce q).calls = (library.query q).calls ∧
    (library.queryAble q.actor q.resource "viewable").calls = (library.query q).calls ∧
    library.registry.roleOf? stranger.actor = none ∧ (library.query stranger).calls = [] := by
  intro q stranger
  obtain ⟨_, hq⟩ := library.calls_selected q "viewable"
  obtain ⟨_, _, _, he, ha, _⟩ := hq
  obtain ⟨_, hs⟩ := library.calls_selected stranger "viewable"
  exact ⟨by decide +kernel, he.trans (if_pos (by decide)), ha, rfl, hs.2.2.2.2.2 rfl⟩

end RolePolicy
