import RolePolicy.Check
import RolePolicy.Proofs.Ancestry
import RolePolicy.Proofs.Consultation

namespace RolePolicy.Registry

variable {χ : Type} [Callbacks χ] {g : Registry χ} {q : Request} {r s t : RuleSet χ} {v : Verdict}

lemma Finds.decision_eq {roles : List (RuleSet χ)} {f : Findings}
    (hs : g.config.missingParent = .skip) (h : g.Finds q roles f) :
    f.outcome.map Verdict.decision =
      .ok ((roles.findSome? (g.opinion q)).getD g.config.defaultQueryResponse) := by
  cases h with
  | answered past r rest v he hp hv =>
    have hn : past.findSome? (g.opinion q) = none :=
      List.findSome?_eq_none_iff.mpr fun s hs => (hp s hs).silent
    rw [he, List.findSome?_append, hn, Option.none_or, List.findSome?_cons, hv.opinion]
    rfl
  | blocked past r rest parent he hp ho hm =>
    rw [missingParent?_of_skip hs] at hm
    cases hm
  | exhausted hp =>
    have hn : roles.findSome? (g.opinion q) = none :=
      List.findSome?_eq_none_iff.mpr fun s hs => (hp s hs).silent
    rw [hn]
    rfl

omit [Callbacks χ] in
lemma mem_of_distance_lt {past rest : List (RuleSet χ)} {j k : Nat}
    (he : g.lineage r = past ++ s :: rest) (hs : s ∈ g.level r k)
    (ht : t ∈ g.level r j) (h : j < k) : t ∈ past := by
  rw [lineage_eq_append g r k] at he
  have htk : t ∈ (List.range k).flatMap (g.level r) :=
    List.mem_flatMap.mpr ⟨j, List.mem_range.mpr h, ht⟩
  have hsk : s ∉ (List.range k).flatMap (g.level r) := by
    intro hm
    obtain ⟨i, hi, hsi⟩ := List.mem_flatMap.mp hm
    have hik := level_unique hsi hs
    exact absurd (List.mem_range.mp hi) (by omega)
  rcases List.append_eq_append_iff.mp he with ⟨c, hc, _⟩ | ⟨c, hc, hd⟩
  · rw [hc]
    exact List.mem_append_left c htk
  · cases c with
    | nil => simpa [hc] using htk
    | cons u c =>
      obtain rfl : s = u := (List.cons.inj hd).1
      exact (hsk (by simp [hc])).elim

lemma Finds.nearest {f : Findings} (hr : g.find? r.name = some r)
    (h : g.Finds q (g.lineage r) f) (hv : f.outcome = .ok v) :
    (∃ s k, g.AtDistance r s k ∧ g.Answers q s v ∧
      ∀ t j, g.AtDistance r t j → j < k → g.opinion q t = none) ∨
    (v = ⟨g.config.defaultQueryResponse, .fallback⟩ ∧
      ∀ s, g.Reaches r s → g.opinion q s = none) := by
  cases h with
  | answered past s rest w he hp ha =>
    obtain rfl : w = v := Except.ok.inj hv
    have hs : s ∈ (List.range g.size).flatMap (g.level r) := by
      rw [← lineage_eq hr, he]
      simp
    obtain ⟨k, _, hk⟩ := List.mem_flatMap.mp hs
    refine Or.inl ⟨s, k, (mem_level_iff hr).mp hk, ha, fun t j ht hj => ?_⟩
    exact (hp t (mem_of_distance_lt he hk ((mem_level_iff hr).mpr ht) hj)).silent
  | blocked => cases hv
  | exhausted hp =>
    exact Or.inr ⟨(Except.ok.inj hv).symm, fun s hs => (hp s ((mem_lineage_iff hr).mpr hs)).silent⟩

theorem query_level_order (hs : g.config.missingParent = .skip)
    (hr : g.roleOf? q.actor = some r) :
    (g.query q).answer = .ok ((((List.range g.size).flatMap (g.level r)).findSome?
      (g.opinion q)).getD g.config.defaultQueryResponse) ∧
    g.level r 0 = [r] ∧
    (∀ k, g.level r (k + 1) =
      g.nextLevel ((List.range (k + 1)).flatMap (g.level r)) (g.level r k)) ∧
    (∀ k, g.size ≤ k → g.level r k = []) ∧
    (∀ k s, s ∈ g.level r k ↔ g.find? s.name = some s ∧ g.AtDistance r s k) ∧
    ∀ v, (g.search q).answer.outcome = .ok v →
      (∃ s k, g.AtDistance r s k ∧ g.Answers q s v ∧
        ∀ t j, g.AtDistance r t j → j < k → g.opinion q t = none) ∨
      (v = ⟨g.config.defaultQueryResponse, .fallback⟩ ∧
        ∀ s, g.Reaches r s → g.opinion q s = none) := by
  have hf := find?_of_roleOf? hr
  have h := search_finds hr
  refine ⟨?_, rfl, g.level_succ r, fun k => level_eq_nil hf, fun k s => ?_, fun v => h.nearest hf⟩
  · rw [← lineage_eq hf, ← h.decision_eq hs]
    rfl
  · rw [mem_level_iff hf]
    exact ⟨fun h => ⟨h.path.reaches.registered hf, h⟩, And.right⟩

def tangle : Registry Probe where
  roles := [
    { name := "a", parents := ["ghost", "a", "b", "c"] },
    { name := "b", parents := ["d", "a"] },
    { name := "c", parents := ["d"], defaultResponse := some .allow },
    { name := "d", parents := ["b"], defaultResponse := some .deny }]

theorem tangle_level_order : tangle.config.missingParent = .skip ∧
    (tangle.query ⟨{ role := some "a" }, ⟨some "doc", "&str", none⟩, ⟨"view"⟩⟩).answer = .ok true :=
  ⟨rfl, (query_level_order rfl rfl).1.trans (by decide)⟩

end RolePolicy.Registry
