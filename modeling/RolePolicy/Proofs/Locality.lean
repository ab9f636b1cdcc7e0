import RolePolicy.Check
import RolePolicy.Proofs.StrictParents
import RolePolicy.Proofs.Visits

/-! A search reads of a registry no more than the roles it visits, and which of their parents are
registered. Registries that agree there answer alike, whatever else they hold. -/

namespace RolePolicy.Registry

variable {χ : Type} {g g' : Registry χ} {q : Request} {r s : RuleSet χ} {ask : Reaction χ}
  {names : List String}

structure AgreesAt (g g' : Registry χ) (name : String) : Prop where
  find?_eq : g'.find? name = g.find? name
  parents : ∀ r, g.find? name = some r → ∀ p ∈ r.parents, g'.contains p = g.contains p

structure AgreesOn (g g' : Registry χ) (q : Request) (names : List String) : Prop where
  config_eq : g'.config = g.config
  stranger : g.roleOf? q.actor = none → g'.roleOf? q.actor = none
  agreesAt : ∀ n ∈ names, g.AgreesAt g' n

section

variable (hc : g'.config = g.config)
include hc

lemma identifier_of_config_eq (q : Request) : g'.identifier q = g.identifier q := by
  rw [identifier, identifier, hc]

lemma matched_of_config_eq (q : Request) (r : RuleSet χ) : g'.matched q r = g.matched q r := by
  rw [matched, matched, identifier_of_config_eq hc]

lemma selectedCalls_of_config_eq (q : Request) (r : RuleSet χ) :
    g'.selectedCalls q r = g.selectedCalls q r := by
  rw [selectedCalls, selectedCalls, identifier_of_config_eq hc]

lemma ending_of_agreesAt (h : g.AgreesAt g' r.name) (hr : g.find? r.name = some r)
    (result : Option Bool) : g'.ending q r result = g.ending q r result := by
  have hp : g'.missingParent? r = g.missingParent? r := by
    rw [missingParent?, missingParent?, hc]
    cases g.config.missingParent with
    | skip => rfl
    | error =>
      have hf : r.parents.filter (fun p => !g'.contains p) =
          r.parents.filter (fun p => !g.contains p) :=
        List.filter_congr fun p hm => by rw [h.parents r hr p hm]
      simp only [← List.head?_filter, hf]
  simp only [ending, matched_of_config_eq hc, hp]

end

lemma names_unseen (h : ∀ n ∈ names, g'.contains n = g.contains n)
    (seen : List String) :
    (g'.unseen seen names).map RuleSet.name = (g.unseen seen names).map RuleSet.name := by
  induction names generalizing seen with
  | nil => rfl
  | cons n names ih =>
    have hn := h n List.mem_cons_self
    have ih := ih fun m hm => h m (List.mem_cons_of_mem n hm)
    rw [contains, contains] at hn
    rw [unseen, unseen]
    cases hf : g.find? n with
    | none =>
      have hf' : g'.find? n = none := by simpa [hf] using hn
      simpa only [hf'] using ih seen
    | some s =>
      obtain ⟨s', hf'⟩ := Option.isSome_iff_exists.mp (hn.trans (by rw [hf]; rfl))
      have hs := (find?_eq_some hf).2
      have hs' := (find?_eq_some hf').2
      by_cases hm : n ∈ seen
      · simpa only [hf', hm, if_true] using ih seen
      · simp only [hf', hm, if_false, List.map_cons, hs, hs', ih]

structure Paired (g g' : Registry χ) (queue queue' : List (RuleSet χ)) : Prop where
  names_eq : queue'.map RuleSet.name = queue.map RuleSet.name
  registered : ∀ r ∈ queue, g.find? r.name = some r
  registered' : ∀ r ∈ queue', g'.find? r.name = some r

lemma Paired.exists_eq_cons {rest queue' : List (RuleSet χ)} (h : g.Paired g' (r :: rest) queue')
    (ha : g'.find? r.name = g.find? r.name) :
    ∃ rest', queue' = r :: rest' ∧ g.Paired g' rest rest' := by
  obtain ⟨r', rest', rfl, hn, hrest⟩ := List.map_eq_cons_iff.mp h.names_eq
  have hr := h.registered r List.mem_cons_self
  have hr' := h.registered' r' List.mem_cons_self
  rw [hn, ha, hr] at hr'
  obtain rfl := Option.some.inj hr'
  exact ⟨rest', rfl, hrest, fun s hs => h.registered s (List.mem_cons_of_mem _ hs),
    fun s hs => h.registered' s (List.mem_cons_of_mem _ hs)⟩

lemma Paired.append_unseen {queue queue' : List (RuleSet χ)} (h : g.Paired g' queue queue')
    (hn : ∀ n ∈ names, g'.contains n = g.contains n) (seen : List String) :
    g.Paired g' (queue ++ g.unseen seen names) (queue' ++ g'.unseen seen names) where
  names_eq := by rw [List.map_append, List.map_append, h.names_eq, names_unseen hn]
  registered r hr := (List.mem_append.mp hr).elim (h.registered r) fun hr => (mem_unseen.mp hr).2.2
  registered' r hr :=
    (List.mem_append.mp hr).elim (h.registered' r) fun hr => (mem_unseen.mp hr).2.2

lemma name_mem_visited (ask : Reaction χ) (q : Request) (r : RuleSet χ) (rest : List (RuleSet χ))
    (before : List (Call χ)) :
    r.name ∈ (g.consultBy ask q (r :: rest) before).answer.visited := by
  cases he : g.ending q r (r.evaluateBy ask before q (g.identifier q)).answer with
  | some outcome => simp [consultBy_ended he, Findings.visited]
  | none => simp [consultBy_next he, Findings.visited, Findings.after]

lemma consultBy_walk_of_agreesAt (hc : g'.config = g.config) {queue queue' : List (RuleSet χ)}
    (h : g.Paired g' queue queue') (seen : List String) (before : List (Call χ))
    (ha : ∀ n ∈ (g.consultBy ask q (g.walk queue seen) before).answer.visited, g.AgreesAt g' n) :
    g'.consultBy ask q (g'.walk queue' seen) before =
      g.consultBy ask q (g.walk queue seen) before := by
  induction queue, seen using walk.induct (g := g) generalizing queue' before with
  | case1 seen =>
    obtain rfl := List.map_eq_nil_iff.mp h.names_eq
    simp only [walk, consultBy, hc]
  | case2 seen r rest next =>
    rename_i ih
    rw [walk] at ha ⊢
    -- the role whose turn it is gets visited, so it is the same in both registries
    have har := ha r.name (name_mem_visited ask q r _ before)
    have hr := h.registered r List.mem_cons_self
    obtain ⟨rest', rfl, hrest⟩ := h.exists_eq_cons har.find?_eq
    have he' := ending_of_agreesAt (q := q) hc har hr
      (r.evaluateBy ask before q (g'.identifier q)).answer
    rw [walk]
    cases he : g.ending q r (r.evaluateBy ask before q (g.identifier q)).answer with
    | some outcome =>
      rw [identifier_of_config_eq hc, he, ← identifier_of_config_eq hc] at he'
      rw [consultBy_ended he, consultBy_ended he']
      simp only [matched_of_config_eq hc, selectedCalls_of_config_eq hc, identifier_of_config_eq hc]
    | none =>
      rw [identifier_of_config_eq hc, he, ← identifier_of_config_eq hc] at he'
      rw [consultBy_next he] at ha ⊢
      have hnext := ih (hrest.append_unseen (har.parents r hr) seen)
        (before ++ g.selectedCalls q r) fun n hn => ha n (List.mem_cons_of_mem _ hn)
      have hs : (g.unseen seen r.parents).map RuleSet.name =
          (g'.unseen seen r.parents).map RuleSet.name := (names_unseen (har.parents r hr) seen).symm
      rw [consultBy_next he', matched_of_config_eq hc, selectedCalls_of_config_eq hc, ← hs, hnext]

lemma lineage_eq_cons (g : Registry χ) (r : RuleSet χ) : ∃ rest, g.lineage r = r :: rest :=
  ⟨_, by rw [lineage, walk]⟩

lemma searchBy_of_agreesOn (h : g.AgreesOn g' q (g.searchBy ask q).answer.visited) :
    g'.searchBy ask q = g.searchBy ask q := by
  cases hr : g.roleOf? q.actor with
  | none => rw [searchBy, searchBy, hr, h.stranger hr, h.config_eq]
  | some r =>
    have hs : g.searchBy ask q = g.consultBy ask q (g.lineage r) [] := by rw [searchBy, hr]
    have ha := h.agreesAt
    rw [hs] at ha ⊢
    have hf := find?_of_roleOf? hr
    have hf' : g'.find? r.name = some r := by
      obtain ⟨rest, hl⟩ := g.lineage_eq_cons r
      rw [hl] at ha
      rw [(ha r.name (name_mem_visited ask q r rest [])).find?_eq, hf]
    obtain ⟨name, hn, hr'⟩ := Option.bind_eq_some_iff.mp hr
    obtain rfl := (find?_eq_some hr').2
    have hr₁ : g'.roleOf? q.actor = some r := Option.bind_eq_some_iff.mpr ⟨r.name, hn, hf'⟩
    have hp : g.Paired g' [r] [r] := ⟨rfl, by simpa using hf, by simpa using hf'⟩
    rw [searchBy, hr₁]
    exact consultBy_walk_of_agreesAt h.config_eq hp [r.name] [] ha

/-- Roles put in another order, a role added that the search has no reason to ask for, and roles
changed that it does not visit. -/
inductive Unnoticed (g : Registry χ) (q : Request) (visited : List String) : Registry χ → Prop
  | reordered (roles : List (RuleSet χ)) : g.names.Nodup → roles.Perm g.roles →
      Unnoticed g q visited { g with roles := roles }
  | added (r : RuleSet χ) (g' : Registry χ) : g.add r = .ok g' →
      q.actor.resolvedRole ≠ some r.name →
      (∀ n ∈ visited, ∀ s, g.find? n = some s → r.name ∉ s.parents) → Unnoticed g q visited g'
  | changed (f : RuleSet χ → RuleSet χ) : (∀ s, (f s).name = s.name) →
      (∀ n ∈ visited, ∀ s, g.find? n = some s → f s = s) →
      Unnoticed g q visited { g with roles := g.roles.map f }

lemma AgreesOn.of_find?_eq (hc : g'.config = g.config) (h : g'.find? = g.find?) :
    g.AgreesOn g' q names where
  config_eq := hc
  stranger hn := by rwa [roleOf?, h]
  agreesAt n _ := ⟨by rw [h], fun _ _ p _ => by rw [contains, contains, h]⟩

lemma find?_eq_some_iff (hn : g.names.Nodup) {n : String} :
    g.find? n = some r ↔ r ∈ g.roles ∧ r.name = n := by
  refine ⟨find?_eq_some, ?_⟩
  rintro ⟨hr, rfl⟩
  have hs : (g.find? r.name).isSome := List.find?_isSome.mpr ⟨r, hr, by simp⟩
  obtain ⟨s, hs⟩ := Option.isSome_iff_exists.mp hs
  obtain ⟨hm, he⟩ := find?_eq_some hs
  rw [hs, List.inj_on_of_nodup_map hn hm hr he]

lemma find?_of_perm {roles : List (RuleSet χ)} (hn : g.names.Nodup) (hp : roles.Perm g.roles) :
    ({ g with roles := roles } : Registry χ).find? = g.find? := by
  have hn' : ({ g with roles := roles } : Registry χ).names.Nodup :=
    (hp.map RuleSet.name).nodup_iff.mpr hn
  funext n
  refine Option.ext fun r => ?_
  rw [find?_eq_some_iff hn', find?_eq_some_iff hn, hp.mem_iff]

lemma config_of_add (h : g.add r = .ok g') : g'.config = g.config := by
  rw [add] at h
  split at h
  · cases h
  · cases h
    rfl

lemma find?_of_add_of_ne (h : g.add r = .ok g') {n : String} (hn : r.name ≠ n) :
    g'.find? n = g.find? n := by
  rw [find?_add h, if_neg hn, Option.or_none]

lemma find?_of_add_of_some (h : g.add r = .ok g') {n : String} (hs : g.find? n = some s) :
    g'.find? n = g.find? n := by
  rw [find?_add h, hs, Option.some_or]

lemma find?_map {f : RuleSet χ → RuleSet χ} (hf : ∀ s, (f s).name = s.name) (n : String) :
    ({ g with roles := g.roles.map f } : Registry χ).find? n = (g.find? n).map f := by
  rw [find?, find?, List.find?_map]
  have hn : ((fun s : RuleSet χ => s.name == n) ∘ f) = fun s => s.name == n := by
    funext s
    simp [hf]
  rw [hn]

lemma Unnoticed.agreesOn (h : g.Unnoticed q names g') (hn : ∀ n ∈ names, g.contains n) :
    g.AgreesOn g' q names := by
  cases h with
  | reordered roles hd hp => exact .of_find?_eq rfl (find?_of_perm hd hp)
  | added r g' ha hr hp =>
    refine ⟨config_of_add ha, fun hs => ?_, fun n hm => ?_⟩
    · rw [roleOf?, Option.bind_eq_none_iff] at hs ⊢
      intro n hn
      rw [find?_of_add_of_ne ha fun he => hr (he ▸ hn)]
      exact hs n hn
    · obtain ⟨s, hs⟩ := Option.isSome_iff_exists.mp (hn n hm)
      refine ⟨find?_of_add_of_some ha hs, fun t ht p hpt => ?_⟩
      have hne : r.name ≠ p := fun he => hp n hm t ht (he ▸ hpt)
      rw [contains, contains, find?_of_add_of_ne ha hne]
  | changed f hf hs =>
    refine ⟨rfl, fun hs => ?_, fun n hm => ⟨?_, fun _ _ p _ => ?_⟩⟩
    · rw [roleOf?, Option.bind_eq_none_iff] at hs ⊢
      intro n hn
      rw [find?_map hf, hs n hn, Option.map_none]
    · obtain ⟨s, ht⟩ := Option.isSome_iff_exists.mp (hn n hm)
      rw [find?_map hf, ht, Option.map_some, hs n hm s ht]
    · rw [contains, contains, find?_map hf, Option.isSome_map]

lemma contains_of_mem_visited (ask : Reaction χ) {n : String}
    (hn : n ∈ (g.searchBy ask q).answer.visited) : g.contains n := by
  obtain ⟨visited, hv⟩ := g.searchBy_tour ask q
  obtain ⟨_, s, _, _, hs⟩ := hv.visitsOnce.reached n hn
  rw [contains, hs]
  rfl

def LoopFinds (g : Registry χ) (ask : Reaction χ) (q : Request) (c : Consulted χ Findings) :
    Prop :=
  ∀ turns, g.size ≤ turns → g.loopSearch ask q turns = some <$> c

lemma loopFinds_searchBy (g : Registry χ) (ask : Reaction χ) (q : Request) :
    g.LoopFinds ask q (g.searchBy ask q) :=
  fun _ => g.loopSearch_eq ask q

lemma LoopFinds.eq_searchBy {c : Consulted χ Findings} (h : g.LoopFinds ask q c) :
    c = g.searchBy ask q := by
  have hs := (h g.size (Nat.le_refl _)).symm.trans (g.loopFinds_searchBy ask q _ (Nat.le_refl _))
  have ha : c.answer = (g.searchBy ask q).answer := Option.some.inj (congrArg Consulted.answer hs)
  have hc : c.calls = (g.searchBy ask q).calls := by
    simpa only [Consulted.calls_map] using congrArg Consulted.calls hs
  calc c = ⟨c.answer, c.calls⟩ := rfl
    _ = g.searchBy ask q := by rw [ha, hc]

def Spares (g g' : Registry χ) (q : Request) (visited : List String) : Prop :=
  g.AgreesOn g' q visited ∨ g.Unnoticed q visited g'

lemma Spares.agreesOn (h : g.Spares g' q (g.searchBy ask q).answer.visited) :
    g.AgreesOn g' q (g.searchBy ask q).answer.visited :=
  h.elim id fun hu => hu.agreesOn fun _ => contains_of_mem_visited ask

theorem query_local (g g' : Registry χ) (q : Request) :
    (∀ (ask : Reaction χ) (c : Consulted χ Findings), g.LoopFinds ask q c →
      g.Spares g' q c.answer.visited → g'.LoopFinds ask q c) ∧
    ∀ [Callbacks χ], g.Spares g' q (g.search q).answer.visited →
      g'.search q = g.search q ∧ g'.query q = g.query q ∧ g'.trace q = g.trace q := by
  refine ⟨fun ask c hc h => ?_, fun {_} h => ?_⟩
  · obtain rfl := hc.eq_searchBy
    rw [← searchBy_of_agreesOn h.agreesOn]
    exact g'.loopFinds_searchBy ask q
  · rw [← g.searchBy_steady q] at h
    have hs : g'.search q = g.search q := by
      rw [← searchBy_steady, ← searchBy_steady, searchBy_of_agreesOn h.agreesOn]
    have hi := identifier_of_config_eq h.agreesOn.config_eq q
    exact ⟨hs, by rw [query, query, hs], by rw [trace, trace, hs, hi]⟩

def bureau : Registry Probe where
  config := { missingParent := .error }
  roles := [
    { name := "clerk", parents := ["auditor", "owner"] },
    { name := "owner", parents := ["ghost"], defaultResponse := some .deny },
    { name := "auditor", parents := ["guest"],
      defaultResponse := some (.predicate (.callback ⟨0, none, .const true, some true, none⟩)) },
    { name := "guest", parents := ["clerk"] }]

def reformedBureau : Registry Probe where
  config := { missingParent := .error }
  roles := [
    { name := "guest", parents := ["auditor"], defaultResponse := some .allow },
    { name := "auditor", parents := ["guest"],
      defaultResponse := some (.predicate (.callback ⟨0, none, .const true, some true, none⟩)) },
    { name := "intern", parents := ["clerk"], defaultResponse := some .deny },
    { name := "owner", defaultResponse := some .allow },
    { name := "clerk", parents := ["auditor", "owner"] }]

def hesitant : Reaction Probe := fun before _ => if before.isEmpty then none else some true

theorem bureau_query_local :
    let q : Request := ⟨{ role := some "clerk" }, ⟨some "doc", "&str", none⟩, ⟨"view"⟩⟩
    let intern : RuleSet Probe := { name := "intern", parents := ["clerk"] }
    (bureau.Spares reformedBureau q (bureau.search q).answer.visited ∧
      (bureau.search q).answer.visited = ["clerk", "auditor"] ∧
      (bureau.query q).answer = .ok true ∧ reformedBureau.trace q = bureau.trace q) ∧
    ∃ g c, bureau.add intern = .ok g ∧ bureau.LoopFinds hesitant q c ∧
      c.answer.visited = ["clerk", "auditor", "owner"] ∧
      bureau.Unnoticed q c.answer.visited g ∧ g.LoopFinds hesitant q c := by
  intro q intern
  constructor
  · have hv : (bureau.search q).answer.visited = ["clerk", "auditor"] := by decide +kernel
    have hs : bureau.Spares reformedBureau q (bureau.search q).answer.visited := by
      rw [hv]
      refine Or.inl ⟨rfl, nofun, fun n hn => ?_⟩
      simp only [List.mem_cons, List.not_mem_nil, or_false] at hn
      rcases hn with rfl | rfl
      · refine ⟨rfl, fun r hr p hp => ?_⟩
        obtain rfl := Option.some.inj hr
        simp only [List.mem_cons, List.not_mem_nil, or_false] at hp
        rcases hp with rfl | rfl <;> rfl
      · refine ⟨rfl, fun r hr p hp => ?_⟩
        obtain rfl := Option.some.inj hr
        obtain rfl := List.mem_singleton.mp hp
        rfl
    exact ⟨hs, hv, by decide +kernel, ((query_local bureau reformedBureau q).2 hs).2.2⟩
  · have hc := bureau.loopFinds_searchBy hesitant q
    have hv : (bureau.searchBy hesitant q).answer.visited = ["clerk", "auditor", "owner"] := by
      decide +kernel
    have hu : bureau.Unnoticed q (bureau.searchBy hesitant q).answer.visited
        { bureau with roles := bureau.roles ++ [intern] } := by
      rw [hv]
      refine .added intern _ rfl (by decide) fun n hn s hs => ?_
      simp only [List.mem_cons, List.not_mem_nil, or_false] at hn
      rcases hn with rfl | rfl | rfl <;> obtain rfl := Option.some.inj hs <;> decide
    exact ⟨_, _, rfl, hc, hv, hu, (query_local bureau _ q).1 hesitant _ hc (Or.inr hu)⟩

end RolePolicy.Registry
