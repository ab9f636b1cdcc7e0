import Mathlib.Data.List.Perm.Subperm
import RolePolicy.Proofs.KeyTables
import RolePolicy.Proofs.Relabeling

/-! When rules are the same. Predicates are if they are one instance of a function, and everything
else is by its parts. Roles with the same rules and defaults select and answer alike. -/

namespace RolePolicy

open Std (ExtTreeMap)

def sameOption {β : Type} (same : β → β → Bool) : Option β → Option β → Bool
  | some x, some y => same x y
  | none, none => true
  | _, _ => false

def sameMap {κ β : Type} [Ord κ] [Std.TransOrd κ] (same : β → β → Bool) (m m' : ExtTreeMap κ β) :
    Bool :=
  m.size == m'.size && m.toList.all fun e => m'[e.1]?.any (same e.2)

variable {χ : Type}

def ActionRule.keyCount : ActionRule χ → Option Nat
  | .everywhere _ => none
  | .byResource t => some t.size

def RuleSet.declareEach (r : RuleSet χ) (l : List (Action × ResourceKey × Response χ)) :
    RuleSet χ :=
  l.foldl (fun r d => r.declare d.1 d.2.1 d.2.2) r

/-- Which instance of a function a predicate is, and what cloning makes of it. One instance always
answers in one way. -/
structure Sharing (χ : Type) [Callbacks χ] where
  Instance : Type
  decEq : DecidableEq Instance
  instanceOf : Predicate χ → Instance
  clone : Predicate χ → Predicate χ
  instanceOf_clone : ∀ p, instanceOf (clone p) = instanceOf p
  call_eq : ∀ p p', instanceOf p = instanceOf p' → p.call = p'.call

namespace Sharing

variable [Callbacks χ] (sh : Sharing χ)

instance : DecidableEq sh.Instance := sh.decEq

def sameResponse : Response χ → Response χ → Bool
  | .allow, .allow | .deny, .deny | .unset, .unset => true
  | .predicate p, .predicate p' => sh.instanceOf p = sh.instanceOf p'
  | _, _ => false

def sameTable (t u : ResourceRules χ) : Bool :=
  sameMap sh.sameResponse t.split.named u.split.named &&
    sameOption sh.sameResponse t.split.other u.split.other

def sameRule : ActionRule χ → ActionRule χ → Bool
  | .everywhere x, .everywhere y => sh.sameResponse x y
  | .byResource t, .byResource u => sh.sameTable t u
  | _, _ => false

def sameRules (r r' : RuleSet χ) : Bool := sameMap sh.sameRule r.rules r'.rules

def sameDefault (r r' : RuleSet χ) : Bool :=
  sameOption sh.sameResponse r.defaultResponse r'.defaultResponse

def cloneResponse : Response χ → Response χ
  | .predicate p => .predicate (sh.clone p)
  | x => x

def cloneTable (t : ResourceRules χ) : ResourceRules χ := t.map fun _ => sh.cloneResponse

def cloneRule : ActionRule χ → ActionRule χ
  | .everywhere x => .everywhere (sh.cloneResponse x)
  | .byResource t => .byResource (sh.cloneTable t)

def cloneRules (r : RuleSet χ) : RuleSet χ := { r with rules := r.rules.map fun _ => sh.cloneRule }

def own [DecidableEq χ] : Sharing χ where
  Instance := Predicate χ
  decEq := inferInstance
  instanceOf := id
  clone := id
  instanceOf_clone _ := rfl
  call_eq _ _ h := congrArg Predicate.call h

def SameMatch (o o' : Option (Response χ × MatchSource)) : Prop :=
  o.map Prod.snd = o'.map Prod.snd ∧
    sameOption sh.sameResponse (o.map Prod.fst) (o'.map Prod.fst)

structure Agrees (r r' : RuleSet χ) : Prop where
  rule : ∀ a, sameOption sh.sameRule (r.rule? a) (r'.rule? a)
  response : ∀ a k, sameOption sh.sameResponse (r.responseFor? a k) (r'.responseFor? a k)
  actionCount : r.rules.size = r'.rules.size
  keyCount : ∀ a, (r.rule? a).bind ActionRule.keyCount = (r'.rule? a).bind ActionRule.keyCount
  select : ∀ id a, sh.SameMatch (r.select id a) (r'.select id a)
  evaluate : ∀ q id, (r.evaluate q id).answer = (r'.evaluate q id).answer
  query : ∀ q allTypes, (r.query q allTypes).answer = (r'.query q allTypes).answer

structure Literal : Prop where
  response : ∀ x y, sh.sameResponse x y ↔ x = y
  table : ∀ t u, sh.sameTable t u ↔ t = u
  rule : ∀ a b, sh.sameRule a b ↔ a = b
  roles : ∀ r r' : RuleSet χ, sh.sameRules r r' ↔ r.rules = r'.rules

structure Sound : Prop where
  responses : Equivalence fun x y => sh.sameResponse x y = true
  tables : Equivalence fun t u => sh.sameTable t u = true
  rules : Equivalence fun a b => sh.sameRule a b = true
  roles : Equivalence fun r r' => sh.sameRules r r' = true
  clones : (∀ x, sh.sameResponse (sh.cloneResponse x) x) ∧ (∀ t, sh.sameTable (sh.cloneTable t) t) ∧
    (∀ a, sh.sameRule (sh.cloneRule a) a) ∧ ∀ r, sh.sameRules (sh.cloneRules r) r
  order : ∀ (r : RuleSet χ) l l', l.Perm l' → (l.map fun d => (d.1, d.2.1)).Nodup →
    sh.sameRules (r.declareEach l) (r.declareEach l')
  agrees : ∀ r r', sh.sameRules r r' → sh.sameDefault r r' → sh.Agrees r r'
  kinds : ∀ x t, sh.sameRule (.everywhere x) (.byResource t) = false ∧
    sh.sameRule (.byResource t) (.everywhere x) = false
  alike : ∀ (r : RuleSet χ) a x, sh.sameRules (r.respond a x) ((r.respond a x).declare a .other x) =
    false ∧ ∀ q id, ((r.respond a x).evaluate q id).answer =
      (((r.respond a x).declare a .other x).evaluate q id).answer

end Sharing

section

variable {κ β : Type} [Ord κ] [Std.TransOrd κ] {same : β → β → Bool} {m m' : ExtTreeMap κ β}
  {o o' : Option β}

lemma sameOption_cases (h : sameOption same o o') :
    o = none ∧ o' = none ∨ ∃ x y, o = some x ∧ o' = some y ∧ same x y := by
  cases o <;> cases o'
  · exact Or.inl ⟨rfl, rfl⟩
  · cases h
  · cases h
  · exact Or.inr ⟨_, _, rfl, rfl, h⟩

lemma equivalence_sameOption (h : Equivalence fun x y => same x y = true) :
    Equivalence fun o o' => sameOption same o o' = true where
  refl o := by
    cases o with
    | none => rfl
    | some x => exact h.refl x
  symm {o o'} ho := by
    rcases sameOption_cases ho with ⟨rfl, rfl⟩ | ⟨x, y, rfl, rfl, hx⟩
    · rfl
    · exact h.symm hx
  trans {o o' o''} ho ho' := by
    rcases sameOption_cases ho with ⟨rfl, rfl⟩ | ⟨x, y, rfl, rfl, hx⟩
    · exact ho'
    · rcases sameOption_cases ho' with ⟨hn, -⟩ | ⟨_, z, hy, rfl, hz⟩
      · cases hn
      · cases hy
        exact h.trans hx hz

lemma equivalence_forall_sameOption (h : Equivalence fun x y => same x y = true) :
    Equivalence fun m m' : ExtTreeMap κ β => ∀ k : κ, sameOption same m[k]? m'[k]? := by
  have ho := equivalence_sameOption h
  exact ⟨fun m k => ho.refl _, fun hm k => ho.symm (hm k), fun hm hm' k => ho.trans (hm k) (hm' k)⟩

lemma isSome_of_sameOption (h : sameOption same o o') : o.isSome = o'.isSome := by
  rcases sameOption_cases h with ⟨rfl, rfl⟩ | ⟨x, y, rfl, rfl, -⟩ <;> rfl

variable [Std.LawfulEqOrd κ]

lemma mem_iff_of_size_eq (hs : m.size = m'.size) (hk : ∀ k ∈ m, k ∈ m') (k : κ) :
    k ∈ m ↔ k ∈ m' := by
  have hsub : m.keys ⊆ m'.keys := fun k hm =>
    ExtTreeMap.mem_keys.mpr (hk k (ExtTreeMap.mem_keys.mp hm))
  have hp : m.keys.Perm m'.keys := by
    refine (List.subperm_of_subset ExtTreeMap.nodup_keys hsub).perm_of_length_le ?_
    rw [ExtTreeMap.length_keys, ExtTreeMap.length_keys]
    exact Nat.le_of_eq hs.symm
  rw [← ExtTreeMap.mem_keys, hp.mem_iff, ExtTreeMap.mem_keys]

lemma size_eq_of_mem_iff (h : ∀ k, k ∈ m ↔ k ∈ m') : m.size = m'.size := by
  have hp : m.keys.Perm m'.keys := by
    refine (List.perm_ext_iff_of_nodup ExtTreeMap.nodup_keys ExtTreeMap.nodup_keys).mpr fun k => ?_
    rw [ExtTreeMap.mem_keys, ExtTreeMap.mem_keys, h]
  rw [← ExtTreeMap.length_keys, ← ExtTreeMap.length_keys, hp.length_eq]

lemma sameMap_iff : sameMap same m m' ↔ ∀ k : κ, sameOption same m[k]? m'[k]? := by
  rw [sameMap, Bool.and_eq_true, beq_iff_eq, List.all_eq_true, Prod.forall]
  constructor
  · rintro ⟨hs, hm⟩ k
    have hf {k : κ} {x : β} (hx : m[k]? = some x) : ∃ y, m'[k]? = some y ∧ same x y :=
      (Option.any_eq_true ..).mp (hm k x (ExtTreeMap.mem_toList_iff_getElem?_eq_some.mpr hx))
    have hk := mem_iff_of_size_eq hs fun k hk => by
      rw [ExtTreeMap.mem_iff_isSome_getElem?, Option.isSome_iff_exists] at hk ⊢
      obtain ⟨x, hx⟩ := hk
      obtain ⟨y, hy, -⟩ := hf hx
      exact ⟨y, hy⟩
    cases hx : m[k]? with
    | some x =>
      obtain ⟨y, hy, hxy⟩ := hf hx
      rw [hy]
      exact hxy
    | none =>
      rw [getElem?_eq_none_iff, hk, ← getElem?_eq_none_iff] at hx
      rw [hx]
      rfl
  · intro h
    have hk (k : κ) : k ∈ m ↔ k ∈ m' := by
      rw [ExtTreeMap.mem_iff_isSome_getElem?, ExtTreeMap.mem_iff_isSome_getElem?,
        isSome_of_sameOption (h k)]
    refine ⟨size_eq_of_mem_iff hk, fun k x hx => ?_⟩
    rw [ExtTreeMap.mem_toList_iff_getElem?_eq_some] at hx
    have hy := h k
    rw [hx] at hy
    rcases sameOption_cases hy with ⟨hn, -⟩ | ⟨_, y, hx', hy, hxy⟩
    · cases hn
    · cases hx'
      exact (Option.any_eq_true ..).mpr ⟨y, hy, hxy⟩

lemma size_eq_of_sameOption (h : ∀ k : κ, sameOption same m[k]? m'[k]?) : m.size = m'.size :=
  beq_iff_eq.mp (Bool.and_eq_true_iff.mp (sameMap_iff.mpr h)).1

lemma eq_iff_of_sameOption (h : ∀ x y, same x y ↔ x = y) :
    (∀ k : κ, sameOption same m[k]? m'[k]?) ↔ m = m' := by
  have ho (o o' : Option β) : sameOption same o o' ↔ o = o' := by
    cases o <;> cases o' <;> simp [sameOption, h]
  simp only [ho]
  exact ⟨ExtTreeMap.ext_getElem?, fun hm k => by rw [hm]⟩

lemma sameMap_map {f : β → β} (h : ∀ x, same (f x) x) (m : ExtTreeMap κ β) :
    sameMap same (m.map fun _ => f) m := by
  rw [sameMap_iff]
  intro k
  rw [ExtTreeMap.getElem?_map]
  cases m[k]? with
  | none => rfl
  | some x => exact h x

end

section

variable [Callbacks χ]

namespace Sharing

variable {sh : Sharing χ} {x y : Response χ} {t u : ResourceRules χ} {a b : ActionRule χ}
  {r r' : RuleSet χ}

def content (sh : Sharing χ) : Response χ → Option Bool ⊕ sh.Instance
  | .allow => .inl (some true)
  | .deny => .inl (some false)
  | .unset => .inl none
  | .predicate p => .inr (sh.instanceOf p)

lemma sameResponse_iff : sh.sameResponse x y ↔ sh.content x = sh.content y := by
  cases x <;> cases y <;> simp [sameResponse, content]

lemma equivalence_sameResponse (sh : Sharing χ) :
    Equivalence fun x y => sh.sameResponse x y = true := by
  simp only [sameResponse_iff]
  exact ⟨fun _ => rfl, fun h => h.symm, fun h h' => h.trans h'⟩

lemma sameTable_iff :
    sh.sameTable t u ↔ ∀ k : ResourceKey, sameOption sh.sameResponse t[k]? u[k]? := by
  rw [sameTable, Bool.and_eq_true, sameMap_iff]
  constructor
  · rintro ⟨hn, ho⟩ k
    rw [← ResourceRules.get?_split, ← ResourceRules.get?_split]
    cases k with
    | named id => exact hn id
    | other => exact ho
  · intro h
    simp only [← ResourceRules.get?_split] at h
    exact ⟨fun id => h (.named id), h .other⟩

lemma equivalence_sameTable (sh : Sharing χ) :
    Equivalence fun t u => sh.sameTable t u = true := by
  simp only [sameTable_iff]
  exact equivalence_forall_sameOption sh.equivalence_sameResponse

lemma sameRule_cases (h : sh.sameRule a b) :
    (∃ x y, a = .everywhere x ∧ b = .everywhere y ∧ sh.sameResponse x y) ∨
      ∃ t u, a = .byResource t ∧ b = .byResource u ∧ sh.sameTable t u := by
  cases a <;> cases b
  · exact Or.inl ⟨_, _, rfl, rfl, h⟩
  · cases h
  · cases h
  · exact Or.inr ⟨_, _, rfl, rfl, h⟩

lemma equivalence_sameRule (sh : Sharing χ) :
    Equivalence fun a b => sh.sameRule a b = true where
  refl a := by
    cases a with
    | everywhere x => exact sh.equivalence_sameResponse.refl x
    | byResource t => exact sh.equivalence_sameTable.refl t
  symm {a b} h := by
    rcases sameRule_cases h with ⟨x, y, rfl, rfl, hx⟩ | ⟨t, u, rfl, rfl, ht⟩
    · exact sh.equivalence_sameResponse.symm hx
    · exact sh.equivalence_sameTable.symm ht
  trans {a b c} h h' := by
    rcases sameRule_cases h with ⟨x, y, rfl, rfl, hx⟩ | ⟨t, u, rfl, rfl, ht⟩
    all_goals rcases sameRule_cases h' with ⟨_, z, hy, rfl, hz⟩ | ⟨_, v, hu, rfl, hv⟩
    · cases hy
      exact sh.equivalence_sameResponse.trans hx hz
    · cases hu
    · cases hy
    · cases hu
      exact sh.equivalence_sameTable.trans ht hv

lemma sameRules_iff :
    sh.sameRules r r' ↔ ∀ a, sameOption sh.sameRule (r.rule? a) (r'.rule? a) := sameMap_iff

lemma sameRules_cases (h : sh.sameRules r r') (action : Action) :
    (r.rule? action = none ∧ r'.rule? action = none) ∨
    (∃ x y, r.rule? action = some (.everywhere x) ∧ r'.rule? action = some (.everywhere y) ∧
      sh.sameResponse x y) ∨
    ∃ t u, r.rule? action = some (.byResource t) ∧ r'.rule? action = some (.byResource u) ∧
      sh.sameTable t u := by
  rcases sameOption_cases (sameRules_iff.mp h action) with hn | ⟨a, b, hr, hr', ha⟩
  · exact Or.inl hn
  · rcases sameRule_cases ha with ⟨x, y, rfl, rfl, hx⟩ | ⟨t, u, rfl, rfl, ht⟩
    · exact Or.inr (Or.inl ⟨x, y, hr, hr', hx⟩)
    · exact Or.inr (Or.inr ⟨t, u, hr, hr', ht⟩)

lemma equivalence_sameRules (sh : Sharing χ) :
    Equivalence fun r r' => sh.sameRules r r' = true := by
  simp only [sameRules_iff]
  exact (equivalence_forall_sameOption sh.equivalence_sameRule).comap RuleSet.rules

lemma sameResponse_clone (sh : Sharing χ) (x : Response χ) :
    sh.sameResponse (sh.cloneResponse x) x := by
  rw [sameResponse_iff]
  cases x with
  | predicate p => exact congrArg Sum.inr (sh.instanceOf_clone p)
  | _ => rfl

lemma sameTable_clone (sh : Sharing χ) (t : ResourceRules χ) :
    sh.sameTable (sh.cloneTable t) t := by
  rw [sameTable_iff]
  exact sameMap_iff.mp (sameMap_map sh.sameResponse_clone t)

lemma sameRule_clone (sh : Sharing χ) (a : ActionRule χ) : sh.sameRule (sh.cloneRule a) a := by
  cases a with
  | everywhere x => exact sh.sameResponse_clone x
  | byResource t => exact sh.sameTable_clone t

lemma sameRules_clone (sh : Sharing χ) (r : RuleSet χ) : sh.sameRules (sh.cloneRules r) r :=
  sameMap_map sh.sameRule_clone r.rules

lemma sameMatch_map {o o' : Option (Response χ)} (h : sameOption sh.sameResponse o o')
    (source : MatchSource) : sh.SameMatch (o.map (·, source)) (o'.map (·, source)) := by
  rcases sameOption_cases h with ⟨rfl, rfl⟩ | ⟨x, y, rfl, rfl, hx⟩
  · exact ⟨rfl, rfl⟩
  · exact ⟨rfl, hx⟩

lemma SameMatch.cases {o o' : Option (Response χ × MatchSource)} (h : sh.SameMatch o o') :
    o = none ∧ o' = none ∨
      ∃ x y source, o = some (x, source) ∧ o' = some (y, source) ∧ sh.sameResponse x y := by
  obtain ⟨hs, hx⟩ := h
  rcases o with _ | ⟨x, source⟩ <;> rcases o' with _ | ⟨y, source'⟩
  · exact Or.inl ⟨rfl, rfl⟩
  · cases hs
  · cases hs
  · cases hs
    exact Or.inr ⟨x, y, source, rfl, rfl, hx⟩

lemma SameMatch.or {o o' p p' : Option (Response χ × MatchSource)} (h : sh.SameMatch o o')
    (hp : sh.SameMatch p p') : sh.SameMatch (o.or p) (o'.or p') := by
  rcases h.cases with ⟨rfl, rfl⟩ | ⟨x, y, source, rfl, rfl, hx⟩
  · exact hp
  · exact ⟨rfl, hx⟩

lemma sameMatch_table (h : sh.sameTable t u) (id : Option String) :
    sh.SameMatch (t.select id) (u.select id) := by
  have hs (t : ResourceRules χ) : t.select id = ((id.bind fun i => t[ResourceKey.named i]?).map
      (·, .resource)).or (t[ResourceKey.other]?.map (·, .wildcard)) := by
    rw [ResourceRules.select]
    cases id.bind fun i => t[ResourceKey.named i]? <;> rfl
  have hk := sameTable_iff.mp h
  rw [hs, hs]
  refine (sameMatch_map ?_ _).or (sameMatch_map (hk .other) _)
  cases id with
  | none => rfl
  | some i => exact hk (.named i)

lemma sameMatch_select (h : sh.sameRules r r') (hd : sh.sameDefault r r') (id : Option String)
    (action : Action) : sh.SameMatch (r.select id action) (r'.select id action) := by
  refine SameMatch.or ?_ (sameMatch_map hd .default)
  rcases sameRules_cases h action with ⟨hr, hr'⟩ | ⟨x, y, hr, hr', hx⟩ | ⟨t, u, hr, hr', ht⟩
  all_goals rw [hr, hr']
  · exact ⟨rfl, rfl⟩
  · exact ⟨rfl, hx⟩
  · exact sameMatch_table ht id

lemma answer_evaluate_of_same (h : sh.sameResponse x y) (q : Request) :
    (x.evaluate q).answer = (y.evaluate q).answer := by
  rw [sameResponse_iff] at h
  cases x <;> cases y <;> simp [content] at h
  · rfl
  · rfl
  · rfl
  · exact congrFun (sh.call_eq _ _ h) q

lemma answer_evaluate_of_sameMatch {id id' : Option String} {q : Request}
    (h : sh.SameMatch (r.select id q.action) (r'.select id' q.action)) :
    (r.evaluate q id).answer = (r'.evaluate q id').answer := by
  rw [RuleSet.evaluate, RuleSet.evaluate]
  rcases h.cases with ⟨hs, hs'⟩ | ⟨x, y, source, hs, hs', hx⟩
  · rw [hs, hs']
  · rw [hs, hs']
    exact answer_evaluate_of_same hx q

lemma sameOption_responseFor (h : sh.sameRules r r') (action : Action) (k : ResourceKey) :
    sameOption sh.sameResponse (r.responseFor? action k) (r'.responseFor? action k) := by
  rw [RuleSet.responseFor?, RuleSet.responseFor?]
  rcases sameRules_cases h action with ⟨hr, hr'⟩ | ⟨x, y, hr, hr', -⟩ | ⟨t, u, hr, hr', ht⟩
  all_goals rw [hr, hr']
  · rfl
  · rfl
  · exact sameTable_iff.mp ht k

lemma keyCount_eq (h : sh.sameRules r r') (action : Action) :
    (r.rule? action).bind ActionRule.keyCount = (r'.rule? action).bind ActionRule.keyCount := by
  rcases sameRules_cases h action with ⟨hr, hr'⟩ | ⟨x, y, hr, hr', -⟩ | ⟨t, u, hr, hr', ht⟩
  · rw [hr, hr']
  · rw [hr, hr']
    rfl
  · rw [hr, hr']
    exact congrArg some (size_eq_of_sameOption (sameTable_iff.mp ht))

lemma agrees (h : sh.sameRules r r') (hd : sh.sameDefault r r') : sh.Agrees r r' where
  rule := sameRules_iff.mp h
  response := sameOption_responseFor h
  actionCount := size_eq_of_sameOption (sameRules_iff.mp h)
  keyCount := keyCount_eq h
  select := sameMatch_select h hd
  evaluate q id := answer_evaluate_of_sameMatch (sameMatch_select h hd id q.action)
  query q _ := answer_evaluate_of_sameMatch (sameMatch_select h hd _ q.action)

end Sharing

end

lemma insert_comm {κ β : Type} [Ord κ] [Std.TransOrd κ] [Std.LawfulEqOrd κ] {k l : κ} (h : k ≠ l)
    (x y : β) (m : ExtTreeMap κ β) : (m.insert k x).insert l y = (m.insert l y).insert k x := by
  refine ExtTreeMap.ext_getElem? fun n => ?_
  simp only [ExtTreeMap.getElem?_insert]
  split_ifs with hl hk
  · cases Std.LawfulEqCmp.eq_of_compare hl
    cases Std.LawfulEqCmp.eq_of_compare hk
    exact absurd rfl h
  all_goals rfl

namespace RuleSet

variable {r : RuleSet χ}

lemma ruleWith_comm {k l : ResourceKey} (h : k ≠ l) (x y : Response χ)
    (rule : Option (ActionRule χ)) :
    ruleWith l y (some (ruleWith k x rule)) = ruleWith k x (some (ruleWith l y rule)) := by
  rcases rule with _ | _ | t <;> simp only [ruleWith, insert_comm h]

lemma declare_comm {a b : Action} {k l : ResourceKey} (h : (a, k) ≠ (b, l)) (x y : Response χ) :
    (r.declare a k x).declare b l y = (r.declare b l y).declare a k x := by
  refine ext_rules rfl fun c => ?_
  simp only [rule?_declare]
  by_cases hab : a = b
  · subst hab
    have hk : k ≠ l := fun hk => h (by rw [hk])
    rw [if_pos rfl, if_pos rfl, ruleWith_comm hk]
    split <;> rfl
  · rw [if_neg hab, if_neg (Ne.symm hab)]
    by_cases hb : b = c
    · rw [if_pos hb, if_neg fun ha => hab (ha.trans hb.symm), if_pos hb]
    · rw [if_neg hb, if_neg hb]

lemma declareEach_perm {l l' : List (Action × ResourceKey × Response χ)} (hp : l.Perm l')
    (hl : (l.map fun d => (d.1, d.2.1)).Nodup) (r : RuleSet χ) :
    r.declareEach l = r.declareEach l' := by
  refine hp.foldl_eq' (fun d hd e he r => ?_) r
  by_cases hk : (d.1, d.2.1) = (e.1, e.2.1)
  · rw [List.inj_on_of_nodup_map hl hd he hk]
  · exact declare_comm hk d.2.2 e.2.2

end RuleSet

section

variable [Callbacks χ]

namespace Sharing

variable {sh : Sharing χ}

lemma answer_evaluate_wildcard (r : RuleSet χ) (a : Action) (x : Response χ) (q : Request)
    (id : Option String) : ((r.respond a x).evaluate q id).answer =
      (((r.respond a x).declare a .other x).evaluate q id).answer := by
  rw [RuleSet.evaluate, RuleSet.evaluate]
  by_cases ha : a = q.action
  · have hs : (r.respond a x).select id q.action = some (x, .action) := by
      simp [RuleSet.select, ha, ActionRule.select]
    have hd : ((r.respond a x).declare a .other x).select id q.action = some (x, .wildcard) := by
      simp [RuleSet.select, ha, ActionRule.select, RuleSet.ruleWith, ResourceRules.select]
    rw [hs, hd]
  · have hs : ((r.respond a x).declare a .other x).select id q.action =
        (r.respond a x).select id q.action := by
      rw [RuleSet.select, RuleSet.select, RuleSet.rule?_declare, if_neg ha]
      rfl
    rw [hs]

lemma not_sameRules_wildcard (r : RuleSet χ) (a : Action) (x : Response χ) :
    sh.sameRules (r.respond a x) ((r.respond a x).declare a .other x) = false := by
  rw [Bool.eq_false_iff]
  intro h
  have ha := sameRules_iff.mp h a
  rw [RuleSet.rule?_declare, RuleSet.rule?_respond, if_pos rfl, if_pos rfl] at ha
  cases ha

lemma sound (sh : Sharing χ) : sh.Sound where
  responses := sh.equivalence_sameResponse
  tables := sh.equivalence_sameTable
  rules := sh.equivalence_sameRule
  roles := sh.equivalence_sameRules
  clones := ⟨sh.sameResponse_clone, sh.sameTable_clone, sh.sameRule_clone, sh.sameRules_clone⟩
  order r l l' hp hl := by
    rw [RuleSet.declareEach_perm hp hl]
    exact sh.equivalence_sameRules.refl _
  agrees _ _ := agrees
  kinds _ _ := ⟨rfl, rfl⟩
  alike r a x := ⟨not_sameRules_wildcard r a x, answer_evaluate_wildcard r a x⟩

lemma literal_of_injective (h : Function.Injective sh.instanceOf) : sh.Literal := by
  have hx (x y : Response χ) : sh.sameResponse x y ↔ x = y := by
    rw [sameResponse_iff]
    refine ⟨fun hc => ?_, congrArg sh.content⟩
    cases x <;> cases y
    case predicate.predicate p p' => rw [h (Sum.inr.inj hc)]
    all_goals first | rfl | cases hc
  have ht (t u : ResourceRules χ) : sh.sameTable t u ↔ t = u := by
    rw [sameTable_iff, eq_iff_of_sameOption hx]
  have ha (a b : ActionRule χ) : sh.sameRule a b ↔ a = b := by
    constructor
    · intro hs
      rcases sameRule_cases hs with ⟨x, y, rfl, rfl, hs⟩ | ⟨t, u, rfl, rfl, hs⟩
      · rw [(hx x y).mp hs]
      · rw [(ht t u).mp hs]
    · rintro rfl
      exact sh.equivalence_sameRule.refl a
  exact ⟨hx, ht, ha, fun r r' => sameRules_iff.trans (eq_iff_of_sameOption ha)⟩

theorem sound_and_literal (sh : Sharing χ) :
    sh.Sound ∧ ∀ [DecidableEq χ], (own : Sharing χ).Literal :=
  ⟨sh.sound, literal_of_injective Function.injective_id⟩

end Sharing

end

structure Handle where
  name : String
  copy : Nat
deriving DecidableEq

namespace Handle

instance : Callbacks Handle where
  holds h q := h.name == q.action.name
  ask h q := if h.name == q.action.name then some true else none

def onPredicate {χ : Type} (f : Handle → χ) : Predicate Handle → Predicate χ
  | .callback h => .callback (f h)
  | .condition o h expected => .condition o (f h) expected

def sharing : Sharing Handle where
  Instance := Predicate String
  decEq := inferInstance
  instanceOf := onPredicate Handle.name
  clone := onPredicate fun h => { h with copy := h.copy + 1 }
  instanceOf_clone p := by cases p <;> rfl
  call_eq
    | .callback ⟨_, _⟩, .callback ⟨_, _⟩, h => by
      cases h
      rfl
    | .condition _ ⟨_, _⟩ _, .condition _ ⟨_, _⟩ _, h => by
      cases h
      rfl

def vault : List (Action × ResourceKey × Response Handle) :=
  [(⟨"open"⟩, .named "vault", .predicate (.callback ⟨"open", 0⟩)), (⟨"open"⟩, .other, .deny)]

theorem vault_sound :
    let r := RuleSet.declareEach { name := "guard" } vault
    let r' := sharing.cloneRules (RuleSet.declareEach { name := "guard" } vault.reverse)
    r ≠ r' ∧ sharing.sameRules r r' ∧
      ∀ q id, (r.evaluate q id).answer = (r'.evaluate q id).answer := by
  intro r r'
  obtain ⟨h, -⟩ := Sharing.sound_and_literal sharing
  have hs : sharing.sameRules r r' := by
    refine h.roles.trans (h.order _ vault vault.reverse (List.reverse_perm _).symm (by decide)) ?_
    exact h.roles.symm (h.clones.2.2.2 _)
  refine ⟨fun he => ?_, hs, (h.agrees r r' hs rfl).evaluate⟩
  have hn : r.responseFor? ⟨"open"⟩ (.named "vault") ≠
      r'.responseFor? ⟨"open"⟩ (.named "vault") := by decide +kernel
  exact hn (by rw [he])

end Handle

end RolePolicy
