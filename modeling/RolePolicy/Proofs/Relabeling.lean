import RolePolicy.Proofs.Precedence

/-! Compiled conditions under other origins make a role with other predicates, and one that cannot
be told from it by asking. -/

namespace RolePolicy

variable {χ α β γ : Type}

lemma map_insert_of_extTreeMap [Ord α] [Std.TransOrd α] [Std.LawfulEqOrd α] (f : β → γ)
    (t : Std.ExtTreeMap α β) (k : α) (x : β) :
    (t.insert k x).map (fun _ => f) = (t.map fun _ => f).insert k (f x) := by
  refine Std.ExtTreeMap.ext_getElem? fun l => ?_
  rw [Std.ExtTreeMap.getElem?_map, Std.ExtTreeMap.getElem?_insert, Std.ExtTreeMap.getElem?_insert,
    Std.ExtTreeMap.getElem?_map]
  split <;> rfl

def Response.relabel (f : Origin → Origin) : Response χ → Response χ
  | predicate (.condition o check expected) => predicate (.condition (f o) check expected)
  | predicate (.callback c) => predicate (.callback c)
  | allow => allow
  | deny => deny
  | unset => unset

def ActionRule.relabel (f : Origin → Origin) : ActionRule χ → ActionRule χ
  | everywhere x => everywhere x
  | byResource rules => byResource (rules.map fun _ => Response.relabel f)

/-- The default and the rules for all resources stay as they are, for they were given and not
compiled. -/
def RuleSet.relabel (f : Origin → Origin) (r : RuleSet χ) : RuleSet χ :=
  { r with rules := r.rules.map fun _ => ActionRule.relabel f }

def Response.IsConditional : Response χ → Prop
  | predicate (.condition _ _ _) => True
  | _ => False

lemma Response.isConditional_relabel (f : Origin → Origin) (x : Response χ) :
    (x.relabel f).IsConditional ↔ x.IsConditional := by
  rcases x with _ | _ | _ | _ | _ <;> rfl

lemma Response.relabel_of_not_isConditional (f : Origin → Origin) {x : Response χ}
    (h : ¬ x.IsConditional) : x.relabel f = x := by
  rcases x with _ | _ | _ | _ | _
  · rfl
  · rfl
  · rfl
  · rfl
  · exact (h trivial).elim

def RuleSet.Unconditional (r : RuleSet χ) : Prop :=
  ∀ a k x, r.responseFor? a k = some x → ¬ x.IsConditional

/-- Roles that answer alike, and have the same rules unless conditions were compiled for them. -/
structure RuleSet.Interchangeable (r r' : RuleSet χ) : Prop where
  name_eq : r.name = r'.name
  parents_eq : r.parents = r'.parents
  default_eq : r.defaultResponse = r'.defaultResponse
  rules_eq : r.Unconditional → r.rules = r'.rules
  source_eq : ∀ id a, (r.select id a).map Prod.snd = (r'.select id a).map Prod.snd
  answer_eq : ∀ [Callbacks χ] (q : Request) (id : Option String),
    (r.evaluate q id).answer = (r'.evaluate q id).answer

namespace RuleSet

variable {f g : Origin → Origin} {r r' : RuleSet χ} {a : Action} {k : ResourceKey}
  {x : Response χ} {keys : List ResourceKey} {actions actions' : List Action}

lemma rule?_relabel (f : Origin → Origin) (r : RuleSet χ) (a : Action) :
    (r.relabel f).rule? a = (r.rule? a).map (ActionRule.relabel f) :=
  Std.ExtTreeMap.getElem?_map

lemma responseFor?_relabel (f : Origin → Origin) (r : RuleSet χ) (a : Action) (k : ResourceKey) :
    (r.relabel f).responseFor? a k = (r.responseFor? a k).map (Response.relabel f) := by
  rw [responseFor?, responseFor?, rule?_relabel]
  rcases r.rule? a with _ | _ | rules
  · rfl
  · rfl
  · exact Std.ExtTreeMap.getElem?_map

lemma relabel_ruleWith (f : Origin → Origin) (k : ResourceKey) (x : Response χ)
    (rule : Option (ActionRule χ)) : (ruleWith k x rule).relabel f =
      ruleWith k (x.relabel f) (rule.map (ActionRule.relabel f)) := by
  have h (t : ResourceRules χ) : (t.insert k x).map (fun _ => Response.relabel f) =
      (t.map fun _ => Response.relabel f).insert k (x.relabel f) :=
    map_insert_of_extTreeMap _ t k x
  have he : (∅ : ResourceRules χ).map (fun _ => Response.relabel f) = ∅ :=
    Std.ExtTreeMap.ext_getElem? fun l => by simp
  rcases rule with _ | _ | t <;> simp [ruleWith, ActionRule.relabel, h, he]

lemma relabel_declare (f : Origin → Origin) (r : RuleSet χ) (a : Action) (k : ResourceKey)
    (x : Response χ) : (r.declare a k x).relabel f = (r.relabel f).declare a k (x.relabel f) := by
  rw [declare, declare, rule?_relabel, ← relabel_ruleWith]
  exact congrArg (fun rules => { r with rules }) (map_insert_of_extTreeMap _ _ _ _)

lemma relabel_declareKeys (f : Origin → Origin) (r : RuleSet χ) (a : Action)
    (keys : List ResourceKey) (x : Response χ) :
    (r.declareKeys a keys x).relabel f = (r.relabel f).declareKeys a keys (x.relabel f) :=
  (List.foldl_hom (RuleSet.relabel f) fun r k => (relabel_declare f r a k x).symm).symm

lemma relabel_declareAll (f : Origin → Origin) (r : RuleSet χ) (actions : List Action)
    (keys : List ResourceKey) (x : Response χ) :
    (r.declareAll actions keys x).relabel f =
      (r.relabel f).declareAll actions keys (x.relabel f) :=
  (List.foldl_hom (RuleSet.relabel f) fun r a => (relabel_declareKeys f r a keys x).symm).symm

lemma relabel_respondAll (f : Origin → Origin) (r : RuleSet χ) (actions : List Action)
    (x : Response χ) : (r.respondAll actions x).relabel f = (r.relabel f).respondAll actions x := by
  have h (r : RuleSet χ) (a : Action) : (r.respond a x).relabel f = (r.relabel f).respond a x :=
    congrArg (fun rules => { r with rules }) (map_insert_of_extTreeMap _ _ _ _)
  exact (List.foldl_hom (RuleSet.relabel f) fun r a => (h r a).symm).symm

lemma relabel_addParents (f : Origin → Origin) (r : RuleSet χ) (names : List String) :
    (r.addParents names).relabel f = (r.relabel f).addParents names := by
  have h (r : RuleSet χ) (n : String) : (r.addParent n).relabel f = (r.relabel f).addParent n := by
    have hp : (r.relabel f).parents = r.parents := rfl
    rw [addParent, addParent, hp]
    split <;> rfl
  exact (List.foldl_hom (RuleSet.relabel f) fun r n => (h r n).symm).symm

lemma ext_rules (hf : r = { r' with rules := r.rules }) (h : ∀ a, r.rule? a = r'.rule? a) :
    r = r' := by
  rw [hf, Std.ExtTreeMap.ext_getElem? h]

lemma declareAll_congr (hk : keys ≠ []) (h : ∀ a, a ∈ actions ↔ a ∈ actions') :
    r.declareAll actions keys x = r.declareAll actions' keys x := by
  refine ext_rules ?_ fun a => ?_
  · rw [declareAll_frame, declareAll_frame _ _ _ actions']
  by_cases ha : a ∈ actions
  · obtain ⟨t, ht⟩ := r.exists_rule?_declareAll a keys x ha hk
    obtain ⟨t', ht'⟩ := r.exists_rule?_declareAll a keys x ((h a).mp ha) hk
    have he : t = t' := Std.ExtTreeMap.ext_getElem? fun k => by
      have hr := r.responseFor?_declareAll a keys k x actions
      have hr' := r.responseFor?_declareAll a keys k x actions'
      simp only [responseFor?, ht, ht', h a] at hr hr'
      rw [hr, hr']
    rw [ht, ht', he]
  · rw [rule?_declareAll_of_notMem _ _ _ _ ha,
      rule?_declareAll_of_notMem _ _ _ _ (mt (h a).mpr ha)]

lemma respondAll_congr (h : ∀ a, a ∈ actions ↔ a ∈ actions') :
    r.respondAll actions x = r.respondAll actions' x := by
  refine ext_rules ?_ fun a => ?_
  · rw [respondAll_frame, respondAll_frame _ _ actions']
  · simp only [rule?_respondAll, h a]

def relabelFound (f : Origin → Origin) : Response χ × MatchSource → Response χ × MatchSource
  | (x, .resource) => (x.relabel f, .resource)
  | (x, .wildcard) => (x.relabel f, .wildcard)
  | (x, .action) => (x, .action)
  | (x, .default) => (x, .default)

lemma Unnamed.relabel {id : Option String} (h : r.Unnamed id a) (f : Origin → Origin) :
    (r.relabel f).Unnamed id a := by
  refine ⟨fun x hx => ?_, fun i hi => by rw [responseFor?_relabel, h.2 i hi, Option.map_none]⟩
  rw [rule?_relabel] at hx
  obtain ⟨rule, hr, he⟩ := Option.map_eq_some_iff.mp hx
  cases rule with
  | everywhere y => exact h.1 y hr
  | byResource rules => cases he

lemma Governs.relabel {id : Option String} {found : Option (Response χ × MatchSource)}
    (h : r.Governs id a found) (f : Origin → Origin) :
    (r.relabel f).Governs id a (found.map (relabelFound f)) := by
  have hk {k : ResourceKey} {x : Option (Response χ)} (hx : r.responseFor? a k = x) :
      (r.relabel f).responseFor? a k = x.map (Response.relabel f) := by
    rw [responseFor?_relabel, hx]
  cases h with
  | action x hx => exact .action x (by rw [rule?_relabel, hx]; rfl)
  | resource i x hi hx => exact .resource i _ hi (hk hx)
  | wildcard x hu hx => exact .wildcard _ (hu.relabel f) (hk hx)
  | default x hu ho hx => exact .default x (hu.relabel f) (hk ho) hx
  | nothing hu ho hd => exact .nothing (hu.relabel f) (hk ho) hd

lemma select_relabel (f : Origin → Origin) (r : RuleSet χ) (id : Option String) (a : Action) :
    (r.relabel f).select id a = (r.select id a).map (relabelFound f) :=
  ((r.governs_select id a).relabel f).select_eq

lemma source_relabel (f : Origin → Origin) (r : RuleSet χ) (id : Option String) (a : Action) :
    ((r.relabel f).select id a).map Prod.snd = (r.select id a).map Prod.snd := by
  have h : Prod.snd ∘ relabelFound (χ := χ) f = Prod.snd := by
    funext found
    obtain ⟨x, _ | _ | _ | _⟩ := found <;> rfl
  rw [select_relabel, Option.map_map, h]

lemma answer_relabel [Callbacks χ] (f : Origin → Origin) (r : RuleSet χ) (q : Request)
    (id : Option String) : ((r.relabel f).evaluate q id).answer = (r.evaluate q id).answer := by
  have h (x : Response χ) : ((x.relabel f).evaluate q).answer = (x.evaluate q).answer := by
    rcases x with _ | _ | _ | _ | _ <;> rfl
  rw [evaluate, evaluate, select_relabel]
  cases r.select id q.action with
  | none => rfl
  | some found =>
    obtain ⟨x, _ | _ | _ | _⟩ := found
    · exact h x
    · exact h x
    · rfl
    · rfl

lemma relabel_eq_self (h : ∀ a k x, r.responseFor? a k = some x → x.relabel f = x) :
    r.relabel f = r := by
  refine ext_rules rfl fun a => ?_
  rw [rule?_relabel]
  cases hr : r.rule? a with
  | none => rfl
  | some rule =>
    cases rule with
    | everywhere x => rfl
    | byResource rules =>
      have hk (k : ResourceKey) : rules[k]? = r.responseFor? a k := by rw [responseFor?, hr]
      have he : rules.map (fun _ => Response.relabel f) = rules :=
        Std.ExtTreeMap.ext_getElem? fun k => by
          rw [Std.ExtTreeMap.getElem?_map, hk]
          cases hx : r.responseFor? a k with
          | none => rfl
          | some x => rw [Option.map_some, h a k x hx]
      rw [Option.map_some, ActionRule.relabel, he]

lemma map_responseFor?_of_relabel (h : r.relabel f = r'.relabel g) (a : Action) (k : ResourceKey) :
    (r.responseFor? a k).map (Response.relabel f) =
      (r'.responseFor? a k).map (Response.relabel g) := by
  rw [← responseFor?_relabel, h, responseFor?_relabel]

lemma interchangeable_of_relabel (h : r.relabel f = r'.relabel g) : r.Interchangeable r' where
  name_eq := (congrArg RuleSet.name h :)
  parents_eq := (congrArg RuleSet.parents h :)
  default_eq := (congrArg RuleSet.defaultResponse h :)
  rules_eq hr := by
    have hr' : r'.Unconditional := by
      intro a k x hx
      have he := map_responseFor?_of_relabel h a k
      rw [hx, Option.map_some] at he
      obtain ⟨y, hy, hyx⟩ := Option.map_eq_some_iff.mp he
      rw [← Response.isConditional_relabel g x, ← hyx, Response.isConditional_relabel]
      exact hr a k y hy
    rw [relabel_eq_self fun a k x hx => Response.relabel_of_not_isConditional f (hr a k x hx),
      relabel_eq_self fun a k x hx => Response.relabel_of_not_isConditional g (hr' a k x hx)] at h
    rw [h]
  source_eq id a := by rw [← source_relabel f r, h, source_relabel]
  answer_eq q id := by rw [← answer_relabel f r, h, answer_relabel]

lemma unconditional_of_relabel (h : r.relabel f = r'.relabel g) (hfg : ∀ o, f o ≠ g o)
    (he : r.rules = r'.rules) : r.Unconditional := by
  intro a k x hx hc
  have hx' : r'.responseFor? a k = some x := by
    rw [← hx, responseFor?, responseFor?, rule?, rule?, he]
  have hfx := map_responseFor?_of_relabel h a k
  rw [hx, hx', Option.map_some, Option.map_some, Option.some.injEq] at hfx
  rcases x with _ | _ | _ | _ | ⟨o, check, expected⟩
  case predicate.condition =>
    simp only [Response.relabel, Response.predicate.injEq, Predicate.condition.injEq] at hfx
    exact hfg o hfx.1
  all_goals exact hc

lemma relabel_relabel (f g : Origin → Origin) (r : RuleSet χ) :
    (r.relabel f).relabel g = r.relabel (g ∘ f) := by
  have hx (x : Response χ) : (x.relabel f).relabel g = x.relabel (g ∘ f) := by
    rcases x with _ | _ | _ | _ | _ <;> rfl
  refine ext_rules rfl fun a => ?_
  rw [rule?_relabel, rule?_relabel, rule?_relabel]
  rcases r.rule? a with _ | _ | t
  · rfl
  · rfl
  · have ht : (t.map fun _ => Response.relabel f).map (fun _ => Response.relabel g) =
        t.map fun _ => Response.relabel (g ∘ f) :=
      Std.ExtTreeMap.ext_getElem? fun k => by
        rw [Std.ExtTreeMap.getElem?_map, Std.ExtTreeMap.getElem?_map, Std.ExtTreeMap.getElem?_map,
          Option.map_map]
        exact congrArg (Option.map · t[k]?) (funext hx)
    simp only [Option.map_some, ActionRule.relabel, ht]

end RuleSet

end RolePolicy
