import Mathlib.Data.List.Forall2
import RolePolicy.Proofs.FreshSession
import RolePolicy.Proofs.Relabeling

/-! Two workshops that differ in the origins of conditions alone. Statements find them in the same
state and leave them so, and whoever uses their roles gets the same answers. -/

namespace RolePolicy

variable {χ ω : Type}

def Origin.shift (n : Nat) (o : Origin) : Origin := { o with build := o.build + n }

def Draft.relabel (f : Origin → Origin) (d : Draft χ) : Draft χ := ⟨d.rules.relabel f, f d.next⟩

/-- The workshop as it is in another program, whose builds are numbered from further on. -/
def Workshop.shift (n : Nat) (w : Workshop χ) : Workshop χ where
  session := { w.session with draft := w.session.draft.map (Draft.relabel (Origin.shift n)) }
  shelf := w.shelf.map (RuleSet.relabel (Origin.shift n))
  registry := { w.registry with roles := w.registry.roles.map (RuleSet.relabel (Origin.shift n)) }
  builds := w.builds + n

structure Draft.Like (f g : Origin → Origin) (d d' : Draft χ) : Prop where
  rules : d.rules.relabel f = d'.rules.relabel g
  next : ∀ k, f ⟨d.next.build, d.next.rank + k⟩ = g ⟨d'.next.build, d'.next.rank + k⟩

structure Workshop.Like (f g : Origin → Origin) (w w' : Workshop χ) : Prop where
  polarity : w.session.polarity = w'.session.polarity
  draft : Option.Rel (Draft.Like f g) w.session.draft w'.session.draft
  shelf : w.shelf.map (RuleSet.relabel f) = w'.shelf.map (RuleSet.relabel g)
  config : w.registry.config = w'.registry.config
  roles : w.registry.roles.map (RuleSet.relabel f) = w'.registry.roles.map (RuleSet.relabel g)
  builds : ∀ i k, f ⟨w.builds + i, k⟩ = g ⟨w'.builds + i, k⟩

def Done.Like (f g : Origin → Origin) (x y : Done χ ω) : Prop :=
  x.failure = y.failure ∧ x.workshop.Like f g y.workshop

def Run.Like (f g : Origin → Origin) (x y : Run χ ω) : Prop :=
  x.failure = y.failure ∧ x.workshop.Like f g y.workshop

def LikeOutcomes (f g : Origin → Origin) (x y : Except PolicyError (Product χ) × Workshop χ) :
    Prop :=
  failureOf x.1 = failureOf y.1 ∧ x.2.Like f g y.2

inductive LikeResults (f g : Origin → Origin) :
    Except PolicyError (RuleSet χ) × Workshop χ → Except PolicyError (RuleSet χ) × Workshop χ → Prop
  | error (e : PolicyError) {w w' : Workshop χ} : w.Like f g w' →
      LikeResults f g (.error e, w) (.error e, w')
  | ok {r r' : RuleSet χ} {w w' : Workshop χ} : r.relabel f = r'.relabel g → w.Like f g w' →
      LikeResults f g (.ok r, w) (.ok r', w')

def Step.Blind (catalog : Catalog) : Step χ ω → Prop
  | inspect view => ∀ w w' : Workshop χ, (view catalog w).2 = (view catalog w').2
  | start _ _ | finish | clause _ | addLatest => True

section

variable {catalog : Catalog} {f g : Origin → Origin} {d d' d₁ : Draft χ} {s : Statement χ}

lemma Draft.Like.name_eq (h : d.Like f g d') : d.rules.name = d'.rules.name :=
  (congrArg RuleSet.name h.rules :)

lemma Draft.Like.compile (h : d.Like f g d') (p : Polarity) (condition : Option (Condition χ)) :
    (d.compile p condition).1.relabel f = (d'.compile p condition).1.relabel g := by
  cases condition with
  | none => cases p <;> rfl
  | some c =>
    have hn : f d.next = g d'.next := h.next 0
    simp only [Draft.compile, Condition.compile, Condition.respond, Response.relabel, hn]

lemma Draft.Like.issue (h : d.Like f g d') (hs : d.issue catalog s = .ok d₁) :
    ∃ d₁', d'.issue catalog s = .ok d₁' ∧ d₁.Like f g d₁' := by
  have hf : s.clause.failure? catalog = none := by
    rw [← d.failureOf_issue, hs]
    rfl
  obtain ⟨d₁', hs'⟩ := d'.exists_issue hf
  refine ⟨d₁', hs', ?_, fun k => ?_⟩
  · obtain ⟨p, c⟩ := s
    cases c with
    | setDefault x =>
      cases hs
      cases hs'
      exact congrArg (fun r => r.setDefault x) h.rules
    | addParents names =>
      cases hs
      cases hs'
      simp only [RuleSet.relabel_addParents, h.rules]
    | declare action keys condition =>
      obtain ⟨actions, hr, rfl⟩ := issue_declare hs
      obtain ⟨_, hr', rfl⟩ := issue_declare hs'
      obtain rfl := Except.ok.inj (hr.symm.trans hr')
      simp only [RuleSet.relabel_declareAll, h.rules, h.compile]
    | respond action x =>
      obtain ⟨actions, hr, rfl⟩ := issue_respond hs
      obtain ⟨_, hr', rfl⟩ := issue_respond hs'
      obtain rfl := Except.ok.inj (hr.symm.trans hr')
      simp only [RuleSet.relabel_respondAll, h.rules]
  · rw [next_issue hs, next_issue hs']
    cases s.clause.isConditional with
    | false => exact h.next k
    | true =>
      simp only [if_true, Origin.next, Nat.add_assoc]
      exact h.next (1 + k)

end

section

variable {catalog : Catalog} {f g : Origin → Origin} {w w' : Workshop χ} {s s' : Session χ}
  {name : String} {parents : List String} {c : Clause χ} {caught : Bool}

lemma Workshop.Like.session (h : w.Like f g w') (hp : s.polarity = s'.polarity)
    (hd : Option.Rel (Draft.Like f g) s.draft s'.draft) :
    ({ w with session := s } : Workshop χ).Like f g { w' with session := s' } :=
  ⟨hp, hd, h.shelf, h.config, h.roles, h.builds⟩

lemma Draft.like_start (h : w.Like f g w') (name : String) (parents : List String) :
    (Draft.start w.builds name parents : Draft χ).Like f g (.start w'.builds name parents) := by
  have he (f : Origin → Origin) : ({ name } : RuleSet χ).relabel f = { name } :=
    RuleSet.relabel_eq_self fun a k x hx => by simp [RuleSet.responseFor?, RuleSet.rule?] at hx
  refine ⟨?_, fun k => h.builds 0 (0 + k)⟩
  rw [Draft.start, Draft.start, RuleSet.relabel_addParents, RuleSet.relabel_addParents, he, he]

lemma Workshop.Like.opened (h : w.Like f g w') (name : String) (parents : List String) :
    ({ w with session := ⟨some (.start w.builds name parents), .allow⟩, builds := w.builds + 1 } :
      Workshop χ).Like f g { w' with session := ⟨some (.start w'.builds name parents), .allow⟩
                                     builds := w'.builds + 1 } := by
  refine ⟨rfl, .some (Draft.like_start h name parents), h.shelf, h.config, h.roles, fun i k => ?_⟩
  simp only [Nat.add_assoc]
  exact h.builds (1 + i) k

lemma Workshop.clause_of_closed (hw : w.session.draft = none) (catalog : Catalog)
    (c : Clause χ) : w.clause catalog c = (.error .noOpenRole, w) := by
  rw [clause, Session.apply, hw]

lemma Workshop.Like.cases (h : w.Like f g w') :
    (w.session.draft = none ∧ w'.session.draft = none) ∨
      ∃ d d' p, w.session = ⟨some d, p⟩ ∧ w'.session = ⟨some d', p⟩ ∧ d.Like f g d' := by
  obtain ⟨⟨draft, p⟩, shelf, registry⟩ := w
  obtain ⟨⟨draft', p'⟩, shelf', registry'⟩ := w'
  obtain rfl : p = p' := h.polarity
  cases h.draft with
  | none => exact Or.inl ⟨rfl, rfl⟩
  | some hd => exact Or.inr ⟨_, _, p, rfl, rfl, hd⟩

lemma Workshop.Like.clause (h : w.Like f g w') (catalog : Catalog) (c : Clause χ) :
    LikeOutcomes f g (w.clause catalog c) (w'.clause catalog c) := by
  rcases h.cases with ⟨hw, hw'⟩ | ⟨d, d', p, hw, hw', hd⟩
  · rw [clause_of_closed hw, clause_of_closed hw']
    exact ⟨rfl, h⟩
  · cases hc : c.failure? catalog with
    | some e =>
      rw [clause_of_failure? hw hc, clause_of_failure? hw' hc]
      exact ⟨rfl, h⟩
    | none =>
      obtain ⟨d₁, hs⟩ := d.exists_issue (s := ⟨p, c⟩) hc
      obtain ⟨d₁', hs', hd₁⟩ := hd.issue hs
      rw [clause_of_issue hw hs, clause_of_issue hw' hs']
      exact ⟨rfl, h.session rfl (.some hd₁)⟩

lemma Workshop.Like.start (h : w.Like f g w') (name : String) (parents : List String) :
    LikeOutcomes f g (w.start name parents) (w'.start name parents) := by
  rw [Workshop.start, Workshop.start]
  rcases h.cases with ⟨hw, hw'⟩ | ⟨d, d', p, hw, hw', hd⟩
  · rw [Session.start_of_closed hw, Session.start_of_closed hw']
    exact ⟨rfl, h.opened name parents⟩
  · rw [Session.start_of_open (by rw [hw]), Session.start_of_open (by rw [hw']), hd.name_eq]
    exact ⟨rfl, h⟩

lemma Workshop.Like.finish (h : w.Like f g w') : LikeResults f g w.finish w'.finish := by
  rw [Workshop.finish, Workshop.finish, Session.finish, Session.finish]
  rcases h.cases with ⟨hw, hw'⟩ | ⟨d, d', p, hw, hw', hd⟩
  · rw [hw, hw']
    exact .error _ h
  · rw [hw, hw']
    exact .ok hd.rules (h.session rfl .none)

lemma LikeResults.shelve {x y : Except PolicyError (RuleSet χ) × Workshop χ}
    (h : LikeResults f g x y) : LikeOutcomes f g (Workshop.shelve x) (Workshop.shelve y) := by
  cases h with
  | error e hw => exact ⟨rfl, hw⟩
  | ok hr hw =>
    refine ⟨rfl, hw.polarity, hw.draft, ?_, hw.config, hw.roles, hw.builds⟩
    exact congrArg₂ List.cons hr hw.shelf

lemma Workshop.Like.names_eq (h : w.Like f g w') : w.registry.names = w'.registry.names := by
  have hr := congrArg (List.map RuleSet.name) h.roles
  rw [List.map_map, List.map_map] at hr
  exact hr

lemma Workshop.Like.addLatest (h : w.Like f g w') : LikeOutcomes f g w.addLatest w'.addLatest := by
  have hs := h.shelf
  rw [Workshop.addLatest, Workshop.addLatest]
  cases hw : w.shelf with
  | nil =>
    rw [hw, List.map_nil, eq_comm, List.map_eq_nil_iff] at hs
    rw [hs]
    exact ⟨rfl, h⟩
  | cons r shelf =>
    rw [hw, List.map_cons, eq_comm, List.map_eq_cons_iff] at hs
    obtain ⟨r', shelf', hw', hr, hshelf⟩ := hs
    have hn : r'.name = r.name := (congrArg RuleSet.name hr :)
    have hc : w'.registry.contains r.name = w.registry.contains r.name := by
      rw [Bool.eq_iff_iff, Registry.contains_iff_mem_names, Registry.contains_iff_mem_names,
        h.names_eq]
    rw [hw']
    simp only [Registry.add, hn, hc]
    cases w.registry.contains r.name with
    | true => exact ⟨rfl, h.polarity, h.draft, hshelf.symm, h.config, h.roles, h.builds⟩
    | false =>
      have hroles : (w.registry.roles ++ [r]).map (RuleSet.relabel f) =
          (w'.registry.roles ++ [r']).map (RuleSet.relabel g) := by
        rw [List.map_append, List.map_append, h.roles, List.map_singleton, List.map_singleton, hr]
      exact ⟨rfl, h.polarity, h.draft, hshelf.symm, h.config, hroles, h.builds⟩

lemma LikeOutcomes.step {x y : Except PolicyError (Product χ) × Workshop χ}
    (h : LikeOutcomes f g x y) : (Done.step x : Done χ ω).Like f g (Done.step y) :=
  h

lemma LikeOutcomes.block {x y : Except PolicyError (Product χ) × Workshop χ}
    (h : LikeOutcomes f g x y) (entries entries' : List (Entry χ ω)) :
    (Done.block entries x).Like f g (Done.block entries' y) :=
  h

lemma Step.like_run {s : Step χ ω} (hs : s.Blind catalog) (h : w.Like f g w') :
    (s.run catalog w).Like f g (s.run catalog w') := by
  cases s with
  | start name parents => exact (h.start name parents).step
  | finish => exact h.finish.shelve.step
  | clause c => exact (h.clause catalog c).step
  | addLatest => exact h.addLatest.step
  | inspect view => exact ⟨hs w w', h⟩

variable {body body' rest rest' : Workshop χ → Run χ ω}

lemma Workshop.Like.setPolarity (h : w.Like f g w') (p : Polarity) :
    (w.setPolarity p).Like f g (w'.setPolarity p) :=
  h.session rfl h.draft

lemma Workshop.within_of_closed (hw : w.session.draft = none) (p : Polarity) :
    w.within p body = ([], .error .noOpenRole, w) := by
  rw [within, Session.isDefining, hw]
  rfl

lemma Workshop.Like.within (h : w.Like f g w') (p : Polarity)
    (hb : ∀ v v' : Workshop χ, v.Like f g v' → (body v).Like f g (body' v')) :
    (Done.block (w.within p body).1 (w.within p body).2).Like f g
      (Done.block (w'.within p body').1 (w'.within p body').2) := by
  rcases h.cases with ⟨hw, hw'⟩ | ⟨d, d', q, hw, hw', hd⟩
  · rw [within_of_closed hw, within_of_closed hw']
    exact ⟨rfl, h⟩
  · obtain ⟨hf, hr⟩ := hb _ _ (h.setPolarity p)
    refine ⟨?_, ?_⟩
    · rw [Done.failure_block_within hw, Done.failure_block_within hw', hf]
    · rw [Done.workshop_block_within hw, Done.workshop_block_within hw']
      exact hr.setPolarity q

lemma Workshop.Like.define (h : w.Like f g w') (name : String) (parents : List String)
    (hb : ∀ v v' : Workshop χ, v.Like f g v' → (body v).Like f g (body' v')) :
    LikeResults f g (w.define name parents body).2 (w'.define name parents body').2 := by
  rcases h.cases with ⟨hw, hw'⟩ | ⟨d, d', q, hw, hw', hd⟩
  · obtain ⟨hf, hr⟩ := hb _ _ (h.opened name parents)
    rw [Workshop.define, Workshop.define, Session.start_of_closed hw, Session.start_of_closed hw']
    simp only [hf]
    cases (body' _).failure with
    | some e => exact .error e (hr.session rfl .none)
    | none => exact hr.finish
  · have hn := hd.name_eq
    rw [define_of_draft (d := d) (by rw [hw]), define_of_draft (d := d') (by rw [hw']), hn]
    exact .error _ h

lemma Done.Like.andThen {x y : Done χ ω} (h : x.Like f g y) (caught : Bool)
    (hr : ∀ v v' : Workshop χ, v.Like f g v' → (rest v).Like f g (rest' v')) :
    (x.andThen caught rest).Like f g (y.andThen caught rest') := by
  obtain ⟨hf, hw⟩ := h
  rw [Done.andThen_eq, Done.andThen_eq, hf]
  split
  · exact ⟨rfl, hw⟩
  · exact hr _ _ hw

end

structure Workshop.Paired (R : RuleSet χ → RuleSet χ → Prop) (w w' : Workshop χ) : Prop where
  polarity : w.session.polarity = w'.session.polarity
  draft : Option.Rel (fun d d' : Draft χ => R d.rules d'.rules) w.session.draft w'.session.draft
  shelf : List.Forall₂ R w.shelf w'.shelf
  config : w.registry.config = w'.registry.config
  roles : List.Forall₂ R w.registry.roles w'.registry.roles

section

variable {f g : Origin → Origin} {R : RuleSet χ → RuleSet χ → Prop}

lemma forall₂_of_relabel (hR : ∀ r r' : RuleSet χ, r.relabel f = r'.relabel g → R r r')
    {l l' : List (RuleSet χ)} (h : l.map (RuleSet.relabel f) = l'.map (RuleSet.relabel g)) :
    List.Forall₂ R l l' := by
  rw [← List.forall₂_eq_eq_eq, List.forall₂_map_left_iff, List.forall₂_map_right_iff] at h
  exact h.imp hR

lemma Workshop.Like.paired {w w' : Workshop χ} (h : w.Like f g w')
    (hR : ∀ r r' : RuleSet χ, r.relabel f = r'.relabel g → R r r') : w.Paired R w' where
  polarity := h.polarity
  draft := by
    rcases h.cases with ⟨hw, hw'⟩ | ⟨d, d', p, hw, hw', hd⟩
    · rw [hw, hw']
      exact .none
    · rw [hw, hw']
      exact .some (hR _ _ hd.rules)
  shelf := forall₂_of_relabel hR h.shelf
  config := h.config
  roles := forall₂_of_relabel hR h.roles

end

lemma RuleSet.relabel_id (r : RuleSet χ) : r.relabel id = r := by
  refine relabel_eq_self fun a k x _ => ?_
  rcases x with _ | _ | _ | _ | _ <;> rfl

lemma Draft.Like.eq_relabel {f : Origin → Origin} {d d' : Draft χ} (h : d.Like f id d') :
    d' = d.relabel f := by
  have hn : f d.next = d'.next := h.next 0
  rw [Draft.relabel, h.rules, hn, RuleSet.relabel_id]

lemma Workshop.Like.eq_shift {n : Nat} {w w' : Workshop χ} (h : w.Like (Origin.shift n) id w') :
    w' = w.shift n := by
  have hid : RuleSet.relabel (χ := χ) id = id := funext RuleSet.relabel_id
  have hshelf := h.shelf
  have hroles := h.roles
  have hbuilds : w.builds + n = w'.builds := congrArg Origin.build (h.builds 0 0)
  rw [hid, List.map_id] at hshelf hroles
  have hsession : w'.session = (w.shift n).session := by
    rcases h.cases with ⟨hw, hw'⟩ | ⟨d, d', p, hw, hw', hd⟩
    · refine congrArg₂ Session.mk ?_ h.polarity.symm
      rw [hw, hw']
      rfl
    · rw [hw', Workshop.shift, hw, hd.eq_relabel]
      rfl
  obtain ⟨session, shelf, ⟨roles, config⟩, builds⟩ := w'
  obtain rfl := hshelf
  obtain rfl := hroles
  obtain rfl := hbuilds
  obtain rfl := hsession
  obtain rfl := h.config
  rfl

lemma Workshop.like_shift (g : Origin → Origin) (n : Nat) (w : Workshop χ) :
    w.Like (g ∘ Origin.shift n) g (w.shift n) := by
  have hl (l : List (RuleSet χ)) : l.map (RuleSet.relabel (g ∘ Origin.shift n)) =
      (l.map (RuleSet.relabel (Origin.shift n))).map (RuleSet.relabel g) := by
    rw [List.map_map]
    exact congrArg (List.map · l) (funext fun r => (r.relabel_relabel _ _).symm)
  refine ⟨rfl, ?_, hl w.shelf, rfl, hl w.registry.roles, fun i k => ?_⟩
  · rw [Workshop.shift]
    cases w.session.draft with
    | none => exact .none
    | some d => exact .some ⟨(d.rules.relabel_relabel _ _).symm, fun k => rfl⟩
  · simp only [Function.comp_apply, Origin.shift, Workshop.shift, Nat.add_right_comm]

end RolePolicy
