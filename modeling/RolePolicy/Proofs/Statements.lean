import Mathlib.Tactic.Common
import RolePolicy.Session

namespace RolePolicy

variable {χ : Type}

structure Statement (χ : Type) where
  polarity : Polarity
  clause : Clause χ

def Catalog.StandsFor (catalog : Catalog) (name : String) (a : Action) : Prop :=
  ∃ actions, catalog.resolve name = .ok actions ∧ a ∈ actions

def ResourceKey.Covers (keys : List ResourceKey) (k : ResourceKey) : Prop :=
  if keys = [] ∨ other ∈ keys then k = other else k ∈ keys

namespace Clause

variable (catalog : Catalog) (a : Action)

def Declares : Clause χ → Prop
  | declare action _ _ => catalog.StandsFor action a
  | _ => False

def DeclaresAt (k : ResourceKey) : Clause χ → Prop
  | declare action keys _ => catalog.StandsFor action a ∧ ResourceKey.Covers keys k
  | _ => False

def RespondsWith (x : Response χ) : Clause χ → Prop
  | respond action y => catalog.StandsFor action a ∧ x = y
  | _ => False

def Responds : Clause χ → Prop
  | respond action _ => catalog.StandsFor action a
  | _ => False

def Touches (c : Clause χ) : Prop := c.Declares catalog a ∨ c.Responds catalog a

def default? : Clause χ → Option (Response χ)
  | setDefault x => some x
  | _ => none

def parents : Clause χ → List String
  | addParents names => names
  | _ => []

def isConditional : Clause χ → Bool
  | declare _ _ (some _) => true
  | _ => false

end Clause

def Statement.declared (build : Nat) (before : List (Statement χ)) (s : Statement χ) :
    Option (Response χ) :=
  match s.clause with
  | .declare _ _ none => some (.ofPolarity s.polarity)
  | .declare _ _ (some c) =>
    some (c.respond s.polarity ⟨build, before.countP fun t => t.clause.isConditional⟩)
  | _ => none

def Draft.issue (catalog : Catalog) (d : Draft χ) (s : Statement χ) :
    Except CatalogError (Draft χ) :=
  d.apply catalog s.polarity s.clause

def Draft.issueAll (catalog : Catalog) (d : Draft χ) :
    List (Statement χ) → Except CatalogError (Draft χ)
  | [] => .ok d
  | s :: statements =>
    match d.issue catalog s with
    | .error e => .error e
    | .ok d' => d'.issueAll catalog statements

def Session.issue (catalog : Catalog) (t : Session χ) (s : Statement χ) :
    Except PolicyError (Session χ) :=
  { t with polarity := s.polarity }.apply catalog s.clause

def Session.issueAll (catalog : Catalog) (t : Session χ) :
    List (Statement χ) → Except PolicyError (Session χ)
  | [] => .ok t
  | s :: statements =>
    match t.issue catalog s with
    | .error e => .error e
    | .ok t' => t'.issueAll catalog statements

lemma Clause.responds_iff {catalog : Catalog} {a : Action} {c : Clause χ} :
    c.Responds catalog a ↔ ∃ x, c.RespondsWith catalog a x := by
  cases c <;> simp [Responds, RespondsWith]

lemma Clause.respondsWith_iff {catalog : Catalog} {a : Action} {c : Clause χ} {x y : Response χ}
    (h : c.RespondsWith catalog a y) : c.RespondsWith catalog a x ↔ x = y := by
  cases c with
  | respond action z =>
    obtain ⟨hs, rfl⟩ := h
    exact ⟨And.right, fun hx => ⟨hs, hx⟩⟩
  | setDefault | addParents | declare => exact h.elim

lemma Clause.not_declares_of_responds {catalog : Catalog} {a : Action} {c : Clause χ}
    (h : c.Responds catalog a) : ¬ c.Declares catalog a := by
  cases c with
  | respond => exact id
  | setDefault | addParents | declare => exact h.elim

lemma ResourceKey.mem_effective {keys : List ResourceKey} {k : ResourceKey} :
    k ∈ effective keys ↔ Covers keys k := by
  have hany : keys.any isOther = true ↔ other ∈ keys := by
    rw [List.any_eq_true]
    constructor
    · rintro ⟨l, hl, ho⟩
      cases l with
      | named => cases ho
      | other => exact hl
    · exact fun h => ⟨other, h, rfl⟩
  simp only [effective, Covers, Bool.or_eq_true, hany, List.isEmpty_iff]
  split
  · simp
  · rfl

lemma ResourceKey.effective_ne_nil (keys : List ResourceKey) : effective keys ≠ [] := by
  rw [effective]
  split
  · simp
  · rename_i h
    intro hn
    simp [hn] at h

namespace RuleSet

variable (r : RuleSet χ) (a b : Action) (keys : List ResourceKey) (k : ResourceKey)
  (x : Response χ)

lemma responseFor?_of_everywhere {r : RuleSet χ} {a : Action} {k : ResourceKey}
    {x : Response χ} (h : r.rule? a = some (.everywhere x)) : r.responseFor? a k = none := by
  rw [responseFor?, h]

lemma exists_rule?_of_responseFor? {r : RuleSet χ} {a : Action} {k : ResourceKey}
    {x : Response χ} (h : r.responseFor? a k = some x) : ∃ t, r.rule? a = some (.byResource t) := by
  rw [responseFor?] at h
  split at h
  · exact ⟨_, ‹_›⟩
  · cases h

def declareKeys (r : RuleSet χ) (a : Action) (keys : List ResourceKey) (x : Response χ) :
    RuleSet χ :=
  keys.foldl (fun r k => r.declare a k x) r

lemma rule?_declareKeys_of_ne (h : a ≠ b) : (r.declareKeys a keys x).rule? b = r.rule? b := by
  induction keys generalizing r with
  | nil => rfl
  | cons l keys ih =>
    rw [declareKeys, List.foldl_cons, ← declareKeys, ih, rule?_declare, if_neg h]

lemma responseFor?_declareKeys :
    (r.declareKeys a keys x).responseFor? a k =
      if k ∈ keys then some x else r.responseFor? a k := by
  induction keys generalizing r with
  | nil => simp [declareKeys]
  | cons l keys ih =>
    rw [declareKeys, List.foldl_cons, ← declareKeys, ih, responseFor?_declare]
    by_cases hk : k ∈ keys
    · simp [hk]
    · by_cases hl : l = k
      · simp [hl]
      · simp [hk, hl, Ne.symm hl]

lemma declareAll_cons (actions : List Action) :
    r.declareAll (a :: actions) keys x = (r.declareKeys a keys x).declareAll actions keys x :=
  rfl

lemma rule?_declareAll_of_notMem {actions : List Action} (h : a ∉ actions) :
    (r.declareAll actions keys x).rule? a = r.rule? a := by
  induction actions generalizing r with
  | nil => rfl
  | cons b actions ih =>
    obtain ⟨hb, ha⟩ := List.ne_and_not_mem_of_not_mem_cons h
    rw [declareAll_cons, ih _ ha, rule?_declareKeys_of_ne _ _ _ _ _ (Ne.symm hb)]

lemma responseFor?_declareAll (actions : List Action) :
    (r.declareAll actions keys x).responseFor? a k =
      if a ∈ actions ∧ k ∈ keys then some x else r.responseFor? a k := by
  induction actions generalizing r with
  | nil => simp [declareAll]
  | cons b actions ih =>
    rw [declareAll_cons, ih]
    by_cases hb : b = a
    · subst hb
      rw [responseFor?_declareKeys]
      by_cases hk : k ∈ keys <;> simp [hk]
    · have hr : (r.declareKeys b keys x).responseFor? a k = r.responseFor? a k := by
        rw [responseFor?, rule?_declareKeys_of_ne _ _ _ _ _ hb, responseFor?]
      simp [hr, Ne.symm hb]

lemma exists_rule?_declareAll {actions : List Action} (ha : a ∈ actions) (hk : keys ≠ []) :
    ∃ t, (r.declareAll actions keys x).rule? a = some (.byResource t) := by
  obtain ⟨k, hk⟩ := List.exists_mem_of_ne_nil keys hk
  have h := r.responseFor?_declareAll a keys k x actions
  rw [if_pos ⟨ha, hk⟩] at h
  exact exists_rule?_of_responseFor? h

lemma rule?_respondAll (actions : List Action) :
    (r.respondAll actions x).rule? a =
      if a ∈ actions then some (.everywhere x) else r.rule? a := by
  induction actions generalizing r with
  | nil => simp [respondAll]
  | cons b actions ih =>
    rw [respondAll, List.foldl_cons, ← respondAll, ih, rule?_respond]
    by_cases ha : a ∈ actions
    · simp [ha]
    · by_cases hb : b = a
      · simp [hb]
      · simp [ha, hb, Ne.symm hb]

lemma declareKeys_frame :
    r.declareKeys a keys x = { r with rules := (r.declareKeys a keys x).rules } := by
  induction keys generalizing r with
  | nil => rfl
  | cons l keys ih =>
    rw [declareKeys, List.foldl_cons, ← declareKeys, ih]
    rfl

lemma declareAll_frame (actions : List Action) :
    r.declareAll actions keys x = { r with rules := (r.declareAll actions keys x).rules } := by
  induction actions generalizing r with
  | nil => rfl
  | cons b actions ih =>
    rw [declareAll_cons, ih, declareKeys_frame]

lemma respondAll_frame (actions : List Action) :
    r.respondAll actions x = { r with rules := (r.respondAll actions x).rules } := by
  induction actions generalizing r with
  | nil => rfl
  | cons b actions ih =>
    rw [respondAll, List.foldl_cons, ← respondAll, ih]
    rfl

lemma addParent_frame (n : String) :
    r.addParent n = { r with parents := (r.addParent n).parents } := by
  rw [addParent]
  split <;> rfl

lemma addParents_frame (names : List String) :
    r.addParents names = { r with parents := (r.addParents names).parents } := by
  induction names generalizing r with
  | nil => rfl
  | cons n names ih =>
    rw [addParents, List.foldl_cons, ← addParents, ih, addParent_frame]

lemma parents_addParents {l : List String} (h : r.parents = l.eraseDups) (names : List String) :
    (r.addParents names).parents = (l ++ names).eraseDups := by
  induction names generalizing r l with
  | nil => simpa [addParents] using h
  | cons n names ih =>
    have hn : (r.addParent n).parents = (l ++ [n]).eraseDups := by
      rw [addParent, List.eraseDups_append, ← h]
      by_cases hm : n ∈ l <;> simp [h, hm, List.removeAll, List.eraseDups_cons]
    rw [addParents, List.foldl_cons, ← addParents, ih _ hn]
    simp

end RuleSet

lemma Catalog.standsFor_iff {catalog : Catalog} {name : String} {actions : List Action}
    {a : Action} (h : catalog.resolve name = .ok actions) :
    catalog.StandsFor name a ↔ a ∈ actions := by
  constructor
  · rintro ⟨l, hl, ha⟩
    obtain rfl := Except.ok.inj (h.symm.trans hl)
    exact ha
  · exact fun ha => ⟨actions, h, ha⟩

lemma exists_of_map_eq_ok {ε α β : Type} {x : Except ε α} {f : α → β} {b : β}
    (h : x.map f = .ok b) : ∃ a, x = .ok a ∧ b = f a := by
  cases x with
  | error e => cases h
  | ok a => exact ⟨a, rfl, (Except.ok.inj h).symm⟩

namespace Draft

variable {catalog : Catalog} {d d' : Draft χ} {s : Statement χ} {a : Action} {k : ResourceKey}
  {x : Response χ}

lemma issue_declare {p : Polarity} {action : String} {keys : List ResourceKey}
    {condition : Option (Condition χ)}
    (h : d.issue catalog ⟨p, .declare action keys condition⟩ = .ok d') :
    ∃ actions, catalog.resolve action = .ok actions ∧
      d' = ⟨d.rules.declareAll actions (ResourceKey.effective keys) (d.compile p condition).1,
        (d.compile p condition).2⟩ :=
  exists_of_map_eq_ok h

lemma issue_respond {p : Polarity} {action : String} {y : Response χ}
    (h : d.issue catalog ⟨p, .respond action y⟩ = .ok d') :
    ∃ actions, catalog.resolve action = .ok actions ∧
      d' = { d with rules := d.rules.respondAll actions y } :=
  exists_of_map_eq_ok h

lemma rule?_issue_of_not_touches (h : d.issue catalog s = .ok d')
    (ha : ¬ s.clause.Touches catalog a) : d'.rules.rule? a = d.rules.rule? a := by
  obtain ⟨p, c⟩ := s
  cases c with
  | setDefault y => cases h; rfl
  | addParents names =>
    cases h
    simp only
    rw [RuleSet.addParents_frame]
    rfl
  | declare action keys condition =>
    obtain ⟨actions, hr, rfl⟩ := issue_declare h
    have hn : a ∉ actions := fun hm => ha (Or.inl ⟨actions, hr, hm⟩)
    exact RuleSet.rule?_declareAll_of_notMem _ _ _ _ hn
  | respond action y =>
    obtain ⟨actions, hr, rfl⟩ := issue_respond h
    have hn : a ∉ actions := fun hm => ha (Or.inr ⟨actions, hr, hm⟩)
    simp [RuleSet.rule?_respondAll, hn]

lemma rule?_issue_of_respondsWith (h : d.issue catalog s = .ok d')
    (ha : s.clause.RespondsWith catalog a x) : d'.rules.rule? a = some (.everywhere x) := by
  obtain ⟨p, c⟩ := s
  cases c with
  | respond action y =>
    obtain ⟨actions, hr, rfl⟩ := issue_respond h
    obtain ⟨hm, rfl⟩ := ha
    simp [RuleSet.rule?_respondAll, (Catalog.standsFor_iff hr).mp hm]
  | setDefault | addParents | declare => exact ha.elim

lemma rule?_issue_of_declares (h : d.issue catalog s = .ok d')
    (ha : s.clause.Declares catalog a) : ∃ t, d'.rules.rule? a = some (.byResource t) := by
  obtain ⟨p, c⟩ := s
  cases c with
  | declare action keys condition =>
    obtain ⟨actions, hr, rfl⟩ := issue_declare h
    have hm := (Catalog.standsFor_iff hr).mp ha
    exact RuleSet.exists_rule?_declareAll _ _ _ _ hm (ResourceKey.effective_ne_nil keys)
  | setDefault | addParents | respond => exact ha.elim

lemma responseFor?_issue_of_declares (h : d.issue catalog s = .ok d')
    (ha : s.clause.Declares catalog a) (hk : ¬ s.clause.DeclaresAt catalog a k) :
    d'.rules.responseFor? a k = d.rules.responseFor? a k := by
  obtain ⟨p, c⟩ := s
  cases c with
  | declare action keys condition =>
    obtain ⟨actions, hr, rfl⟩ := issue_declare h
    have hn : k ∉ ResourceKey.effective keys := fun hm =>
      hk ⟨ha, ResourceKey.mem_effective.mp hm⟩
    simp [RuleSet.responseFor?_declareAll, hn]
  | setDefault | addParents | respond => exact ha.elim

lemma responseFor?_issue_of_not_touches (h : d.issue catalog s = .ok d')
    (ha : ¬ s.clause.Touches catalog a) :
    d'.rules.responseFor? a k = d.rules.responseFor? a k := by
  rw [RuleSet.responseFor?, rule?_issue_of_not_touches h ha, RuleSet.responseFor?]

lemma responseFor?_issue_of_not (h : d.issue catalog s = .ok d')
    (hk : ¬ s.clause.DeclaresAt catalog a k) (hr : ¬ s.clause.Responds catalog a) :
    d'.rules.responseFor? a k = d.rules.responseFor? a k := by
  by_cases hd : s.clause.Declares catalog a
  · exact responseFor?_issue_of_declares h hd hk
  · exact responseFor?_issue_of_not_touches h (not_or.mpr ⟨hd, hr⟩)

lemma responseFor?_issue_of_declaresAt {build : Nat} {before : List (Statement χ)}
    (h : d.issue catalog s = .ok d')
    (hn : d.next = ⟨build, before.countP fun t => t.clause.isConditional⟩)
    (ha : s.clause.DeclaresAt catalog a k) :
    d'.rules.responseFor? a k = s.declared build before := by
  obtain ⟨p, c⟩ := s
  cases c with
  | declare action keys condition =>
    obtain ⟨actions, hr, rfl⟩ := issue_declare h
    have hm := (Catalog.standsFor_iff hr).mp ha.1
    have hk := ResourceKey.mem_effective.mpr ha.2
    rw [RuleSet.responseFor?_declareAll, if_pos ⟨hm, hk⟩]
    cases condition with
    | none => rfl
    | some c => simp only [compile, Condition.compile, Statement.declared, hn]
  | setDefault | addParents | respond => exact ha.elim

lemma next_issue (h : d.issue catalog s = .ok d') :
    d'.next = if s.clause.isConditional then d.next.next else d.next := by
  obtain ⟨p, c⟩ := s
  cases c with
  | setDefault y => cases h; rfl
  | addParents names => cases h; rfl
  | declare action keys condition =>
    obtain ⟨actions, _, rfl⟩ := issue_declare h
    cases condition <;> rfl
  | respond action y =>
    obtain ⟨actions, _, rfl⟩ := issue_respond h
    rfl

lemma issueAll_cons {statements : List (Statement χ)} :
    d.issueAll catalog (s :: statements) = .ok d' ↔
      ∃ d₁, d.issue catalog s = .ok d₁ ∧ d₁.issueAll catalog statements = .ok d' := by
  rw [issueAll]
  cases d.issue catalog s with
  | error e => simp
  | ok d₁ => simp

lemma frame_issue (h : d.issue catalog s = .ok d') :
    d'.rules = {
      name := d.rules.name
      rules := d'.rules.rules
      defaultResponse := s.clause.default?.or d.rules.defaultResponse
      parents := (d.rules.addParents s.clause.parents).parents } := by
  obtain ⟨p, c⟩ := s
  cases c with
  | setDefault y =>
    cases h
    rfl
  | addParents names =>
    cases h
    simp only
    rw [RuleSet.addParents_frame]
    rfl
  | declare action keys condition =>
    obtain ⟨actions, _, rfl⟩ := issue_declare h
    simp only
    rw [RuleSet.declareAll_frame]
    rfl
  | respond action y =>
    obtain ⟨actions, _, rfl⟩ := issue_respond h
    simp only
    rw [RuleSet.respondAll_frame]
    rfl

lemma name_issue (h : d.issue catalog s = .ok d') : d'.rules.name = d.rules.name := by
  rw [frame_issue h]

lemma defaultResponse_issue (h : d.issue catalog s = .ok d') :
    d'.rules.defaultResponse = s.clause.default?.or d.rules.defaultResponse := by
  rw [frame_issue h]

lemma parents_issue {l : List String} (h : d.issue catalog s = .ok d')
    (hp : d.rules.parents = l.eraseDups) :
    d'.rules.parents = (l ++ s.clause.parents).eraseDups := by
  rw [← RuleSet.parents_addParents _ hp, frame_issue h]

end Draft

namespace Session

variable {s s' : Session χ} {build : Nat} {name : String} {parents : List String}

lemma start_of_closed (h : s.draft = none) (build : Nat) (name : String) (parents : List String) :
    s.start build name parents = .ok ⟨some (Draft.start build name parents), .allow⟩ := by
  rw [start, h]

lemma start_of_open {d : Draft χ} (h : s.draft = some d) (build : Nat) (name : String)
    (parents : List String) :
    s.start build name parents = .error (.roleStillOpen d.rules.name) := by
  rw [start, h]

lemma start_eq_ok_iff : s.start build name parents = .ok s' ↔
    s.draft = none ∧ s' = ⟨some (Draft.start build name parents), .allow⟩ := by
  cases h : s.draft with
  | none => simp [start_of_closed h, eq_comm]
  | some d => simp [start_of_open h]

lemma exists_draft_issueAll {catalog : Catalog} {t t' : Session χ} {d : Draft χ}
    {statements : List (Statement χ)} (hd : t.draft = some d)
    (h : t.issueAll catalog statements = .ok t') :
    ∃ d', d.issueAll catalog statements = .ok d' ∧ t'.draft = some d' := by
  induction statements generalizing t d with
  | nil =>
    cases h
    exact ⟨d, rfl, hd⟩
  | cons s statements ih =>
    rw [issueAll, issue, apply, hd] at h
    cases hs : d.apply catalog s.polarity s.clause with
    | error e => simp [hs] at h
    | ok d₁ =>
      simp only [hs] at h
      obtain ⟨d', hi, ht⟩ := ih rfl h
      exact ⟨d', Draft.issueAll_cons.mpr ⟨d₁, hs, hi⟩, ht⟩

end Session

end RolePolicy
