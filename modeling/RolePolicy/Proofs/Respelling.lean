import RolePolicy.Proofs.GroupExpansion
import RolePolicy.Proofs.Likeness

/-! A statement about one name gives way to the same statement about several names that together
stand for the same actions. Wherever it stands in a script, the roles come out the same but for the
origins of conditions. -/

namespace RolePolicy

variable {χ ω : Type}

inductive Saying (χ : Type)
  | declare (keys : List ResourceKey) (condition : Option (Condition χ))
  | respond (response : Response χ)

def Origin.Rankless (f : Origin → Origin) : Prop := ∀ b k l, f ⟨b, k⟩ = f ⟨b, l⟩

namespace Saying

def about : Saying χ → String → Clause χ
  | declare keys condition, name => .declare name keys condition
  | respond x, name => .respond name x

def isConditional : Saying χ → Bool
  | declare _ (some _) => true
  | _ => false

def say (saying : Saying χ) (p : Polarity) (o : Origin) (r : RuleSet χ) (actions : List Action) :
    RuleSet χ :=
  match saying with
  | declare keys none => r.declareAll actions (ResourceKey.effective keys) (.ofPolarity p)
  | declare keys (some c) => r.declareAll actions (ResourceKey.effective keys) (c.respond p o)
  | respond x => r.respondAll actions x

end Saying

structure Catalog.SpelledBy (c : Catalog) (name : String) (names : List String) : Prop where
  contains : c.contains name
  members : ∀ n ∈ names, c.contains n
  same : ∀ a, c.StandsFor name a ↔ ∃ n ∈ names, c.StandsFor n a

def Script.each (caught : Bool) (clauses : List (Clause χ)) (rest : Script χ ω) : Script χ ω :=
  clauses.foldr (fun c rest => .step (.clause c) caught rest) rest

/-- Scripts of which the second has, in some places, a saying about several names one after another
where the first has it about one name. -/
inductive Script.Respells (catalog : Catalog) (saying : Saying χ) (name : String)
    (names : List String) : Script χ ω → Script χ ω → Prop
  | done : Respells catalog saying name names .done .done
  | step (s : Step χ ω) (caught : Bool) {rest rest' : Script χ ω} : s.Blind catalog →
      Respells catalog saying name names rest rest' →
      Respells catalog saying name names (.step s caught rest) (.step s caught rest')
  | block (p : Polarity) (caught : Bool) {body body' rest rest' : Script χ ω} :
      Respells catalog saying name names body body' →
      Respells catalog saying name names rest rest' →
      Respells catalog saying name names (.block p body caught rest) (.block p body' caught rest')
  | role (role : String) (parents : List String) (caught : Bool)
      {body body' rest rest' : Script χ ω} : Respells catalog saying name names body body' →
      Respells catalog saying name names rest rest' →
      Respells catalog saying name names (.role role parents body caught rest)
        (.role role parents body' caught rest')
  | spell (caught : Bool) {rest rest' : Script χ ω} :
      Respells catalog saying name names rest rest' →
      Respells catalog saying name names (.step (.clause (saying.about name)) caught rest)
        (.each caught (names.map saying.about) rest')

section

variable {catalog : Catalog} {f g : Origin → Origin} {d d' d₁ : Draft χ} {s : Statement χ}
  {saying : Saying χ} {p : Polarity} {o o' : Origin} {r : RuleSet χ}
  {actions actions' : List Action} {name : String} {names : List String}

lemma Saying.isConditional_about (saying : Saying χ) (name : String) :
    (saying.about name).isConditional = saying.isConditional := by
  rcases saying with ⟨_, _ | _⟩ | _ <;> rfl

lemma Saying.say_append (saying : Saying χ) (p : Polarity) (o : Origin) (r : RuleSet χ)
    (actions actions' : List Action) :
    saying.say p o r (actions ++ actions') =
      saying.say p o (saying.say p o r actions) actions' := by
  rcases saying with ⟨_, _ | _⟩ | _ <;> exact List.foldl_append

lemma Saying.say_congr (h : ∀ a, a ∈ actions ↔ a ∈ actions') :
    saying.say p o r actions = saying.say p o r actions' := by
  rcases saying with ⟨keys, _ | _⟩ | _
  · exact RuleSet.declareAll_congr (ResourceKey.effective_ne_nil keys) h
  · exact RuleSet.declareAll_congr (ResourceKey.effective_ne_nil keys) h
  · exact RuleSet.respondAll_congr h

lemma Saying.relabel_say (f : Origin → Origin) (saying : Saying χ) (p : Polarity) (o : Origin)
    (r : RuleSet χ) (actions : List Action) :
    (saying.say p o r actions).relabel f = saying.say p (f o) (r.relabel f) actions := by
  rcases saying with ⟨keys, _ | _⟩ | _
  · cases p <;> exact RuleSet.relabel_declareAll f r actions _ _
  · exact RuleSet.relabel_declareAll f r actions _ _
  · exact RuleSet.relabel_respondAll f r actions _

lemma Draft.issue_about (hr : catalog.resolve name = .ok actions)
    (hs : d.issue catalog ⟨p, saying.about name⟩ = .ok d₁) :
    d₁.rules = saying.say p d.next d.rules actions := by
  rcases saying with ⟨keys, _ | _⟩ | _
  · obtain ⟨_, hr', rfl⟩ := issue_declare hs
    obtain rfl := Except.ok.inj (hr.symm.trans hr')
    rfl
  · obtain ⟨_, hr', rfl⟩ := issue_declare hs
    obtain rfl := Except.ok.inj (hr.symm.trans hr')
    rfl
  · obtain ⟨_, hr', rfl⟩ := issue_respond hs
    obtain rfl := Except.ok.inj (hr.symm.trans hr')
    rfl

lemma Saying.failure?_about (h : catalog.contains name) :
    (saying.about name).failure? catalog = none := by
  have hr := Catalog.resolve_of_contains h
  cases saying <;> simp only [about, Clause.failure?, hr, Except.mapError, failureOf]

lemma Draft.relabel_next_about (hf : saying.isConditional → Origin.Rankless f)
    (hs : d.issue catalog ⟨p, saying.about name⟩ = .ok d₁) (k : Nat) :
    f ⟨d₁.next.build, d₁.next.rank + k⟩ = f ⟨d.next.build, d.next.rank + k⟩ := by
  rw [next_issue hs, saying.isConditional_about]
  cases hc : saying.isConditional with
  | false => rfl
  | true => exact hf hc _ _ _

lemma Draft.issueAll_about (hf : saying.isConditional → Origin.Rankless f)
    (hn : ∀ n ∈ names, catalog.contains n) (d : Draft χ) (p : Polarity) :
    ∃ d', d.issueAll catalog (names.map fun n => ⟨p, saying.about n⟩) = .ok d' ∧
      d'.rules.relabel f =
        saying.say p (f d.next) (d.rules.relabel f) (names.flatMap catalog.meaning) ∧
      ∀ k, f ⟨d'.next.build, d'.next.rank + k⟩ = f ⟨d.next.build, d.next.rank + k⟩ := by
  induction names generalizing d with
  | nil =>
    refine ⟨d, rfl, ?_, fun k => rfl⟩
    rcases saying with ⟨keys, _ | _⟩ | _ <;> rfl
  | cons n names ih =>
    obtain ⟨hc, hn⟩ := List.forall_mem_cons.mp hn
    obtain ⟨d₁, hs⟩ := d.exists_issue (s := ⟨p, saying.about n⟩) (Saying.failure?_about hc)
    obtain ⟨d', hi, hr, ho⟩ := ih hn d₁
    have ho₁ := relabel_next_about hf hs
    have hnext : f d₁.next = f d.next := ho₁ 0
    refine ⟨d', issueAll_cons.mpr ⟨d₁, hs, hi⟩, ?_, fun k => (ho k).trans (ho₁ k)⟩
    rw [hr, hnext, issue_about (Catalog.resolve_of_contains hc) hs, saying.relabel_say,
      List.flatMap_cons, saying.say_append]

lemma Catalog.SpelledBy.mem_meaning_iff (h : catalog.SpelledBy name names) (a : Action) :
    a ∈ catalog.meaning name ↔ a ∈ names.flatMap catalog.meaning := by
  rw [← standsFor_iff (resolve_of_contains h.contains), h.same, List.mem_flatMap]
  constructor
  · rintro ⟨n, hn, ha⟩
    exact ⟨n, hn, (standsFor_iff (resolve_of_contains (h.members n hn))).mp ha⟩
  · rintro ⟨n, hn, ha⟩
    exact ⟨n, hn, (standsFor_iff (resolve_of_contains (h.members n hn))).mpr ha⟩

lemma Draft.Like.spell (h : d.Like f g d') (hf : saying.isConditional → Origin.Rankless f)
    (hg : saying.isConditional → Origin.Rankless g) (hn : catalog.SpelledBy name names)
    (p : Polarity) :
    ∃ d₁ d₁', d.issue catalog ⟨p, saying.about name⟩ = .ok d₁ ∧
      d'.issueAll catalog (names.map fun n => ⟨p, saying.about n⟩) = .ok d₁' ∧
      d₁.Like f g d₁' := by
  have hc : ∀ n ∈ [name], catalog.contains n := by simpa using hn.contains
  obtain ⟨d₁, hi, hr, ho⟩ := d.issueAll_about hf hc p
  obtain ⟨d₁', hi', hr', ho'⟩ := d'.issueAll_about hg hn.members p
  obtain ⟨_, hs, ⟨⟩⟩ := issueAll_cons.mp hi
  refine ⟨d₁, d₁', hs, hi', ?_, fun k => (ho k).trans ((h.next k).trans (ho' k).symm)⟩
  have hnext : f d.next = g d'.next := h.next 0
  rw [hr, hr', h.rules, hnext, List.flatMap_singleton]
  exact Saying.say_congr hn.mem_meaning_iff

end

namespace Script

variable {catalog : Catalog} {saying : Saying χ} {name : String} {names : List String}
  {f g : Origin → Origin} {w w' : Workshop χ} {d d' : Draft χ} {p : Polarity} {caught : Bool}
  {clauses : List (Clause χ)} {rest rest' script script' : Script χ ω}

lemma run_each_of_issueAll (hw : w.session = ⟨some d, p⟩)
    (h : d.issueAll catalog (clauses.map (Statement.mk p)) = .ok d') :
    ((each caught clauses rest).run catalog w).failure =
        (rest.run catalog { w with session := ⟨some d', p⟩ }).failure ∧
      ((each caught clauses rest).run catalog w).workshop =
        (rest.run catalog { w with session := ⟨some d', p⟩ }).workshop := by
  induction clauses generalizing w d with
  | nil =>
    cases h
    rw [← hw]
    exact ⟨rfl, rfl⟩
  | cons c clauses ih =>
    obtain ⟨d₁, hs, hi⟩ := Draft.issueAll_cons.mp h
    have hr := ih (w := { w with session := ⟨some d₁, p⟩ }) rfl hi
    rw [each, List.foldr_cons, ← each, run, Step.run, Workshop.clause_of_issue hw hs,
      Done.andThen_eq]
    simpa [Done.step, failureOf, stops] using hr

lemma run_each_of_closed (hw : w.session.draft = none) (catalog : Catalog) (caught : Bool)
    (rest : Script χ ω) (hc : clauses ≠ []) :
    ((each caught clauses rest).run catalog w).failure =
        (if caught then (rest.run catalog w).failure else some .noOpenRole) ∧
      ((each caught clauses rest).run catalog w).workshop =
        (if caught then (rest.run catalog w).workshop else w) := by
  induction clauses with
  | nil => exact absurd rfl hc
  | cons c clauses ih =>
    rw [each, List.foldr_cons, ← each, run, Step.run, Workshop.clause_of_closed hw,
      Done.andThen_eq]
    cases caught with
    | false => exact ⟨rfl, rfl⟩
    | true =>
      cases clauses with
      | nil => exact ⟨rfl, rfl⟩
      | cons c' clauses => simpa [Done.step, failureOf, stops] using ih (by simp)

lemma like_spell (hf : saying.isConditional → Origin.Rankless f)
    (hg : saying.isConditional → Origin.Rankless g)
    (hn : catalog.SpelledBy name names) (hne : names ≠ []) (h : w.Like f g w')
    (hr : ∀ v v' : Workshop χ, v.Like f g v' →
      (rest.run catalog v).Like f g (rest'.run catalog v')) :
    ((step (.clause (saying.about name)) caught rest).run catalog w).Like f g
      ((each caught (names.map saying.about) rest').run catalog w') := by
  have he : step (.clause (saying.about name)) caught rest =
      each caught [saying.about name] rest := rfl
  rw [he]
  rcases h.cases with ⟨hw, hw'⟩ | ⟨d, d', p, hw, hw', hd⟩
  · -- without an open role the first of the statements fails as the one for all of them does
    obtain ⟨hfail, hrun⟩ := run_each_of_closed hw catalog caught rest
      (List.cons_ne_nil (saying.about name) [])
    obtain ⟨hfail', hrun'⟩ := run_each_of_closed hw' catalog caught rest'
      (mt List.map_eq_nil_iff.mp hne)
    rw [Run.Like, hfail, hrun, hfail', hrun']
    cases caught with
    | true => exact hr w w' h
    | false => exact ⟨rfl, h⟩
  · obtain ⟨d₁, d₁', hi, hi', hd₁⟩ := hd.spell hf hg hn p
    have hi₁ : d.issueAll catalog ([saying.about name].map (Statement.mk p)) = .ok d₁ :=
      Draft.issueAll_cons.mpr ⟨d₁, hi, rfl⟩
    have hi₁' : d'.issueAll catalog ((names.map saying.about).map (Statement.mk p)) = .ok d₁' := by
      rw [List.map_map]
      exact hi'
    obtain ⟨hfail, hrun⟩ := run_each_of_issueAll hw hi₁
    obtain ⟨hfail', hrun'⟩ := run_each_of_issueAll hw' hi₁'
    rw [Run.Like, hfail, hrun, hfail', hrun']
    exact hr _ _ (h.session rfl (.some hd₁))

lemma Respells.like_run (h : script.Respells catalog saying name names script')
    (hf : saying.isConditional → Origin.Rankless f)
    (hg : saying.isConditional → Origin.Rankless g) (hn : catalog.SpelledBy name names)
    (hne : names ≠ []) : ∀ w w' : Workshop χ, w.Like f g w' →
      (script.run catalog w).Like f g (script'.run catalog w') := by
  induction h with
  | done => exact fun w w' hw => ⟨rfl, hw⟩
  | step s caught hs _ ih => exact fun w w' hw => (Step.like_run hs hw).andThen caught ih
  | block p caught _ _ ihb ih =>
    intro w w' hw
    rw [run_block, run_block]
    exact (hw.within p ihb).andThen caught ih
  | role role parents caught _ _ ihb ih =>
    intro w w' hw
    rw [run_role, run_role]
    exact ((hw.define role parents ihb).shelve.block _ _).andThen caught ih
  | spell caught _ ih => exact fun w w' hw => like_spell hf hg hn hne hw ih

end Script

lemma Catalog.Sound.ne_nil_of_spelledBy {catalog : Catalog} (h : catalog.Sound) {name : String}
    {names : List String} (hn : catalog.SpelledBy name names) : names ≠ [] := by
  rintro rfl
  obtain ⟨a, ha⟩ := List.exists_mem_of_ne_nil _ (h.meaning_ne_nil hn.contains)
  simpa using (hn.mem_meaning_iff a).mp ha

/-- The second program numbers its builds `n` further. What it compiles is the like of what the
first compiles, and another predicate. -/
theorem Script.run_respells {rs : List Registration} {saying : Saying χ} {name : String}
    {names : List String} {script script' : Script χ ω} (w : Workshop χ) (n : Nat)
    (hn : (Catalog.applyAll {} rs).SpelledBy name names)
    (h : script.Respells (Catalog.applyAll {} rs) saying name names script') :
    let r := script.run (Catalog.applyAll {} rs) w
    let r' := script'.run (Catalog.applyAll {} rs) (w.shift n)
    r.failure = r'.failure ∧ r.workshop.Paired RuleSet.Interchangeable r'.workshop ∧
      (saying.isConditional = false → r'.workshop = r.workshop.shift n) ∧
      (n ≠ 0 →
        r.workshop.Paired (fun s s' => s.rules = s'.rules → s.Unconditional) r'.workshop) := by
  intro r r'
  have hne : names ≠ [] := (Catalog.sound_applyAll rs).ne_nil_of_spelledBy hn
  have hrun (g : Origin → Origin) (hg : saying.isConditional → Origin.Rankless g) :
      r.Like (g ∘ Origin.shift n) g r' :=
    h.like_run (fun hc b k l => hg hc (b + n) k l) hg hn hne _ _ (w.like_shift g n)
  obtain ⟨hf, hw⟩ := hrun (fun o => ⟨o.build, 0⟩) fun _ _ _ _ => rfl
  refine ⟨hf, hw.paired fun _ _ => RuleSet.interchangeable_of_relabel, fun hs => ?_, fun hz => ?_⟩
  · exact (hrun id fun hc => by simp [hs] at hc).2.eq_shift
  · refine hw.paired fun _ _ hl => RuleSet.unconditional_of_relabel hl fun o ho => hz ?_
    simpa [Origin.shift] using ho

def memoRule : Saying Probe := .declare [.named "memo"] none

def draftRule : Clause Probe :=
  .declare "view" [.named "draft"] (some (.ifHolds ⟨0, none, .const true, none, none⟩))

def grouped : Script Probe Unit :=
  .step (.clause draftRule) false
    (.block .deny (.step (.clause (memoRule.about "edit")) false .done) false .done)

def single : Script Probe Unit :=
  .step (.clause draftRule) false
    (.block .deny (.each false (["view", "edit", "update"].map memoRule.about) .done) false .done)

lemma desk_spelledBy : desk.SpelledBy "edit" ["view", "edit", "update"] where
  contains := by decide +kernel
  members := by decide +kernel
  same a := by
    have he : desk.resolve "edit" = .ok [⟨"view"⟩, ⟨"update"⟩] := by decide +kernel
    have hv : desk.resolve "view" = .ok [⟨"view"⟩] := by decide +kernel
    have hu : desk.resolve "update" = .ok [⟨"update"⟩] := by decide +kernel
    simp [Catalog.standsFor_iff he, Catalog.standsFor_iff hv, Catalog.standsFor_iff hu]

lemma grouped_respells :
    grouped.Respells desk memoRule "edit" ["view", "edit", "update"] single :=
  .step _ false trivial (.block .deny false (.spell false .done) .done)

theorem grouped_run_respells :
    let r := (Script.role "clerk" [] grouped false .done).run desk {}
    let r' := (Script.role "clerk" [] single false .done).run desk (Workshop.shift 1 {})
    desk.SpelledBy "edit" ["view", "edit", "update"] ∧
    grouped.Respells desk memoRule "edit" ["view", "edit", "update"] single ∧
    memoRule.isConditional = false ∧ 1 ≠ 0 ∧ r.failure = r'.failure ∧
    r.workshop.Paired RuleSet.Interchangeable r'.workshop ∧ r'.workshop = r.workshop.shift 1 ∧
    r.workshop.Paired (fun s s' => s.rules = s'.rules → s.Unconditional) r'.workshop := by
  intro r r'
  obtain ⟨hf, hi, hs, ha⟩ := Script.run_respells {} 1 desk_spelledBy
    (.role "clerk" [] false grouped_respells .done)
  exact ⟨desk_spelledBy, grouped_respells, rfl, Nat.one_ne_zero, hf, hi, hs rfl, ha Nat.one_ne_zero⟩

theorem grouped_rules_ne_single :
    memoRule.isConditional = false ∧ desk.SpelledBy "edit" ["view", "edit", "update"] ∧
    grouped.Respells desk memoRule "edit" ["view", "edit", "update"] single ∧
    let first := (Script.role "clerk" [] grouped false .done).run desk {}
    let second := (Script.role "clerk" [] single false .done).run desk first.workshop
    ∃ r r' : RuleSet Probe, first.workshop.shelf = [r] ∧ second.workshop.shelf = [r', r] ∧
      r.name = "clerk" ∧ r'.name = "clerk" ∧ r.rules ≠ r'.rules := by
  refine ⟨rfl, desk_spelledBy, grouped_respells, _, _, rfl, rfl, rfl, rfl, ?_⟩
  decide +kernel

end RolePolicy
