import RolePolicy.Check
import RolePolicy.Proofs.FreshSession
import RolePolicy.Proofs.RoleInvariants

/-! The roles that a run opens, one after another. A definition hands out the last of them, which is
not the one it was asked for if its body closes that and opens another. -/

namespace RolePolicy

variable {χ ω : Type}

structure Opening where
  name : String
  parents : List String
deriving DecidableEq

structure Opening.Begins (o : Opening) (r : RuleSet χ) : Prop where
  name : r.name = o.name
  parents : o.parents.eraseDups <+: r.parents

namespace Workshop

def enter (w : Workshop χ) (o : Opening) : Workshop χ :=
  { w with session := { draft := some (Draft.start w.builds o.name o.parents) }
           builds := w.builds + 1 }

def opening (w : Workshop χ) (o : Opening) (body : Workshop χ → List Opening) : List Opening :=
  if w.session.isDefining then [] else o :: body (w.enter o)

def openedWithin (w : Workshop χ) (p : Polarity) (body : Workshop χ → List Opening) :
    List Opening :=
  if w.session.isDefining then body (w.setPolarity p) else []

end Workshop

def Step.opened (w : Workshop χ) : Step χ ω → List Opening
  | start name parents => w.opening ⟨name, parents⟩ fun _ => []
  | finish | clause _ | addLatest | inspect _ => []

def Done.openedAfter (f : Done χ ω) (caught : Bool) (rest : Workshop χ → List Opening) :
    List Opening :=
  if stops caught f.failure then [] else rest f.workshop

def Script.opened (catalog : Catalog) : Script χ ω → Workshop χ → List Opening
  | done, _ => []
  | step s caught rest, w =>
    s.opened w ++ (s.run catalog w).openedAfter caught (rest.opened catalog)
  | block p body caught rest, w =>
    let (entries, result) := w.within p (body.run catalog)
    w.openedWithin p (body.opened catalog) ++
      (Done.block entries result).openedAfter caught (rest.opened catalog)
  | role name parents body caught rest, w =>
    let (entries, result) := w.define name parents (body.run catalog)
    w.opening ⟨name, parents⟩ (body.opened catalog) ++
      (Done.block entries (Workshop.shelve result)).openedAfter caught (rest.opened catalog)

def Step.Keeps : Step χ ω → Prop
  | finish => False
  | start _ _ | clause _ | addLatest | inspect _ => True

def Script.Keeps : Script χ ω → Prop
  | done => True
  | step s _ rest => s.Keeps ∧ rest.Keeps
  | block _ body _ rest => body.Keeps ∧ rest.Keeps
  | role _ _ _ _ rest => rest.Keeps

section

variable {catalog : Catalog} {w : Workshop χ} {history : List Opening} {o : Opening}
  {name : String} {parents : List String} {d : Draft χ} {r : RuleSet χ}
  {body : Workshop χ → Run χ ω} {opened : Workshop χ → List Opening}

lemma RuleSet.parents_prefix_addParents (r : RuleSet χ) (names : List String) :
    r.parents <+: (r.addParents names).parents := by
  induction names generalizing r with
  | nil => exact List.prefix_refl _
  | cons n names ih =>
    have hn : r.parents <+: (r.addParent n).parents := by
      rw [addParent]
      split
      · exact List.prefix_refl _
      · exact List.prefix_append _ _
    exact hn.trans (ih (r.addParent n))

lemma Opening.begins_start (o : Opening) (build : Nat) :
    o.Begins (Draft.start (χ := χ) build o.name o.parents).rules where
  name := by
    rw [Draft.start, RuleSet.addParents_frame]
  parents := by
    have hp := RuleSet.parents_addParents (χ := χ) { name := o.name } (l := []) rfl o.parents
    rw [Draft.start, hp]
    exact List.prefix_refl _

lemma Opening.Begins.issue {d' : Draft χ} {s : Statement χ} (h : o.Begins d.rules)
    (hs : d.issue catalog s = .ok d') : o.Begins d'.rules where
  name := (Draft.name_issue hs).trans h.name
  parents := by
    rw [Draft.frame_issue hs]
    exact h.parents.trans (d.rules.parents_prefix_addParents _)

def LastBegins (history : List Opening) (r : RuleSet χ) : Prop :=
  ∃ o, history.getLast? = some o ∧ o.Begins r

def Workshop.Latest (history : List Opening) (w : Workshop χ) : Prop :=
  w.session.Bears (LastBegins history)

namespace Workshop

lemma opening_of_closed (hw : w.session.draft = none) :
    w.opening o opened = o :: opened (w.enter o) := by
  rw [opening, Session.isDefining, hw]
  rfl

lemma opening_of_open (hw : w.session.draft = some d) : w.opening o opened = [] := by
  rw [opening, Session.isDefining, hw]
  rfl

lemma latest_of_closed (hw : w.session.draft = none) : w.Latest history :=
  Session.bears_of_none hw

lemma Latest.of_session {v : Workshop χ} (hw : w.Latest history) (h : v.session = w.session) :
    v.Latest history := by
  rw [Latest, h]
  exact hw

lemma latest_enter (w : Workshop χ) (history : List Opening) (o : Opening) :
    (w.enter o).Latest (history ++ [o]) := by
  rintro _ ⟨⟩
  exact ⟨o, by simp, o.begins_start w.builds⟩

lemma Latest.start (hw : w.Latest history) :
    (w.start name parents).2.Latest (history ++ w.opening ⟨name, parents⟩ fun _ => []) := by
  cases hd : w.session.draft with
  | none =>
    rw [opening_of_closed hd, Workshop.start, Session.start_of_closed hd]
    exact w.latest_enter history ⟨name, parents⟩
  | some d =>
    rw [opening_of_open hd, List.append_nil, Workshop.start, Session.start_of_open hd]
    exact hw

lemma Latest.clause (hw : w.Latest history) (c : Clause χ) :
    (w.clause catalog c).2.Latest history := by
  rw [Workshop.clause]
  split
  · rename_i s hs
    refine hw.apply (fun d d' t hd ht => ?_) hs
    obtain ⟨o, ho, hb⟩ := hd
    exact ⟨o, ho, hb.issue ht⟩
  · exact hw

lemma draft_finish (w : Workshop χ) : w.finish.2.session.draft = none := by
  rw [finish, Session.finish]
  cases hd : w.session.draft with
  | none => exact hd
  | some d => rfl

lemma define_of_closed (hw : w.session.draft = none) :
    (w.define name parents body).2 =
      match (body (w.enter ⟨name, parents⟩)).failure with
      | some e => (.error e, { (body (w.enter ⟨name, parents⟩)).workshop with session := {} })
      | none => (body (w.enter ⟨name, parents⟩)).workshop.finish := by
  simp only [define, Session.start_of_closed hw, enter]
  split <;> simp_all

lemma draft_define (hw : w.session.draft = none) :
    (w.define name parents body).2.2.session.draft = none := by
  rw [define_of_closed hw]
  split
  · rfl
  · exact draft_finish _

lemma Latest.within (hw : w.Latest history) (p : Polarity)
    (hb : ∀ v : Workshop χ, v.Latest history →
      (body v).workshop.Latest (history ++ opened v)) :
    (w.within p body).2.2.Latest (history ++ w.openedWithin p opened) := by
  rw [Workshop.within, openedWithin]
  split
  · exact hb _ hw
  · rw [List.append_nil]
    exact hw

lemma Latest.define (hw : w.Latest history) :
    (w.define name parents body).2.2.Latest
      (history ++ w.opening ⟨name, parents⟩ opened) := by
  -- nothing is asked of the body: whatever it leaves open is closed behind it
  cases hd : w.session.draft with
  | none => exact latest_of_closed (draft_define hd)
  | some d =>
    rw [opening_of_open hd, List.append_nil, define_of_draft hd]
    exact hw

end Workshop

lemma Done.latest_andThen {f : Done χ ω} {caught : Bool} {rest : Workshop χ → Run χ ω}
    (hf : f.workshop.Latest history)
    (hr : ∀ v : Workshop χ, v.Latest history → (rest v).workshop.Latest (history ++ opened v)) :
    (f.andThen caught rest).workshop.Latest (history ++ f.openedAfter caught opened) := by
  rw [andThen_eq, openedAfter]
  split
  · rw [List.append_nil]
    exact hf
  · exact hr _ hf

lemma Step.latest_run (hw : w.Latest history) (s : Step χ ω) :
    (s.run catalog w).workshop.Latest (history ++ s.opened w) := by
  cases s with
  | start name parents => exact hw.start
  | finish =>
    refine Workshop.latest_of_closed ?_
    exact (congrArg Session.draft (Workshop.session_shelve w.finish)).trans w.draft_finish
  | clause c =>
    rw [opened, List.append_nil]
    exact hw.clause c
  | addLatest =>
    rw [opened, List.append_nil]
    exact hw.of_session w.session_addLatest
  | inspect view =>
    rw [opened, List.append_nil]
    exact hw

lemma Script.latest_run (script : Script χ ω) (hw : w.Latest history) :
    (script.run catalog w).workshop.Latest (history ++ script.opened catalog w) := by
  induction script generalizing w history with
  | done =>
    rw [opened, List.append_nil]
    exact hw
  | step s caught rest ih =>
    rw [opened, ← List.append_assoc]
    exact Done.latest_andThen (s.latest_run hw) fun _ => ih
  | block p body caught rest ihb ih =>
    rw [opened, ← List.append_assoc]
    exact Done.latest_andThen (hw.within p fun _ => ihb) fun _ => ih
  | role name parents body caught rest ihb ih =>
    rw [opened, ← List.append_assoc]
    have hd : (w.define name parents (body.run catalog)).2.2.Latest
        (history ++ w.opening ⟨name, parents⟩ (body.opened catalog)) := hw.define
    exact Done.latest_andThen (hd.of_session (Workshop.session_shelve _)) fun _ => ih

lemma Workshop.isDefining_clause (catalog : Catalog) (w : Workshop χ) (c : Clause χ) :
    (w.clause catalog c).2.session.isDefining = w.session.isDefining := by
  rw [clause, Session.apply]
  cases hd : w.session.draft with
  | none => simp [Session.isDefining, hd]
  | some d =>
    cases h : d.apply catalog w.session.polarity c <;> simp [Session.isDefining, hd, h]

lemma Step.keeps_run {s : Step χ ω} (hs : s.Keeps) (hw : w.session.isDefining) :
    s.opened w = [] ∧ (s.run catalog w).workshop.session.isDefining := by
  cases s with
  | start name parents =>
    obtain ⟨d, hd⟩ := Option.isSome_iff_exists.mp hw
    rw [opened, Workshop.opening_of_open hd, run, Workshop.start, Session.start_of_open hd]
    exact ⟨rfl, hw⟩
  | finish => exact hs.elim
  | clause c => exact ⟨rfl, (w.isDefining_clause catalog c).trans hw⟩
  | addLatest => exact ⟨rfl, (congrArg Session.isDefining w.session_addLatest).trans hw⟩
  | inspect view => exact ⟨rfl, hw⟩

lemma Workshop.keeps_within (hw : w.session.isDefining) (p : Polarity)
    (hb : ∀ v : Workshop χ, v.session.isDefining →
      opened v = [] ∧ (body v).workshop.session.isDefining) :
    w.openedWithin p opened = [] ∧ (w.within p body).2.2.session.isDefining := by
  rw [openedWithin, within, if_pos hw, if_pos hw]
  exact hb (w.setPolarity p) hw

lemma Done.keeps_andThen {f : Done χ ω} {caught : Bool} {rest : Workshop χ → Run χ ω}
    (hf : f.workshop.session.isDefining)
    (hr : ∀ v : Workshop χ, v.session.isDefining →
      opened v = [] ∧ (rest v).workshop.session.isDefining) :
    f.openedAfter caught opened = [] ∧ (f.andThen caught rest).workshop.session.isDefining := by
  rw [andThen_eq, openedAfter]
  split
  · exact ⟨rfl, hf⟩
  · exact hr _ hf

lemma Script.keeps_run {script : Script χ ω} (hs : script.Keeps) (hw : w.session.isDefining) :
    script.opened catalog w = [] ∧ (script.run catalog w).workshop.session.isDefining := by
  induction script generalizing w with
  | done => exact ⟨rfl, hw⟩
  | step s caught rest ih =>
    obtain ⟨ho, hd⟩ := Step.keeps_run hs.1 hw
    rw [opened, ho, List.nil_append]
    exact Done.keeps_andThen hd fun _ => ih hs.2
  | block p body caught rest ihb ih =>
    obtain ⟨ho, hd⟩ := Workshop.keeps_within hw p fun _ => ihb hs.1
    rw [opened, ho]
    exact Done.keeps_andThen hd fun _ => ih hs.2
  | role name parents body caught rest _ ih =>
    obtain ⟨d, hd⟩ := Option.isSome_iff_exists.mp hw
    rw [opened, run_role, Workshop.opening_of_open hd, Workshop.define_of_draft hd]
    exact Done.keeps_andThen hw fun _ => ih hs

structure Workshop.HandsOut (catalog : Catalog) (w : Workshop χ) (o : Opening)
    (body : Script χ ω) (r : RuleSet χ) : Prop where
  latest : LastBegins (o :: body.opened catalog (w.enter o)) r
  asked : body.opened catalog (w.enter o) = [] → o.Begins r
  kept : body.Keeps → o.Begins r

namespace Workshop

lemma finish_eq_ok_iff : w.finish.1 = .ok r ↔ ∃ d, w.session.draft = some d ∧ d.rules = r := by
  rw [finish, Session.finish]
  cases w.session.draft <;> simp

lemma exists_draft_of_define (h : (w.define name parents body).2.1 = .ok r) :
    ∃ d, (body (w.enter ⟨name, parents⟩)).workshop.session.draft = some d ∧ d.rules = r := by
  cases hd : w.session.draft with
  | some d =>
    rw [define_of_draft hd] at h
    cases h
  | none =>
    rw [define_of_closed hd] at h
    cases hf : (body (w.enter ⟨name, parents⟩)).failure with
    | some e =>
      rw [hf] at h
      cases h
    | none =>
      rw [hf] at h
      exact finish_eq_ok_iff.mp h

lemma handsOut_of_define {body : Script χ ω}
    (h : (w.define name parents (body.run catalog)).2.1 = .ok r) :
    w.HandsOut catalog ⟨name, parents⟩ body r := by
  obtain ⟨d, hd, rfl⟩ := exists_draft_of_define h
  have hr := body.latest_run (w.latest_enter [] ⟨name, parents⟩) d hd
  have ha (hb : body.opened catalog (w.enter ⟨name, parents⟩) = []) :
      Opening.Begins ⟨name, parents⟩ d.rules := by
    rw [hb] at hr
    obtain ⟨_, ⟨⟩, hr⟩ := hr
    exact hr
  exact ⟨hr, ha, fun hk => ha (Script.keeps_run hk rfl).1⟩

lemma exists_define_of_keeps {body : Script χ ω} (hw : w.session.draft = none)
    (hk : body.Keeps) (hf : (body.run catalog (w.enter ⟨name, parents⟩)).failure = none) :
    ∃ r, (w.define name parents (body.run catalog)).2.1 = .ok r := by
  have ho : (body.run catalog (w.enter ⟨name, parents⟩)).workshop.session.isDefining :=
    (Script.keeps_run hk rfl).2
  obtain ⟨d, hd⟩ := Option.isSome_iff_exists.mp ho
  rw [define_of_closed hw, hf]
  exact ⟨d.rules, finish_eq_ok_iff.mpr ⟨d, hd, rfl⟩⟩

end Workshop

lemma Configurator.exists_filed_of_role {c : Configurator χ} {body : Script χ ω}
    (h : (c.role name parents body).2.1 = .ok ()) :
    ∃ r, c.aside.HandsOut c.catalog ⟨name, parents⟩ body r ∧
      c.registry.contains r.name = false ∧
      (c.role name parents body).2.2.registry =
        { c.registry with roles := c.registry.roles ++ [r] } := by
  cases hd : (Workshop.define { c.aside with session := {} } name parents
      (body.run c.catalog)).2.1 with
  | error e => simp [role, hd] at h
  | ok r =>
    cases hn : c.registry.contains r.name with
    | true => simp [role, hd, Registry.add, hn] at h
    | false =>
      refine ⟨r, ?_, hn, by simp [role, hd, Registry.add, hn]⟩
      obtain ⟨hlatest, hasked, hkept⟩ := Workshop.handsOut_of_define hd
      exact ⟨hlatest, hasked, hkept⟩

theorem define_hands_out (catalog : Catalog) (w : Workshop χ) (c : Configurator χ)
    (name : String) (parents : List String) (body : Script χ ω) :
    (∀ r, (w.define name parents (body.run catalog)).2.1 = .ok r →
      w.HandsOut catalog ⟨name, parents⟩ body r) ∧
    (w.session.draft = none → body.Keeps →
      (body.run catalog (w.enter ⟨name, parents⟩)).failure = none →
        ∃ r, (w.define name parents (body.run catalog)).2.1 = .ok r) ∧
    ((c.role name parents body).2.1 = .ok () →
      ∃ r, c.aside.HandsOut c.catalog ⟨name, parents⟩ body r ∧
        c.registry.contains r.name = false ∧
        (c.role name parents body).2.2.registry =
          { c.registry with roles := c.registry.roles ++ [r] }) :=
  ⟨fun _ => Workshop.handsOut_of_define, Workshop.exists_define_of_keeps,
    Configurator.exists_filed_of_role⟩

end

def substitution : Script Probe Unit :=
  .step .finish false (.step (.start "y" []) false .done)

def insistence : Script Probe Unit :=
  .block .deny (.role "y" [] .done true (.step (.clause (.addParents ["q", "p"])) false .done)) false
    .done

theorem substitution_insistence_hand_out :
    let w : Workshop Probe := {}
    w.session.draft = none ∧
    substitution.opened {} (w.enter ⟨"x", ["p", "p"]⟩) = [⟨"y", []⟩] ∧
    (∃ r, (w.define "x" ["p", "p"] (substitution.run {})).2.1 = .ok r ∧
      Opening.Begins ⟨"y", []⟩ r) ∧
    insistence.Keeps ∧
    ∃ r, (w.define "x" ["p", "p"] (insistence.run {})).2.1 = .ok r ∧
      Opening.Begins ⟨"x", ["p", "p"]⟩ r := by
  intro w
  have hk : insistence.Keeps := ⟨⟨trivial, trivial⟩, trivial⟩
  obtain ⟨hsubstitution, _, _⟩ := define_hands_out {} w {} "x" ["p", "p"] substitution
  obtain ⟨hinsistence, hexists, _⟩ := define_hands_out {} w {} "x" ["p", "p"] insistence
  obtain ⟨r, hr⟩ := hexists rfl hk rfl
  obtain ⟨_, ⟨⟩, hs⟩ := (hsubstitution _ rfl).latest
  exact ⟨rfl, rfl, ⟨_, rfl, hs⟩, hk, r, hr, (hinsistence r hr).kept hk⟩

theorem substitution_ne_asked :
    ({} : Workshop Probe).session.draft = none ∧
    (∃ r, (Workshop.define {} "x" ["p"] (substitution.run {})).2.1 = .ok r ∧
      r.name ≠ "x" ∧ ¬ ["p"].eraseDups <+: r.parents) ∧
    (Configurator.role {} "x" ["p"] substitution).2.1 = .ok () ∧
    (Configurator.role {} "x" ["p"] substitution).2.2.registry.names = ["y"] :=
  ⟨rfl, ⟨_, rfl, by decide, by decide⟩, rfl, rfl⟩

end RolePolicy
