import RolePolicy.Check
import RolePolicy.Proofs.Body

/-! Outside all blocks a session without an open role is a fresh one, whatever went before, and the
next role comes out as if it were the first. -/

namespace RolePolicy

variable {χ ω α : Type}

def Done.onward (f : Done χ ω) (caught : Bool) (rest : Workshop χ → List (Workshop χ)) :
    List (Workshop χ) :=
  if stops caught f.failure then [f.workshop] else rest f.workshop

def Workshop.entered (w : Workshop χ) (name : String) (parents : List String)
    (body : Workshop χ → List (Workshop χ)) : List (Workshop χ) :=
  match w.session.start w.builds name parents with
  | .error _ => []
  | .ok s => body { w with session := s, builds := w.builds + 1 }

/-- The workshops of a run at all times when it is in no block: ahead of every statement, also of
those in the bodies of roles, and where a sequence ends. -/
def Script.outside (catalog : Catalog) : Script χ ω → Workshop χ → List (Workshop χ)
  | done, w => [w]
  | step s caught rest, w => w :: (s.run catalog w).onward caught (rest.outside catalog)
  | block p body caught rest, w =>
    let (entries, result) := w.within p (body.run catalog)
    w :: (Done.block entries result).onward caught (rest.outside catalog)
  | role name parents body caught rest, w =>
    let (entries, result) := w.define name parents (body.run catalog)
    w :: (w.entered name parents (body.outside catalog) ++
      (Done.block entries (Workshop.shelve result)).onward caught (rest.outside catalog))

section

variable {catalog : Catalog} {w : Workshop χ} {name : String} {parents : List String}
  {body : Workshop χ → Run χ ω}

lemma Session.eq_empty {s : Session χ} (hd : s.draft = none) (hp : s.polarity = .allow) :
    s = {} := by
  obtain ⟨draft, p⟩ := s
  obtain rfl : draft = none := hd
  obtain rfl : p = .allow := hp
  rfl

lemma Workshop.polarity_clause (catalog : Catalog) (w : Workshop χ) (c : Clause χ) :
    (w.clause catalog c).2.session.polarity = w.session.polarity := by
  rw [clause, Session.apply]
  cases w.session.draft with
  | none => rfl
  | some d => cases h : d.apply catalog w.session.polarity c <;> simp [h]

lemma Workshop.polarity_start (hw : w.session.polarity = .allow) :
    (w.start name parents).2.session.polarity = .allow := by
  rw [start, Session.start]
  cases w.session.draft with
  | none => rfl
  | some d => exact hw

lemma Workshop.session_finish (hw : w.session.polarity = .allow) : w.finish.2.session = {} := by
  rw [finish, Session.finish]
  cases hd : w.session.draft with
  | none => exact Session.eq_empty hd hw
  | some d => rfl

lemma Workshop.session_shelve (x : Except PolicyError (RuleSet χ) × Workshop χ) :
    (shelve x).2.session = x.2.session := by
  obtain ⟨outcome, w⟩ := x
  cases outcome <;> rfl

lemma Workshop.session_addLatest (w : Workshop χ) : w.addLatest.2.session = w.session := by
  rw [addLatest]
  cases w.shelf with
  | nil => rfl
  | cons r shelf =>
    cases h : w.registry.add r <;> simp [h]

lemma Step.polarity_run (catalog : Catalog) (s : Step χ ω) (hw : w.session.polarity = .allow) :
    (s.run catalog w).workshop.session.polarity = .allow := by
  cases s with
  | start name parents => exact Workshop.polarity_start hw
  | finish =>
    have hs : (Workshop.shelve w.finish).2.session = {} :=
      (Workshop.session_shelve w.finish).trans (Workshop.session_finish hw)
    exact congrArg Session.polarity hs
  | clause c => exact (w.polarity_clause catalog c).trans hw
  | addLatest => exact (congrArg Session.polarity w.session_addLatest).trans hw
  | inspect view => exact hw

lemma Workshop.polarity_within (w : Workshop χ) (p : Polarity) (body : Workshop χ → Run χ ω) :
    (w.within p body).2.2.session.polarity = w.session.polarity := by
  rw [within]
  cases w.session.isDefining <;> rfl

lemma Workshop.define_of_draft {d : Draft χ} (hw : w.session.draft = some d) :
    w.define name parents body = ([], .error (.roleStillOpen d.rules.name), w) := by
  rw [define, Session.start_of_open hw]

lemma Workshop.session_define (hw : w.session.draft = none)
    (hb : ∀ v : Workshop χ, v.session.polarity = .allow →
      (body v).workshop.session.polarity = .allow) :
    (w.define name parents body).2.2.session = {} := by
  rw [define, Session.start_of_closed hw]
  simp only
  split
  · rfl
  · exact session_finish (hb _ rfl)

lemma Workshop.polarity_define (hw : w.session.polarity = .allow)
    (hb : ∀ v : Workshop χ, v.session.polarity = .allow →
      (body v).workshop.session.polarity = .allow) :
    (w.define name parents body).2.2.session.polarity = .allow := by
  cases hd : w.session.draft with
  | none => rw [session_define hd hb]
  | some d => rw [define_of_draft hd, hw]

lemma Done.forall_onward {P : Workshop χ → Prop} {f : Done χ ω} {caught : Bool}
    {rest : Workshop χ → List (Workshop χ)} (hf : P f.workshop)
    (hr : ∀ v ∈ rest f.workshop, P v) : ∀ v ∈ f.onward caught rest, P v := by
  intro v hv
  rw [onward] at hv
  split at hv
  · obtain rfl := List.mem_singleton.mp hv
    exact hf
  · exact hr v hv

lemma Done.workshop_andThen_mem_onward {f : Done χ ω} {caught : Bool}
    {rest : Workshop χ → Run χ ω} {points : Workshop χ → List (Workshop χ)}
    (h : ∀ v, (rest v).workshop ∈ points v) :
    (f.andThen caught rest).workshop ∈ f.onward caught points := by
  rw [andThen_eq, onward]
  split
  · exact List.mem_singleton_self _
  · exact h _

end

namespace Script

variable {catalog : Catalog} {w : Workshop χ}

lemma run_role (catalog : Catalog) (name : String) (parents : List String) (body : Script χ ω)
    (caught : Bool) (rest : Script χ ω) (w : Workshop χ) :
    (role name parents body caught rest).run catalog w =
      (Done.block (w.define name parents (body.run catalog)).1
        (Workshop.shelve (w.define name parents (body.run catalog)).2)).andThen
          caught (rest.run catalog) :=
  rfl

lemma workshop_run_mem_outside (catalog : Catalog) (script : Script χ ω) (w : Workshop χ) :
    (script.run catalog w).workshop ∈ script.outside catalog w := by
  induction script generalizing w with
  | done => exact List.mem_singleton_self w
  | step s caught rest ih =>
    apply List.mem_cons_of_mem
    exact Done.workshop_andThen_mem_onward ih
  | block p body caught rest _ ih =>
    apply List.mem_cons_of_mem
    exact Done.workshop_andThen_mem_onward ih
  | role name parents body caught rest _ ih =>
    apply List.mem_cons_of_mem
    apply List.mem_append_right
    exact Done.workshop_andThen_mem_onward ih

lemma polarity_outside (catalog : Catalog) (script : Script χ ω)
    (hw : w.session.polarity = .allow) :
    ∀ v ∈ script.outside catalog w, v.session.polarity = .allow := by
  induction script generalizing w with
  | done => simpa [outside] using hw
  | step s caught rest ih =>
    have hs := s.polarity_run catalog hw
    exact List.forall_mem_cons.mpr ⟨hw, Done.forall_onward hs (ih hs)⟩
  | block p body caught rest _ ih =>
    -- what the body does to the polarity is undone, so that nothing is asked of the body
    have hb := (w.polarity_within p (body.run catalog)).trans hw
    exact List.forall_mem_cons.mpr ⟨hw, Done.forall_onward hb (ih hb)⟩
  | role name parents body caught rest ihb ih =>
    have hd : (w.define name parents (body.run catalog)).2.2.session.polarity = .allow :=
      Workshop.polarity_define hw fun v hv => ihb hv _ (workshop_run_mem_outside catalog body v)
    have hs : (Workshop.shelve (w.define name parents (body.run catalog)).2).2.session.polarity =
        .allow := by
      rw [Workshop.session_shelve, hd]
    refine List.forall_mem_cons.mpr ⟨hw, List.forall_mem_append.mpr ⟨?_, ?_⟩⟩
    · rw [Workshop.entered, Session.start]
      cases w.session.draft with
      | none => exact ihb rfl
      | some d => simp
    · exact Done.forall_onward hs (ih hs)

lemma polarity_run (script : Script χ ω) (hw : w.session.polarity = .allow) :
    (script.run catalog w).workshop.session.polarity = .allow :=
  script.polarity_outside catalog hw _ (script.workshop_run_mem_outside catalog w)

end Script

def Step.Builds (catalog : Catalog) : Step χ ω → Prop
  | start _ _ | finish | clause _ => True
  | addLatest => False
  | inspect view => ∀ w w' : Workshop χ, w.session = w'.session → view catalog w = view catalog w'

def Script.Builds (catalog : Catalog) : Script χ ω → Prop
  | done => True
  | step s _ rest => s.Builds catalog ∧ rest.Builds catalog
  | block _ body _ rest | role _ _ body _ rest => body.Builds catalog ∧ rest.Builds catalog

structure Workshop.Alike (w w' : Workshop χ) : Prop where
  session : w.session = w'.session
  builds : w.builds = w'.builds

def SameResult (x y : Except PolicyError α × Workshop χ) : Prop :=
  x.1 = y.1 ∧ x.2.Alike y.2

structure Done.Alike (f g : Done χ ω) : Prop where
  entry : f.entry = g.entry
  failure : f.failure = g.failure
  workshop : f.workshop.Alike g.workshop

structure Run.Alike (r s : Run χ ω) : Prop where
  entries : r.entries = s.entries
  failure : r.failure = s.failure
  workshop : r.workshop.Alike s.workshop

section

variable {catalog : Catalog} {w w' : Workshop χ} {name : String} {parents : List String}
  {body body' : Workshop χ → Run χ ω}

lemma SameResult.step {x y : Except PolicyError (Product χ) × Workshop χ} (h : SameResult x y) :
    (Done.step x : Done χ ω).Alike (Done.step y) := by
  obtain ⟨outcome, w⟩ := x
  obtain ⟨_, w'⟩ := y
  obtain ⟨rfl, hw⟩ := h
  have hs : w.session = w'.session := hw.session
  refine ⟨?_, rfl, hw⟩
  simp only [Done.step, Workshop.entryOf, hs]

lemma SameResult.block {x y : Except PolicyError (Product χ) × Workshop χ} (h : SameResult x y)
    (entries : List (Entry χ ω)) : (Done.block entries x).Alike (Done.block entries y) := by
  obtain ⟨outcome, w⟩ := x
  obtain ⟨_, w'⟩ := y
  obtain ⟨rfl, hw⟩ := h
  have hs : w.session = w'.session := hw.session
  refine ⟨?_, rfl, hw⟩
  simp only [Done.block, Workshop.blockEntry, hs]

lemma SameResult.shelve {x y : Except PolicyError (RuleSet χ) × Workshop χ} (h : SameResult x y) :
    SameResult (Workshop.shelve x) (Workshop.shelve y) := by
  obtain ⟨outcome, w⟩ := x
  obtain ⟨_, w'⟩ := y
  obtain ⟨rfl, hw⟩ := h
  cases outcome <;> exact ⟨rfl, hw.session, hw.builds⟩

lemma Workshop.Alike.finish (h : w.Alike w') : SameResult w.finish w'.finish := by
  rw [Workshop.finish, Workshop.finish, ← h.session]
  cases w.session.finish with
  | ok rs => exact ⟨rfl, rfl, h.builds⟩
  | error e => exact ⟨rfl, h⟩

lemma Workshop.Alike.start (h : w.Alike w') :
    SameResult (w.start name parents) (w'.start name parents) := by
  rw [Workshop.start, Workshop.start, ← h.session, ← h.builds]
  cases w.session.start w.builds name parents with
  | ok s => exact ⟨rfl, rfl, rfl⟩
  | error e => exact ⟨rfl, h⟩

lemma Workshop.Alike.clause (h : w.Alike w') (c : Clause χ) :
    SameResult (w.clause catalog c) (w'.clause catalog c) := by
  rw [Workshop.clause, Workshop.clause, ← h.session]
  cases w.session.apply catalog c with
  | ok s => exact ⟨rfl, rfl, h.builds⟩
  | error e => exact ⟨rfl, h⟩

lemma Workshop.Alike.setPolarity (h : w.Alike w') (p : Polarity) :
    (w.setPolarity p).Alike (w'.setPolarity p) :=
  ⟨by rw [Workshop.setPolarity, Workshop.setPolarity, h.session], h.builds⟩

lemma Step.alike_run {s : Step χ ω} (hs : s.Builds catalog) (h : w.Alike w') :
    (s.run catalog w).Alike (s.run catalog w') := by
  cases s with
  | start name parents => exact h.start.step
  | finish => exact h.finish.shelve.step
  | clause c => exact (h.clause c).step
  | addLatest => exact hs.elim
  | inspect view =>
    have hv : view catalog w = view catalog w' := hs w w' h.session
    refine ⟨?_, congrArg Prod.snd hv, h⟩
    simp only [Step.run, hv]

lemma Done.Alike.andThen {f g : Done χ ω} (h : f.Alike g) (caught : Bool)
    {rest : Workshop χ → Run χ ω}
    (hr : ∀ w w' : Workshop χ, w.Alike w' → (rest w).Alike (rest w')) :
    (f.andThen caught rest).Alike (g.andThen caught rest) := by
  have ha := hr _ _ h.workshop
  rw [Done.andThen_eq, Done.andThen_eq, h.failure]
  split
  · exact ⟨by rw [h.entry], rfl, h.workshop⟩
  · exact ⟨by rw [h.entry, ha.entries], ha.failure, ha.workshop⟩

lemma Workshop.Alike.within (h : w.Alike w') (p : Polarity)
    (hb : ∀ v v' : Workshop χ, v.Alike v' → (body v).Alike (body v')) :
    (w.within p body).1 = (w'.within p body).1 ∧
      SameResult (w.within p body).2 (w'.within p body).2 := by
  have ha := hb _ _ (h.setPolarity p)
  rw [Workshop.within, Workshop.within, ← h.session]
  cases w.session.isDefining with
  | false => exact ⟨rfl, rfl, h⟩
  | true =>
    refine ⟨ha.entries, ?_, ha.workshop.setPolarity _⟩
    simp only [if_true, ha.failure]

lemma Workshop.Alike.define (h : w.Alike w') (name : String) (parents : List String)
    (hb : ∀ v v' : Workshop χ, v.Alike v' → (body v).Alike (body v')) :
    (w.define name parents body).1 = (w'.define name parents body).1 ∧
      SameResult (w.define name parents body).2 (w'.define name parents body).2 := by
  rw [Workshop.define, Workshop.define, ← h.session, ← h.builds]
  cases w.session.start w.builds name parents with
  | error e => exact ⟨rfl, rfl, h⟩
  | ok s =>
    have ha := hb { w with session := s, builds := w.builds + 1 }
      { w' with session := s, builds := w.builds + 1 } ⟨rfl, rfl⟩
    simp only [ha.failure]
    cases (body { w' with session := s, builds := w.builds + 1 }).failure with
    | some e => exact ⟨ha.entries, rfl, rfl, ha.workshop.builds⟩
    | none => exact ⟨ha.entries, ha.workshop.finish⟩

end

namespace Script

variable {catalog : Catalog} {w w' : Workshop χ}

lemma alike_run {script : Script χ ω} (hs : script.Builds catalog) (h : w.Alike w') :
    (script.run catalog w).Alike (script.run catalog w') := by
  induction script generalizing w w' with
  | done => exact ⟨rfl, rfl, h⟩
  | step s caught rest ih =>
    exact (Step.alike_run hs.1 h).andThen caught fun _ _ => ih hs.2
  | block p body caught rest ihb ih =>
    obtain ⟨he, hr⟩ := h.within p fun _ _ => ihb hs.1
    rw [run_block, run_block, ← he]
    exact (hr.block _).andThen caught fun _ _ => ih hs.2
  | role name parents body caught rest ihb ih =>
    obtain ⟨he, hr⟩ := h.define name parents fun _ _ => ihb hs.1
    rw [run_role, run_role, ← he]
    exact (hr.shelve.block _).andThen caught fun _ _ => ih hs.2

theorem history_forgotten (catalog : Catalog) (history : Script χ ω) {u : Workshop χ}
    (hu : u.session = {}) (name : String) (parents : List String) :
    (∀ w ∈ history.outside catalog u, w.session.polarity = .allow) ∧
    (∀ (w : Workshop χ) (body : Script χ ω), w.session.draft = none →
      (w.define name parents (body.run catalog)).2.2.session = {}) ∧
    (∀ (w : Workshop χ) (d : Draft χ) (body : Workshop χ → Run χ ω), w.session.draft = some d →
      w.define name parents body = ([], .error (.roleStillOpen d.rules.name), w) ∧
      w.start name parents = (.error (.roleStillOpen d.rules.name), w)) ∧
    (history.run catalog u).workshop ∈ history.outside catalog u ∧
    ∀ w ∈ history.outside catalog u, w.session.draft = none →
      ∀ body : Script χ ω, body.Builds catalog →
        (w.define name parents (body.run catalog)).1 =
          (Workshop.define { builds := w.builds } name parents (body.run catalog)).1 ∧
        SameResult (w.define name parents (body.run catalog)).2
          (Workshop.define { builds := w.builds } name parents (body.run catalog)).2 := by
  have hp : u.session.polarity = .allow := by rw [hu]
  have ho := history.polarity_outside catalog hp
  refine ⟨ho, ?_, ?_, history.workshop_run_mem_outside catalog u, ?_⟩
  · intro w body hd
    apply Workshop.session_define hd
    intro v hv
    exact body.polarity_run hv
  · intro w d body hd
    refine ⟨Workshop.define_of_draft hd, ?_⟩
    rw [Workshop.start, Session.start, hd]
  · intro w hw hd body hb
    have hs : w.Alike { builds := w.builds } := ⟨Session.eq_empty hd (ho w hw), rfl⟩
    exact hs.define name parents fun _ _ => alike_run hb

def tangledScript : Script Probe Unit :=
  .step (.start "draft" []) false
    (.block .deny
      (.step .finish false
        (.role "inner" ["draft"]
          (.block .deny
            (.step .finish false
              (.step (.start "other" []) false
                (.step (.clause (.declare "print" [] none)) false .done))) true
            (.step .finish false .done)) true
          (.step (.start "left" []) false
            (.step (.clause (.declare "print" [] none)) false .done)))) true
      (.role "late" [] .done true
        (.step .finish false .done)))

def clerkScript : Script Probe Unit :=
  .step (.clause (.declare "view" [.named "doc"] none)) false
    (.block .deny (.step (.clause (.declare "view" [] none)) false .done) false .done)

theorem tangledScript_forgotten :
    let catalog : Catalog := { abilities := [⟨⟨"view"⟩, none⟩] }
    let w : Workshop Probe := (tangledScript.run catalog {}).workshop
    ({} : Workshop Probe).session = {} ∧ w ∈ tangledScript.outside catalog {} ∧
      w.session.draft = none ∧ w.shelf.map RuleSet.name = ["left", "other", "inner", "draft"] ∧
      clerkScript.Builds catalog ∧
      (w.define "clerk" [] (clerkScript.run catalog)).2.2.session = {} ∧
      SameResult (w.define "clerk" [] (clerkScript.run catalog)).2
        (Workshop.define { builds := w.builds } "clerk" [] (clerkScript.run catalog)).2 := by
  intro catalog w
  obtain ⟨_, hs, _, hw, hr⟩ := history_forgotten (u := {}) catalog tangledScript rfl "clerk" []
  have hd : w.session.draft = none := by rfl
  have hb : clerkScript.Builds catalog := ⟨trivial, ⟨trivial, trivial⟩, trivial⟩
  exact ⟨rfl, hw, hd, by rfl, hb, hs w clerkScript hd, (hr w hw hd clerkScript hb).2⟩

end Script

end RolePolicy
