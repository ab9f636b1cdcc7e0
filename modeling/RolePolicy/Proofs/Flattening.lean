import RolePolicy.Check
import RolePolicy.Proofs.Body

/-! Nested blocks mean their flattening: a body does what the clauses it comes to do without any
block, each under the polarity of the innermost block it stood in. -/

namespace RolePolicy

variable {χ ω : Type}

mutual

def Entry.leaves : Entry χ ω → List (Entry χ ω)
  | .step outcome p defining => [.step outcome p defining]
  | .block _ _ _ body => Entry.leavesAll body
  | .seen answer => [.seen answer]

def Entry.leavesAll : List (Entry χ ω) → List (Entry χ ω)
  | [] => []
  | entry :: entries => entry.leaves ++ Entry.leavesAll entries

end

namespace Workshop

def perform (catalog : Catalog) (w : Workshop χ) (s : Statement χ) : Done χ ω :=
  .step ((w.setPolarity s.polarity).clause catalog s.clause)

def performAll (catalog : Catalog) : List (Statement χ) → Workshop χ → Run χ ω
  | [], w => ⟨[], none, w⟩
  | s :: statements, w => (w.perform catalog s).andThen true (performAll catalog statements)

end Workshop

def outcomeOf : Option PolicyError → Except PolicyError (Product χ)
  | none => .ok .nothing
  | some e => .error e

def accepted (catalog : Catalog) (statements : List (Statement χ)) : List (Statement χ) :=
  statements.filter fun s => (s.clause.failure? catalog).isNone

def Statement.entry (catalog : Catalog) (s : Statement χ) : Entry χ ω :=
  .step (outcomeOf (s.clause.failure? catalog)) s.polarity true

/-- What a body is to leave an account of when it begins under a polarity. That polarity is back
after each of its blocks. -/
def Body.account (catalog : Catalog) (p : Polarity) : Body χ → List (Entry χ ω)
  | done => []
  | clause c caught rest =>
    Statement.entry catalog ⟨p, c⟩ ::
      if stops caught (c.failure? catalog) then [] else rest.account catalog p
  | block q body caught rest =>
    .block (outcomeOf (body.failure? catalog)) p true (body.account catalog q) ::
      if stops caught (body.failure? catalog) then [] else rest.account catalog p

section

variable {catalog : Catalog} {d : Draft χ} {w : Workshop χ} {p : Polarity} {c : Clause χ}

lemma failureOf_outcomeOf (failure : Option PolicyError) :
    failureOf (outcomeOf failure : Except PolicyError (Product χ)) = failure := by
  cases failure <;> rfl

lemma Workshop.exists_clause (catalog : Catalog) (hw : w.session = ⟨some d, p⟩) (c : Clause χ) :
    ∃ d', w.clause catalog c =
        (outcomeOf (c.failure? catalog), { w with session := ⟨some d', p⟩ }) ∧
      ∀ statements, d.issueAll catalog (accepted catalog (⟨p, c⟩ :: statements)) =
        d'.issueAll catalog (accepted catalog statements) := by
  cases hc : c.failure? catalog with
  | none =>
    obtain ⟨d', hd⟩ := Draft.exists_issue (d := d) (s := ⟨p, c⟩) hc
    refine ⟨d', clause_of_issue hw hd, fun statements => ?_⟩
    rw [accepted, List.filter_cons_of_pos (by simp [hc]), Draft.issueAll, hd]
    rfl
  | some e =>
    have hd : { w with session := ⟨some d, p⟩ } = w := by rw [← hw]
    refine ⟨d, ?_, fun statements => ?_⟩
    · rw [clause_of_failure? hw hc, hd]
      rfl
    · rw [accepted, List.filter_cons_of_neg (by simp [hc])]
      rfl

lemma Done.entry_block_within (hw : w.session = ⟨some d, p⟩) (q : Polarity)
    (run : Workshop χ → Run χ ω) :
    (Done.block (w.within q run).1 (w.within q run).2).entry =
      .block (outcomeOf (run (w.setPolarity q)).failure) p
        (run (w.setPolarity q)).workshop.session.isDefining (run (w.setPolarity q)).entries := by
  rw [Workshop.within, hw]
  simp only [Session.isDefining, Option.isSome_some, if_true, Done.block]
  cases (run (w.setPolarity q)).failure <;> rfl

lemma Workshop.clause_eq_self {e : PolicyError} (h : (w.clause catalog c).1 = .error e) :
    (w.clause catalog c).2 = w := by
  rw [clause] at h ⊢
  cases hs : w.session.apply catalog c with
  | ok s => simp [hs] at h
  | error e' => rfl

lemma Workshop.performAll_eq (catalog : Catalog) (statements : List (Statement χ))
    (hw : w.session.draft = some d) (p : Polarity) :
    ∃ d', d.issueAll catalog (accepted catalog statements) = .ok d' ∧
      (performAll catalog statements w : Run χ ω).entries =
        statements.map (Statement.entry catalog) ∧
      (performAll catalog statements w : Run χ ω).workshop.setPolarity p =
        { w with session := ⟨some d', p⟩ } := by
  induction statements generalizing w d with
  | nil => exact ⟨d, rfl, rfl, by rw [← hw]; rfl⟩
  | cons s statements ih =>
    have hs : (w.setPolarity s.polarity).session = ⟨some d, s.polarity⟩ := by rw [← hw]; rfl
    obtain ⟨d₁, hc, hi⟩ := exists_clause catalog hs s.clause
    obtain ⟨d', hd, he, hr⟩ :=
      ih (w := { w with session := ⟨some d₁, s.polarity⟩ }) (d := d₁) rfl
    have hp : w.perform catalog s =
        (⟨s.entry catalog, s.clause.failure? catalog,
          { w with session := ⟨some d₁, s.polarity⟩ }⟩ : Done χ ω) := by
      rw [perform, hc, Done.step, failureOf_outcomeOf]
      rfl
    rw [performAll, hp, Done.andThen_eq, List.map_cons, ← he]
    exact ⟨d', (hi statements).trans hd, rfl, hr⟩

end

namespace Body

variable {catalog : Catalog} {d : Draft χ} {w : Workshop χ} {p : Polarity}

lemma entries_script (body : Body χ) (hw : w.session = ⟨some d, p⟩) :
    (body.script.run catalog w : Run χ ω).entries = body.account catalog p := by
  induction body generalizing w d p with
  | done => rfl
  | clause c caught rest ih =>
    obtain ⟨d', hc, _⟩ := Workshop.exists_clause catalog hw c
    rw [script, Script.run, Step.run, hc, Done.andThen_eq, account]
    simp only [Done.step, failureOf_outcomeOf]
    split
    · rfl
    · exact congrArg _ (ih rfl)
  | block q body caught rest ihb ihr =>
    have hq : (w.setPolarity q).session = ⟨some d, q⟩ := by rw [Workshop.setPolarity, hw]
    obtain ⟨d', _, hf, hr⟩ := run_script (ω := ω) catalog body hq
    rw [script, Script.run_block, Done.andThen_eq, Done.failure_block_within hw,
      Done.workshop_block_within hw, Done.entry_block_within hw, hf, hr, ihb hq, account]
    split
    · rfl
    · exact congrArg _ (ihr rfl)

lemma leavesAll_account (catalog : Catalog) (body : Body χ) (p : Polarity) :
    Entry.leavesAll (body.account catalog p : List (Entry χ ω)) =
      (body.reached catalog p).map (Statement.entry catalog) := by
  induction body generalizing p with
  | done => rw [account, Entry.leavesAll, reached, List.map_nil]
  | clause c caught rest ih =>
    rw [account, Entry.leavesAll, Statement.entry, Entry.leaves, reached, List.map_cons,
      List.singleton_append, Statement.entry]
    split
    · rw [Entry.leavesAll, List.map_nil]
    · rw [ih]
  | block q body caught rest ihb ihr =>
    rw [account, Entry.leavesAll, Entry.leaves, ihb, reached, List.map_append]
    split
    · rw [Entry.leavesAll, List.map_nil]
    · rw [ihr]

theorem run_flattens (catalog : Catalog) (body : Body χ) (hw : w.session = ⟨some d, p⟩) :
    let r : Run χ ω := body.script.run catalog w
    let flat : Run χ ω := w.performAll catalog (body.reached catalog p)
    r.workshop = flat.workshop.setPolarity p ∧ Entry.leavesAll r.entries = flat.entries ∧
      r.entries = body.account catalog p ∧ r.failure = body.failure? catalog ∧
      ∀ (v : Workshop χ) (c : Clause χ) (e : PolicyError),
        (v.clause catalog c).1 = .error e → (v.clause catalog c).2 = v := by
  intro r flat
  obtain ⟨d', hi, hf, hr⟩ := run_script (ω := ω) catalog body hw
  have hd : w.session.draft = some d := by rw [hw]
  obtain ⟨d₁, hi₁, he₁, hr₁⟩ :=
    Workshop.performAll_eq (ω := ω) catalog (body.reached catalog p) hd p
  have hd : d₁ = d' := Except.ok.inj (hi₁.symm.trans hi)
  have he : r.entries = body.account catalog p := entries_script body hw
  refine ⟨?_, ?_, he, hf, fun v c e => Workshop.clause_eq_self⟩
  · calc r.workshop = { w with session := ⟨some d', p⟩ } := hr
      _ = flat.workshop.setPolarity p := by rw [hr₁, hd]
  · calc Entry.leavesAll r.entries
        = (body.reached catalog p).map (Statement.entry catalog) := by
          rw [he, leavesAll_account]
      _ = flat.entries := he₁.symm

def draftingBody : Body Probe :=
  .clause (.declare "view" [] none) false
    (.block .allow
      (.clause (.declare "edit" [.named "draft"] none) false
        (.block .deny
          (.clause (.respond "shred" .allow) true
            (.clause (.declare "edit" [.named "final"] none) false
              (.clause (.declare "print" [] none) false
                (.clause (.declare "edit" [] none) false .done)))) true
          (.clause (.declare "view" [.named "draft"] none) false .done))) false
      (.clause (.declare "edit" [] none) false .done))

theorem draftingBody_flattens :
    let catalog : Catalog := { abilities := [⟨⟨"view"⟩, none⟩, ⟨⟨"edit"⟩, none⟩] }
    let w : Workshop Probe := { session := ⟨some (.start 0 "author" []), .deny⟩ }
    let flat : Run Probe Unit := w.performAll catalog (draftingBody.reached catalog .deny)
    w.session = ⟨some (.start 0 "author" []), .deny⟩ ∧
    draftingBody.reached catalog .deny =
      [⟨.deny, .declare "view" [] none⟩, ⟨.allow, .declare "edit" [.named "draft"] none⟩,
        ⟨.deny, .respond "shred" .allow⟩, ⟨.deny, .declare "edit" [.named "final"] none⟩,
        ⟨.deny, .declare "print" [] none⟩, ⟨.allow, .declare "view" [.named "draft"] none⟩,
        ⟨.deny, .declare "edit" [] none⟩] ∧
    (draftingBody.script.run catalog w : Run Probe Unit).workshop =
      flat.workshop.setPolarity .deny ∧
    (draftingBody.script.run catalog w : Run Probe Unit).entries =
      draftingBody.account catalog .deny := by
  intro catalog w flat
  obtain ⟨hw, _, he, _⟩ := run_flattens (ω := Unit) (w := w) catalog draftingBody rfl
  exact ⟨rfl, by rfl, hw, he⟩

end Body

end RolePolicy
