import RolePolicy.Check
import RolePolicy.Proofs.Statements

/-! Of the statements about a role the last one decides: which rule an action has, which response is
stored for it at a key, and what the default is. -/

namespace RolePolicy

variable {χ α : Type}

def IsLast (P : α → Prop) (before : List α) (x : α) (l : List α) : Prop :=
  ∃ after, l = before ++ x :: after ∧ P x ∧ ∀ y ∈ after, ¬ P y

lemma IsLast.mem {P : α → Prop} {before l : List α} {x : α} (h : IsLast P before x l) : x ∈ l := by
  obtain ⟨after, rfl, _⟩ := h
  simp

lemma not_isLast_nil {P : α → Prop} {before : List α} {x : α} : ¬ IsLast P before x [] := by
  rintro ⟨after, h, _⟩
  simp at h

lemma isLast_concat_of_pos {P : α → Prop} {before l : List α} {x y : α} (hy : P y) :
    IsLast P before x (l ++ [y]) ↔ before = l ∧ x = y := by
  constructor
  · rintro ⟨after, h, _, hn⟩
    rcases List.eq_nil_or_concat after with rfl | ⟨after, z, rfl⟩
    · obtain ⟨hb, hx⟩ := List.append_inj' h rfl
      exact ⟨hb.symm, (List.cons.inj hx).1.symm⟩
    · rw [List.concat_eq_append, ← List.cons_append, ← List.append_assoc] at h
      obtain ⟨_, hz⟩ := List.append_inj' h rfl
      obtain rfl := (List.cons.inj hz).1
      exact (hn y (by simp) hy).elim
  · rintro ⟨rfl, rfl⟩
    exact ⟨[], rfl, hy, by simp⟩

lemma isLast_concat_of_neg {P : α → Prop} {before l : List α} {x y : α} (hy : ¬ P y) :
    IsLast P before x (l ++ [y]) ↔ IsLast P before x l := by
  constructor
  · rintro ⟨after, h, hx, hn⟩
    rcases List.eq_nil_or_concat after with rfl | ⟨after, z, rfl⟩
    · obtain ⟨_, hz⟩ := List.append_inj' h rfl
      obtain rfl := (List.cons.inj hz).1
      exact (hy hx).elim
    · rw [List.concat_eq_append, ← List.cons_append, ← List.append_assoc] at h
      obtain ⟨hl, _⟩ := List.append_inj' h rfl
      exact ⟨after, hl, hx, fun z hz => hn z (by simp [hz])⟩
  · rintro ⟨after, rfl, hx, hn⟩
    refine ⟨after ++ [y], by simp, hx, fun z hz => ?_⟩
    rcases List.mem_append.mp hz with hz | hz
    · exact hn z hz
    · obtain rfl := List.mem_singleton.mp hz
      exact hy

lemma exists_isLast_concat_of_pos {P : α → Prop} {Q : List α → α → Prop} {l : List α} (y : α)
    (hy : P y) : (∃ before x, IsLast P before x (l ++ [y]) ∧ Q before x) ↔ Q l y := by
  constructor
  · rintro ⟨before, x, hl, hq⟩
    obtain ⟨rfl, rfl⟩ := (isLast_concat_of_pos hy).mp hl
    exact hq
  · exact fun hq => ⟨l, y, (isLast_concat_of_pos hy).mpr ⟨rfl, rfl⟩, hq⟩

lemma exists_isLast_concat_of_neg {P : α → Prop} {Q : List α → α → Prop} {l : List α} (y : α)
    (hy : ¬ P y) : (∃ before x, IsLast P before x (l ++ [y]) ∧ Q before x) ↔
      ∃ before x, IsLast P before x l ∧ Q before x := by
  simp only [isLast_concat_of_neg hy]

structure LastWriter (catalog : Catalog) (build : Nat) (role : String) (parents : List String)
    (statements : List (Statement χ)) (r : RuleSet χ) : Prop where
  name_eq : r.name = role
  rule?_eq_none : ∀ a, r.rule? a = none ↔ ∀ s ∈ statements, ¬ s.clause.Touches catalog a
  everywhere : ∀ a x, r.rule? a = some (.everywhere x) ↔
    ∃ before s, IsLast (fun s => s.clause.Touches catalog a) before s statements ∧
      s.clause.RespondsWith catalog a x
  byResource : ∀ a, (∃ t, r.rule? a = some (.byResource t)) ↔
    ∃ before s, IsLast (fun s => s.clause.Touches catalog a) before s statements ∧
      s.clause.Declares catalog a
  responseFor? : ∀ a k x, r.responseFor? a k = some x ↔
    ∃ before s, IsLast (fun s => s.clause.DeclaresAt catalog a k ∨ s.clause.Responds catalog a)
      before s statements ∧ s.clause.DeclaresAt catalog a k ∧ s.declared build before = some x
  default : r.defaultResponse = (statements.filterMap fun s => s.clause.default?).getLast?
  parents_eq : r.parents = (parents ++ statements.flatMap fun s => s.clause.parents).eraseDups

namespace LastWriter

variable {catalog : Catalog} {build : Nat} {role : String} {parents : List String}
  {statements past : List (Statement χ)} {d d' : Draft χ} {s : Statement χ}

lemma start (catalog : Catalog) (build : Nat) (role : String) (parents : List String) :
    LastWriter (χ := χ) catalog build role parents [] (Draft.start build role parents).rules := by
  have hp := RuleSet.parents_addParents (χ := χ) { name := role } (l := []) rfl parents
  rw [Draft.start, RuleSet.addParents_frame, hp]
  constructor <;> simp [RuleSet.rule?, RuleSet.responseFor?, not_isLast_nil]

lemma issue (h : LastWriter catalog build role parents past d.rules)
    (hn : d.next = ⟨build, past.countP fun t => t.clause.isConditional⟩)
    (hs : d.issue catalog s = .ok d') :
    LastWriter catalog build role parents (past ++ [s]) d'.rules where
  name_eq := (Draft.name_issue hs).trans h.name_eq
  rule?_eq_none a := by
    by_cases ha : s.clause.Touches catalog a
    · have hn : d'.rules.rule? a ≠ none := by
        rcases ha with hd | hr
        · obtain ⟨t, ht⟩ := Draft.rule?_issue_of_declares hs hd
          simp [ht]
        · obtain ⟨x, hx⟩ := Clause.responds_iff.mp hr
          simp [Draft.rule?_issue_of_respondsWith hs hx]
      exact iff_of_false hn fun hall => hall s (by simp) ha
    · rw [Draft.rule?_issue_of_not_touches hs ha, h.rule?_eq_none]
      simp [or_imp, forall_and, ha]
  everywhere a x := by
    by_cases ha : s.clause.Touches catalog a
    · rw [exists_isLast_concat_of_pos s ha]
      rcases ha with hd | hr
      · obtain ⟨t, ht⟩ := Draft.rule?_issue_of_declares hs hd
        refine iff_of_false (by simp [ht]) fun hx => ?_
        exact Clause.not_declares_of_responds (Clause.responds_iff.mpr ⟨x, hx⟩) hd
      · obtain ⟨y, hy⟩ := Clause.responds_iff.mp hr
        rw [Draft.rule?_issue_of_respondsWith hs hy]
        simp [Clause.respondsWith_iff hy, eq_comm]
    · rw [Draft.rule?_issue_of_not_touches hs ha, h.everywhere]
      exact (exists_isLast_concat_of_neg s ha).symm
  byResource a := by
    by_cases ha : s.clause.Touches catalog a
    · rw [exists_isLast_concat_of_pos s ha]
      rcases ha with hd | hr
      · exact iff_of_true (Draft.rule?_issue_of_declares hs hd) hd
      · obtain ⟨y, hy⟩ := Clause.responds_iff.mp hr
        rw [Draft.rule?_issue_of_respondsWith hs hy]
        exact iff_of_false (by simp) (Clause.not_declares_of_responds hr)
    · rw [Draft.rule?_issue_of_not_touches hs ha, h.byResource]
      exact (exists_isLast_concat_of_neg s ha).symm
  responseFor? a k x := by
    by_cases hk : s.clause.DeclaresAt catalog a k
    · have hp : s.clause.DeclaresAt catalog a k ∨ s.clause.Responds catalog a := Or.inl hk
      rw [exists_isLast_concat_of_pos s hp, Draft.responseFor?_issue_of_declaresAt hs hn hk]
      exact (and_iff_right hk).symm
    · by_cases hr : s.clause.Responds catalog a
      · have hp : s.clause.DeclaresAt catalog a k ∨ s.clause.Responds catalog a := Or.inr hr
        obtain ⟨y, hy⟩ := Clause.responds_iff.mp hr
        rw [exists_isLast_concat_of_pos s hp,
          RuleSet.responseFor?_of_everywhere (Draft.rule?_issue_of_respondsWith hs hy)]
        exact iff_of_false (by simp) fun hx => hk hx.1
      · have hn : ¬ (s.clause.DeclaresAt catalog a k ∨ s.clause.Responds catalog a) := by
          rintro (hk' | hr')
          · exact hk hk'
          · exact hr hr'
        rw [Draft.responseFor?_issue_of_not hs hk hr, h.responseFor?]
        exact (exists_isLast_concat_of_neg s hn).symm
  default := by
    rw [Draft.defaultResponse_issue hs, h.default, List.filterMap_append]
    cases hd : s.clause.default? <;> simp [hd]
  parents_eq := by
    rw [Draft.parents_issue hs h.parents_eq]
    simp

lemma issueAll (h : LastWriter catalog build role parents past d.rules)
    (hn : d.next = ⟨build, past.countP fun t => t.clause.isConditional⟩)
    (hs : d.issueAll catalog statements = .ok d') :
    LastWriter catalog build role parents (past ++ statements) d'.rules := by
  induction statements generalizing past d with
  | nil =>
    cases hs
    simpa using h
  | cons s statements ih =>
    obtain ⟨d₁, hi, hr⟩ := Draft.issueAll_cons.mp hs
    have hn₁ : d₁.next = ⟨build, (past ++ [s]).countP fun t => t.clause.isConditional⟩ := by
      rw [Draft.next_issue hi, hn, List.countP_append, List.countP_singleton]
      split <;> rfl
    simpa using ih (h.issue hn hi) hn₁ hr

end LastWriter

theorem finish_last_writer {catalog : Catalog} {t t₀ t₁ : Session χ} {build : Nat} {role : String}
    {parents : List String} {statements : List (Statement χ)}
    (hb : t.start build role parents = .ok t₀) (hs : t₀.issueAll catalog statements = .ok t₁) :
    ∃ r, t₁.finish = .ok (r, {}) ∧ LastWriter catalog build role parents statements r := by
  have hd : t₀.draft = some (Draft.start build role parents) := by
    rw [Session.start] at hb
    split at hb <;> cases hb
    rfl
  obtain ⟨d, hi, ht⟩ := Session.exists_draft_issueAll hd hs
  refine ⟨d.rules, ?_, (LastWriter.start catalog build role parents).issueAll rfl hi⟩
  rw [Session.finish, ht]

def desk : Catalog :=
  Catalog.applyAll {} [.action "view", .action "update", .group "edit" ["view", "update"]]

def deskStatements : List (Statement Probe) :=
  [⟨.allow, .declare "edit" [.named "Draft"] none⟩,
    ⟨.allow, .respond "view" .deny⟩,
    ⟨.deny, .declare "view" [.named "Draft", .other] none⟩,
    ⟨.allow, .declare "update" [] (some (.ifHolds ⟨0, none, .const true, none, none⟩))⟩,
    ⟨.allow, .setDefault .unset⟩,
    ⟨.allow, .addParents ["reader", "guest"]⟩]

theorem desk_last_writer :
    ∃ t₀ t₁, Session.start {} 7 "clerk" ["guest"] = .ok t₀ ∧
      t₀.issueAll desk deskStatements = .ok t₁ ∧
      ∃ r, t₁.finish = .ok (r, {}) ∧ LastWriter desk 7 "clerk" ["guest"] deskStatements r :=
  ⟨_, _, rfl, rfl, finish_last_writer (t := {}) rfl rfl⟩

end RolePolicy
