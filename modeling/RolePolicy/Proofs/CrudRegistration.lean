import RolePolicy.Proofs.CatalogHistory
import RolePolicy.Proofs.GroupExpansion

/-! The CRUD actions are registered one after another, and their group at the end. A name that
stands in the way stays in the way, so a registration that stops midway never comes to an end. One
that succeeded is not made again. -/

namespace RolePolicy.Catalog

variable {c c' : Catalog} {a b : Ability} {l before rest : List Ability} {n : String}
  {e : CatalogError} {rs : List Registration}

def CrudRegistered (rs : List Registration) : Prop :=
  ∃ before r after, rs = before ++ r :: after ∧ r = .crud ∧
    ((applyAll {} before).apply r).1 = .ok ()

def Fits (c : Catalog) (a : Ability) : Prop :=
  c.contains a.action.name = false ∨
    c.isAction a.action.name ∧ c.ableFor? a.action.name = a.able

instance : DecidablePred c.Fits := fun _ => inferInstanceAs (Decidable (_ ∨ _))

def completed (c : Catalog) (l : List Ability) : Catalog :=
  { c with abilities := c.abilities ++ l.filter fun a => !c.contains a.action.name }

inductive CrudConflict (c : Catalog) : List Ability → CatalogError → Prop
  | action (before : List Ability) (a : Ability) (after : List Ability) :
      crudAbilities = before ++ a :: after → (∀ b ∈ before, c.Fits b) → ¬ c.Fits a →
      CrudConflict c before (.duplicateAction a.action.name)
  | group : (∀ b ∈ crudAbilities, c.Fits b) → c.isAction crudGroup →
      CrudConflict c crudAbilities (.duplicateAction crudGroup)

structure CrudAdded (c c' : Catalog) : Prop where
  group : c'.resolve crudGroup = .ok (crudAbilities.map Ability.action)
  able : ∀ a ∈ crudAbilities, c'.isAction a.action.name ∧ c'.ableFor? a.action.name = a.able
  others : ∀ n, n ≠ crudGroup → (∀ a ∈ crudAbilities, a.action.name ≠ n) →
    c'.resolve n = c.resolve n ∧ c'.ableFor? n = c.ableFor? n
  abilities : c'.abilities = (c.completed crudAbilities).abilities

lemma ability?_eq_some_iff : c.ability? a.action.name = some a ↔
    c.isAction a.action.name ∧ c.ableFor? a.action.name = a.able := by
  rw [isAction, ableFor?]
  cases h : c.ability? a.action.name with
  | none => simp
  | some known =>
    have hn : known.action = a.action := congrArg Action.mk (by simpa using List.find?_some h)
    obtain ⟨action, able⟩ := known
    obtain ⟨action', able'⟩ := a
    simpa using fun _ => hn

lemma fits_iff : c.Fits a ↔ c.contains a.action.name = false ∨
    c.ability? a.action.name = some a := by
  rw [Fits, ability?_eq_some_iff]

lemma ability?_eq_none (h : c.contains n = false) : c.ability? n = none := by
  rw [contains, Bool.or_eq_false_iff] at h
  simpa [isAction] using h.1

lemma contains_of_ability? (h : c.ability? n = some a) : c.contains n :=
  contains_of_isAction (by rw [isAction, h, Option.isSome_some])

lemma contains_of_not_fits (h : ¬ c.Fits a) : c.contains a.action.name := by
  rw [Fits, not_or, Bool.not_eq_false] at h
  exact h.1

lemma register_of_fits (h : c.Fits a) :
    c.register a.action.name a.able = .ok (c.completed [a]) := by
  rw [register, completed]
  rcases fits_iff.mp h with hn | ha
  · have hg : c.groups.contains a.action.name = false := (Bool.or_eq_false_iff.mp hn).2
    simp [ability?_eq_none hn, hn, hg]
  · simp [ha, contains_of_ability? ha]

lemma register_of_not_fits (h : ¬ c.Fits a) :
    c.register a.action.name a.able = .error (.duplicateAction a.action.name) := by
  have hc := contains_iff_or.mp (contains_of_not_fits h)
  rw [register]
  cases ha : c.ability? a.action.name with
  | none => simpa [isAction, ha] using hc
  | some known =>
    have hne : known.able ≠ a.able := fun he =>
      h (Or.inr ⟨by simp [isAction, ha], by simp [ableFor?, ha, he]⟩)
    simp [hne]

lemma ability?_completed_of_ne (h : ∀ a ∈ l, a.action.name ≠ n) :
    (c.completed l).ability? n = c.ability? n := by
  have hl : (l.filter fun a => !c.contains a.action.name).find? (·.action.name == n) = none := by
    simpa using fun a ha _ => h a ha
  rw [ability?, completed, List.find?_append, hl, Option.or_none, ability?]

lemma isAction_completed_of_ne (h : ∀ a ∈ l, a.action.name ≠ n) :
    (c.completed l).isAction n = c.isAction n := by
  rw [isAction, ability?_completed_of_ne h, isAction]

lemma contains_completed_of_ne (h : ∀ a ∈ l, a.action.name ≠ n) :
    (c.completed l).contains n = c.contains n := by
  rw [contains, isAction_completed_of_ne h]
  rfl

lemma fits_completed (h : ∀ a ∈ l, a.action.name ≠ b.action.name) :
    (c.completed l).Fits b ↔ c.Fits b := by
  rw [fits_iff, fits_iff, contains_completed_of_ne h, ability?_completed_of_ne h]

lemma completed_cons (h : ∀ b ∈ l, a.action.name ≠ b.action.name) :
    (c.completed [a]).completed l = c.completed (a :: l) := by
  have hl : (l.filter fun b => !(c.completed [a]).contains b.action.name) =
      l.filter fun b => !c.contains b.action.name :=
    List.filter_congr fun b hb => by rw [contains_completed_of_ne (by simpa using h b hb)]
  rw [completed, hl]
  simp [completed, List.filter_cons]
  cases c.contains a.action.name <;> simp

lemma completed_of_contains (h : ∀ a ∈ l, c.contains a.action.name) : c.completed l = c := by
  have hl : (l.filter fun a => !c.contains a.action.name) = [] := by simpa using h
  rw [completed, hl, List.append_nil]

lemma registerAll_append (hd : l.Pairwise fun a b => a.action.name ≠ b.action.name)
    (h : ∀ a ∈ l, c.Fits a) : c.registerAll (l ++ rest) = (c.completed l).registerAll rest := by
  induction l generalizing c with
  | nil => rw [completed_of_contains (by simp), List.nil_append]
  | cons a l ih =>
    obtain ⟨ha, hl⟩ := List.pairwise_cons.mp hd
    obtain ⟨hf, hfs⟩ := List.forall_mem_cons.mp h
    have hfs' : ∀ b ∈ l, (c.completed [a]).Fits b := fun b hb =>
      (fits_completed (by simpa using ha b hb)).mpr (hfs b hb)
    rw [List.cons_append, registerAll, register_of_fits hf]
    exact (ih hl hfs').trans (by rw [completed_cons ha])

lemma registerAll_of_fits (hd : l.Pairwise fun a b => a.action.name ≠ b.action.name)
    (h : ∀ a ∈ l, c.Fits a) : c.registerAll l = (.ok (), c.completed l) := by
  rw [← List.append_nil l, registerAll_append hd h, List.append_nil]
  rfl

lemma becomes_completed (hd : l.Pairwise fun a b => a.action.name ≠ b.action.name)
    (h : ∀ a ∈ l, c.Fits a) : c.Becomes (c.completed l) := by
  have hl := c.becomes_registerAll l
  rwa [registerAll_of_fits hd h] at hl

lemma Sound.ability?_completed (hs : c.Sound)
    (hd : l.Pairwise fun a b => a.action.name ≠ b.action.name) (h : ∀ a ∈ l, c.Fits a)
    (ha : a ∈ l) : (c.completed l).ability? a.action.name = some a := by
  have hc := becomes_completed hd h
  rcases fits_iff.mp (h a ha) with hn | hk
  · exact (hs.becomes hc).ability?_eq_some (by simp [completed, ha, hn])
  · exact hc.ability? hk

lemma crudAbilities_pairwise :
    crudAbilities.Pairwise fun a b => a.action.name ≠ b.action.name := by
  decide

lemma crudConflict_or (c : Catalog) :
    (∀ a ∈ crudAbilities, c.Fits a) ∧ c.isAction crudGroup = false ∨
      ∃ before e, c.CrudConflict before e := by
  cases h : crudAbilities.find? fun a => !decide (c.Fits a) with
  | none =>
    have hf : ∀ a ∈ crudAbilities, c.Fits a := by simpa using h
    cases hg : c.isAction crudGroup with
    | false => exact Or.inl ⟨hf, rfl⟩
    | true => exact Or.inr ⟨_, _, .group hf hg⟩
  | some a =>
    obtain ⟨ha, before, after, he, hb⟩ := List.find?_eq_some_iff_append.mp h
    exact Or.inr ⟨_, _, .action before a after he (by simpa using hb) (by simpa using ha)⟩

lemma CrudConflict.pairwise (h : c.CrudConflict before e) :
    before.Pairwise fun a b => a.action.name ≠ b.action.name := by
  cases h with
  | action before a after he => exact (List.pairwise_append.mp (he ▸ crudAbilities_pairwise)).1
  | group => exact crudAbilities_pairwise

lemma CrudConflict.fits (h : c.CrudConflict before e) : ∀ b ∈ before, c.Fits b := by
  cases h with
  | action before a after he hb ha => exact hb
  | group hb hg => exact hb

lemma CrudConflict.isAction_crudGroup (h : c.CrudConflict before e)
    (hf : ∀ a ∈ crudAbilities, c.Fits a) : c.isAction crudGroup := by
  cases h with
  | action before a after he hb ha => exact absurd (hf a (by simp [he])) ha
  | group hb hg => exact hg

lemma registerCrud_of_conflict (hc : c.hasCrud = false) (h : c.CrudConflict before e) :
    c.registerCrud = (.error e, c.completed before) := by
  have hd := h.pairwise
  rw [registerCrud, hc]
  cases h with
  | action before a after he hb ha =>
    have hne : ∀ b ∈ before, b.action.name ≠ a.action.name := fun b hb =>
      (List.pairwise_append.mp (he ▸ crudAbilities_pairwise)).2.2 b hb a List.mem_cons_self
    have ha' : ¬ (c.completed before).Fits a := mt (fits_completed hne).mp ha
    simp [he, registerAll_append hd hb, registerAll, register_of_not_fits ha']
  | group hb hg =>
    have hg' : (c.completed crudAbilities).isAction crudGroup :=
      (becomes_completed hd hb).isAction hg
    simp [registerAll_of_fits crudAbilities_pairwise hb, registerGroup, hg']

def withCrud (c : Catalog) : Catalog :=
  { c.completed crudAbilities with
    groups := c.groups.insert crudGroup (crudAbilities.map Ability.action)
    hasCrud := true }

lemma Sound.registerCrud_of_fits (hs : c.Sound) (hc : c.hasCrud = false)
    (h : ∀ a ∈ crudAbilities, c.Fits a) (hg : c.isAction crudGroup = false) :
    c.registerCrud = (.ok (), c.withCrud) := by
  have hs' : (c.completed crudAbilities).Sound :=
    hs.becomes (becomes_completed crudAbilities_pairwise h)
  have hg' : (c.completed crudAbilities).isAction crudGroup = false :=
    (isAction_completed_of_ne (by decide)).trans hg
  have ha : ∀ a ∈ crudAbilities.map Ability.action,
      (c.completed crudAbilities).isAction a.name := List.forall_mem_map.mpr fun a ha =>
    (ability?_eq_some_iff.mp (hs.ability?_completed crudAbilities_pairwise h ha)).1
  have hm : ∀ m ∈ (crudAbilities.map Ability.action).map Action.name,
      (c.completed crudAbilities).contains m :=
    List.forall_mem_map.mpr fun a hm => contains_of_isAction (ha a hm)
  have he : (crudAbilities.map Ability.action).eraseDups = crudAbilities.map Ability.action := by
    decide
  have hr := hs'.registerGroup_eq_ok_iff.mpr ⟨⟨hg', hm, by decide⟩, rfl⟩
  rw [flatMap_meaning_names ha, he, List.map_map] at hr
  rw [registerCrud, hc, registerAll_of_fits crudAbilities_pairwise h]
  simp only [Function.comp_def] at hr
  simp only [hr, Bool.false_eq_true, if_false]
  rfl

lemma Sound.crudAdded (hs : c.Sound) (h : ∀ a ∈ crudAbilities, c.Fits a)
    (hg : c.isAction crudGroup = false) : c.CrudAdded c.withCrud := by
  have hg' : (c.completed crudAbilities).isAction crudGroup = false :=
    (isAction_completed_of_ne (by decide)).trans hg
  refine ⟨?_, fun a ha => ?_, fun n hne hn => ⟨?_, ?_⟩, rfl⟩
  · exact (resolve_insert_group hg' _ _).trans (if_pos rfl)
  · exact ability?_eq_some_iff.mp (hs.ability?_completed crudAbilities_pairwise h ha)
  · refine (resolve_insert_group hg' _ n).trans ((if_neg hne.symm).trans ?_)
    exact resolve_eq_of_groups_eq (isAction_completed_of_ne hn) rfl
  · exact congrArg (Option.bind · Ability.able) (ability?_completed_of_ne hn)

lemma Sound.ableFor?_eq (hs : c.Sound) (h : c.Becomes c') (hn : c.contains n) :
    c'.ableFor? n = c.ableFor? n := by
  cases ha : c.isAction n with
  | true => exact h.ableFor? ha
  | false =>
    have ha' : c'.isAction n = false := by rw [hs.isAction_eq h hn, ha]
    rw [isAction, Option.isSome_eq_false_iff, Option.isNone_iff_eq_none] at ha ha'
    rw [ableFor?, ableFor?, ha, ha']

lemma Sound.fits_iff_of_becomes (hs : c.Sound) (h : c.Becomes c')
    (hn : c.contains a.action.name) : c'.Fits a ↔ c.Fits a := by
  rw [Fits, Fits, h.contains hn, hn, hs.isAction_eq h hn, hs.ableFor?_eq h hn]

structure CrudRefused (c : Catalog) (before : List Ability) (e : CatalogError) : Prop where
  hasCrud : c.hasCrud = false
  conflict : c.CrudConflict before e
  known : ∀ a ∈ before, c.ability? a.action.name = some a

lemma CrudRefused.registerCrud (h : c.CrudRefused before e) :
    c.registerCrud = (.error e, c) := by
  rw [registerCrud_of_conflict h.hasCrud h.conflict,
    completed_of_contains fun a ha => contains_of_ability? (h.known a ha)]

lemma Sound.crudConflict_of_becomes (hs : c.Sound) (h : c.CrudConflict before e)
    (hc : c.Becomes c') (hk : ∀ a ∈ before, c'.ability? a.action.name = some a) :
    c'.CrudConflict before e := by
  have hf : ∀ a ∈ before, c'.Fits a := fun a ha => fits_iff.mpr (Or.inr (hk a ha))
  cases h with
  | action before a after he hb ha =>
    have hn : c.contains a.action.name := contains_of_not_fits ha
    exact .action before a after he hf (mt (hs.fits_iff_of_becomes hc hn).mp ha)
  | group hb hg => exact .group hf (hc.isAction hg)

lemma Sound.crudRefused (hs : c.Sound) (hc : c.hasCrud = false) (h : c.CrudConflict before e) :
    (c.completed before).CrudRefused before e := by
  have hk : ∀ a ∈ before, (c.completed before).ability? a.action.name = some a := fun a ha =>
    hs.ability?_completed h.pairwise h.fits ha
  exact ⟨hc, hs.crudConflict_of_becomes h (becomes_completed h.pairwise h.fits) hk, hk⟩

lemma hasCrud_apply_of_ne {r : Registration} (h : r ≠ .crud) :
    (c.apply r).2.hasCrud = c.hasCrud := by
  have hs {x : Except CatalogError Catalog} (hx : ∀ c', x = .ok c' → c'.hasCrud = c.hasCrud) :
      (c.settle x).2.hasCrud = c.hasCrud := by
    cases x with
    | error e => rfl
    | ok c' => exact hx c' rfl
  have hr (name : String) (able : Option String) (c' : Catalog)
      (hc : c.register name able = .ok c') : c'.hasCrud = c.hasCrud := by
    rcases register_cases hc with rfl | ⟨_, _, rfl⟩ <;> rfl
  cases r with
  | action name => exact hs (hr name none)
  | ability name able => exact hs (hr name (some able))
  | group name members =>
    refine hs fun c' hc => ?_
    obtain ⟨actions, _, _, _, rfl⟩ := registerGroup_cases hc
    rfl
  | crud => exact absurd rfl h

lemma hasCrud_registerCrud (c : Catalog) :
    c.registerCrud.2.hasCrud ↔ c.registerCrud.1 = .ok () := by
  cases hc : c.hasCrud with
  | true => simp [registerCrud, hc]
  | false =>
    rcases c.registerCrud_cases with ⟨hc', _⟩ | ⟨e, hr⟩ | ⟨c', _, _, hr⟩
    · rw [hc] at hc'
      cases hc'
    · rw [hr, registerAll_eq]
      simp [hc]
    · simp [hr]

lemma hasCrud_apply {r : Registration} : (c.apply r).2.hasCrud ↔
    c.hasCrud ∨ r = .crud ∧ (c.apply r).1 = .ok () := by
  by_cases hr : r = .crud
  · subst hr
    have h : c.hasCrud → c.registerCrud.1 = .ok () := fun hc => by simp [registerCrud, hc]
    simpa [apply, hasCrud_registerCrud] using h
  · simp [hasCrud_apply_of_ne hr, hr]

lemma hasCrud_applyAll (rs : List Registration) :
    (applyAll {} rs).hasCrud ↔ CrudRegistered rs := by
  induction rs using List.reverseRecOn with
  | nil => simp [applyAll, CrudRegistered]
  | append_singleton rs r ih =>
    rw [applyAll_concat, hasCrud_apply, ih, CrudRegistered, CrudRegistered, exists_split_concat]

lemma CrudRefused.apply (hs : c.Sound) (h : c.CrudRefused before e) (r : Registration) :
    (c.apply r).2.CrudRefused before e := by
  have hc := c.becomes_apply r
  have hk : ∀ a ∈ before, (c.apply r).2.ability? a.action.name = some a := fun a ha =>
    hc.ability? (h.known a ha)
  have hn : ¬ (c.apply r).2.hasCrud := by
    rw [hasCrud_apply, h.hasCrud]
    rintro (hf | ⟨rfl, ho⟩)
    · cases hf
    · rw [Catalog.apply, h.registerCrud] at ho
      cases ho
  exact ⟨by simpa using hn, hs.crudConflict_of_becomes h.conflict hc hk, hk⟩

lemma CrudRefused.applyAll (hs : c.Sound) (h : c.CrudRefused before e)
    (rs : List Registration) : (c.applyAll rs).CrudRefused before e := by
  induction rs generalizing c with
  | nil => exact h
  | cons r rs ih => exact ih (hs.becomes (c.becomes_apply r)) (h.apply hs r)

lemma hasCrud_applyAll_of_hasCrud (h : c.hasCrud) (rs : List Registration) :
    (c.applyAll rs).hasCrud := by
  induction rs generalizing c with
  | nil => exact h
  | cons r rs ih => exact ih (hasCrud_apply.mpr (Or.inl h))

lemma registerCrud_of_hasCrud (h : c.hasCrud) : c.registerCrud = (.ok (), c) := by
  rw [registerCrud, if_pos h]

theorem crud_registration (rs : List Registration) :
    let c := applyAll {} rs
    let t := NameTables.applyAll {} rs
    let r := c.apply .crud
    (CrudRegistered rs → r = (.ok (), c)) ∧
    (¬ CrudRegistered rs →
      (r.1 = .ok () ↔ (∀ a ∈ crudAbilities, c.Fits a) ∧ c.isAction crudGroup = false) ∧
      (r.1 = .ok () → c.CrudAdded r.2 ∧
        ∀ rs', (r.2.applyAll rs').apply .crud = (.ok (), r.2.applyAll rs')) ∧
      ∀ e, r.1 = .error e →
        (∃ before, c.CrudConflict before e ∧ r.2 = c.completed before) ∧
        (∀ n, c.contains n → r.2.resolve n = c.resolve n ∧ r.2.ableFor? n = c.ableFor? n) ∧
        ∀ rs', (r.2.applyAll rs').apply .crud = (.error e, r.2.applyAll rs')) ∧
    (t.apply .crud).1 = r.1 ∧ (t.apply .crud).2.listing = r.2.listing := by
  intro c t r
  have hs : c.Sound := sound_applyAll rs
  have ht : (t.apply .crud).1 = r.1 ∧ (t.apply .crud).2.listing = r.2.listing := by
    obtain ⟨ho, ha⟩ := (NameTables.agrees_empty.applyAll rs).apply .crud
    exact ⟨ho, ha.listing (hs.becomes (c.becomes_apply .crud))⟩
  refine ⟨fun h => registerCrud_of_hasCrud ((hasCrud_applyAll rs).mpr h), fun h => ?_, ht⟩
  have hc : c.hasCrud = false := by
    rw [← Bool.not_eq_true]
    exact mt (hasCrud_applyAll rs).mp h
  rcases c.crudConflict_or with ⟨hf, hg⟩ | ⟨before, e, he⟩
  · have hr : r = (.ok (), c.withCrud) := hs.registerCrud_of_fits hc hf hg
    rw [hr]
    refine ⟨iff_of_true rfl ⟨hf, hg⟩, fun _ => ⟨hs.crudAdded hf hg, fun rs' => ?_⟩, by simp⟩
    exact registerCrud_of_hasCrud (hasCrud_applyAll_of_hasCrud rfl rs')
  · have hr : r = (.error e, c.completed before) := registerCrud_of_conflict hc he
    have hb : c.Becomes (c.completed before) := becomes_completed he.pairwise he.fits
    rw [hr]
    refine ⟨?_, by simp, ?_⟩
    · simpa using he.isAction_crudGroup
    · rintro _ ⟨⟩
      refine ⟨⟨before, he, rfl⟩, fun n hn => ⟨?_, hs.ableFor?_eq hb hn⟩, fun rs' => ?_⟩
      · exact resolve_eq_of_groups_eq (hs.isAction_eq hb hn) rfl
      · exact ((hs.crudRefused hc he).applyAll (hs.becomes hb) rs').registerCrud

def chest : List Registration :=
  [.ability "view" "viewable", .action "list", .group "crud" ["list"]]

theorem chest_crud_registration :
    let c := applyAll {} chest
    let c' := (c.apply .crud).2
    let d := applyAll {} drawer
    let d' := (d.apply .crud).2
    ¬ CrudRegistered chest ∧ (c.apply .crud).1 = .ok () ∧
    c'.actions = [⟨"view"⟩, ⟨"list"⟩, ⟨"create"⟩, ⟨"update"⟩, ⟨"destroy"⟩] ∧
    c'.resolve "crud" = .ok [⟨"create"⟩, ⟨"view"⟩, ⟨"update"⟩, ⟨"destroy"⟩] ∧
    c'.resolve "list" = .ok [⟨"list"⟩] ∧
    ((c'.applyAll [.group "crud" ["list"]]).apply .crud).2.resolve "crud" = .ok [⟨"list"⟩] ∧
    ¬ CrudRegistered drawer ∧ (d.apply .crud).1 = .error (.duplicateAction "update") ∧
    d' = d.completed (crudAbilities.take 2) ∧ d'.resolve "edit" = d.resolve "edit" ∧
    ((d'.applyAll [.ability "update" "updatable", .group "crud" ["edit"]]).apply .crud).1 =
      .error (.duplicateAction "update") := by
  intro c c' d d'
  have hn : ¬ CrudRegistered chest := mt (hasCrud_applyAll chest).mpr (by decide +kernel)
  have hn' : ¬ CrudRegistered drawer := mt (hasCrud_applyAll drawer).mpr (by decide +kernel)
  obtain ⟨_, hcrud, _⟩ := crud_registration chest
  obtain ⟨hok, hadded, _⟩ := hcrud hn
  obtain ⟨_, hcrud', _⟩ := crud_registration drawer
  obtain ⟨_, _, hrefused⟩ := hcrud' hn'
  have hr : (c.apply .crud).1 = .ok () := hok.mpr (by decide +kernel)
  have he : (d.apply .crud).1 = .error (.duplicateAction "update") := by decide +kernel
  obtain ⟨hadd, hlater⟩ := hadded hr
  obtain ⟨_, hkept, hstuck⟩ := hrefused _ he
  refine ⟨hn, hr, by decide +kernel, hadd.group, ?_, ?_, hn', he, by decide +kernel,
    (hkept "edit" (by decide +kernel)).1, congrArg Prod.fst (hstuck _)⟩
  · exact (hadd.others "list" (by decide) (by decide)).1.trans (by decide +kernel)
  · rw [hlater]
    decide +kernel

end RolePolicy.Catalog
