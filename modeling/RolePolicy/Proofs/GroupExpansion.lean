import RolePolicy.Proofs.NameTables

/-! A group stands for what its members stood for when it was registered. The members count in their
order, may be spelled out, and may come in any order if only the set of actions matters. -/

namespace RolePolicy.Catalog

variable {c c' : Catalog} {name n : String} {members members' : List String}
  {actions : List Action}

def meaning (c : Catalog) (name : String) : List Action := (c.resolve name).toOption.getD []

def stranger? (c : Catalog) (members : List String) : Option String :=
  members.find? fun m => !c.contains m

lemma meaning_of_resolve (h : c.resolve n = .ok actions) : c.meaning n = actions := by
  rw [meaning, h]
  rfl

lemma resolve_of_contains (h : c.contains n) : c.resolve n = .ok (c.meaning n) := by
  obtain ⟨actions, hr⟩ := contains_iff.mp h
  rw [meaning_of_resolve hr, hr]

lemma resolve_of_not_contains (h : c.contains n = false) :
    c.resolve n = .error (.unknownName n) := by
  rw [contains, Bool.or_eq_false_iff, Std.ExtTreeMap.contains_eq_isSome_getElem?,
    Option.isSome_eq_false_iff, Option.isNone_iff_eq_none] at h
  rw [resolve, h.1, h.2]
  rfl

lemma stranger?_eq_none_iff : c.stranger? members = none ↔ ∀ m ∈ members, c.contains m := by
  simp [stranger?]

lemma stranger?_eq_some_iff {m : String} : c.stranger? members = some m ↔
    ∃ before after, members = before ++ m :: after ∧ (∀ n ∈ before, c.contains n) ∧
      c.contains m = false := by
  rw [stranger?, List.find?_eq_some_iff_append]
  constructor
  · rintro ⟨hm, before, after, he, hb⟩
    exact ⟨before, after, he, by simpa using hb, by simpa using hm⟩
  · rintro ⟨before, after, he, hb, hm⟩
    exact ⟨by simpa using hm, before, after, he, by simpa using hb⟩

lemma stranger?_cons_of_contains (h : c.contains n) :
    c.stranger? (n :: members) = c.stranger? members :=
  List.find?_cons_of_neg (by simpa using h)

lemma mapM_resolve (c : Catalog) (members : List String) :
    members.mapM c.resolve = match c.stranger? members with
      | some m => .error (.unknownName m)
      | none => .ok (members.map c.meaning) := by
  induction members with
  | nil => rfl
  | cons m members ih =>
    rw [List.mapM_cons, ih]
    cases hm : c.contains m with
    | true =>
      rw [resolve_of_contains hm, stranger?_cons_of_contains hm]
      cases c.stranger? members <;> rfl
    | false =>
      have hs : c.stranger? (m :: members) = some m := List.find?_cons_of_pos (by simp [hm])
      rw [resolve_of_not_contains hm, hs]
      rfl

lemma expand_eq (c : Catalog) (members : List String) :
    c.expand members = match c.stranger? members with
      | some m => .error (.unknownName m)
      | none => .ok (members.flatMap c.meaning).eraseDups := by
  rw [expand, mapM_resolve, List.flatMap]
  cases c.stranger? members <;> rfl

inductive Refuses (c : Catalog) (name : String) : List String → CatalogError → Prop
  | action (members : List String) : c.isAction name →
      Refuses c name members (.duplicateAction name)
  | member (before : List String) (m : String) (after : List String) :
      c.isAction name = false → (∀ n ∈ before, c.contains n) → c.contains m = false →
      Refuses c name (before ++ m :: after) (.unknownName m)
  | empty : c.isAction name = false → Refuses c name [] (.emptyGroup name)

lemma Sound.meaning_ne_nil (h : c.Sound) (hn : c.contains n) : c.meaning n ≠ [] :=
  (h.resolve (resolve_of_contains hn)).1

lemma Sound.eraseDups_meanings_eq_nil_iff (h : c.Sound) (hm : c.stranger? members = none) :
    (members.flatMap c.meaning).eraseDups = [] ↔ members = [] := by
  constructor
  · intro he
    cases members with
    | nil => rfl
    | cons m members =>
      -- No name stands for nothing, so the first member gives an action already.
      have hn : c.contains m := stranger?_eq_none_iff.mp hm m List.mem_cons_self
      obtain ⟨a, ha⟩ := List.exists_mem_of_ne_nil _ (h.meaning_ne_nil hn)
      have hl : a ∈ ((m :: members).flatMap c.meaning).eraseDups := by simp [ha]
      rw [he] at hl
      cases hl
  · rintro rfl
    rfl

lemma Sound.registerGroup_eq (h : c.Sound) (name : String) (members : List String) :
    c.registerGroup name members =
      if c.isAction name then .error (.duplicateAction name)
      else match c.stranger? members with
        | some m => .error (.unknownName m)
        | none =>
          if members = [] then .error (.emptyGroup name)
          else .ok { c with
            groups := c.groups.insert name (members.flatMap c.meaning).eraseDups } := by
  rw [registerGroup, expand_eq]
  cases c.isAction name with
  | true => rfl
  | false =>
    cases hs : c.stranger? members with
    | some m => rfl
    | none =>
      have he := h.eraseDups_meanings_eq_nil_iff hs
      cases hx : (members.flatMap c.meaning).eraseDups with
      | nil => simp [he.mp hx]
      | cons a actions =>
        have hne : members ≠ [] := fun hm => by simp [he.mpr hm] at hx
        simp [hne]

lemma Sound.registerGroup_eq_error_iff (h : c.Sound) {e : CatalogError} :
    c.registerGroup name members = .error e ↔ c.Refuses name members e := by
  rw [h.registerGroup_eq]
  constructor
  · intro he
    cases hn : c.isAction name with
    | true =>
      rw [hn] at he
      cases he
      exact .action members hn
    | false =>
      rw [hn] at he
      cases hs : c.stranger? members with
      | some m =>
        rw [hs] at he
        cases he
        obtain ⟨before, after, rfl, hb, hm⟩ := stranger?_eq_some_iff.mp hs
        exact .member before m after hn hb hm
      | none =>
        rw [hs] at he
        by_cases hm : members = []
        · subst hm
          cases he
          exact .empty hn
        · simp [hm] at he
  · intro hr
    cases hr with
    | action _ hn => rw [if_pos hn]
    | member before m after hn hb hm =>
      have hs : c.stranger? (before ++ m :: after) = some m :=
        stranger?_eq_some_iff.mpr ⟨before, after, rfl, hb, hm⟩
      simp [hn, hs]
    | empty hn =>
      have hs : c.stranger? [] = none := rfl
      simp [hn, hs]

lemma Sound.registerGroup_eq_ok_iff (h : c.Sound) :
    c.registerGroup name members = .ok c' ↔
      (c.isAction name = false ∧ (∀ m ∈ members, c.contains m) ∧ members ≠ []) ∧
        c' = { c with groups := c.groups.insert name (members.flatMap c.meaning).eraseDups } := by
  rw [h.registerGroup_eq, ← stranger?_eq_none_iff]
  cases c.isAction name with
  | true => simp
  | false =>
    cases c.stranger? members with
    | some m => simp
    | none => by_cases hm : members = [] <;> simp [hm, eq_comm]

structure Grouped (c : Catalog) (name : String) (members : List String) (c' : Catalog) : Prop where
  resolve : c'.resolve name = .ok (members.flatMap c.meaning).eraseDups
  others : ∀ n, n ≠ name → c'.resolve n = c.resolve n
  ableFor? : ∀ n, c'.ableFor? n = c.ableFor? n
  actionForAble? : ∀ able, c'.actionForAble? able = c.actionForAble? able
  actions : c'.actions = c.actions

lemma Sound.grouped (h : c.Sound) (hc : c.registerGroup name members = .ok c') :
    c.Grouped name members c' := by
  obtain ⟨⟨hn, _, _⟩, rfl⟩ := h.registerGroup_eq_ok_iff.mp hc
  refine ⟨?_, fun n hne => ?_, fun _ => rfl, fun _ => rfl, rfl⟩
  · rw [resolve_insert_group hn, if_pos rfl]
  · rw [resolve_insert_group hn, if_neg hne.symm]

inductive Unfolds (c : Catalog) : List String → List String → Prop
  | nil : Unfolds c [] []
  | keep (m : String) {members members' : List String} : Unfolds c members members' →
      Unfolds c (m :: members) (m :: members')
  | unfold (m : String) {members members' : List String} : c.contains m →
      Unfolds c members members' →
      Unfolds c (m :: members) ((c.meaning m).map Action.name ++ members')

lemma contains_of_isAction (h : c.isAction n) : c.contains n := by
  rw [contains, h, Bool.true_or]

lemma meaning_of_isAction (h : c.isAction n) : c.meaning n = [⟨n⟩] :=
  meaning_of_resolve (resolve_of_isAction h)

lemma Sound.isAction_of_mem_meaning (h : c.Sound) (hn : c.contains n) {a : Action}
    (ha : a ∈ c.meaning n) : c.isAction a.name :=
  isAction_iff.mpr ((h.resolve (resolve_of_contains hn)).2.2 a ha)

lemma flatMap_meaning_names (h : ∀ a ∈ actions, c.isAction a.name) :
    (actions.map Action.name).flatMap c.meaning = actions := by
  induction actions with
  | nil => rfl
  | cons a actions ih =>
    obtain ⟨ha, hl⟩ := List.forall_mem_cons.mp h
    rw [List.map_cons, List.flatMap_cons, meaning_of_isAction ha, ih hl]
    rfl

lemma stranger?_append_of_contains (h : ∀ m ∈ members, c.contains m) :
    c.stranger? (members ++ members') = c.stranger? members' := by
  rw [stranger?, List.find?_append, ← stranger?, stranger?_eq_none_iff.mpr h, Option.none_or,
    stranger?]

lemma Sound.unfolds (h : c.Sound) (hu : c.Unfolds members members') :
    c.stranger? members' = c.stranger? members ∧
      members'.flatMap c.meaning = members.flatMap c.meaning := by
  induction hu with
  | nil => exact ⟨rfl, rfl⟩
  | keep m _ ih =>
    obtain ⟨hs, hm⟩ := ih
    refine ⟨?_, by rw [List.flatMap_cons, List.flatMap_cons, hm]⟩
    rw [stranger?, stranger?, List.find?_cons, List.find?_cons, ← stranger?, ← stranger?, hs]
  | unfold m hm _ ih =>
    obtain ⟨hs, hl⟩ := ih
    -- What a name stands for are actions, and each of them stands for itself.
    have ha : ∀ a ∈ c.meaning m, c.isAction a.name := fun a => h.isAction_of_mem_meaning hm
    have hc : ∀ n ∈ (c.meaning m).map Action.name, c.contains n := by
      intro n hn
      obtain ⟨a, hm, rfl⟩ := List.mem_map.mp hn
      exact contains_of_isAction (ha a hm)
    rw [stranger?_append_of_contains hc, stranger?_cons_of_contains hm, List.flatMap_append,
      List.flatMap_cons, flatMap_meaning_names ha, hl]
    exact ⟨hs, rfl⟩

lemma Sound.registerGroup_unfolds (h : c.Sound) (hu : c.Unfolds members members')
    (name : String) : c.registerGroup name members' = c.registerGroup name members := by
  obtain ⟨hs, hm⟩ := h.unfolds hu
  rw [registerGroup, registerGroup, expand_eq, expand_eq, hs, hm]

lemma Sound.registerGroup_perm (h : c.Sound) (hp : members.Perm members')
    (hc : c.registerGroup name members = .ok c') :
    ∃ c'', c.registerGroup name members' = .ok c'' ∧
      ∀ a, a ∈ c''.meaning name ↔ a ∈ c'.meaning name := by
  obtain ⟨⟨hn, hm, hne⟩, _⟩ := h.registerGroup_eq_ok_iff.mp hc
  have hm' : ∀ m ∈ members', c.contains m := fun m hm' => hm m (hp.mem_iff.mpr hm')
  have hne' : members' ≠ [] := fun he => hne (by simpa [he] using hp)
  have hc' := h.registerGroup_eq_ok_iff.mpr ⟨⟨hn, hm', hne'⟩, rfl⟩
  refine ⟨_, hc', fun a => ?_⟩
  rw [meaning_of_resolve (h.grouped hc').resolve, meaning_of_resolve (h.grouped hc).resolve,
    List.mem_eraseDups, List.mem_eraseDups]
  exact (hp.flatMap_right c.meaning).mem_iff.symm

lemma apply_group_of_ok (hc : c.registerGroup name members = .ok c') :
    c.apply (.group name members) = (.ok (), c') := by
  rw [apply, hc]
  rfl

lemma apply_group_of_error {e : CatalogError} (hc : c.registerGroup name members = .error e) :
    c.apply (.group name members) = (.error e, c) := by
  rw [apply, hc]
  rfl

theorem group_registration (rs : List Registration) (name : String) (members : List String) :
    let c := applyAll {} rs
    let t := NameTables.applyAll {} rs
    let r := Registration.group name members
    ((c.apply r).1 = .ok () ↔
      c.isAction name = false ∧ (∀ m ∈ members, c.contains m) ∧ members ≠ []) ∧
    ((c.apply r).1 = .ok () → c.Grouped name members (c.apply r).2) ∧
    (∀ e, (c.apply r).1 = .error e ↔ c.Refuses name members e) ∧
    (∀ e, (c.apply r).1 = .error e → (c.apply r).2 = c) ∧
    (∀ members', c.Unfolds members members' → c.apply (.group name members') = c.apply r) ∧
    (∀ members', members.Perm members' → (c.apply r).1 = .ok () →
      (c.apply (.group name members')).1 = .ok () ∧
      ∀ a, a ∈ (c.apply (.group name members')).2.meaning name ↔
        a ∈ (c.apply r).2.meaning name) ∧
    (t.apply r).1 = (c.apply r).1 ∧ (t.apply r).2.listing = (c.apply r).2.listing := by
  intro c t r
  have hs : c.Sound := sound_applyAll rs
  have ht : (t.apply r).1 = (c.apply r).1 ∧ (t.apply r).2.listing = (c.apply r).2.listing := by
    obtain ⟨ho, ha⟩ := (NameTables.agrees_empty.applyAll rs).apply r
    exact ⟨ho, ha.listing (hs.becomes (c.becomes_apply r))⟩
  have hu (members' : List String) (hm : c.Unfolds members members') :
      c.apply (.group name members') = c.apply r := by
    simp only [r, apply, hs.registerGroup_unfolds hm]
  cases hc : c.registerGroup name members with
  | ok c' =>
    have hr : c.apply r = (.ok (), c') := apply_group_of_ok hc
    have hne (e : CatalogError) : ¬ c.Refuses name members e := fun he => by
      simpa [hc] using hs.registerGroup_eq_error_iff.mpr he
    rw [hr] at ht hu ⊢
    refine ⟨?_, fun _ => hs.grouped hc, ?_, by simp, hu, fun members' hp _ => ?_, ht⟩
    · simpa using (hs.registerGroup_eq_ok_iff.mp hc).1
    · simpa using hne
    · obtain ⟨c'', hc'', ha⟩ := hs.registerGroup_perm hp hc
      rw [apply_group_of_ok hc'']
      exact ⟨rfl, ha⟩
  | error e =>
    have hr : c.apply r = (.error e, c) := apply_group_of_error hc
    have hne : ¬ (c.isAction name = false ∧ (∀ m ∈ members, c.contains m) ∧ members ≠ []) :=
      fun h => by simpa [hc] using hs.registerGroup_eq_ok_iff.mpr ⟨h, rfl⟩
    rw [hr] at ht hu ⊢
    refine ⟨by simpa using hne, by simp, fun e' => ?_, by simp, hu, by simp, ht⟩
    rw [← hs.registerGroup_eq_error_iff, hc]
    simp

def drawer : List Registration :=
  [.ability "view" "viewable", .action "update", .action "destroy",
    .group "edit" ["update", "view"]]

theorem drawer_group_registration :
    let c := applyAll {} drawer
    let r := Registration.group "edit" ["view", "edit", "destroy"]
    c.isAction "edit" = false ∧ (∀ m ∈ ["view", "edit", "destroy"], c.contains m) ∧
    (c.apply r).1 = .ok () ∧
    (c.apply r).2.resolve "edit" = .ok [⟨"view"⟩, ⟨"update"⟩, ⟨"destroy"⟩] ∧
    c.apply (.group "edit" ["view", "update", "view", "destroy"]) = c.apply r ∧
    (∀ a, a ∈ (c.apply (.group "edit" ["destroy", "view", "edit"])).2.meaning "edit" ↔
      a ∈ (c.apply r).2.meaning "edit") ∧
    (c.apply (.group "edit" ["view", "shred", "ghost"])).1 = .error (.unknownName "shred") := by
  intro c r
  have hn : c.isAction "edit" = false := by decide +kernel
  have hm : ∀ m ∈ ["view", "edit", "destroy"], c.contains m := by decide +kernel
  obtain ⟨hok, hgroups, _, _, hunfolds, hperm, _⟩ :=
    group_registration drawer "edit" ["view", "edit", "destroy"]
  obtain ⟨_, _, hrefuses, _⟩ := group_registration drawer "edit" ["view", "shred", "ghost"]
  have hr : (c.apply r).1 = .ok () := hok.mpr ⟨hn, hm, by simp⟩
  have hu : c.Unfolds ["view", "edit", "destroy"] ["view", "update", "view", "destroy"] :=
    .keep "view" (.unfold "edit" (hm "edit" (by simp)) (.keep "destroy" .nil))
  have hp : ["view", "edit", "destroy"].Perm ["destroy", "view", "edit"] := by decide
  refine ⟨hn, hm, hr, ?_, hunfolds _ hu, (hperm _ hp hr).2, ?_⟩
  · rw [(hgroups hr).resolve]
    decide +kernel
  · exact (hrefuses _).mpr (.member ["view"] "shred" ["ghost"] hn (by decide +kernel)
      (by decide +kernel))

end RolePolicy.Catalog
