import Mathlib.Data.List.Induction
import Mathlib.Data.List.Nodup
import Mathlib.Logic.Relation
import Mathlib.Tactic.Common
import RolePolicy.Catalog

/-! What registrations make of a catalog, one small change after another. Every catalog that comes
of them is sound: its names do not clash, and its groups stand for actions that it has. -/

namespace RolePolicy

lemma eraseDups_concat {α : Type} [DecidableEq α] (l : List α) (a : α) :
    (l ++ [a]).eraseDups = if a ∈ l then l.eraseDups else l.eraseDups ++ [a] := by
  rw [List.eraseDups_append]
  by_cases h : a ∈ l <;> simp [h, List.removeAll, List.eraseDups_cons]

lemma nodup_eraseDups {α : Type} [DecidableEq α] (l : List α) : l.eraseDups.Nodup := by
  induction l using List.reverseRecOn with
  | nil => exact List.nodup_nil
  | append_singleton l a ih =>
    rw [eraseDups_concat]
    split
    · exact ih
    · rename_i h
      exact List.nodup_append.mpr ⟨ih, List.nodup_singleton a, by grind [List.mem_eraseDups]⟩

lemma exists_split_concat {α : Type} {P : List α → α → Prop} {l : List α} {y : α} :
    (∃ before x after, l ++ [y] = before ++ x :: after ∧ P before x) ↔
      (∃ before x after, l = before ++ x :: after ∧ P before x) ∨ P l y := by
  constructor
  · rintro ⟨before, x, after, he, hx⟩
    rcases List.eq_nil_or_concat after with rfl | ⟨after, z, rfl⟩
    · obtain ⟨rfl, h⟩ := List.append_inj' he rfl
      obtain rfl := List.singleton_inj.mp h
      exact Or.inr hx
    · rw [List.concat_eq_append, ← List.cons_append, ← List.append_assoc] at he
      obtain ⟨rfl, _⟩ := List.append_inj' he rfl
      exact Or.inl ⟨before, x, after, rfl, hx⟩
  · rintro (⟨before, x, after, rfl, hx⟩ | hy)
    · exact ⟨before, x, after ++ [y], by simp, hx⟩
    · exact ⟨l, y, [], rfl, hy⟩

lemma exists_of_mem_mapM {ε α β : Type} {f : α → Except ε β} {l : List α} {l' : List β} {b : β}
    (h : l.mapM f = .ok l') (hb : b ∈ l') : ∃ a ∈ l, f a = .ok b := by
  induction l generalizing l' with
  | nil =>
    cases h
    cases hb
  | cons x l ih =>
    rw [List.mapM_cons] at h
    cases hx : f x with
    | error e => simp [hx, bind, Except.bind] at h
    | ok y =>
      cases hl : l.mapM f with
      | error e => simp [hx, hl, bind, Except.bind] at h
      | ok ys =>
        simp only [hx, hl, bind, Except.bind, pure, Except.pure, Except.ok.injEq] at h
        subst h
        rcases List.mem_cons.mp hb with rfl | hb
        · exact ⟨x, List.mem_cons_self, hx⟩
        · obtain ⟨a, ha, hf⟩ := ih hl hb
          exact ⟨a, List.mem_cons_of_mem x ha, hf⟩

namespace Catalog

variable {c c' : Catalog} {name : String} {able : Option String} {members : List String}
  {actions : List Action} {a : Action} {r : Registration}

lemma register_cases (h : c.register name able = .ok c') :
    c' = c ∨ c.isAction name = false ∧ c.groups.contains name = false ∧
      c' = { c with abilities := c.abilities ++ [⟨⟨name⟩, able⟩] } := by
  rw [register] at h
  split at h
  · split at h
    · exact Or.inl (Except.ok.inj h).symm
    · cases h
  · rename_i hn
    split at h
    · cases h
    · rename_i hg
      exact Or.inr ⟨by simp [isAction, hn], Bool.not_eq_true _ ▸ hg, (Except.ok.inj h).symm⟩

lemma registerGroup_cases (h : c.registerGroup name members = .ok c') :
    ∃ actions, c.isAction name = false ∧ c.expand members = .ok actions ∧ actions ≠ [] ∧
      c' = { c with groups := c.groups.insert name actions } := by
  rw [registerGroup] at h
  split at h
  · cases h
  · rename_i hn
    split at h
    · cases h
    · cases h
    · rename_i actions he hx
      exact ⟨actions, by simpa using hn, hx, he, (Except.ok.inj h).symm⟩

inductive Change (c : Catalog) : Catalog → Prop
  | ability (a : Ability) : c.isAction a.action.name = false →
      c.groups.contains a.action.name = false →
      Change c { c with abilities := c.abilities ++ [a] }
  | group (name : String) (members : List String) (actions : List Action) :
      c.isAction name = false → c.expand members = .ok actions → actions ≠ [] →
      Change c { c with groups := c.groups.insert name actions }
  | crud : c.groups.contains crudGroup → Change c { c with hasCrud := true }

def Becomes : Catalog → Catalog → Prop := Relation.ReflTransGen Change

lemma becomes_register (h : c.register name able = .ok c') : c.Becomes c' := by
  rcases register_cases h with rfl | ⟨hn, hg, rfl⟩
  · exact .refl
  · exact .single (.ability ⟨⟨name⟩, able⟩ hn hg)

lemma becomes_registerGroup (h : c.registerGroup name members = .ok c') : c.Becomes c' := by
  obtain ⟨actions, hn, hx, he, rfl⟩ := registerGroup_cases h
  exact .single (.group name members actions hn hx he)

lemma becomes_registerAll (c : Catalog) (abilities : List Ability) :
    c.Becomes (c.registerAll abilities).2 := by
  induction abilities generalizing c with
  | nil => exact .refl
  | cons a abilities ih =>
    rw [registerAll]
    cases h : c.register a.action.name a.able with
    | error e => exact .refl
    | ok c' => exact (becomes_register h).trans (ih c')

lemma registerAll_eq (c : Catalog) (abilities : List Ability) :
    (c.registerAll abilities).2 =
      { c with abilities := (c.registerAll abilities).2.abilities } := by
  induction abilities generalizing c with
  | nil => rfl
  | cons a abilities ih =>
    rw [registerAll]
    cases h : c.register a.action.name a.able with
    | error e => rfl
    | ok c' =>
      refine (ih c').trans ?_
      rcases register_cases h with rfl | ⟨_, _, rfl⟩ <;> rfl

lemma groups_registerAll (c : Catalog) (abilities : List Ability) :
    (c.registerAll abilities).2.groups = c.groups := by
  rw [registerAll_eq]

lemma registerCrud_cases (c : Catalog) :
    (c.hasCrud ∧ c.registerCrud = (.ok (), c)) ∨
    (∃ e, c.registerCrud = (.error e, (c.registerAll crudAbilities).2)) ∨
    ∃ c', c.hasCrud = false ∧ (c.registerAll crudAbilities).2.registerGroup crudGroup
        (crudAbilities.map (·.action.name)) = .ok c' ∧
      c.registerCrud = (.ok (), { c' with hasCrud := true }) := by
  rw [registerCrud]
  cases hc : c.hasCrud with
  | true => exact Or.inl ⟨rfl, rfl⟩
  | false =>
    obtain ⟨outcome, c₁⟩ := c.registerAll crudAbilities
    cases outcome with
    | error e => exact Or.inr (Or.inl ⟨e, rfl⟩)
    | ok =>
      cases hg : c₁.registerGroup crudGroup (crudAbilities.map (·.action.name)) with
      | error e => exact Or.inr (Or.inl ⟨e, by simp [hg]⟩)
      | ok c' => exact Or.inr (Or.inr ⟨c', rfl, rfl, by simp [hg]⟩)

lemma becomes_registerCrud (c : Catalog) : c.Becomes c.registerCrud.2 := by
  rcases c.registerCrud_cases with ⟨_, h⟩ | ⟨e, h⟩ | ⟨c', _, hg, h⟩
  · rw [h]
    exact .refl
  · rw [h]
    exact c.becomes_registerAll crudAbilities
  · rw [h]
    have hc := (c.becomes_registerAll crudAbilities).trans (becomes_registerGroup hg)
    obtain ⟨actions, _, _, _, rfl⟩ := registerGroup_cases hg
    exact hc.tail (.crud (by simp))

lemma becomes_apply (c : Catalog) (r : Registration) : c.Becomes (c.apply r).2 := by
  have hs {x : Except CatalogError Catalog} (h : ∀ c', x = .ok c' → c.Becomes c') :
      c.Becomes (c.settle x).2 := by
    cases x with
    | error e => exact .refl
    | ok c' => exact h c' rfl
  cases r with
  | action name => exact hs fun _ => becomes_register
  | ability name able => exact hs fun _ => becomes_register
  | group name members => exact hs fun _ => becomes_registerGroup
  | crud => exact c.becomes_registerCrud

lemma becomes_applyAll (c : Catalog) (rs : List Registration) : c.Becomes (c.applyAll rs) := by
  induction rs generalizing c with
  | nil => exact .refl
  | cons r rs ih => exact (c.becomes_apply r).trans (ih (c.apply r).2)

lemma actions_concat (c : Catalog) (a : Ability) :
    ({ c with abilities := c.abilities ++ [a] } : Catalog).actions = c.actions ++ [a.action] :=
  List.map_append

lemma Becomes.abilities_prefix (h : c.Becomes c') : c.abilities <+: c'.abilities := by
  induction h with
  | refl => exact List.prefix_refl _
  | tail _ hs ih =>
    cases hs with
    | ability a => exact ih.trans (List.prefix_append _ _)
    | group | crud => exact ih

lemma Becomes.actions_prefix (h : c.Becomes c') : c.actions <+: c'.actions :=
  h.abilities_prefix.map Ability.action

lemma Becomes.isAction (h : c.Becomes c') (hn : c.isAction name) : c'.isAction name :=
  isAction_iff.mpr (h.actions_prefix.subset (isAction_iff.mp hn))

structure Sound (c : Catalog) : Prop where
  nodup : c.actions.Nodup
  disjoint : ∀ name, c.groups.contains name → c.isAction name = false
  group : ∀ (name : String) (actions : List Action), c.groups[name]? = some actions →
    actions ≠ [] ∧ actions.Nodup ∧ ∀ a ∈ actions, a ∈ c.actions
  crud : c.hasCrud → c.groups.contains crudGroup

lemma sound_empty : Sound {} where
  nodup := List.nodup_nil
  disjoint name h := by simp at h
  group name actions h := by simp at h
  crud h := by cases h

lemma resolve_of_isAction (h : c.isAction name) : c.resolve name = .ok [⟨name⟩] := by
  rw [resolve, if_pos h]

lemma resolve_eq_ok_iff (h : c.isAction name = false) :
    c.resolve name = .ok actions ↔ c.groups[name]? = some actions := by
  rw [resolve, h]
  cases c.groups[name]? <;> simp

lemma Sound.resolve (h : c.Sound) (hr : c.resolve name = .ok actions) :
    actions ≠ [] ∧ actions.Nodup ∧ ∀ a ∈ actions, a ∈ c.actions := by
  cases hn : c.isAction name with
  | true =>
    rw [resolve_of_isAction hn] at hr
    obtain rfl := Except.ok.inj hr
    have ha := isAction_iff.mp hn
    exact ⟨by simp, by simp, by simpa using ha⟩
  | false => exact h.group name actions ((resolve_eq_ok_iff hn).mp hr)

lemma Sound.expand (h : c.Sound) (he : c.expand members = .ok actions) :
    actions.Nodup ∧ ∀ a ∈ actions, a ∈ c.actions := by
  rw [Catalog.expand] at he
  cases hm : members.mapM c.resolve with
  | error e => simp [hm, Except.map] at he
  | ok expansions =>
    simp only [hm, Except.map, Except.ok.injEq] at he
    subst he
    refine ⟨nodup_eraseDups _, fun a ha => ?_⟩
    obtain ⟨l, hl, ha⟩ := List.mem_flatten.mp (List.mem_eraseDups.mp ha)
    obtain ⟨m, _, hr⟩ := exists_of_mem_mapM hm hl
    exact (h.resolve hr).2.2 a ha

lemma isAction_eq_false_iff : c.isAction name = false ↔ ⟨name⟩ ∉ c.actions := by
  rw [← isAction_iff, Bool.not_eq_true]

lemma ability?_concat (c : Catalog) (a : Ability) (n : String) :
    ({ c with abilities := c.abilities ++ [a] } : Catalog).ability? n =
      (c.ability? n).or (if a.action.name = n then some a else none) := by
  simp [ability?, List.find?_append, List.find?_singleton]

lemma resolve_concat (c : Catalog) (a : Ability) (n : String) :
    ({ c with abilities := c.abilities ++ [a] } : Catalog).resolve n =
      if a.action.name = n then .ok [⟨n⟩] else c.resolve n := by
  rw [resolve, resolve, isAction, ability?_concat, isAction]
  by_cases h : a.action.name = n <;> simp [h]

lemma resolve_insert_group (h : c.isAction name = false) (actions : List Action) (n : String) :
    ({ c with groups := c.groups.insert name actions } : Catalog).resolve n =
      if name = n then .ok actions else c.resolve n := by
  have hi : ({ c with groups := c.groups.insert name actions } : Catalog).isAction n =
      c.isAction n := rfl
  rw [resolve, resolve, hi]
  by_cases hn : name = n
  · subst hn
    simp [h]
  · simp [hn, Std.ExtTreeMap.getElem?_insert]

lemma contains_groups_insert {n : String} :
    (c.groups.insert name actions).contains n ↔ name = n ∨ c.groups.contains n := by
  rw [Std.ExtTreeMap.contains_insert, Bool.or_eq_true, beq_iff_eq, Std.compare_eq_iff_eq]

lemma Sound.change (h : c.Sound) (hc : c.Change c') : c'.Sound := by
  cases hc with
  | ability a hn hg =>
    have ha : a.action ∉ c.actions := isAction_eq_false_iff.mp hn
    refine ⟨?_, fun n hc => ?_, fun n l hl => ?_, h.crud⟩
    · rw [actions_concat, List.nodup_append']
      exact ⟨h.nodup, List.nodup_singleton _, by simpa using ha⟩
    · have hne : ⟨n⟩ ≠ a.action := by
        rintro he
        rw [← he, hc] at hg
        cases hg
      rw [isAction_eq_false_iff, actions_concat, List.mem_append, List.mem_singleton, not_or]
      exact ⟨isAction_eq_false_iff.mp (h.disjoint n hc), hne⟩
    · obtain ⟨he, hd, hl⟩ := h.group n l hl
      rw [actions_concat]
      exact ⟨he, hd, fun b hb => List.mem_append_left _ (hl b hb)⟩
  | group name members actions hn hx he =>
    obtain ⟨hd, ha⟩ := h.expand hx
    refine ⟨h.nodup, fun n hc => ?_, fun n l hl => ?_, fun hc => ?_⟩
    · rcases contains_groups_insert.mp hc with rfl | hc
      · exact hn
      · exact h.disjoint n hc
    · rw [Std.ExtTreeMap.getElem?_insert] at hl
      split at hl
      · obtain rfl := Option.some.inj hl
        exact ⟨he, hd, ha⟩
      · exact h.group n l hl
    · exact contains_groups_insert.mpr (Or.inr (h.crud hc))
  | crud hg => exact ⟨h.nodup, h.disjoint, h.group, fun _ => hg⟩

lemma Sound.becomes (h : c.Sound) (hc : c.Becomes c') : c'.Sound := by
  induction hc with
  | refl => exact h
  | tail _ hs ih => exact ih.change hs

lemma sound_applyAll (rs : List Registration) : (applyAll {} rs).Sound :=
  sound_empty.becomes (becomes_applyAll {} rs)

lemma groups_settle_register (c : Catalog) (name : String) (able : Option String) :
    (c.settle (c.register name able)).2.groups = c.groups := by
  cases h : c.register name able with
  | error e => rfl
  | ok c' => rcases register_cases h with rfl | ⟨_, _, rfl⟩ <;> rfl

lemma contains_groups_registerGroup {n : String} (h : c.registerGroup name members = .ok c') :
    c'.groups.contains n ↔ c.groups.contains n ∨ name = n := by
  obtain ⟨actions, _, _, _, rfl⟩ := registerGroup_cases h
  exact contains_groups_insert.trans or_comm

lemma contains_groups_registerCrud (h : c.Sound) {n : String} :
    c.registerCrud.2.groups.contains n ↔
      c.groups.contains n ∨ crudGroup = n ∧ c.registerCrud.1 = .ok () := by
  rcases c.registerCrud_cases with ⟨hc, hr⟩ | ⟨e, hr⟩ | ⟨c', _, hg, hr⟩
  · rw [hr]
    refine ⟨Or.inl, ?_⟩
    rintro (hn | ⟨rfl, _⟩)
    · exact hn
    · exact h.crud hc
  · rw [hr, groups_registerAll]
    simp
  · rw [hr, contains_groups_registerGroup hg, groups_registerAll]
    simp

end Catalog

def Registration.group? : Registration → Option String
  | group name _ => some name
  | crud => some Catalog.crudGroup
  | action _ | ability _ _ => none

namespace Catalog

variable {c : Catalog} {n : String} {rs : List Registration}

lemma contains_groups_apply (h : c.Sound) (r : Registration) :
    (c.apply r).2.groups.contains n ↔
      c.groups.contains n ∨ r.group? = some n ∧ (c.apply r).1 = .ok () := by
  cases r with
  | action name => simp [Registration.group?, apply, groups_settle_register]
  | ability name able => simp [Registration.group?, apply, groups_settle_register]
  | group name members =>
    rw [apply]
    cases hg : c.registerGroup name members with
    | error e => simp [settle]
    | ok c' => simpa [settle, Registration.group?] using contains_groups_registerGroup hg
  | crud => simpa [Registration.group?, apply] using contains_groups_registerCrud h

def GroupRegistered (rs : List Registration) (n : String) : Prop :=
  ∃ before r after, rs = before ++ r :: after ∧ r.group? = some n ∧
    ((applyAll {} before).apply r).1 = .ok ()

lemma groupRegistered_concat {r : Registration} : GroupRegistered (rs ++ [r]) n ↔
    GroupRegistered rs n ∨ r.group? = some n ∧ ((applyAll {} rs).apply r).1 = .ok () :=
  exists_split_concat

lemma applyAll_concat (c : Catalog) (rs : List Registration) (r : Registration) :
    c.applyAll (rs ++ [r]) = ((c.applyAll rs).apply r).2 := by
  rw [applyAll, applyAll, List.foldl_concat]

lemma contains_groups_applyAll (rs : List Registration) :
    (applyAll {} rs).groups.contains n ↔ GroupRegistered rs n := by
  induction rs using List.reverseRecOn with
  | nil =>
    refine ⟨fun h => by simp [applyAll] at h, ?_⟩
    rintro ⟨before, r, after, he, _⟩
    simp at he
  | append_singleton rs r ih =>
    rw [applyAll_concat, contains_groups_apply (sound_applyAll rs), ih, groupRegistered_concat]

end Catalog

end RolePolicy
