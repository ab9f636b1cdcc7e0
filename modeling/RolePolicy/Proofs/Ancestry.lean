import Mathlib.Data.List.Nodup
import Mathlib.Data.List.Perm.Subperm
import Mathlib.Data.List.Range
import Mathlib.Logic.Relation
import Mathlib.Tactic.Common
import RolePolicy.Lineage

/-! Parents, paths and distances in the graph of roles. A lineage is made of levels, and a level of
the roles at one distance. -/

namespace RolePolicy.Registry

variable {χ : Type} {g : Registry χ} {r s t : RuleSet χ} {seen seen' : List String} {k : Nat}

def IsParent (g : Registry χ) (r s : RuleSet χ) : Prop :=
  s.name ∈ r.parents ∧ g.find? s.name = some s

def Reaches (g : Registry χ) : RuleSet χ → RuleSet χ → Prop := Relation.ReflTransGen g.IsParent

inductive Path (g : Registry χ) (r : RuleSet χ) : Nat → RuleSet χ → Prop
  | nil : Path g r 0 r
  | step {k : Nat} {s t : RuleSet χ} : Path g r k s → g.IsParent s t → Path g r (k + 1) t

structure AtDistance (g : Registry χ) (r s : RuleSet χ) (k : Nat) : Prop where
  path : g.Path r k s
  shortest : ∀ j, g.Path r j s → k ≤ j

lemma Path.reaches (h : g.Path r k s) : g.Reaches r s := by
  induction h with
  | nil => exact .refl
  | step _ hp ih => exact ih.tail hp

lemma Reaches.exists_path (h : g.Reaches r s) : ∃ k, g.Path r k s := by
  induction h with
  | refl => exact ⟨0, .nil⟩
  | tail _ hp ih =>
    obtain ⟨k, hk⟩ := ih
    exact ⟨k + 1, hk.step hp⟩

lemma Reaches.registered (h : g.Reaches r s) (hr : g.find? r.name = some r) :
    g.find? s.name = some s := by
  cases h with
  | refl => exact hr
  | tail _ hp => exact hp.2

def registeredParents (g : Registry χ) (r : RuleSet χ) : List (RuleSet χ) :=
  r.parents.filterMap g.find?

def nextLevel (g : Registry χ) (met level : List (RuleSet χ)) : List (RuleSet χ) :=
  ((level.flatMap g.registeredParents).filter fun s => s.name ∉ met.map RuleSet.name).eraseDupsBy
    (·.name == ·.name)

structure Stage (χ : Type) where
  met : List (RuleSet χ)
  level : List (RuleSet χ)

def stage (g : Registry χ) (r : RuleSet χ) : Nat → Stage χ
  | 0 => ⟨[r], [r]⟩
  | k + 1 =>
    let next := g.nextLevel (g.stage r k).met (g.stage r k).level
    ⟨(g.stage r k).met ++ next, next⟩

def level (g : Registry χ) (r : RuleSet χ) (k : Nat) : List (RuleSet χ) := (g.stage r k).level

lemma met_eq (g : Registry χ) (r : RuleSet χ) (k : Nat) :
    (g.stage r k).met = (List.range (k + 1)).flatMap (g.level r) := by
  induction k with
  | zero => rfl
  | succ k ih =>
    rw [List.range_succ, List.flatMap_append, ← ih]
    simp [stage, level]

lemma level_succ (g : Registry χ) (r : RuleSet χ) (k : Nat) :
    g.level r (k + 1) =
      g.nextLevel ((List.range (k + 1)).flatMap (g.level r)) (g.level r k) := by
  rw [← met_eq]
  rfl

lemma unseen_eq (g : Registry χ) (seen names : List String) :
    g.unseen seen names =
      ((names.filterMap g.find?).filter fun s => s.name ∉ seen).eraseDupsBy (·.name == ·.name) := by
  induction names generalizing seen with
  | nil => rfl
  | cons n names ih =>
    rw [unseen]
    cases hn : g.find? n with
    | none => simpa [hn] using ih seen
    | some s =>
      obtain ⟨_, rfl⟩ := find?_eq_some hn
      by_cases hs : s.name ∈ seen
      · simpa [hn, hs] using ih seen
      · rw [List.filterMap_cons_some hn, List.filter_cons_of_pos (by simpa using hs),
          List.eraseDupsBy_cons, List.filter_filter]
        simp only [hs, if_false, ih]
        congr 3
        funext t
        grind

lemma unseen_congr (h : ∀ x, x ∈ seen ↔ x ∈ seen') (names : List String) :
    g.unseen seen names = g.unseen seen' names := by
  simp only [unseen_eq, h]

lemma unseen_append (g : Registry χ) (seen names names' : List String) :
    g.unseen seen (names ++ names') = g.unseen seen names ++
      g.unseen ((g.unseen seen names).map RuleSet.name ++ seen) names' := by
  induction names generalizing seen with
  | nil => rfl
  | cons n names ih =>
    rw [List.cons_append, unseen]
    cases hn : g.find? n with
    | none => simpa only [unseen, hn] using ih seen
    | some s =>
      obtain ⟨_, rfl⟩ := find?_eq_some hn
      by_cases hs : s.name ∈ seen
      · simpa only [unseen, hn, hs, if_true] using ih seen
      · simp only [unseen, hn, hs, if_false, ih, List.cons_append, List.map_cons]
        congr 2
        exact unseen_congr (by simp [or_left_comm]) names'

lemma nodup_unseen (g : Registry χ) (seen names : List String) :
    ((g.unseen seen names).map RuleSet.name).Nodup := by
  induction names generalizing seen with
  | nil => simp [unseen]
  | cons n names ih =>
    rw [unseen]
    cases hn : g.find? n with
    | none => exact ih seen
    | some s =>
      obtain ⟨_, rfl⟩ := find?_eq_some hn
      by_cases hs : s.name ∈ seen
      · simpa only [hs, if_true] using ih seen
      · simp only [hs, if_false, List.map_cons, List.nodup_cons]
        refine ⟨?_, ih _⟩
        rw [List.mem_map]
        rintro ⟨t, ht, he⟩
        exact (mem_unseen.mp ht).2.1 (by simp [he])

lemma walk_congr (h : ∀ x, x ∈ seen ↔ x ∈ seen') (queue : List (RuleSet χ)) :
    g.walk queue seen = g.walk queue seen' := by
  induction queue, seen using walk.induct (g := g) generalizing seen' with
  | case1 seen => simp only [walk]
  | case2 seen r rest next =>
    rename_i ih
    rw [walk, walk, ← unseen_congr h]
    exact congrArg (r :: ·) (ih fun x => by simp [h, next])

lemma walk_append (g : Registry χ) (queue later : List (RuleSet χ)) (seen : List String) :
    g.walk (queue ++ later) seen = queue ++
      g.walk (later ++ g.unseen seen (queue.flatMap RuleSet.parents))
        ((g.unseen seen (queue.flatMap RuleSet.parents)).map RuleSet.name ++ seen) := by
  induction queue generalizing later seen with
  | nil => simp [unseen]
  | cons r queue ih =>
    rw [List.cons_append, walk, List.append_assoc, ih, List.flatMap_cons, unseen_append]
    simp only [List.cons_append, List.append_assoc, List.map_append]
    congr 2
    exact walk_congr (by simp [or_left_comm]) _

lemma nextLevel_eq (g : Registry χ) (met level : List (RuleSet χ)) :
    g.nextLevel met level =
      g.unseen (met.map RuleSet.name) (level.flatMap RuleSet.parents) := by
  rw [unseen_eq, nextLevel, List.filterMap_flatMap]
  rfl

lemma walk_stage (g : Registry χ) (r : RuleSet χ) (k : Nat) :
    g.walk (g.stage r k).level ((g.stage r k).met.map RuleSet.name) =
      g.level r k ++
        g.walk (g.stage r (k + 1)).level ((g.stage r (k + 1)).met.map RuleSet.name) := by
  have h := g.walk_append (g.stage r k).level [] ((g.stage r k).met.map RuleSet.name)
  rw [List.append_nil, List.nil_append, ← nextLevel_eq] at h
  rw [h]
  refine congrArg _ (walk_congr ?_ _)
  simp [stage, or_comm]

lemma lineage_eq_append (g : Registry χ) (r : RuleSet χ) (k : Nat) :
    g.lineage r = (List.range k).flatMap (g.level r) ++
      g.walk (g.stage r k).level ((g.stage r k).met.map RuleSet.name) := by
  induction k with
  | zero => rfl
  | succ k ih => rw [ih, walk_stage, List.range_succ, List.flatMap_append]; simp

lemma mem_level_succ :
    s ∈ g.level r (k + 1) ↔ (∃ t ∈ g.level r k, g.IsParent t s) ∧
      s.name ∉ (g.stage r k).met.map RuleSet.name := by
  show s ∈ g.nextLevel _ _ ↔ _
  rw [nextLevel_eq, mem_unseen, List.mem_flatMap]
  constructor
  · rintro ⟨⟨t, ht, hn⟩, hs, hf⟩
    exact ⟨⟨t, ht, hn, hf⟩, hs⟩
  · rintro ⟨⟨t, ht, hn, hf⟩, hs⟩
    exact ⟨⟨t, ht, hn⟩, hs, hf⟩

lemma path_of_mem_level (h : s ∈ g.level r k) : g.Path r k s := by
  induction k generalizing s with
  | zero =>
    obtain rfl := List.mem_singleton.mp h
    exact .nil
  | succ k ih =>
    obtain ⟨⟨t, ht, hp⟩, _⟩ := mem_level_succ.mp h
    exact (ih ht).step hp

lemma find?_of_mem_level (hr : g.find? r.name = some r) (h : s ∈ g.level r k) :
    g.find? s.name = some s :=
  (path_of_mem_level h).reaches.registered hr

lemma mem_met : s ∈ (g.stage r k).met ↔ ∃ j ≤ k, s ∈ g.level r j := by
  rw [met_eq, List.mem_flatMap]
  constructor
  · rintro ⟨j, hj, hs⟩
    have hlt := List.mem_range.mp hj
    exact ⟨j, by omega, hs⟩
  · rintro ⟨j, hj, hs⟩
    exact ⟨j, List.mem_range.mpr (by omega), hs⟩

lemma nodup_met (g : Registry χ) (r : RuleSet χ) (k : Nat) :
    ((g.stage r k).met.map RuleSet.name).Nodup := by
  induction k with
  | zero => simp [stage]
  | succ k ih =>
    rw [stage, List.map_append, List.nodup_append']
    refine ⟨ih, ?_, ?_⟩
    · rw [nextLevel_eq]
      exact nodup_unseen ..
    · intro n hn hn'
      obtain ⟨s, hs, rfl⟩ := List.mem_map.mp hn'
      exact (mem_level_succ.mp hs).2 hn

lemma eq_of_name_eq (hs : g.find? s.name = some s) (ht : g.find? t.name = some t)
    (h : s.name = t.name) : s = t := by
  rw [h, ht] at hs
  exact (Option.some.inj hs).symm

lemma mem_met_of_path (hr : g.find? r.name = some r) (h : g.Path r k s) :
    s ∈ (g.stage r k).met := by
  induction h with
  | nil => simp [stage]
  | @step k s t _ hp ih =>
    rw [mem_met] at ih ⊢
    obtain ⟨j, hj, hs⟩ := ih
    -- either the parent was met by level `j`, where its child is, or it stands in the next one
    by_cases ht : t.name ∈ (g.stage r j).met.map RuleSet.name
    · obtain ⟨u, hu, he⟩ := List.mem_map.mp ht
      obtain ⟨i, hi, hu⟩ := mem_met.mp hu
      obtain rfl := eq_of_name_eq (find?_of_mem_level hr hu) hp.2 he
      exact ⟨i, by omega, hu⟩
    · exact ⟨j + 1, by omega, mem_level_succ.mpr ⟨⟨s, hs, hp⟩, ht⟩⟩

lemma level_unique {j : Nat} (hj : s ∈ g.level r j) (hk : s ∈ g.level r k) : j = k := by
  wlog h : j < k generalizing j k
  · rcases Nat.lt_trichotomy j k with hl | he | hl
    · exact this hj hk hl
    · exact he
    · exact (this hk hj hl).symm
  obtain ⟨i, rfl⟩ := Nat.exists_eq_add_of_lt h
  have hm : s ∈ (g.stage r (j + i)).met := mem_met.mpr ⟨j, by omega, hj⟩
  exact ((mem_level_succ.mp hk).2 (List.mem_map_of_mem hm)).elim

lemma mem_level_iff (hr : g.find? r.name = some r) : s ∈ g.level r k ↔ g.AtDistance r s k := by
  constructor
  · intro h
    refine ⟨path_of_mem_level h, fun j hj => ?_⟩
    obtain ⟨i, hi, hs⟩ := mem_met.mp (mem_met_of_path hr hj)
    obtain rfl := level_unique h hs
    exact hi
  · rintro ⟨hp, hs⟩
    obtain ⟨i, hi, hm⟩ := mem_met.mp (mem_met_of_path hr hp)
    obtain rfl : i = k := Nat.le_antisymm hi (hs i (path_of_mem_level hm))
    exact hm

lemma level_succ_eq_nil (h : g.level r k = []) : g.level r (k + 1) = [] := by
  refine List.eq_nil_iff_forall_not_mem.mpr fun s hs => ?_
  obtain ⟨⟨t, ht, _⟩, _⟩ := mem_level_succ.mp hs
  simp [h] at ht

lemma lt_length_met (h : g.level r k ≠ []) : k < (g.stage r k).met.length := by
  induction k with
  | zero => simp [stage]
  | succ k ih =>
    have hk := ih fun hn => h (level_succ_eq_nil hn)
    have hl : 0 < (g.nextLevel (g.stage r k).met (g.stage r k).level).length :=
      List.length_pos_iff.mpr h
    rw [stage, List.length_append]
    omega

lemma length_le_size {roles : List (RuleSet χ)} (hn : (roles.map RuleSet.name).Nodup)
    (hf : ∀ s ∈ roles, g.find? s.name = some s) : roles.length ≤ g.size := by
  have hs : roles.map RuleSet.name ⊆ g.names := by
    intro n hn
    obtain ⟨s, hs, rfl⟩ := List.mem_map.mp hn
    exact List.mem_map_of_mem (find?_eq_some (hf s hs)).1
  simpa [names, size] using (List.subperm_of_subset hn hs).length_le

lemma length_met_le (hr : g.find? r.name = some r) (k : Nat) :
    (g.stage r k).met.length ≤ g.size := by
  refine length_le_size (nodup_met g r k) fun s hs => ?_
  obtain ⟨j, _, hj⟩ := mem_met.mp hs
  exact find?_of_mem_level hr hj

lemma level_eq_nil (hr : g.find? r.name = some r) (hk : g.size ≤ k) : g.level r k = [] := by
  by_contra h
  have hl := lt_length_met h
  have hle := length_met_le hr k
  omega

lemma lineage_eq (hr : g.find? r.name = some r) :
    g.lineage r = (List.range g.size).flatMap (g.level r) := by
  have h := level_eq_nil hr (Nat.le_refl g.size)
  rw [lineage_eq_append g r g.size, ← level, h, walk, List.append_nil]

lemma mem_lineage_iff (hr : g.find? r.name = some r) : s ∈ g.lineage r ↔ g.Reaches r s := by
  rw [lineage_eq hr, List.mem_flatMap]
  constructor
  · rintro ⟨k, _, hs⟩
    exact (path_of_mem_level hs).reaches
  · intro h
    obtain ⟨k, hk⟩ := h.exists_path
    obtain ⟨j, _, hs⟩ := mem_met.mp (mem_met_of_path hr hk)
    refine ⟨j, List.mem_range.mpr ?_, hs⟩
    by_contra hj
    simp [level_eq_nil hr (Nat.le_of_not_lt hj)] at hs

lemma nodup_lineage (hr : g.find? r.name = some r) : ((g.lineage r).map RuleSet.name).Nodup := by
  cases hn : g.size with
  | zero => simp [lineage_eq hr, hn]
  | succ n =>
    rw [lineage_eq hr, hn, ← met_eq]
    exact nodup_met g r n

lemma find?_of_mem_lineage (hr : g.find? r.name = some r) (hs : s ∈ g.lineage r) :
    g.find? s.name = some s :=
  ((mem_lineage_iff hr).mp hs).registered hr

lemma length_lineage_le (hr : g.find? r.name = some r) : (g.lineage r).length ≤ g.size :=
  length_le_size (nodup_lineage hr) fun _ => find?_of_mem_lineage hr

section

variable {g' : Registry χ}

lemma unseen_of_find?_eq (h : g.find? = g'.find?) (seen names : List String) :
    g.unseen seen names = g'.unseen seen names := by
  simp only [unseen_eq, h]

lemma walk_of_find?_eq (h : g.find? = g'.find?) (queue : List (RuleSet χ)) (seen : List String) :
    g.walk queue seen = g'.walk queue seen := by
  induction queue, seen using walk.induct (g := g) with
  | case1 seen => simp only [walk]
  | case2 seen r rest next ih =>
    rw [walk, walk, ← unseen_of_find?_eq h]
    exact congrArg (r :: ·) ih

lemma lineage_of_find?_eq (h : g.find? = g'.find?) (r : RuleSet χ) : g.lineage r = g'.lineage r :=
  walk_of_find?_eq h [r] [r.name]

end

end RolePolicy.Registry
