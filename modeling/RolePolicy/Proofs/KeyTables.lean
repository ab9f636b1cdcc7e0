import Mathlib.Data.List.Dedup
import RolePolicy.Proofs.RoleInvariants

/-! Resource tables as they are laid out, with the wildcard beside the map of names. They hold what
was inserted, count it and list it once, and no role is left with an empty one. -/

namespace RolePolicy

variable {χ ω : Type}

structure SplitRules (χ : Type) where
  named : Std.ExtTreeMap String (Response χ) := ∅
  other : Option (Response χ) := none

namespace SplitRules

def insert (s : SplitRules χ) (key : ResourceKey) (x : Response χ) : SplitRules χ :=
  match key with
  | .named id => { s with named := s.named.insert id x }
  | .other => { s with other := some x }

def get? (s : SplitRules χ) : ResourceKey → Option (Response χ)
  | .named id => s.named[id]?
  | .other => s.other

def select (s : SplitRules χ) (id : Option String) : Option (Response χ × MatchSource) :=
  match id.bind fun i => s.named[i]? with
  | some x => some (x, .resource)
  | none => s.other.map (·, .wildcard)

def len (s : SplitRules χ) : Nat := s.named.size + s.other.toList.length

def isEmpty (s : SplitRules χ) : Bool := s.len == 0

def entries (names : List (String × Response χ)) (other : Option (Response χ)) :
    List (ResourceKey × Response χ) :=
  names.map (fun e => (.named e.1, e.2)) ++ other.toList.map (.other, ·)

def Iterates (s : SplitRules χ) (l : List (ResourceKey × Response χ)) : Prop :=
  ∃ names, names.Perm s.named.toList ∧ l = entries names s.other

def insertAll (l : List (ResourceKey × Response χ)) : SplitRules χ :=
  l.foldl (fun s e => s.insert e.1 e.2) {}

end SplitRules

namespace ResourceRules

def insertAll (l : List (ResourceKey × Response χ)) : ResourceRules χ :=
  l.foldl (fun t e => t.insert e.1 e.2) ∅

def split (t : ResourceRules χ) : SplitRules χ := .insertAll t.toList

structure Counted (l : List (ResourceKey × Response χ)) (t : ResourceRules χ) : Prop where
  split : t.split = .insertAll l
  get : ∀ k, t[k]? = t.split.get? k
  select : ∀ id, t.select id = t.split.select id
  size : t.size = t.split.len
  isEmpty : t.isEmpty = t.split.isEmpty
  iter : t.split.Iterates t.toList
  len : t.split.len = (l.map Prod.fst).dedup.length
  empty : t.split.isEmpty ↔ ∀ k, t.split.get? k = none
  once : ∀ l', t.split.Iterates l' → (l'.map Prod.fst).Nodup ∧
    ∀ k x, (k, x) ∈ l' ↔ t.split.get? k = some x
  last : ∀ l' x, t.split.Iterates l' → (.other, x) ∈ l' → ∃ front, l' = front ++ [(.other, x)]
  insert : ∀ k x k', (t.split.insert k x).get? k' = if k = k' then some x else t.split.get? k'

end ResourceRules

namespace ActionRule

def merge (key : ResourceKey) (x : Response χ) (rule : Option (ActionRule χ)) : ActionRule χ :=
  let made := rule.getD (.byResource ∅)
  let cleared := match made with
    | everywhere _ => .byResource ∅
    | byResource t => .byResource t
  match cleared with
  | everywhere y => everywhere y
  | byResource t => byResource (t.insert key x)

end ActionRule

def RuleSet.Filled (r : RuleSet χ) : Prop :=
  ∀ a t, r.rule? a = some (.byResource t) → t.isEmpty = false ∧ ∃ l, t = ResourceRules.insertAll l

lemma nodup_map_fst_toList {κ β : Type} [Ord κ] [Std.TransOrd κ] (m : Std.ExtTreeMap κ β) :
    (m.toList.map Prod.fst).Nodup := by
  rw [Std.ExtTreeMap.map_fst_toList_eq_keys]
  exact Std.ExtTreeMap.nodup_keys

namespace SplitRules

variable {s s' : SplitRules χ} {k : ResourceKey} {x : Response χ}
  {l : List (ResourceKey × Response χ)}

lemma ext_get? (h : ∀ k, s.get? k = s'.get? k) : s = s' := by
  obtain ⟨named, other⟩ := s
  obtain ⟨named', other'⟩ := s'
  have hn : named = named' := Std.ExtTreeMap.ext_getElem? fun id => h (.named id)
  have ho : other = other' := h .other
  rw [hn, ho]

lemma get?_insert (s : SplitRules χ) (k : ResourceKey) (x : Response χ) (k' : ResourceKey) :
    (s.insert k x).get? k' = if k = k' then some x else s.get? k' := by
  cases k <;> cases k' <;> simp [insert, get?, Std.ExtTreeMap.getElem?_insert]

lemma insertAll_concat (l : List (ResourceKey × Response χ)) (e : ResourceKey × Response χ) :
    insertAll (l ++ [e]) = (insertAll l).insert e.1 e.2 := by
  rw [insertAll, List.foldl_concat, insertAll]

end SplitRules

namespace ResourceRules

variable {t : ResourceRules χ} {k : ResourceKey} {x : Response χ}
  {l : List (ResourceKey × Response χ)}

lemma insertAll_concat (l : List (ResourceKey × Response χ)) (e : ResourceKey × Response χ) :
    insertAll (l ++ [e]) = (insertAll l).insert e.1 e.2 := by
  rw [insertAll, List.foldl_concat, insertAll]

lemma getElem?_insertAll (l : List (ResourceKey × Response χ)) (k : ResourceKey) :
    (insertAll l)[k]? = (SplitRules.insertAll l).get? k := by
  induction l using List.reverseRecOn with
  | nil => cases k <;> simp [insertAll, SplitRules.insertAll, SplitRules.get?]
  | append_singleton l e ih =>
    rw [insertAll_concat, SplitRules.insertAll_concat, SplitRules.get?_insert, ← ih,
      Std.ExtTreeMap.getElem?_insert]
    simp

lemma mem_insertAll : k ∈ insertAll l ↔ k ∈ l.map Prod.fst := by
  induction l using List.reverseRecOn with
  | nil => simp [insertAll]
  | append_singleton l e ih =>
    rw [insertAll_concat, Std.ExtTreeMap.mem_insert, ih, List.map_append, List.mem_append, or_comm,
      Std.LawfulEqCmp.compare_eq_iff_eq, List.map_singleton, List.mem_singleton, eq_comm]

lemma getElem?_insertAll_of_mem (hl : (l.map Prod.fst).Nodup) (h : (k, x) ∈ l) :
    (insertAll l)[k]? = some x := by
  induction l using List.reverseRecOn with
  | nil => cases h
  | append_singleton l e ih =>
    rw [List.map_append, List.map_singleton, List.nodup_append] at hl
    rw [insertAll_concat, Std.ExtTreeMap.getElem?_insert]
    rcases List.mem_append.mp h with h | h
    · have hk : k ≠ e.1 := hl.2.2 k (List.mem_map_of_mem h) e.1 (List.mem_singleton_self _)
      rw [if_neg (by simpa using hk.symm), ih hl.1 h]
    · obtain rfl := List.mem_singleton.mp h
      simp

lemma insertAll_toList (t : ResourceRules χ) : insertAll t.toList = t := by
  refine Std.ExtTreeMap.ext_getElem? fun k => ?_
  cases h : t[k]? with
  | some x =>
    exact getElem?_insertAll_of_mem (nodup_map_fst_toList t)
      (Std.ExtTreeMap.mem_toList_iff_getElem?_eq_some.mpr h)
  | none =>
    rw [getElem?_eq_none_iff] at h ⊢
    rwa [mem_insertAll, Std.ExtTreeMap.map_fst_toList_eq_keys, Std.ExtTreeMap.mem_keys]

lemma get?_split (t : ResourceRules χ) (k : ResourceKey) : t.split.get? k = t[k]? := by
  rw [split, ← getElem?_insertAll, insertAll_toList]

lemma split_insertAll (l : List (ResourceKey × Response χ)) :
    (insertAll l).split = .insertAll l :=
  SplitRules.ext_get? fun k => by rw [get?_split, getElem?_insertAll]

end ResourceRules

namespace SplitRules

variable {s : SplitRules χ} {names : List (String × Response χ)} {other : Option (Response χ)}
  {k : ResourceKey} {x : Response χ} {l : List (ResourceKey × Response χ)}

lemma named_mem_entries {id : String} : (.named id, x) ∈ entries names other ↔ (id, x) ∈ names := by
  simp [entries]

lemma other_mem_entries : (.other, x) ∈ entries names other ↔ other = some x := by
  simp [entries, eq_comm]

lemma nodup_keys_entries (h : (names.map Prod.fst).Nodup) :
    ((entries names other).map Prod.fst).Nodup := by
  have he : (entries names other).map Prod.fst =
      (names.map Prod.fst).map .named ++ other.toList.map fun _ => .other := by
    simp [entries, Function.comp_def]
  rw [he]
  refine (h.map fun _ _ => ResourceKey.named.inj).append ?_ ?_
  · cases other <;> simp
  · intro k hn ho
    obtain ⟨id, _, rfl⟩ := List.mem_map.mp hn
    obtain ⟨_, _, hk⟩ := List.mem_map.mp ho
    cases hk

lemma Iterates.mem_iff (h : s.Iterates l) : (k, x) ∈ l ↔ s.get? k = some x := by
  obtain ⟨names, hp, rfl⟩ := h
  cases k with
  | named id =>
    rw [named_mem_entries, hp.mem_iff, Std.ExtTreeMap.mem_toList_iff_getElem?_eq_some, get?]
  | other => rw [other_mem_entries, get?]

lemma Iterates.nodup (h : s.Iterates l) : (l.map Prod.fst).Nodup := by
  obtain ⟨names, hp, rfl⟩ := h
  exact nodup_keys_entries ((hp.map Prod.fst).nodup_iff.mpr (nodup_map_fst_toList _))

lemma Iterates.length_eq (h : s.Iterates l) : l.length = s.len := by
  obtain ⟨names, hp, rfl⟩ := h
  rw [entries, len, List.length_append, List.length_map, List.length_map, hp.length_eq,
    Std.ExtTreeMap.length_toList]

lemma Iterates.exists_front (h : s.Iterates l) (hx : (.other, x) ∈ l) :
    ∃ front, l = front ++ [(.other, x)] := by
  obtain ⟨names, hp, rfl⟩ := h
  rw [entries, other_mem_entries.mp hx]
  exact ⟨_, rfl⟩

lemma iterates_entries (s : SplitRules χ) : s.Iterates (entries s.named.toList s.other) :=
  ⟨_, .refl _, rfl⟩

lemma isEmpty_iff : s.isEmpty ↔ ∀ k, s.get? k = none := by
  rw [isEmpty, beq_iff_eq, ← s.iterates_entries.length_eq, List.length_eq_zero_iff,
    List.eq_nil_iff_forall_not_mem, Prod.forall]
  refine forall_congr' fun k => ?_
  rw [Option.eq_none_iff_forall_ne_some]
  exact forall_congr' fun x => s.iterates_entries.mem_iff.not

lemma pairwise_entries (h : names.Pairwise fun e e' => compare e.1 e'.1 = .lt) :
    (entries names other).Pairwise fun e e' => compare e.1 e'.1 = .lt := by
  refine List.pairwise_append.mpr ⟨List.pairwise_map.mpr h, ?_, ?_⟩
  · cases other <;> simp
  · intro e he e' he'
    obtain ⟨_, _, rfl⟩ := List.mem_map.mp he
    obtain ⟨_, _, rfl⟩ := List.mem_map.mp he'
    rfl

end SplitRules

namespace ResourceRules

lemma toList_eq (t : ResourceRules χ) :
    t.toList = SplitRules.entries t.split.named.toList t.split.other := by
  have hi := t.split.iterates_entries
  have hp : t.toList.Perm (SplitRules.entries t.split.named.toList t.split.other) := by
    refine (List.perm_ext_iff_of_nodup (nodup_map_fst_toList t).of_map hi.nodup.of_map).mpr ?_
    rintro ⟨k, x⟩
    rw [hi.mem_iff, get?_split, Std.ExtTreeMap.mem_toList_iff_getElem?_eq_some]
  refine hp.eq_of_pairwise ?_ Std.ExtTreeMap.ordered_keys_toList
    (SplitRules.pairwise_entries Std.ExtTreeMap.ordered_keys_toList)
  intro e e' _ _ h h'
  exact absurd h' (Std.OrientedCmp.not_lt_of_lt h)

lemma iterates_toList (t : ResourceRules χ) : t.split.Iterates t.toList := by
  rw [toList_eq]
  exact t.split.iterates_entries

lemma size_eq_len (t : ResourceRules χ) : t.size = t.split.len := by
  rw [← (iterates_toList t).length_eq, Std.ExtTreeMap.length_toList]

lemma counted_insertAll (l : List (ResourceKey × Response χ)) : (insertAll l).Counted l where
  split := split_insertAll l
  get k := (get?_split _ k).symm
  select id := by
    rw [ResourceRules.select]
    simp only [← get?_split]
    rfl
  size := size_eq_len _
  isEmpty := by rw [Std.ExtTreeMap.isEmpty_eq_size_beq_zero, SplitRules.isEmpty, size_eq_len]
  iter := iterates_toList _
  len := by
    have hp : (insertAll l).keys.Perm (l.map Prod.fst).dedup := by
      refine (List.perm_ext_iff_of_nodup Std.ExtTreeMap.nodup_keys (List.nodup_dedup _)).mpr ?_
      intro k
      rw [Std.ExtTreeMap.mem_keys, mem_insertAll, List.mem_dedup]
    rw [← size_eq_len, ← Std.ExtTreeMap.length_keys, hp.length_eq]
  empty := SplitRules.isEmpty_iff
  once l' h := ⟨h.nodup, fun _ _ => h.mem_iff⟩
  last _ _ h := h.exists_front
  insert k x k' := SplitRules.get?_insert _ k x k'

end ResourceRules

namespace RuleSet

variable {r : RuleSet χ} {catalog : Catalog}

lemma ruleWith_eq_merge (k : ResourceKey) (x : Response χ) (rule : Option (ActionRule χ)) :
    ruleWith k x rule = ActionRule.merge k x rule := by
  rcases rule with _ | _ | t <;> rfl

lemma Filled.declare (h : r.Filled) (a : Action) (k : ResourceKey) (x : Response χ) :
    (r.declare a k x).Filled := by
  intro b t ht
  rw [rule?_declare] at ht
  split_ifs at ht with hb
  · have hi {t' : ResourceRules χ} (l : List (ResourceKey × Response χ))
        (hl : t' = ResourceRules.insertAll l) : (t'.insert k x).isEmpty = false ∧
          ∃ l', t'.insert k x = ResourceRules.insertAll l' :=
      ⟨by simp, l ++ [(k, x)], by rw [ResourceRules.insertAll_concat, hl]⟩
    rcases ha : r.rule? a with _ | _ | t'
    all_goals
      rw [ha] at ht
      cases ht
    · exact hi [] rfl
    · exact hi [] rfl
    · obtain ⟨-, l, hl⟩ := h a t' ha
      exact hi l hl
  · exact h b t ht

lemma Filled.respond (h : r.Filled) (a : Action) (x : Response χ) : (r.respond a x).Filled := by
  intro b t ht
  rw [rule?_respond] at ht
  split_ifs at ht
  · cases ht
  · exact h b t ht

lemma Filled.declareAll (h : r.Filled) (actions : List Action) (keys : List ResourceKey)
    (x : Response χ) : (r.declareAll actions keys x).Filled := by
  have hk (a : Action) {r : RuleSet χ} (h : r.Filled) : (r.declareKeys a keys x).Filled := by
    induction keys generalizing r with
    | nil => exact h
    | cons k keys ih => exact ih (h.declare a k x)
  induction actions generalizing r with
  | nil => exact h
  | cons a actions ih => exact ih (hk a h)

lemma Filled.respondAll (h : r.Filled) (actions : List Action) (x : Response χ) :
    (r.respondAll actions x).Filled := by
  induction actions generalizing r with
  | nil => exact h
  | cons a actions ih => exact ih (h.respond a x)

lemma Filled.addParents (h : r.Filled) (names : List String) : (r.addParents names).Filled := by
  rw [addParents_frame]
  exact h

lemma filled_invariant (catalog : Catalog) : RuleSet.Invariant catalog (Filled (χ := χ)) where
  start build name parents := by
    have h : ({ name } : RuleSet χ).Filled := fun a t ht => by simp [rule?] at ht
    exact h.addParents parents
  issue d d' s h hd := by
    obtain ⟨p, c⟩ := s
    cases c with
    | setDefault y =>
      cases hd
      exact h
    | addParents names =>
      cases hd
      exact h.addParents names
    | declare action keys condition =>
      obtain ⟨actions, _, rfl⟩ := Draft.issue_declare hd
      exact h.declareAll actions _ _
    | respond action y =>
      obtain ⟨actions, _, rfl⟩ := Draft.issue_respond hd
      exact h.respondAll actions y

lemma filled_lasting : RuleSet.Lasting fun _ => Filled (χ := χ) where
  invariant c _ := filled_invariant c
  becomes _ _ _ _ h := h

end RuleSet

theorem tables_filled_and_counted (catalog : Catalog) (script : Script χ ω) (config : Config)
    (pass : List (Directive.Guarded χ ω)) :
    (script.run catalog {}).workshop.Bears RuleSet.Filled ∧
    (Configurator.run { registry := { config } } pass).2.2.Bears (fun _ => RuleSet.Filled) ∧
    (∀ k x (rule : Option (ActionRule χ)), RuleSet.ruleWith k x rule = ActionRule.merge k x rule) ∧
    ∀ l : List (ResourceKey × Response χ), (ResourceRules.insertAll l).Counted l :=
  ⟨script.bears_run (RuleSet.filled_invariant catalog) Workshop.bears_empty,
    (Configurator.bears_start _ config).run RuleSet.filled_lasting pass,
    RuleSet.ruleWith_eq_merge, ResourceRules.counted_insertAll⟩

def guardScript : Script Probe Unit :=
  .step (.start "guard" []) false
    (.step (.clause (.respond "open" .allow)) false
      (.step (.clause (.declare "open" [.named "vault"] none)) false
        (.step (.clause (.declare "open" [] none)) false (.step .finish false .done))))

theorem guard_tables :
    let doors : Catalog := { abilities := [⟨⟨"open"⟩, none⟩] }
    ∃ r t, (guardScript.run doors {}).workshop.shelf = [r] ∧
      r.rule? ⟨"open"⟩ = some (.byResource t) ∧ t.isEmpty = false ∧ t.size = 2 := by
  intro doors
  obtain ⟨hs, -, -, hc⟩ := tables_filled_and_counted doors guardScript {} []
  let l : List (ResourceKey × Response Probe) := [(.named "vault", .allow), (.other, .allow)]
  obtain ⟨r, hr, ht⟩ : ∃ r, (guardScript.run doors {}).workshop.shelf = [r] ∧
      r.rule? ⟨"open"⟩ = some (.byResource (ResourceRules.insertAll l)) :=
    ⟨_, rfl, by decide +kernel⟩
  have hm : r ∈ (guardScript.run doors {}).workshop.shelf := hr ▸ List.mem_singleton_self r
  obtain ⟨he, -⟩ := hs.shelf r hm ⟨"open"⟩ _ ht
  exact ⟨r, _, hr, ht, he, (hc l).size.trans ((hc l).len.trans (by decide))⟩

end RolePolicy
