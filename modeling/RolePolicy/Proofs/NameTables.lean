import RolePolicy.Proofs.Registrations

/-! A catalog kept in tables: the able name of each action, the actions in order, and what every
registered name stands for. Registrations keep the tables in agreement with each other. -/

namespace RolePolicy

structure NameTables where
  ables : Std.ExtTreeMap Action (Option String) := ∅
  order : List Action := []
  meanings : Std.ExtTreeMap String (List Action) := ∅
  hasCrud : Bool := false

namespace NameTables

def isAction (t : NameTables) (name : String) : Bool := t.ables.contains ⟨name⟩

def contains (t : NameTables) (name : String) : Bool := t.meanings.contains name

def resolve (t : NameTables) (name : String) : Except CatalogError (List Action) :=
  match t.meanings[name]? with
  | some actions => .ok actions
  | none => .error (.unknownName name)

def actions (t : NameTables) : List Action := t.order

def ableFor? (t : NameTables) (name : String) : Option String :=
  (t.ables[(⟨name⟩ : Action)]?).join

def actionForAble? (t : NameTables) (able : String) : Option Action :=
  t.order.find? fun a => (t.ables[a]?).join == some able

def register (t : NameTables) (name : String) (able : Option String) :
    Except CatalogError NameTables :=
  match t.ables[(⟨name⟩ : Action)]? with
  | some known => if known = able then .ok t else .error (.duplicateAction name)
  | none =>
    if t.contains name then .error (.duplicateAction name)
    else .ok { t with
      ables := t.ables.insert ⟨name⟩ able
      order := t.order ++ [⟨name⟩]
      meanings := t.meanings.insert name [⟨name⟩] }

def append (actions : List Action) (others : List Action) : List Action :=
  others.foldl (fun l a => if a ∈ l then l else l ++ [a]) actions

def expandOnto (t : NameTables) (expanded : List Action) :
    List String → Except CatalogError (List Action)
  | [] => .ok expanded
  | member :: members =>
    match t.resolve member with
    | .error e => .error e
    | .ok actions => t.expandOnto (append expanded actions) members

def registerGroup (t : NameTables) (name : String) (members : List String) :
    Except CatalogError NameTables :=
  if t.isAction name then .error (.duplicateAction name)
  else match t.expandOnto [] members with
    | .error e => .error e
    | .ok [] => .error (.emptyGroup name)
    | .ok actions => .ok { t with meanings := t.meanings.insert name actions }

def registerAll (t : NameTables) : List Ability → Except CatalogError Unit × NameTables
  | [] => (.ok (), t)
  | a :: rest =>
    match t.register a.action.name a.able with
    | .ok t' => t'.registerAll rest
    | .error e => (.error e, t)

def registerCrud (t : NameTables) : Except CatalogError Unit × NameTables :=
  if t.hasCrud then (.ok (), t)
  else match t.registerAll Catalog.crudAbilities with
    | (.error e, t') => (.error e, t')
    | (.ok (), t') =>
      match t'.registerGroup Catalog.crudGroup (Catalog.crudAbilities.map (·.action.name)) with
      | .error e => (.error e, t')
      | .ok t'' => (.ok (), { t'' with hasCrud := true })

def settle (t : NameTables) :
    Except CatalogError NameTables → Except CatalogError Unit × NameTables
  | .ok t' => (.ok (), t')
  | .error e => (.error e, t)

def apply (t : NameTables) : Registration → Except CatalogError Unit × NameTables
  | .action name => t.settle (t.register name none)
  | .ability name able => t.settle (t.register name (some able))
  | .group name members => t.settle (t.registerGroup name members)
  | .crud => t.registerCrud

def applyAll (t : NameTables) (rs : List Registration) : NameTables :=
  rs.foldl (fun t r => (t.apply r).2) t

structure Agrees (t : NameTables) (c : Catalog) : Prop where
  ables : ∀ name : String, t.ables[(⟨name⟩ : Action)]? = (c.ability? name).map Ability.able
  order : t.order = c.actions
  meanings : ∀ name : String, t.meanings[name]? = (c.resolve name).toOption
  hasCrud : t.hasCrud = c.hasCrud

inductive Matches : Except CatalogError NameTables → Except CatalogError Catalog → Prop
  | ok {t : NameTables} {c : Catalog} : t.Agrees c → Matches (.ok t) (.ok c)
  | error (e : CatalogError) : Matches (.error e) (.error e)

variable {t : NameTables} {c : Catalog} {name : String}

lemma agrees_empty : ({} : NameTables).Agrees {} where
  ables name := by simp [Catalog.ability?]
  order := rfl
  meanings name := by simp [Catalog.resolve, Catalog.isAction, Catalog.ability?, Except.toOption]
  hasCrud := rfl

lemma Agrees.isAction (h : t.Agrees c) (name : String) : t.isAction name = c.isAction name := by
  rw [NameTables.isAction, Std.ExtTreeMap.contains_eq_isSome_getElem?, h.ables, Option.isSome_map]
  rfl

lemma Agrees.resolve (h : t.Agrees c) (name : String) : t.resolve name = c.resolve name := by
  rw [NameTables.resolve, h.meanings, Catalog.resolve]
  cases c.isAction name <;> cases c.groups[name]? <;> rfl

lemma Agrees.contains (h : t.Agrees c) (name : String) : t.contains name = c.contains name := by
  rw [NameTables.contains, Std.ExtTreeMap.contains_eq_isSome_getElem?, h.meanings,
    Catalog.resolve, Catalog.contains, Std.ExtTreeMap.contains_eq_isSome_getElem?]
  cases c.isAction name <;> cases c.groups[name]? <;> rfl

lemma append_eraseDups (l others : List Action) :
    append l.eraseDups others = (l ++ others).eraseDups := by
  induction others generalizing l with
  | nil => rw [List.append_nil, append, List.foldl_nil]
  | cons a others ih =>
    have ha : (if a ∈ l.eraseDups then l.eraseDups else l.eraseDups ++ [a]) =
        (l ++ [a]).eraseDups := by
      simp only [List.mem_eraseDups, eraseDups_concat]
    rw [append, List.foldl_cons, ← append, ha, ih, List.append_assoc, List.singleton_append]

lemma Agrees.expandOnto (h : t.Agrees c) (l : List Action) (members : List String) :
    t.expandOnto l.eraseDups members =
      (members.mapM c.resolve).map fun expansions => (l ++ expansions.flatten).eraseDups := by
  induction members generalizing l with
  | nil => simp [NameTables.expandOnto, Except.map, pure, Except.pure]
  | cons member members ih =>
    rw [NameTables.expandOnto, h.resolve, List.mapM_cons]
    cases c.resolve member with
    | error e => rfl
    | ok actions =>
      simp only [append_eraseDups, ih]
      cases members.mapM c.resolve with
      | error e => rfl
      | ok expansions => simp [bind, Except.bind, pure, Except.pure, Except.map]

lemma Agrees.expand (h : t.Agrees c) (members : List String) :
    t.expandOnto [] members = c.expand members :=
  h.expandOnto [] members

lemma Agrees.register (h : t.Agrees c) (name : String) (able : Option String) :
    Matches (t.register name able) (c.register name able) := by
  have hn := h.ables name
  have hi : c.isAction name = (c.ability? name).isSome := rfl
  rw [NameTables.register, Catalog.register, hn, h.contains, Catalog.contains, hi]
  cases ha : c.ability? name with
  | some known =>
    by_cases he : known.able = able
    · simpa [he] using .ok h
    · simpa [he] using .error _
  | none =>
    cases hg : c.groups.contains name with
    | true => simpa using .error _
    | false =>
      refine .ok ⟨fun n => ?_, ?_, fun n => ?_, h.hasCrud⟩
      · rw [Catalog.ability?_concat, Std.ExtTreeMap.getElem?_insert, h.ables]
        by_cases he : name = n
        · subst he
          simp [ha]
        · simp [he]
      · rw [Catalog.actions_concat, ← h.order]
      · rw [Catalog.resolve_concat, Std.ExtTreeMap.getElem?_insert, h.meanings]
        by_cases he : name = n <;> simp [he, Except.toOption]

lemma Agrees.registerGroup (h : t.Agrees c) (name : String) (members : List String) :
    Matches (t.registerGroup name members) (c.registerGroup name members) := by
  rw [NameTables.registerGroup, Catalog.registerGroup, h.isAction, h.expand]
  cases hn : c.isAction name with
  | true => exact .error _
  | false =>
    cases hx : c.expand members with
    | error e => exact .error e
    | ok actions =>
      cases actions with
      | nil => exact .error _
      | cons a actions =>
        refine .ok ⟨h.ables, h.order, fun n => ?_, h.hasCrud⟩
        rw [Catalog.resolve_insert_group hn, Std.ExtTreeMap.getElem?_insert, h.meanings]
        by_cases he : name = n <;> simp [he, Except.toOption]

lemma Agrees.registerAll (h : t.Agrees c) (abilities : List Ability) :
    (t.registerAll abilities).1 = (c.registerAll abilities).1 ∧
      (t.registerAll abilities).2.Agrees (c.registerAll abilities).2 := by
  induction abilities generalizing t c with
  | nil => exact ⟨rfl, h⟩
  | cons a abilities ih =>
    have ha := h.register a.action.name a.able
    rw [NameTables.registerAll, Catalog.registerAll]
    generalize t.register a.action.name a.able = x at ha
    generalize c.register a.action.name a.able = y at ha
    cases ha with
    | ok h' => exact ih h'
    | error e => exact ⟨rfl, h⟩

lemma Agrees.registerCrud (h : t.Agrees c) :
    t.registerCrud.1 = c.registerCrud.1 ∧ t.registerCrud.2.Agrees c.registerCrud.2 := by
  rw [NameTables.registerCrud, Catalog.registerCrud, h.hasCrud]
  cases c.hasCrud with
  | true => exact ⟨rfl, h⟩
  | false =>
    obtain ⟨ho, ha⟩ := h.registerAll Catalog.crudAbilities
    generalize t.registerAll Catalog.crudAbilities = x at ho ha
    generalize c.registerAll Catalog.crudAbilities = y at ho ha
    obtain ⟨outcome, t₁⟩ := x
    obtain ⟨_, c₁⟩ := y
    subst ho
    cases outcome with
    | error e => exact ⟨rfl, ha⟩
    | ok =>
      have hg := ha.registerGroup Catalog.crudGroup (Catalog.crudAbilities.map (·.action.name))
      simp only [Bool.false_eq_true, if_false]
      generalize t₁.registerGroup _ _ = x at hg
      generalize c₁.registerGroup _ _ = y at hg
      cases hg with
      | ok h' => exact ⟨rfl, h'.ables, h'.order, h'.meanings, rfl⟩
      | error e => exact ⟨rfl, ha⟩

lemma Agrees.settle {x : Except CatalogError NameTables} {y : Except CatalogError Catalog}
    (h : t.Agrees c) (hm : Matches x y) :
    (t.settle x).1 = (c.settle y).1 ∧ (t.settle x).2.Agrees (c.settle y).2 := by
  cases hm with
  | ok h' => exact ⟨rfl, h'⟩
  | error e => exact ⟨rfl, h⟩

lemma Agrees.apply (h : t.Agrees c) (r : Registration) :
    (t.apply r).1 = (c.apply r).1 ∧ (t.apply r).2.Agrees (c.apply r).2 := by
  cases r with
  | action name => exact h.settle (h.register name none)
  | ability name able => exact h.settle (h.register name (some able))
  | group name members => exact h.settle (h.registerGroup name members)
  | crud => exact h.registerCrud

lemma Agrees.applyAll (h : t.Agrees c) (rs : List Registration) :
    (t.applyAll rs).Agrees (c.applyAll rs) := by
  induction rs generalizing t c with
  | nil => exact h
  | cons r rs ih => exact ih (h.apply r).2

end NameTables

structure Listing where
  actions : List Action
  isAction : String → Bool
  contains : String → Bool
  resolve : String → Except CatalogError (List Action)
  ableFor? : String → Option String
  actionForAble? : String → Option Action

def Catalog.listing (c : Catalog) : Listing :=
  ⟨c.actions, c.isAction, c.contains, c.resolve, c.ableFor?, c.actionForAble?⟩

def NameTables.listing (t : NameTables) : Listing :=
  ⟨t.actions, t.isAction, t.contains, t.resolve, t.ableFor?, t.actionForAble?⟩

structure Listing.Coherent (l : Listing) (IsGroup : String → Prop) : Prop where
  nodup : l.actions.Nodup
  mem_actions : ∀ name, ⟨name⟩ ∈ l.actions ↔ l.isAction name
  action : ∀ name, l.isAction name → l.resolve name = .ok [⟨name⟩]
  group : ∀ name, IsGroup name → ∃ actions, l.resolve name = .ok actions ∧ actions ≠ [] ∧
    actions.Nodup ∧ ∀ a ∈ actions, l.isAction a.name
  contains_iff_resolve : ∀ name, l.contains name ↔ ∃ actions, l.resolve name = .ok actions
  contains_iff : ∀ name, l.contains name ↔ l.isAction name ∨ IsGroup name
  disjoint : ∀ name, ¬ (l.isAction name ∧ IsGroup name)
  able : ∀ name able, l.ableFor? name = some able → l.isAction name

section

variable {t : NameTables} {c : Catalog}

lemma Catalog.Sound.ability?_eq_some {a : Ability} (h : c.Sound) (ha : a ∈ c.abilities) :
    c.ability? a.action.name = some a := by
  have hs : (c.ability? a.action.name).isSome := List.find?_isSome.mpr ⟨a, ha, by simp⟩
  obtain ⟨b, hb⟩ := Option.isSome_iff_exists.mp hs
  have hm : b ∈ c.abilities := List.mem_of_find?_eq_some hb
  have he : b.action.name = a.action.name := by simpa using List.find?_some hb
  rw [hb, List.inj_on_of_nodup_map h.nodup hm ha (congrArg Action.mk he)]

lemma NameTables.Agrees.ableFor? (h : t.Agrees c) (name : String) :
    t.ableFor? name = c.ableFor? name := by
  rw [NameTables.ableFor?, h.ables, Catalog.ableFor?]
  cases c.ability? name <;> rfl

lemma Catalog.Sound.actionForAble?_eq (h : c.Sound) (able : String) :
    c.actionForAble? able = c.actions.find? fun a => c.ableFor? a.name == some able := by
  have ha : ∀ a ∈ c.abilities, (a.able == some able) = (c.ableFor? a.action.name == some able) := by
    intro a ha
    rw [Catalog.ableFor?, h.ability?_eq_some ha]
    rfl
  rw [actionForAble?, actions, List.find?_map, ← List.head?_filter, ← List.head?_filter]
  exact congrArg (fun l => (List.head? l).map Ability.action) (List.filter_congr ha)

lemma NameTables.Agrees.actionForAble? (h : t.Agrees c) (hs : c.Sound) (able : String) :
    t.actionForAble? able = c.actionForAble? able := by
  have ha : (fun a : Action => (t.ables[a]?).join == some able) =
      fun a => c.ableFor? a.name == some able := by
    funext a
    rw [← h.ableFor?]
    rfl
  rw [NameTables.actionForAble?, hs.actionForAble?_eq, h.order, ha]

lemma NameTables.Agrees.listing (h : t.Agrees c) (hs : c.Sound) : t.listing = c.listing := by
  rw [NameTables.listing, Catalog.listing, Listing.mk.injEq]
  exact ⟨h.order, funext h.isAction, funext h.contains, funext h.resolve, funext h.ableFor?,
    funext (h.actionForAble? hs)⟩

lemma Catalog.isAction_of_ableFor? {name able : String} (h : c.ableFor? name = some able) :
    c.isAction name := by
  obtain ⟨a, ha, _⟩ := Option.bind_eq_some_iff.mp h
  rw [isAction, ha, Option.isSome_some]

lemma Catalog.Sound.coherent (h : c.Sound) :
    c.listing.Coherent fun name => c.groups.contains name where
  nodup := h.nodup
  mem_actions name := isAction_iff.symm
  action name := resolve_of_isAction
  group name hg := by
    obtain ⟨actions, ha⟩ : ∃ actions, c.groups[name]? = some actions := by
      rwa [Std.ExtTreeMap.contains_eq_isSome_getElem?, Option.isSome_iff_exists] at hg
    obtain ⟨hne, hd, hm⟩ := h.group name actions ha
    refine ⟨actions, (resolve_eq_ok_iff (h.disjoint name hg)).mpr ha, hne, hd, fun a ha => ?_⟩
    exact isAction_iff.mpr (hm a ha)
  contains_iff_resolve name := contains_iff
  contains_iff name := by
    rw [← Bool.or_eq_true]
    rfl
  disjoint name := by
    rintro ⟨hn, hg⟩
    have hf : c.isAction name = false := h.disjoint name hg
    exact Bool.false_ne_true (hf.symm.trans hn)
  able name able := isAction_of_ableFor?

end

theorem listing_applyAll (rs : List Registration) :
    let c := Catalog.applyAll {} rs
    let t := NameTables.applyAll {} rs
    c.listing.Coherent (Catalog.GroupRegistered rs) ∧
      t.listing = c.listing ∧ ∀ r, (t.apply r).1 = (c.apply r).1 := by
  intro c t
  have hs : c.Sound := Catalog.sound_applyAll rs
  have ha : t.Agrees c := NameTables.agrees_empty.applyAll rs
  have hg : (fun name => (c.groups.contains name : Prop)) = Catalog.GroupRegistered rs :=
    funext fun name => propext (Catalog.contains_groups_applyAll rs)
  exact ⟨hg ▸ hs.coherent, ha.listing hs, fun r => (ha.apply r).1⟩

end RolePolicy
