import RolePolicy.Proofs.NameTables

/-! What a catalog keeps through all later registrations, refused ones among them. Names stay what
they are, actions keep their able names, and a group gets another meaning under its own name only.
-/

namespace RolePolicy

def Registration.Defines (c : Catalog) (r : Registration) (name : String) : Prop :=
  r.group? = some name ∧ (c.apply r).1 = .ok () ∧ (r = .crud → c.hasCrud = false)

namespace Catalog

variable {c c' : Catalog} {name able : String} {a : Action} {r : Registration}
  {rs : List Registration}

def Redefines (c : Catalog) (rs : List Registration) (name : String) : Prop :=
  ∃ before r after, rs = before ++ r :: after ∧ r.Defines (c.applyAll before) name

lemma Becomes.ability? {known : Ability} (h : c.Becomes c') (ha : c.ability? name = some known) :
    c'.ability? name = some known :=
  h.abilities_prefix.find?_eq_some ha

lemma Becomes.ableFor? (h : c.Becomes c') (hn : c.isAction name) :
    c'.ableFor? name = c.ableFor? name := by
  obtain ⟨known, ha⟩ := Option.isSome_iff_exists.mp hn
  rw [Catalog.ableFor?, Catalog.ableFor?, ha, h.ability? ha]

lemma Becomes.actionForAble? (h : c.Becomes c') (ha : c.actionForAble? able = some a) :
    c'.actionForAble? able = some a := by
  obtain ⟨known, hk, rfl⟩ := Option.map_eq_some_iff.mp ha
  rw [Catalog.actionForAble?, h.abilities_prefix.find?_eq_some hk, Option.map_some]

lemma Becomes.contains_groups (h : c.Becomes c') (hg : c.groups.contains name) :
    c'.groups.contains name := by
  induction h with
  | refl => exact hg
  | tail _ hs ih =>
    cases hs with
    | ability | crud => exact ih
    | group n members actions => exact contains_groups_insert.mpr (Or.inr ih)

lemma contains_iff_or : c.contains name ↔ c.isAction name ∨ c.groups.contains name := by
  rw [contains, Bool.or_eq_true]

lemma Becomes.contains (h : c.Becomes c') (hn : c.contains name) : c'.contains name :=
  contains_iff_or.mpr ((contains_iff_or.mp hn).imp h.isAction h.contains_groups)

lemma Sound.isAction_eq (hs : c.Sound) (h : c.Becomes c') (hn : c.contains name) :
    c'.isAction name = c.isAction name := by
  rcases contains_iff_or.mp hn with ha | hg
  · rw [ha, h.isAction ha]
  · rw [hs.disjoint name hg, (hs.becomes h).disjoint name (h.contains_groups hg)]

lemma groups_apply (h : ¬ r.Defines c name) : (c.apply r).2.groups[name]? = c.groups[name]? := by
  cases r with
  | action n => rw [apply, groups_settle_register]
  | ability n able => rw [apply, groups_settle_register]
  | group n members =>
    rw [apply] at *
    cases hg : c.registerGroup n members with
    | error e => rfl
    | ok c' =>
      have hne : n ≠ name := by
        rintro rfl
        exact h ⟨rfl, by rw [apply, hg]; rfl, by simp⟩
      obtain ⟨actions, _, _, _, rfl⟩ := registerGroup_cases hg
      simp [settle, Std.ExtTreeMap.getElem?_insert, hne]
  | crud =>
    -- Its actions leave the groups alone, also if a later one is refused. Only the group counts.
    rcases c.registerCrud_cases with ⟨_, hr⟩ | ⟨e, hr⟩ | ⟨c', hc, hg, hr⟩
    · rw [apply, hr]
    · rw [apply, hr, groups_registerAll]
    · have hne : crudGroup ≠ name := by
        rintro rfl
        exact h ⟨rfl, by rw [apply, hr], fun _ => hc⟩
      obtain ⟨actions, _, _, _, rfl⟩ := registerGroup_cases hg
      rw [apply, hr]
      simp [Std.ExtTreeMap.getElem?_insert, hne, groups_registerAll]

lemma groups_applyAll (h : ¬ c.Redefines rs name) :
    (c.applyAll rs).groups[name]? = c.groups[name]? := by
  induction rs generalizing c with
  | nil => rfl
  | cons r rs ih =>
    have hr : ¬ r.Defines c name := fun hr => h ⟨[], r, rs, rfl, hr⟩
    have hrs : ¬ (c.apply r).2.Redefines rs name := by
      rintro ⟨before, s, after, rfl, hs⟩
      exact h ⟨r :: before, s, after, rfl, hs⟩
    exact (ih hrs).trans (groups_apply hr)

lemma resolve_eq_of_groups_eq (ha : c'.isAction name = c.isAction name)
    (hg : c'.groups[name]? = c.groups[name]?) : c'.resolve name = c.resolve name := by
  rw [resolve, resolve, ha, hg]

end Catalog

namespace Listing

structure Keeps (l l' : Listing) (Redefined : String → Prop) : Prop where
  contains : ∀ name, l.contains name → l'.contains name
  isAction : ∀ name, l.contains name → l'.isAction name = l.isAction name
  actions : l.actions <+: l'.actions
  action : ∀ name, l.isAction name → l'.resolve name = l.resolve name
  ableFor? : ∀ name, l.isAction name → l'.ableFor? name = l.ableFor? name
  group : ∀ name, l.contains name → ¬ Redefined name → l'.resolve name = l.resolve name
  actionForAble? : ∀ able a, l.actionForAble? able = some a → l'.actionForAble? able = some a

def AnswersEarliest (l : Listing) : Prop :=
  ∀ able a, l.actionForAble? able = some a ↔ ∃ before after, l.actions = before ++ a :: after ∧
    l.ableFor? a.name = some able ∧ ∀ b ∈ before, l.ableFor? b.name ≠ some able

end Listing

namespace Catalog

variable {c : Catalog}

lemma Sound.answersEarliest (h : c.Sound) : c.listing.AnswersEarliest := by
  intro able a
  have he : c.listing.actionForAble? able =
      c.listing.actions.find? fun a => c.listing.ableFor? a.name == some able :=
    h.actionForAble?_eq able
  rw [he, List.find?_eq_some_iff_append]
  constructor
  · rintro ⟨ha, before, after, hl, hb⟩
    exact ⟨before, after, hl, by simpa using ha, by simpa using hb⟩
  · rintro ⟨before, after, hl, ha, hb⟩
    exact ⟨by simpa using ha, before, after, hl, by simpa using hb⟩

lemma Sound.keeps_applyAll (h : c.Sound) (rs : List Registration) :
    c.listing.Keeps (c.applyAll rs).listing (c.Redefines rs) := by
  have hb := c.becomes_applyAll rs
  refine ⟨fun _ => hb.contains, fun _ => h.isAction_eq hb, hb.actions_prefix, fun name hn => ?_,
    fun _ => hb.ableFor?, fun name hn hr => ?_, fun _ _ => hb.actionForAble?⟩
  · exact (resolve_of_isAction (hb.isAction hn)).trans (resolve_of_isAction hn).symm
  · exact resolve_eq_of_groups_eq (h.isAction_eq hb hn) (groups_applyAll hr)

theorem listing_keeps (rs rs' : List Registration) :
    let c := applyAll {} rs
    let t := NameTables.applyAll {} rs
    c.listing.Keeps (c.applyAll rs').listing (c.Redefines rs') ∧
      (c.applyAll rs').listing.AnswersEarliest ∧
      t.listing = c.listing ∧ (t.applyAll rs').listing = (c.applyAll rs').listing := by
  intro c t
  have hs : c.Sound := sound_applyAll rs
  have hs' : (c.applyAll rs').Sound := hs.becomes (c.becomes_applyAll rs')
  have ha : t.Agrees c := NameTables.agrees_empty.applyAll rs
  exact ⟨hs.keeps_applyAll rs', hs'.answersEarliest, ha.listing hs,
    (ha.applyAll rs').listing hs'⟩

def shelfmarks : List Registration :=
  [.ability "view" "viewable", .action "list", .group "read" ["view"],
    .group "browse" ["read", "list"], .group "crud" ["list"]]

def recataloguing : List Registration :=
  [.ability "peek" "viewable", .group "read" ["list"], .action "browse", .crud]

theorem recataloguing_listing_keeps :
    let c := applyAll {} shelfmarks
    let l := c.listing
    let l' := (c.applyAll recataloguing).listing
    l.contains "browse" ∧ ¬ c.Redefines recataloguing "browse" ∧
      l'.resolve "browse" = .ok [⟨"view"⟩, ⟨"list"⟩] ∧
      l.actionForAble? "viewable" = some ⟨"view"⟩ ∧
      l'.actionForAble? "viewable" = some ⟨"view"⟩ ∧ l'.ableFor? "peek" = some "viewable" ∧
      l.resolve "read" = .ok [⟨"view"⟩] ∧ l'.resolve "read" = .ok [⟨"list"⟩] ∧
      c.Redefines recataloguing "read" ∧ c.Redefines recataloguing "crud" := by
  intro c l l'
  obtain ⟨hkeeps, _, _, _⟩ := listing_keeps shelfmarks recataloguing
  have hn : l.contains "browse" := by decide +kernel
  have hr : ¬ c.Redefines recataloguing "browse" := by
    rintro ⟨before, r, after, he, hg, _⟩
    have hm : r ∈ recataloguing := he ▸ List.mem_append_right before List.mem_cons_self
    simp only [recataloguing, List.mem_cons, List.not_mem_nil, or_false] at hm
    rcases hm with rfl | rfl | rfl | rfl <;> simp [Registration.group?, crudGroup] at hg
  have hv : l.actionForAble? "viewable" = some ⟨"view"⟩ := by decide +kernel
  have hb : l.resolve "browse" = .ok [⟨"view"⟩, ⟨"list"⟩] := by decide +kernel
  refine ⟨hn, hr, (hkeeps.group "browse" hn hr).trans hb, hv,
    hkeeps.actionForAble? "viewable" ⟨"view"⟩ hv, by decide +kernel, by decide +kernel,
    by decide +kernel, ?_, ?_⟩
  · exact ⟨[.ability "peek" "viewable"], _, _, rfl, rfl, by decide +kernel, by simp⟩
  · exact ⟨recataloguing.dropLast, .crud, [], rfl, rfl, by decide +kernel, fun _ => rfl⟩

end Catalog

end RolePolicy
