import RolePolicy.Registry

/-! The order in which a search visits a role and its ancestors: nearer ones first, in the order of
their declaration, and each once however the parents are entangled. -/

namespace RolePolicy.Registry

variable {χ : Type}

def unseen (g : Registry χ) (seen : List String) : List String → List (RuleSet χ)
  | [] => []
  | name :: names =>
    match g.find? name with
    | none => g.unseen seen names
    | some r => if name ∈ seen then g.unseen seen names else r :: g.unseen (name :: seen) names

theorem mem_unseen {g : Registry χ} {seen names : List String} {r : RuleSet χ} :
    r ∈ g.unseen seen names ↔ r.name ∈ names ∧ r.name ∉ seen ∧ g.find? r.name = some r := by
  induction names generalizing seen with
  | nil => simp [unseen]
  | cons n names ih =>
    rw [unseen]
    split
    · rw [ih]
      grind
    · rename_i s hs
      have hn := (find?_eq_some hs).2
      split
      · rw [ih]
        grind
      · rw [List.mem_cons, ih]
        grind

def room (g : Registry χ) (seen : List String) : Nat :=
  (g.roles.filter fun r => r.name ∉ seen).length

theorem room_cons_lt {g : Registry χ} {name : String} {r : RuleSet χ} {seen : List String}
    (h : g.find? name = some r) (hn : name ∉ seen) : g.room (name :: seen) < g.room seen := by
  obtain ⟨hr, rfl⟩ := find?_eq_some h
  have he : (g.roles.filter fun x => x.name ∉ r.name :: seen) =
      (g.roles.filter fun x => x.name ∉ seen).filter fun x => x.name ≠ r.name := by
    rw [List.filter_filter]
    congr 1
    funext x
    simp [not_or]
  rw [room, room, he]
  exact List.length_filter_lt_length_iff_exists.2 ⟨r, by simp [hr, hn], by simp⟩

theorem room_unseen (g : Registry χ) (seen names : List String) :
    (g.unseen seen names).length + g.room ((g.unseen seen names).map RuleSet.name ++ seen) ≤
      g.room seen := by
  induction names generalizing seen with
  | nil => simp [unseen]
  | cons name names ih =>
    rw [unseen]
    split
    · exact ih seen
    · rename_i r h
      split
      · exact ih seen
      · rename_i hn
        have hlt := room_cons_lt h hn
        have hle := ih (name :: seen)
        have he : g.room ((r :: g.unseen (name :: seen) names).map RuleSet.name ++ seen) =
            g.room ((g.unseen (name :: seen) names).map RuleSet.name ++ name :: seen) := by
          obtain ⟨_, rfl⟩ := find?_eq_some h
          simp only [room]
          congr 2
          funext x
          simp only [List.map_cons, List.cons_append, List.mem_cons, List.mem_append,
            decide_eq_decide]
          grind
        rw [he, List.length_cons]
        omega

def walk (g : Registry χ) (queue : List (RuleSet χ)) (seen : List String) : List (RuleSet χ) :=
  match queue with
  | [] => []
  | r :: rest =>
    let next := g.unseen seen r.parents
    r :: g.walk (rest ++ next) (next.map RuleSet.name ++ seen)
termination_by queue.length + g.room seen
decreasing_by
  have h := g.room_unseen seen r.parents
  simp only [List.length_append, List.length_cons]
  omega

def lineage (g : Registry χ) (r : RuleSet χ) : List (RuleSet χ) := g.walk [r] [r.name]

end RolePolicy.Registry
