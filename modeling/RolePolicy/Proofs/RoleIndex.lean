import RolePolicy.Proofs.QueueLoop
import RolePolicy.Proofs.Registrations

/-! Additions to a registry, of which the first of each name counts, and a registry that finds its
roles by their positions in an array. No position it stores is out of bounds. -/

namespace RolePolicy

variable {χ : Type}

namespace Registry

variable {g : Registry χ} {r : RuleSet χ} {name : String} {rs : List (RuleSet χ)}

def keep (g : Registry χ) (r : RuleSet χ) : Registry χ :=
  match g.add r with
  | .ok g' => g'
  | .error _ => g

def addAll (g : Registry χ) (rs : List (RuleSet χ)) : Registry χ := rs.foldl keep g

structure WriteOnce (g : Registry χ) (rs : List (RuleSet χ)) : Prop where
  find?_some : ∀ name r, g.find? name = some r ↔
    ∃ before after, rs = before ++ r :: after ∧ r.name = name ∧ ∀ s ∈ before, s.name ≠ name
  find?_none : ∀ name, g.find? name = none ↔ ∀ r ∈ rs, r.name ≠ name
  named : ∀ name r, g.find? name = some r → r.name = name
  names : g.names = (rs.map RuleSet.name).eraseDups
  nodup : g.names.Nodup
  size : g.size = g.names.length
  isEmpty : g.isEmpty ↔ rs = []
  contains : ∀ name, g.contains name ↔ (g.find? name).isSome
  add_error : ∀ r e, g.add r = .error e ↔ g.contains r.name ∧ e = .duplicateRole r.name
  add_ok : ∀ r, (∃ g', g.add r = .ok g') ↔ g.contains r.name = false
  unchanged : ∀ r, g.contains r.name → g.keep r = g

lemma keep_of_contains (h : g.contains r.name) : g.keep r = g := by
  rw [keep, add_of_contains h]

lemma keep_of_not_contains (h : g.contains r.name = false) :
    g.keep r = { g with roles := g.roles ++ [r] } := by
  rw [keep, add_of_not_contains h]

lemma find?_keep (g : Registry χ) (r : RuleSet χ) (name : String) :
    (g.keep r).find? name = (g.find? name).or (if r.name = name then some r else none) := by
  cases hc : g.contains r.name with
  | true =>
    rw [keep_of_contains hc]
    split
    · subst name
      obtain ⟨s, hs⟩ := Option.isSome_iff_exists.mp hc
      rw [hs, Option.some_or]
    · rw [Option.or_none]
  | false =>
    rw [keep_of_not_contains hc]
    exact find?_add (add_of_not_contains hc) name

lemma names_keep (g : Registry χ) (r : RuleSet χ) :
    (g.keep r).names = if r.name ∈ g.names then g.names else g.names ++ [r.name] := by
  cases hc : g.contains r.name with
  | true => rw [keep_of_contains hc, if_pos (contains_iff_mem_names.mp hc)]
  | false =>
    have hn : r.name ∉ g.names := fun hn => by simp [contains_iff_mem_names.mpr hn] at hc
    rw [keep_of_not_contains hc, if_neg hn]
    exact List.map_append

lemma addAll_concat (g : Registry χ) (rs : List (RuleSet χ)) (r : RuleSet χ) :
    g.addAll (rs ++ [r]) = (g.addAll rs).keep r :=
  List.foldl_concat ..

lemma find?_addAll (config : Config) (rs : List (RuleSet χ)) (name : String) :
    (addAll { config } rs).find? name = rs.find? (·.name == name) := by
  induction rs using List.reverseRecOn with
  | nil => rfl
  | append_singleton rs r ih =>
    rw [addAll_concat, find?_keep, ih, List.find?_append, List.find?_singleton]
    simp only [beq_iff_eq]

lemma names_addAll (config : Config) (rs : List (RuleSet χ)) :
    (addAll { config } rs).names = (rs.map RuleSet.name).eraseDups := by
  induction rs using List.reverseRecOn with
  | nil => rfl
  | append_singleton rs r ih =>
    rw [addAll_concat, names_keep, ih, List.map_append, List.map_singleton, eraseDups_concat]
    simp only [List.mem_eraseDups]

lemma writeOnce_addAll (config : Config) (rs : List (RuleSet χ)) :
    (addAll { config } rs).WriteOnce rs where
  find?_some name r := by
    rw [find?_addAll, List.find?_eq_some_iff_append]
    simp only [beq_iff_eq, Bool.not_eq_true', beq_eq_false_iff_ne]
    constructor
    · rintro ⟨hn, before, after, hs, hb⟩
      exact ⟨before, after, hs, hn, hb⟩
    · rintro ⟨before, after, hs, hn, hb⟩
      exact ⟨hn, before, after, hs, hb⟩
  find?_none name := by simp [find?_addAll]
  named _ _ h := (find?_eq_some h).2
  names := names_addAll config rs
  nodup := names_addAll config rs ▸ nodup_eraseDups _
  size := (List.length_map ..).symm
  isEmpty := by
    have hn : (addAll { config } rs).names = [] ↔ rs = [] := by
      rw [names_addAll, List.eq_nil_iff_forall_not_mem]
      simp [List.eq_nil_iff_forall_not_mem]
    rw [← hn, isEmpty, List.isEmpty_iff, names, List.map_eq_nil_iff]
  contains _ := Iff.rfl
  add_error r e := by
    cases hc : (addAll { config } rs).contains r.name with
    | true => simp [add_of_contains hc, eq_comm]
    | false => simp [add_of_not_contains hc]
  add_ok r := by
    cases hc : (addAll { config } rs).contains r.name with
    | true => simp [add_of_contains hc]
    | false => simp [add_of_not_contains hc]
  unchanged _ := keep_of_contains

end Registry

structure RoleIndex (χ : Type) where
  config : Config := {}
  roles : Array (RuleSet χ) := #[]
  positions : Std.ExtTreeMap String Nat := ∅

namespace RoleIndex

def names (t : RoleIndex χ) : List String := t.roles.toList.map RuleSet.name

def size (t : RoleIndex χ) : Nat := t.roles.size

def isEmpty (t : RoleIndex χ) : Bool := t.roles.isEmpty

def contains (t : RoleIndex χ) (name : String) : Bool := t.positions.contains name

def fetch (t : RoleIndex χ) (name : String) : Except Nat (Option (RuleSet χ)) :=
  match t.positions[name]? with
  | none => .ok none
  | some i =>
    match t.roles[i]? with
    | some r => .ok (some r)
    | none => .error i

def append (t : RoleIndex χ) (r : RuleSet χ) : RoleIndex χ :=
  { t with roles := t.roles.push r, positions := t.positions.insert r.name t.roles.size }

def add (t : RoleIndex χ) (r : RuleSet χ) : Except PolicyError Unit × RoleIndex χ :=
  if t.contains r.name then (.error (.duplicateRole r.name), t) else (.ok (), t.append r)

def addAll (t : RoleIndex χ) (rs : List (RuleSet χ)) : RoleIndex χ :=
  rs.foldl (fun t r => (t.add r).2) t

def fetchRoleOf (t : RoleIndex χ) (a : Actor) : Except Nat (Option (RuleSet χ)) :=
  match a.resolvedRole with
  | some name => t.fetch name
  | none => .ok none

def push (t : RoleIndex χ) (r : RuleSet χ) (f : Frontier χ) :
    List String → Except Nat (Except PolicyError (Frontier χ))
  | [] => .ok (.ok f)
  | name :: names => do
    match ← t.fetch name with
    | some s =>
      if s.name ∈ f.queued then t.push r f names
      else t.push r ⟨f.queue ++ [s], s.name :: f.queued⟩ names
    | none =>
      match t.config.missingParent with
      | .skip => t.push r f names
      | .error => .ok (.error (.missingParent r.name name))

def identifier (t : RoleIndex χ) (q : Request) : Option String :=
  q.resource.identifier t.config.allTypesAreResources

def matched (t : RoleIndex χ) (q : Request) (r : RuleSet χ) : Option MatchSource :=
  (r.select (t.identifier q) q.action).map Prod.snd

def turn (t : RoleIndex χ) (q : Request) (r : RuleSet χ) (result : Option Bool)
    (f : Frontier χ) : Except Nat (Turn χ) :=
  match result, t.matched q r with
  | some decision, some source => .ok (.ended (.ok ⟨decision, .rule r.name source⟩))
  | _, _ => do
    match ← t.push r f r.parents with
    | .error e => .ok (.ended (.error e))
    | .ok f => .ok (.next f)

def loop (t : RoleIndex χ) (ask : Reaction χ) (q : Request) :
    Nat → Frontier χ → List (Call χ) → Consulted χ (Except Nat (Option Findings))
  | _, ⟨[], _⟩, _ => pure (.ok (some ⟨[], .ok ⟨t.config.defaultQueryResponse, .fallback⟩⟩))
  | 0, ⟨_ :: _, _⟩, _ => pure (.ok none)
  | n + 1, ⟨r :: rest, queued⟩, before => do
    let asked := r.evaluateBy ask before q (t.identifier q)
    let result ← asked
    let step : TraceStep := ⟨r.name, t.matched q r, result⟩
    match t.turn q r result ⟨rest, queued⟩ with
    | .error i => pure (.error i)
    | .ok (.ended outcome) => pure (.ok (some ⟨[step], outcome⟩))
    | .ok (.next f) =>
      Except.map (Option.map (Findings.after step)) <$> t.loop ask q n f (before ++ asked.calls)

def loopSearch (t : RoleIndex χ) (ask : Reaction χ) (q : Request) (turns : Nat) :
    Consulted χ (Except Nat (Option Findings)) :=
  match t.fetchRoleOf q.actor with
  | .error i => pure (.error i)
  | .ok (some r) => t.loop ask q turns ⟨[r], [r.name]⟩ []
  | .ok none =>
    if t.config.actorMustPlayRole then
      pure (.ok (some ⟨[], .error (.missingRole (q.actor.resolvedRole.getD "none"))⟩))
    else pure (.ok (some ⟨[], .ok ⟨t.config.defaultQueryResponse, .noRole⟩⟩))

structure Represents (t : RoleIndex χ) (g : Registry χ) : Prop where
  inside : ∀ (name : String) (i : Nat), t.positions[name]? = some i → i < t.roles.size
  fetch : ∀ name, t.fetch name = .ok (g.find? name)
  names : t.names = g.names
  size : t.size = g.size
  isEmpty : t.isEmpty = g.isEmpty
  contains : ∀ name, t.contains name = g.contains name
  add : ∀ r, (t.add r).1 = (g.add r).map fun _ => ()
  refused : ∀ r e, (t.add r).1 = .error e → (t.add r).2 = t
  search : ∀ ask q turns, g.size ≤ turns →
    t.loopSearch ask q turns = (fun found => .ok (some found)) <$> g.searchBy ask q
  query : ∀ [Callbacks χ] q,
    t.loopSearch .steady q t.size = (fun found => .ok (some found)) <$> g.search q

structure Agrees (t : RoleIndex χ) (g : Registry χ) : Prop where
  config : t.config = g.config
  roles : t.roles.toList = g.roles
  inside : ∀ (name : String) (i : Nat), t.positions[name]? = some i → i < t.roles.size
  fetch : ∀ name, t.fetch name = .ok (g.find? name)

variable {t : RoleIndex χ} {g : Registry χ} {r : RuleSet χ} {name : String} {q : Request}

lemma agrees_empty (config : Config) : Agrees (χ := χ) { config } { config } where
  config := rfl
  roles := rfl
  inside name i h := by simp at h
  fetch name := by simp [RoleIndex.fetch, Registry.find?]

lemma Agrees.contains (h : t.Agrees g) (name : String) : t.contains name = g.contains name := by
  have hf := h.fetch name
  rw [RoleIndex.contains, Std.ExtTreeMap.contains_eq_isSome_getElem?, Registry.contains]
  rw [RoleIndex.fetch] at hf
  cases hp : t.positions[name]? with
  | none =>
    simp only [hp, Except.ok.injEq] at hf
    rw [← hf]
    rfl
  | some i =>
    simp only [hp, Array.getElem?_eq_getElem (h.inside name i hp), Except.ok.injEq] at hf
    rw [← hf]
    rfl

lemma Agrees.add_eq (h : t.Agrees g) (r : RuleSet χ) :
    (t.add r).1 = (g.add r).map fun _ => () := by
  rw [RoleIndex.add, Registry.add, h.contains]
  cases g.contains r.name <;> rfl

lemma add_of_error {e : PolicyError} (h : (t.add r).1 = .error e) : (t.add r).2 = t := by
  rw [add] at h ⊢
  split
  · rfl
  · rename_i hc
    simp [hc] at h

lemma add_of_not_contains (h : t.contains r.name = false) : t.add r = (.ok (), t.append r) :=
  if_neg (by simp [h])

lemma positions_append (t : RoleIndex χ) (r : RuleSet χ) (name : String) :
    (t.append r).positions[name]? =
      if r.name = name then some t.roles.size else t.positions[name]? := by
  simp [append, Std.ExtTreeMap.getElem?_insert]

lemma fetch_append (h : ∀ (n : String) (i : Nat), t.positions[n]? = some i → i < t.roles.size)
    (r : RuleSet χ) (name : String) :
    (t.append r).fetch name = if r.name = name then .ok (some r) else t.fetch name := by
  rw [fetch, positions_append]
  by_cases hn : r.name = name
  · simp [hn, append]
  · rw [if_neg hn, if_neg hn, fetch]
    cases hi : t.positions[name]? with
    | none => rfl
    | some i => simp only [append, Array.getElem?_push, (h name i hi).ne, if_false]

lemma Agrees.append (h : t.Agrees g) (hc : g.contains r.name = false) :
    (t.append r).Agrees (g.keep r) where
  config := by rw [Registry.keep_of_not_contains hc, RoleIndex.append, h.config]
  roles := by
    rw [Registry.keep_of_not_contains hc, RoleIndex.append, Array.toList_push, h.roles]
  inside name i hi := by
    rw [positions_append] at hi
    rw [RoleIndex.append, Array.size_push]
    split at hi
    · exact Option.some.inj hi ▸ Nat.lt_succ_self _
    · exact Nat.lt_succ_of_lt (h.inside name i hi)
  fetch name := by
    rw [Registry.find?_keep, fetch_append h.inside, h.fetch]
    have hn : g.find? r.name = none := by simpa [Registry.contains] using hc
    split
    · subst name
      rw [hn, Option.none_or]
    · rw [Option.or_none]

lemma Agrees.add (h : t.Agrees g) (r : RuleSet χ) : (t.add r).2.Agrees (g.keep r) := by
  cases hc : g.contains r.name with
  | true =>
    rw [Registry.keep_of_contains hc, RoleIndex.add, h.contains, hc]
    exact h
  | false =>
    rw [add_of_not_contains ((h.contains _).trans hc)]
    exact h.append hc

lemma Agrees.addAll (h : t.Agrees g) (rs : List (RuleSet χ)) :
    (t.addAll rs).Agrees (g.addAll rs) := by
  induction rs generalizing t g with
  | nil => exact h
  | cons r rs ih => exact ih (h.add r)

lemma Agrees.push (h : t.Agrees g) (r : RuleSet χ) (f : Frontier χ) (names : List String) :
    t.push r f names = .ok (g.push r f names) := by
  induction names generalizing f with
  | nil => rfl
  | cons n names ih =>
    rw [RoleIndex.push, Registry.push, h.fetch, h.config]
    simp only [bind, Except.bind]
    cases g.find? n with
    | none => cases g.config.missingParent <;> simp [ih]
    | some s => by_cases hs : s.name ∈ f.queued <;> simp [hs, ih]

lemma Agrees.identifier (h : t.Agrees g) (q : Request) : t.identifier q = g.identifier q := by
  rw [RoleIndex.identifier, h.config, Registry.identifier]

lemma Agrees.matched (h : t.Agrees g) (q : Request) (r : RuleSet χ) :
    t.matched q r = g.matched q r := by
  rw [RoleIndex.matched, h.identifier, Registry.matched]

lemma Agrees.turn (h : t.Agrees g) (q : Request) (r : RuleSet χ) (result : Option Bool)
    (f : Frontier χ) : t.turn q r result f = .ok (g.turn q r result f) := by
  simp only [RoleIndex.turn, Registry.turn, h.matched, h.push]
  cases result <;> cases g.matched q r <;> cases g.push r f r.parents <;> rfl

lemma Agrees.loop (h : t.Agrees g) (ask : Reaction χ) (q : Request) (n : Nat) (f : Frontier χ)
    (before : List (Call χ)) : t.loop ask q n f before = .ok <$> g.loop ask q n f before := by
  induction n generalizing f before with
  | zero =>
    obtain ⟨_ | ⟨r, rest⟩, queued⟩ := f
    · simp [RoleIndex.loop, Registry.loop, h.config]
    · simp [RoleIndex.loop, Registry.loop]
  | succ n ih =>
    obtain ⟨_ | ⟨r, rest⟩, queued⟩ := f
    · simp [RoleIndex.loop, Registry.loop, h.config]
    · simp only [RoleIndex.loop, Registry.loop, h.identifier, h.matched, h.turn, map_bind]
      congr 1
      funext result
      cases g.turn q r result ⟨rest, queued⟩ with
      | ended outcome => rfl
      | next f =>
        simp only [ih, Functor.map_map]
        rfl

lemma Agrees.loopSearch (h : t.Agrees g) (ask : Reaction χ) (q : Request) (turns : Nat) :
    t.loopSearch ask q turns = .ok <$> g.loopSearch ask q turns := by
  have hr : t.fetchRoleOf q.actor = .ok (g.roleOf? q.actor) := by
    rw [fetchRoleOf, Registry.roleOf?]
    cases q.actor.resolvedRole with
    | none => rfl
    | some name => exact h.fetch name
  rw [RoleIndex.loopSearch, Registry.loopSearch, hr, h.config]
  cases g.roleOf? q.actor with
  | some r => exact h.loop ask q turns _ _
  | none => cases g.config.actorMustPlayRole <;> rfl

lemma Agrees.represents (h : t.Agrees g) : t.Represents g where
  inside := h.inside
  fetch := h.fetch
  names := congrArg (List.map RuleSet.name) h.roles
  size := congrArg List.length h.roles
  isEmpty := by
    rw [RoleIndex.isEmpty, Registry.isEmpty, ← h.roles, Array.isEmpty_toList]
  contains := h.contains
  add := h.add_eq
  refused _ _ := add_of_error
  search ask q turns ht := by
    rw [h.loopSearch, g.loopSearch_eq ask q ht, Functor.map_map]
  query {_} q := by
    have ht : g.size ≤ t.size := (congrArg List.length h.roles).ge
    rw [h.loopSearch, g.loopSearch_eq .steady q ht, g.searchBy_steady, Functor.map_map]

theorem addAll_writeOnce (config : Config) (rs : List (RuleSet χ)) :
    (Registry.addAll { config } rs).WriteOnce rs ∧
      (addAll { config } rs).Represents (Registry.addAll { config } rs) :=
  ⟨Registry.writeOnce_addAll config rs, ((agrees_empty config).addAll rs).represents⟩

end RoleIndex

end RolePolicy
