import RolePolicy.Check
import RolePolicy.Proofs.Ancestry
import RolePolicy.Proofs.Consultation

/-! The search as a loop over a queue that grows while roles are asked, with predicates that may
answer differently from call to call. The loop ends, and asks the roles of the lineage in order. -/

namespace RolePolicy

variable {χ : Type}

/-- What predicates answer after the calls that were made before. -/
abbrev Reaction (χ : Type) := List (Call χ) → Call χ → Option Bool

def Reaction.steady [Callbacks χ] : Reaction χ := fun _ c => c.predicate.call c.request

def Response.evaluateBy (ask : Reaction χ) (before : List (Call χ)) :
    Response χ → Request → Consulted χ (Option Bool)
  | allow, _ => pure (some true)
  | deny, _ => pure (some false)
  | unset, _ => pure none
  | predicate p, q => ⟨ask before ⟨p, q⟩, [⟨p, q⟩]⟩

def RuleSet.evaluateBy (ask : Reaction χ) (before : List (Call χ)) (r : RuleSet χ) (q : Request)
    (id : Option String) : Consulted χ (Option Bool) :=
  match r.select id q.action with
  | some (response, _) => response.evaluateBy ask before q
  | none => pure none

structure Frontier (χ : Type) where
  queue : List (RuleSet χ)
  queued : List String

inductive Turn (χ : Type)
  | ended (outcome : Except PolicyError Verdict)
  | next (f : Frontier χ)

namespace Registry

def push (g : Registry χ) (r : RuleSet χ) (f : Frontier χ) :
    List String → Except PolicyError (Frontier χ)
  | [] => .ok f
  | name :: names =>
    match g.find? name with
    | some s =>
      if s.name ∈ f.queued then g.push r f names
      else g.push r ⟨f.queue ++ [s], s.name :: f.queued⟩ names
    | none =>
      match g.config.missingParent with
      | .skip => g.push r f names
      | .error => .error (.missingParent r.name name)

def matched (g : Registry χ) (q : Request) (r : RuleSet χ) : Option MatchSource :=
  (r.select (g.identifier q) q.action).map Prod.snd

def turn (g : Registry χ) (q : Request) (r : RuleSet χ) (result : Option Bool) (f : Frontier χ) :
    Turn χ :=
  match result, g.matched q r with
  | some decision, some source => .ended (.ok ⟨decision, .rule r.name source⟩)
  | _, _ =>
    match g.push r f r.parents with
    | .error e => .ended (.error e)
    | .ok f => .next f

def loop (g : Registry χ) (ask : Reaction χ) (q : Request) :
    Nat → Frontier χ → List (Call χ) → Consulted χ (Option Findings)
  | _, ⟨[], _⟩, _ => pure (some ⟨[], .ok ⟨g.config.defaultQueryResponse, .fallback⟩⟩)
  | 0, ⟨_ :: _, _⟩, _ => pure none
  | n + 1, ⟨r :: rest, queued⟩, before => do
    let asked := r.evaluateBy ask before q (g.identifier q)
    let result ← asked
    let step : TraceStep := ⟨r.name, g.matched q r, result⟩
    match g.turn q r result ⟨rest, queued⟩ with
    | .ended outcome => pure (some ⟨[step], outcome⟩)
    | .next f => Option.map (Findings.after step) <$> g.loop ask q n f (before ++ asked.calls)

def loopSearch (g : Registry χ) (ask : Reaction χ) (q : Request) (turns : Nat) :
    Consulted χ (Option Findings) :=
  match g.roleOf? q.actor with
  | some r => g.loop ask q turns ⟨[r], [r.name]⟩ []
  | none =>
    if g.config.actorMustPlayRole then
      pure (some ⟨[], .error (.missingRole (q.actor.resolvedRole.getD "none"))⟩)
    else pure (some ⟨[], .ok ⟨g.config.defaultQueryResponse, .noRole⟩⟩)

variable {g : Registry χ} {q : Request} {r : RuleSet χ}

def missingAmong? (g : Registry χ) (names : List String) : Option String :=
  match g.config.missingParent with
  | .skip => none
  | .error => names.find? fun n => !g.contains n

def enqueue (g : Registry χ) (f : Frontier χ) (names : List String) : Frontier χ :=
  ⟨f.queue ++ g.unseen f.queued names,
    ((g.unseen f.queued names).map RuleSet.name).reverse ++ f.queued⟩

lemma push_eq (g : Registry χ) (r : RuleSet χ) (f : Frontier χ) (names : List String) :
    g.push r f names =
      match g.missingAmong? names with
      | some parent => .error (.missingParent r.name parent)
      | none => .ok (g.enqueue f names) := by
  induction names generalizing f with
  | nil => cases hp : g.config.missingParent <;> simp [push, missingAmong?, enqueue, unseen, hp]
  | cons n names ih =>
    rw [push]
    cases hn : g.find? n with
    | none =>
      have hc : g.contains n = false := by simp [contains, hn]
      cases hp : g.config.missingParent with
      | skip => simp [ih, missingAmong?, enqueue, unseen, hn, hp]
      | error => simp [missingAmong?, hp, hc]
    | some s =>
      have hc : g.contains n = true := by simp [contains, hn]
      have hm : g.missingAmong? (n :: names) = g.missingAmong? names := by
        simp [missingAmong?, hc]
      obtain ⟨_, rfl⟩ := find?_eq_some hn
      by_cases hs : s.name ∈ f.queued
      · simp only [hs, if_true, ih, hm, enqueue, unseen, hn]
      · simp [hs, ih, hm, enqueue, unseen, hn]

lemma walk_enqueue (g : Registry χ) (f : Frontier χ) (names : List String) :
    g.walk (g.enqueue f names).queue (g.enqueue f names).queued =
      g.walk (f.queue ++ g.unseen f.queued names)
        ((g.unseen f.queued names).map RuleSet.name ++ f.queued) :=
  walk_congr (by simp [enqueue]) _

def ending (g : Registry χ) (q : Request) (r : RuleSet χ) (result : Option Bool) :
    Option (Except PolicyError Verdict) :=
  match result, g.matched q r with
  | some decision, some source => some (.ok ⟨decision, .rule r.name source⟩)
  | _, _ => (g.missingParent? r).map fun parent => .error (.missingParent r.name parent)

lemma turn_eq (g : Registry χ) (q : Request) (r : RuleSet χ) (result : Option Bool)
    (f : Frontier χ) : g.turn q r result f =
      match g.ending q r result with
      | some outcome => .ended outcome
      | none => .next (g.enqueue f r.parents) := by
  have hp : g.push r f r.parents =
      match g.missingParent? r with
      | some parent => .error (.missingParent r.name parent)
      | none => .ok (g.enqueue f r.parents) := g.push_eq r f r.parents
  simp only [turn, ending, hp]
  cases result <;> cases g.matched q r <;> cases g.missingParent? r <;> rfl

def consultBy (g : Registry χ) (ask : Reaction χ) (q : Request) :
    List (RuleSet χ) → List (Call χ) → Consulted χ Findings
  | [], _ => pure ⟨[], .ok ⟨g.config.defaultQueryResponse, .fallback⟩⟩
  | r :: rest, before => do
    let asked := r.evaluateBy ask before q (g.identifier q)
    let result ← asked
    let step : TraceStep := ⟨r.name, g.matched q r, result⟩
    match g.ending q r result with
    | some outcome => pure ⟨[step], outcome⟩
    | none => Findings.after step <$> g.consultBy ask q rest (before ++ asked.calls)

def searchBy (g : Registry χ) (ask : Reaction χ) (q : Request) : Consulted χ Findings :=
  match g.roleOf? q.actor with
  | some r => g.consultBy ask q (g.lineage r) []
  | none =>
    if g.config.actorMustPlayRole then
      pure ⟨[], .error (.missingRole (q.actor.resolvedRole.getD "none"))⟩
    else pure ⟨[], .ok ⟨g.config.defaultQueryResponse, .noRole⟩⟩

lemma loop_eq_consultBy (g : Registry χ) (ask : Reaction χ) (q : Request) {n : Nat}
    {f : Frontier χ} (before : List (Call χ)) (h : (g.walk f.queue f.queued).length ≤ n) :
    g.loop ask q n f before = some <$> g.consultBy ask q (g.walk f.queue f.queued) before := by
  induction n generalizing f before with
  | zero =>
    obtain ⟨queue, queued⟩ := f
    cases queue with
    | nil => simp [loop, walk, consultBy]
    | cons r rest => simp [walk] at h
  | succ n ih =>
    obtain ⟨queue, queued⟩ := f
    cases queue with
    | nil => simp [loop, walk, consultBy]
    | cons r rest =>
      have hw := g.walk_enqueue ⟨rest, queued⟩ r.parents
      have hl : (g.walk (g.enqueue ⟨rest, queued⟩ r.parents).queue
          (g.enqueue ⟨rest, queued⟩ r.parents).queued).length ≤ n := by
        rw [walk, List.length_cons] at h
        rw [hw]
        exact Nat.le_of_succ_le_succ h
      rw [walk, ← hw]
      simp only [loop, consultBy, turn_eq, map_bind]
      congr 1
      funext result
      cases g.ending q r result with
      | some outcome => rfl
      | none => simp only [ih _ hl, Functor.map_map, Option.map_some]

lemma loopSearch_eq (g : Registry χ) (ask : Reaction χ) (q : Request) {n : Nat} (h : g.size ≤ n) :
    g.loopSearch ask q n = some <$> g.searchBy ask q := by
  rw [loopSearch, searchBy]
  cases hr : g.roleOf? q.actor with
  | some r =>
    have hl := length_lineage_le (find?_of_roleOf? hr)
    exact g.loop_eq_consultBy ask q (f := ⟨[r], [r.name]⟩) [] (hl.trans h)
  | none => cases g.config.actorMustPlayRole <;> rfl

section

variable [Callbacks χ]

lemma evaluateBy_steady (before : List (Call χ)) (r : RuleSet χ) (q : Request)
    (id : Option String) : r.evaluateBy .steady before q id = r.evaluate q id := by
  rw [RuleSet.evaluateBy, RuleSet.evaluate]
  cases r.select id q.action with
  | none => rfl
  | some found =>
    obtain ⟨response, _⟩ := found
    cases response <;> rfl

lemma consultBy_steady (g : Registry χ) (q : Request) (roles : List (RuleSet χ))
    (before : List (Call χ)) :
    g.consultBy .steady q roles before = g.consult q (g.identifier q) roles := by
  induction roles generalizing before with
  | nil => rfl
  | cons r rest ih =>
    simp only [consultBy, consult, evaluateBy_steady, ih]
    congr 1
    funext result
    simp only [ending, matched]
    cases result <;> cases (r.select (g.identifier q) q.action).map Prod.snd <;>
      cases g.missingParent? r <;> rfl

lemma searchBy_steady (g : Registry χ) (q : Request) : g.searchBy .steady q = g.search q := by
  rw [searchBy, search]
  cases g.roleOf? q.actor with
  | some r => exact g.consultBy_steady q _ _
  | none => rfl

end

end Registry

end RolePolicy
