import Mathlib.Data.List.Nodup
import RolePolicy.Json.Bounds
import RolePolicy.Json.Record

namespace RolePolicy.Json

variable {ms ns : List (String × Json)}

def DistinctNames (ms : List (String × Json)) : Prop := (ms.map Prod.fst).Nodup

instance (ms : List (String × Json)) : Decidable (DistinctNames ms) :=
  inferInstanceAs (Decidable (List.Nodup _))

lemma member?_perm (h : ms.Perm ns) (name : String) : member? ms name = member? ns name := by
  have hf := h.filter (·.1 == name)
  simp only [member?]
  generalize ms.filter (·.1 == name) = found, ns.filter (·.1 == name) = found' at hf ⊢
  rcases found with _ | ⟨m, _ | ⟨m', found⟩⟩
  · rw [hf.nil_eq]
  · rw [List.singleton_perm.mp hf]
  · -- A name that is given twice is refused, in whichever order.
    rcases found' with _ | ⟨n, _ | ⟨n', found'⟩⟩
    · simp at hf
    · simp at hf
    · rfl

lemma membersBounded_eq_all (depth : Nat) (ms : List (String × Json)) :
    membersBounded depth ms = ms.all fun m => m.2.isBounded depth := by
  induction ms with
  | nil => simp [membersBounded]
  | cons m ms ih => simp [membersBounded, ih]

lemma membersBounded_perm (h : ms.Perm ns) (depth : Nat) :
    membersBounded depth ms = membersBounded depth ns := by
  rw [membersBounded_eq_all, membersBounded_eq_all, h.all_eq]

lemma canonicalItems_eq_map (items : List Json) : canonicalItems items = items.map canonical := by
  induction items with
  | nil => simp [canonicalItems]
  | cons a items ih => simp [canonicalItems, ih]

lemma mem_canonicalMembers (ms : List (String × Json)) (name : String) :
    name ∈ canonicalMembers ms ↔ name ∈ ms.map Prod.fst := by
  induction ms with
  | nil => simp [canonicalMembers]
  | cons m ms ih =>
    rw [canonicalMembers, Std.ExtTreeMap.mem_insertIfNew, ih, Std.compare_eq_iff_eq, List.map_cons,
      List.mem_cons, eq_comm]

lemma getElem?_canonicalMembers (h : DistinctNames ms) (name : String) (a : Json) :
    (canonicalMembers ms)[name]? = some a ↔ (name, a) ∈ ms.map (Prod.map id canonical) := by
  induction ms with
  | nil => simp [canonicalMembers]
  | cons m ms ih =>
    obtain ⟨n, v⟩ := m
    obtain ⟨hn, h⟩ := List.nodup_cons.mp h
    have hn := mt (mem_canonicalMembers ms n).mp hn
    rw [canonicalMembers, Std.ExtTreeMap.getElem?_insertIfNew, List.map_cons, List.mem_cons,
      ← ih h]
    by_cases e : n = name
    · subst e
      simp [hn, eq_comm]
    · simp [e, Ne.symm e]

lemma canonicalMembers_perm (h : DistinctNames ms) :
    (canonicalMembers ms).toList.Perm (ms.map (Prod.map id canonical)) := by
  have hl : (canonicalMembers ms).toList.Nodup :=
    List.Nodup.of_map Prod.fst (by
      rw [Std.ExtTreeMap.map_fst_toList_eq_keys]
      exact Std.ExtTreeMap.nodup_keys)
  have hr : (ms.map (Prod.map id canonical)).Nodup :=
    List.Nodup.of_map Prod.fst (by rwa [List.map_map])
  refine (List.perm_ext_iff_of_nodup hl hr).mpr fun ⟨name, a⟩ => ?_
  rw [Std.ExtTreeMap.mem_toList_iff_getElem?_eq_some, getElem?_canonicalMembers h]

lemma canonical_ofOption_string (s : Option String) :
    (ofOption string s).canonical = ofOption string s := by
  cases s <;> simp [ofOption, canonical]

lemma member?_map (f : Json → Json) (ms : List (String × Json)) (name : String) :
    member? (ms.map (Prod.map id f)) name = (member? ms name).map (Option.map f) := by
  have he : (fun m : String × Json => m.1 == name) ∘ Prod.map id f = (·.1 == name) := rfl
  rw [member?, member?, List.filter_map, he]
  generalize ms.filter (·.1 == name) = found
  rcases found with _ | ⟨m, _ | ⟨m', found⟩⟩ <;> rfl

theorem member?_canonical (h : DistinctNames ms) (name : String) :
    member? (canonicalMembers ms).toList name = (member? ms name).map (Option.map canonical) := by
  rw [member?_perm (canonicalMembers_perm h), member?_map]

theorem allFields?_canonical (h : DistinctNames ms) (names : List String) :
    allFields? names (object ms).canonical =
      names.mapM fun name => (member? ms name).map (Option.map canonical) := by
  rw [canonical, allFields?, fields?, funext (member?_canonical h)]
  nofun

theorem isBounded_canonical (h : DistinctNames ms) (depth : Nat) :
    (object ms).canonical.isBounded (depth + 1) =
      ms.all fun m => m.2.canonical.isBounded depth := by
  rw [canonical, isBounded, membersBounded_perm (canonicalMembers_perm h), membersBounded_eq_all,
    List.all_map]
  rfl

end RolePolicy.Json
