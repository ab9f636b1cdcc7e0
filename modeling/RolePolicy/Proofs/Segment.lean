import Mathlib
import RolePolicy.TypeName

namespace RolePolicy.TypeName

def IsSegment (path seg : List Char) : Prop :=
  ∃ base rest, path = base ++ rest ∧ '<' ∉ base ∧
    (rest = [] ∨ ∃ arguments, rest = '<' :: arguments) ∧
    (base = seg ∧ ¬ [':', ':'] <:+: seg ∨
      ∃ parent, base = parent ++ [':', ':'] ++ seg ∧ ¬ [':', ':'] <:+: ':' :: seg)

section

variable {c : Char} {l path seg : List Char}

lemma not_infix_of_cons (h : ¬ [':', ':'] <:+: c :: l) : ¬ [':', ':'] <:+: l :=
  fun hl => h (List.infix_cons hl)

lemma infix_reverse : [':', ':'] <:+: l.reverse ↔ [':', ':'] <:+: l :=
  @List.reverse_infix _ [':', ':'] l

lemma untilColons_cons (h : ¬ [':', ':'] <+: c :: l) :
    untilColons (c :: l) = c :: untilColons l := by
  rw [untilColons]
  rintro rest rfl rfl
  exact h ⟨rest, rfl⟩

lemma untilColons_eq_self (h : ¬ [':', ':'] <:+: l) : untilColons l = l := by
  induction l with
  | nil => rfl
  | cons c l ih =>
    rw [untilColons_cons fun hp => h hp.isInfix, ih (not_infix_of_cons h)]

lemma untilColons_eq_left (h : ¬ [':', ':'] <:+: l ++ [':']) (rest : List Char) :
    untilColons (l ++ ':' :: ':' :: rest) = l := by
  induction l with
  | nil => rfl
  | cons c l ih =>
    have hc : ¬ [':', ':'] <+: c :: (l ++ ':' :: ':' :: rest) := by
      intro hp
      refine h (List.IsPrefix.isInfix ?_)
      cases l <;> simpa using hp
    rw [List.cons_append, untilColons_cons hc, ih (not_infix_of_cons h)]

lemma exists_first_colons (h : [':', ':'] <:+: l) :
    ∃ front rest, l = front ++ ':' :: ':' :: rest ∧ ¬ [':', ':'] <:+: front ++ [':'] := by
  induction l with
  | nil => simp at h
  | cons c l ih =>
    by_cases hp : [':', ':'] <+: c :: l
    · obtain ⟨rest, hr⟩ := hp
      exact ⟨[], rest, hr.symm, fun h => by simpa using h.length_le⟩
    · obtain ⟨front, rest, rfl, hf⟩ := ih ((List.infix_cons_iff.mp h).resolve_left hp)
      refine ⟨c :: front, rest, rfl, fun hi => ?_⟩
      rcases List.infix_cons_iff.mp hi with hi | hi
      · refine hp ?_
        cases front <;> simpa using hi
      · exact hf hi

lemma cut_eq_iff {base : List Char} : seg = (untilColons base.reverse).reverse ↔
    base = seg ∧ ¬ [':', ':'] <:+: seg ∨
      ∃ parent, base = parent ++ [':', ':'] ++ seg ∧ ¬ [':', ':'] <:+: ':' :: seg := by
  constructor
  · rintro rfl
    by_cases h : [':', ':'] <:+: base.reverse
    · obtain ⟨front, rest, hr, hf⟩ := exists_first_colons h
      refine Or.inr ⟨rest.reverse, ?_, ?_⟩
      · rw [hr, untilColons_eq_left hf]
        simpa using congrArg List.reverse hr
      · rw [hr, untilColons_eq_left hf]
        rwa [← infix_reverse, List.reverse_cons, List.reverse_reverse]
    · rw [untilColons_eq_self h, List.reverse_reverse]
      exact Or.inl ⟨rfl, infix_reverse.not.mp h⟩
  · rintro (⟨rfl, h⟩ | ⟨parent, rfl, h⟩)
    · rw [untilColons_eq_self (infix_reverse.not.mpr h), List.reverse_reverse]
    · have hs : ¬ [':', ':'] <:+: seg.reverse ++ [':'] := by
        rwa [← List.reverse_cons, infix_reverse]
      have hr : (parent ++ [':', ':'] ++ seg).reverse =
          seg.reverse ++ ':' :: ':' :: parent.reverse := by simp
      rw [hr, untilColons_eq_left hs, List.reverse_reverse]

lemma isSegment_iff : IsSegment path seg ↔ seg = segment path := by
  have hb (base rest : List Char) (hb : '<' ∉ base)
      (hr : rest = [] ∨ ∃ arguments, rest = '<' :: arguments) :
      (base ++ rest).takeWhile (· ≠ '<') = base := by
    have ha : ∀ c ∈ base, decide (c ≠ '<') := by
      intro c hc
      rw [decide_eq_true_eq]
      rintro rfl
      exact hb hc
    rw [List.takeWhile_append_of_pos ha]
    rcases hr with rfl | ⟨arguments, rfl⟩ <;> simp
  constructor
  · rintro ⟨base, rest, rfl, hl, hr, hs⟩
    rw [segment, hb base rest hl hr]
    exact cut_eq_iff.mpr hs
  · intro h
    refine ⟨path.takeWhile (· ≠ '<'), path.dropWhile (· ≠ '<'),
      List.takeWhile_append_dropWhile.symm, ?_, ?_, cut_eq_iff.mp h⟩
    · intro hm
      simpa using List.mem_takeWhile_imp hm
    · cases hd : path.dropWhile (· ≠ '<') with
      | nil => exact Or.inl rfl
      | cons c rest =>
        have hc := List.head?_dropWhile_not (· ≠ '<') path
        rw [hd] at hc
        obtain rfl : c = '<' := by simpa using hc
        exact Or.inr ⟨rest, rfl⟩

lemma IsSegment.infix_path (h : IsSegment path seg) : seg <:+: path := by
  obtain ⟨base, rest, rfl, -, -, ⟨rfl, -⟩ | ⟨parent, rfl, -⟩⟩ := h
  · exact (List.prefix_append ..).isInfix
  · exact List.infix_append ..

lemma IsSegment.notMem (h : IsSegment path seg) : '<' ∉ seg := by
  obtain ⟨base, rest, -, hb, -, ⟨rfl, -⟩ | ⟨parent, rfl, -⟩⟩ := h
  · exact hb
  · exact fun hm => hb (List.mem_append_right _ hm)

lemma IsSegment.not_infix (h : IsSegment path seg) : ¬ [':', ':'] <:+: seg := by
  obtain ⟨base, rest, -, -, -, ⟨rfl, h⟩ | ⟨parent, rfl, h⟩⟩ := h
  · exact h
  · exact not_infix_of_cons h

lemma isSegment_self (h : '<' ∉ seg) (hc : ¬ [':', ':'] <:+: seg) : IsSegment seg seg :=
  ⟨seg, [], (List.append_nil seg).symm, h, Or.inl rfl, Or.inl ⟨rfl, hc⟩⟩

end

end RolePolicy.TypeName
