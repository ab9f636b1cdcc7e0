import RolePolicy.Proofs.CamelCase

namespace RolePolicy.TypeName

open Text

/-- Characters in lower case, with a mark at most before capitals, where one stands neither first
nor behind a mark. -/
inductive Spelled : Option Char → List Char → List Char → Prop
  | nil (before : Option Char) : Spelled before [] []
  | keep (before : Option Char) {c : Char} {cs out : List Char} : ¬ isUppercase c →
      Spelled (some c) cs out → Spelled before (c :: cs) (c :: out)
  | lower (before : Option Char) {c : Char} {cs out : List Char} : isUppercase c →
      Spelled (some c) cs out → Spelled before (c :: cs) (lowercase c ++ out)
  | mark {b c : Char} {cs out : List Char} : b ≠ '_' → isUppercase c →
      Spelled (some c) cs out → Spelled (some b) (c :: cs) ('_' :: (lowercase c ++ out))

def spellOnto (out : List Char) (before : Option Char) : List Char → List Char
  | [] => out
  | c :: cs =>
    if isUppercase c then
      let mark := startsWord before cs.head? && out.getLast? ≠ some '_'
      spellOnto (out ++ (if mark then ['_'] else []) ++ lowercase c) (some c) cs
    else spellOnto (out ++ [c]) (some c) cs

def LowersApart (seg : List Char) : Prop :=
  ∀ c ∈ seg, isUppercase c → ∀ d ∈ lowercase c, ¬ isUppercase d ∧ d ≠ '<' ∧ d ≠ ':'

instance (seg : List Char) : Decidable (LowersApart seg) :=
  decidable_of_iff (seg.all fun c => !isUppercase c ||
    (lowercase c).all fun d => !isUppercase d && d ≠ '<' && d ≠ ':') (by
      simp [LowersApart, imp_iff_not_or, and_assoc])

structure Derives (path : String) (seg : List Char) (name : String) : Prop where
  segment : ∀ seg', IsSegment path.toList seg' ↔ seg' = seg
  spelled : Spelled none seg name.toList
  looped : spellOnto [] none seg = name.toList
  start : ∀ out, name.toList = '_' :: out → ∃ rest, seg = '_' :: rest ∧ Spelled (some '_') rest out
  doubled : ∀ out out', name.toList = out ++ '_' :: '_' :: out' →
    ∃ front back, seg = front ++ '_' :: '_' :: back ∧ Spelled none front out ∧
      Spelled (some '_') back out'
  small : LowersApart seg → ∀ c ∈ name.toList, ¬ isUppercase c
  settled : LowersApart seg → derive name = name
  ascii : (∀ c ∈ path.toList, c.toNat < 0x80) → LowersApart seg

lemma lowercase_ne_nil (c : Char) : lowercase c ≠ [] := by
  rw [lowercase]
  split
  · simp
  · split
    · simp
    · split <;> simp

lemma eq_of_ofNat_eq_underscore {n : Nat} (h : '_' = Char.ofNat n) : n = 95 := by
  have hn : 95 = if n.isValidChar then n else 0 := by
    rw [← Char.toNat_ofNat, ← h]
    rfl
  split_ifs at hn
  exact hn.symm

lemma underscore_notMem_lowercase {c : Char} (h : isUppercase c) : '_' ∉ lowercase c := by
  have hshifts : lowercaseShifts.all fun p => !p.1.contains (95 - p.2).toNat := by decide +kernel
  by_cases hc : c.toNat < 0x80
  · have hu : c.isUpper := (isUppercase_iff hc).mp h
    rw [lowercase_of_isUpper hu, List.mem_singleton]
    intro he
    have hl := isLower_toLower hu
    simp [← he] at hl
  · rw [lowercase, if_neg hc]
    split_ifs
    · decide
    · split
      · rename_i span offset hf
        rw [List.mem_singleton]
        intro he
        have hn := eq_of_ofNat_eq_underscore he
        have hs := List.all_eq_true.mp hshifts _ (List.mem_of_find?_eq_some hf)
        have hm : (95 - offset).toNat = c.toNat := by omega
        simp [hm, List.find?_some hf] at hs
      · rw [List.mem_singleton]
        rintro rfl
        exact hc (by decide)

lemma exists_of_startsWord {before after : Option Char} (h : startsWord before after) :
    ∃ b, before = some b ∧ b ≠ '_' := by
  cases before with
  | none => cases h
  | some b =>
    refine ⟨b, rfl, ?_⟩
    rintro rfl
    cases h

section

variable {before : Option Char} {seg out tail : List Char} {x : Char}

lemma spelled_spell (before : Option Char) (seg : List Char) :
    Spelled before seg (spell before seg) := by
  induction seg generalizing before with
  | nil => exact .nil before
  | cons c seg ih =>
    rw [spell]
    split_ifs with hc hs
    · obtain ⟨b, rfl, hb⟩ := exists_of_startsWord hs
      exact .mark hb hc (ih (some c))
    · exact .lower before hc (ih (some c))
    · exact .keep before hc (ih (some c))

lemma spellOnto_eq (h : ∀ b, before = some b → b ≠ '_' → out.getLast? ≠ some '_')
    (seg : List Char) : spellOnto out before seg = out ++ spell before seg := by
  induction seg generalizing before out with
  | nil => rw [spellOnto, spell, List.append_nil]
  | cons c seg ih =>
    have hm : (startsWord before seg.head? && decide (out.getLast? ≠ some '_')) =
        startsWord before seg.head? := by
      cases hs : startsWord before seg.head? with
      | false => rfl
      | true =>
        obtain ⟨b, hb, hn⟩ := exists_of_startsWord hs
        simpa using h b hb hn
    by_cases hc : isUppercase c
    · rw [spellOnto, spell, if_pos hc, if_pos hc]
      simp only [hm]
      rw [ih, List.append_assoc, List.append_assoc, List.append_assoc]
      intro b _ _ hl
      rw [List.getLast?_append_of_ne_nil _ (lowercase_ne_nil c)] at hl
      exact underscore_notMem_lowercase hc (List.mem_of_getLast? hl)
    · rw [spellOnto, spell, if_neg hc, if_neg hc, ih, List.append_assoc, List.singleton_append]
      intro b hb hn hl
      rw [List.getLast?_concat] at hl
      exact hn ((Option.some.inj hb).symm.trans (Option.some.inj hl))

lemma exists_of_append_eq {l front back : List Char} (hx : x ∉ l)
    (h : l ++ out = front ++ x :: back) :
    ∃ front', front = l ++ front' ∧ out = front' ++ x :: back := by
  rcases List.append_eq_append_iff.mp h with ⟨front', hf, ho⟩ | ⟨l', hl, ho⟩
  · exact ⟨front', hf, ho⟩
  · cases l' with
    | nil => exact ⟨[], by simpa using hl.symm, ho.symm⟩
    | cons y l' =>
      obtain ⟨rfl, -⟩ := List.cons.inj ho
      exact absurd (hl ▸ List.mem_append_right front List.mem_cons_self) hx

lemma lowercase_append_ne {c : Char} (hx : x ∉ lowercase c) : lowercase c ++ out ≠ x :: tail := by
  intro h
  have hn : lowercase c ++ out = [] ++ x :: tail := h
  obtain ⟨front, hf, -⟩ := exists_of_append_eq hx hn
  exact lowercase_ne_nil c (List.nil_eq_append_iff.mp hf).1

lemma Spelled.exists_first (h : Spelled before seg (x :: out)) (hb : ∀ b ∈ before, b = x)
    (hx : ∀ c ∈ seg, isUppercase c → x ∉ lowercase c) :
    ∃ rest, seg = x :: rest ∧ Spelled (some x) rest out := by
  generalize ht : x :: out = text at h
  cases h with
  | nil => cases ht
  | keep _ hc hs =>
    obtain ⟨rfl, rfl⟩ := List.cons.inj ht
    exact ⟨_, rfl, hs⟩
  | lower _ hc hs => exact absurd ht.symm (lowercase_append_ne (hx _ List.mem_cons_self hc))
  | mark hn hc hs =>
    obtain ⟨rfl, -⟩ := List.cons.inj ht
    exact absurd (hb _ rfl) hn

lemma Spelled.exists_double {text front back : List Char} (h : Spelled before seg text)
    (hx : ∀ c ∈ seg, isUppercase c → x ∉ lowercase c) (ht : text = front ++ x :: x :: back) :
    ∃ front' back', seg = front' ++ x :: x :: back' ∧ Spelled before front' front ∧
      Spelled (some x) back' back := by
  induction h generalizing front with
  | nil before => simp at ht
  | @keep before c cs out hc hs ih =>
    obtain ⟨-, hx'⟩ := List.forall_mem_cons.mp hx
    cases front with
    | nil =>
      obtain ⟨rfl, rfl⟩ := List.cons.inj ht
      obtain ⟨rest, rfl, hr⟩ := hs.exists_first (by simp) hx'
      exact ⟨[], rest, rfl, .nil before, hr⟩
    | cons d front =>
      obtain ⟨rfl, rfl⟩ := List.cons.inj ht
      obtain ⟨front', back', rfl, hf, hb⟩ := ih hx' rfl
      exact ⟨c :: front', back', rfl, .keep before hc hf, hb⟩
  | @lower before c cs out hc hs ih =>
    obtain ⟨hl, hx'⟩ := List.forall_mem_cons.mp hx
    obtain ⟨front, rfl, rfl⟩ := exists_of_append_eq (hl hc) ht
    obtain ⟨front', back', rfl, hf, hb⟩ := ih hx' rfl
    exact ⟨c :: front', back', rfl, .lower before hc hf, hb⟩
  | @mark b c cs out hn hc hs ih =>
    obtain ⟨hl, hx'⟩ := List.forall_mem_cons.mp hx
    cases front with
    | nil =>
      obtain ⟨rfl, ht⟩ := List.cons.inj ht
      exact absurd ht (lowercase_append_ne (hl hc))
    | cons d front =>
      obtain ⟨rfl, ht'⟩ := List.cons.inj ht
      obtain ⟨front, rfl, rfl⟩ := exists_of_append_eq (hl hc) ht'
      obtain ⟨front', back', rfl, hf, hb⟩ := ih hx' rfl
      exact ⟨c :: front', back', rfl, .mark hn hc hf, hb⟩

lemma Spelled.forall_mem {p : Char → Prop} (h : Spelled before seg out) (hm : p '_')
    (hs : ∀ c ∈ seg, if isUppercase c then ∀ d ∈ lowercase c, p d else p c) : ∀ d ∈ out, p d := by
  induction h with
  | nil => simp
  | keep _ hc _ ih =>
    obtain ⟨hp, hs⟩ := List.forall_mem_cons.mp hs
    rw [if_neg hc] at hp
    exact List.forall_mem_cons.mpr ⟨hp, ih hs⟩
  | lower _ hc _ ih =>
    obtain ⟨hp, hs⟩ := List.forall_mem_cons.mp hs
    rw [if_pos hc] at hp
    exact List.forall_mem_append.mpr ⟨hp, ih hs⟩
  | mark _ hc _ ih =>
    obtain ⟨hp, hs⟩ := List.forall_mem_cons.mp hs
    rw [if_pos hc] at hp
    exact List.forall_mem_cons.mpr ⟨hm, List.forall_mem_append.mpr ⟨hp, ih hs⟩⟩

lemma spell_of_small (h : ∀ c ∈ seg, ¬ isUppercase c) (before : Option Char) :
    spell before seg = seg := by
  induction seg generalizing before with
  | nil => rfl
  | cons c seg ih =>
    obtain ⟨hc, hs⟩ := List.forall_mem_cons.mp h
    rw [spell, if_neg hc, ih hs]

end

section

variable {path seg out : List Char}

lemma Spelled.isSegment (h : Spelled none seg out) (hs : IsSegment path seg)
    (ha : LowersApart seg) : IsSegment out out := by
  refine isSegment_self (fun hm => ?_) fun hi => ?_
  · refine h.forall_mem (p := (· ≠ '<')) (by decide) (fun c hc => ?_) '<' hm rfl
    split_ifs with hu
    · exact fun d hd => (ha c hc hu d hd).2.1
    · rintro rfl
      exact hs.notMem hc
  · obtain ⟨front, back, ht⟩ := hi
    have hx : ∀ c ∈ seg, isUppercase c → ':' ∉ lowercase c :=
      fun c hc hu hm => (ha c hc hu ':' hm).2.2 rfl
    rw [List.append_assoc] at ht
    obtain ⟨front', back', he, -⟩ := h.exists_double hx ht.symm
    exact hs.not_infix ⟨front', back', by simp [he]⟩

lemma lowersApart_of_ascii (h : ∀ c ∈ seg, c.toNat < 0x80) : LowersApart seg := by
  intro c hc hu d hd
  have hi : c.isUpper := (isUppercase_iff (h c hc)).mp hu
  rw [lowercase_of_isUpper hi, List.mem_singleton] at hd
  have hl : IsSmall d := Or.inl (hd ▸ isLower_toLower hi)
  refine ⟨hl.not_isUppercase, ?_, ?_⟩
  · rintro rfl
    simp [isSmall_iff] at hl
  · rintro rfl
    simp [isSmall_iff] at hl

lemma spelled_derive (path : String) : Spelled none (segment path.toList) (derive path).toList := by
  rw [derive, String.toList_ofList]
  exact spelled_spell none _

lemma Spelled.small (h : Spelled none seg out) (ha : LowersApart seg) :
    ∀ c ∈ out, ¬ isUppercase c := by
  refine h.forall_mem (by decide) fun c hc => ?_
  split_ifs with hu
  · exact fun d hd => (ha c hc hu d hd).1
  · exact hu

theorem derive_derives (path : String) : Derives path (segment path.toList) (derive path) where
  segment seg' := isSegment_iff
  spelled := spelled_derive path
  looped := by
    rw [derive, String.toList_ofList, spellOnto_eq (by simp), List.nil_append]
  start out h := by
    have hs := spelled_derive path
    rw [h] at hs
    exact hs.exists_first (by simp) fun c _ => underscore_notMem_lowercase
  doubled out out' h :=
    (spelled_derive path).exists_double (fun c _ => underscore_notMem_lowercase) h
  small := (spelled_derive path).small
  settled h := by
    have hs := spelled_derive path
    have hi : (derive path).toList = segment (derive path).toList :=
      isSegment_iff.mp (hs.isSegment (isSegment_iff.mpr rfl) h)
    rw [derive, ← hi, spell_of_small (hs.small h), String.ofList_toList]
  ascii h := lowersApart_of_ascii fun c hc =>
    h c ((isSegment_iff.mpr rfl).infix_path.subset hc)

end

theorem baseLog_derives : derive "app::ÄBase__Log<app::A>" = "ä_base__log" ∧
    derive "ä_base__log" = "ä_base__log" := by
  have hs : segment "app::ÄBase__Log<app::A>".toList =
      ['Ä', 'B', 'a', 's', 'e', '_', '_', 'L', 'o', 'g'] := by decide
  have hd : derive "app::ÄBase__Log<app::A>" = "ä_base__log" := by decide +kernel
  have h := derive_derives "app::ÄBase__Log<app::A>"
  rw [hs, hd] at h
  exact ⟨hd, h.settled (by decide)⟩

end RolePolicy.TypeName
