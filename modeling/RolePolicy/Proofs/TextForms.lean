import Mathlib
import RolePolicy.Text.Blank
import RolePolicy.Text.Case

namespace RolePolicy.Text

def Blank (text : String) : Prop := ∀ c ∈ text.toList, isBlank c

instance (text : String) : Decidable (Blank text) :=
  decidable_of_iff (text.toList.all isBlank) List.all_eq_true

lemma trimEnd_append {l after : List Char} (h : ∀ c ∈ after, isBlank c) :
    trimEnd (l ++ after) = trimEnd l := by
  rw [trimEnd, trimEnd, List.reverse_append, trimStart,
    List.dropWhile_append_of_pos (by simpa using h), ← trimStart]

lemma trimEnd_trimStart_append {l after : List Char} (h : ∀ c ∈ after, isBlank c) :
    trimEnd (trimStart (l ++ after)) = trimEnd (trimStart l) := by
  by_cases hl : ∀ c ∈ l, isBlank c
  · rw [trimStart, trimStart, List.dropWhile_append_of_pos hl, List.dropWhile_eq_nil_iff.mpr hl,
      List.dropWhile_eq_nil_iff.mpr h]
  · have hd : (l ++ after).dropWhile isBlank = l.dropWhile isBlank ++ after := by
      rw [List.dropWhile_append, if_neg]
      simpa only [List.isEmpty_iff, List.dropWhile_eq_nil_iff] using hl
    rw [trimStart, trimStart, hd, trimEnd_append h]

lemma trim_append {before after : String} (hb : Blank before) (text : String) (ha : Blank after) :
    trim (before ++ text ++ after) = trim text := by
  rw [trim, trim, String.toList_append, String.toList_append, trimEnd_trimStart_append ha,
    trimStart, List.dropWhile_append_of_pos hb, ← trimStart]

lemma exists_eq_trim (text : String) :
    ∃ before after, text = before ++ trim text ++ after ∧ Blank before ∧ Blank after := by
  have hs (l : List Char) : l = l.takeWhile isBlank ++ trimStart l :=
    List.takeWhile_append_dropWhile.symm
  have hb (l : List Char) : ∀ c ∈ l.takeWhile isBlank, isBlank c := fun _ => List.mem_takeWhile_imp
  let rest := trimStart text.toList
  have hr : rest = trimEnd rest ++ (rest.reverse.takeWhile isBlank).reverse := by
    rw [trimEnd, ← List.reverse_append, ← hs, List.reverse_reverse]
  refine ⟨.ofList (text.toList.takeWhile isBlank),
    .ofList (rest.reverse.takeWhile isBlank).reverse, ?_, ?_, ?_⟩
  · apply String.toList_inj.mp
    rw [String.toList_append, String.toList_append, String.toList_ofList, String.toList_ofList,
      trim, String.toList_ofList, List.append_assoc, ← hr]
    exact hs _
  · simpa [Blank] using hb text.toList
  · simpa [Blank] using hb rest.reverse

lemma isUpper_iff {c : Char} : c.isUpper ↔ 65 ≤ c.toNat ∧ c.toNat ≤ 90 := by
  simp [Char.isUpper, UInt32.le_iff_toNat_le, ← Char.toNat_val]

lemma toNat_of_isBlank {c : Char} (h : isBlank c) : c.toNat < 65 ∨ 122 < c.toNat := by
  simp [isBlank, inSpans, blankSpans, Span.contains] at h
  omega

lemma lowercase_of_isBlank {c : Char} (h : isBlank c) : lowercase c = [c] := by
  have hshifts : lowercaseShifts.all fun p => blankSpans.all fun s =>
      (List.range' s.first (s.last + 1 - s.first)).all fun n => !p.1.contains n := by
    decide +kernel
  have hn : lowercaseShifts.find? (·.1.contains c.toNat) = none := by
    obtain ⟨s, hs, hc⟩ := List.any_eq_true.mp h
    simp only [Span.contains, Bool.and_eq_true, decide_eq_true_eq] at hc
    refine List.find?_eq_none.mpr fun p hp => ?_
    have hr := List.all_eq_true.mp (List.all_eq_true.mp (List.all_eq_true.mp hshifts p hp) s hs)
    simpa using hr c.toNat (List.mem_range'_1.mpr (by omega))
  have hu : ¬ c.isUpper := by
    have hb := toNat_of_isBlank h
    rw [isUpper_iff]
    omega
  rw [lowercase]
  split
  · rw [Char.toLower_eq_of_not_isUpper hu]
  · rw [if_neg, hn]
    rintro rfl
    exact absurd h (by decide +kernel)

lemma trim_of_lower {word : String} (h : ∀ c ∈ (lower word).toList, ¬ isBlank c) :
    trim word = word := by
  have hc : ∀ c ∈ word.toList, ¬ isBlank c := by
    intro c hc hb
    refine h c ?_ hb
    rw [lower, String.toList_ofList, List.mem_flatMap]
    exact ⟨c, hc, by simp [lowercase_of_isBlank hb]⟩
  have hd {l : List Char} (hl : ∀ c ∈ l, ¬ isBlank c) : trimStart l = l := by
    rw [trimStart]
    cases l with
    | nil => rfl
    | cons c l => exact List.dropWhile_cons_of_neg (hl c List.mem_cons_self)
  rw [trim, hd hc, trimEnd, hd (by simpa using hc), List.reverse_reverse, String.ofList_toList]

def SameLetter (m n : Nat) : Prop :=
  m = n ∨ 65 ≤ m ∧ m ≤ 90 ∧ n = m + 32 ∨ 65 ≤ n ∧ n ≤ 90 ∧ m = n + 32

abbrev SameChars : List Char → List Char → Prop :=
  List.Forall₂ fun c c' => SameLetter c.toNat c'.toNat

abbrev SameBytes : List UInt8 → List UInt8 → Prop :=
  List.Forall₂ fun b b' => SameLetter b.toNat b'.toNat

def Recased (bytes bytes' : ByteArray) : Prop := SameBytes bytes.data.toList bytes'.data.toList

lemma SameLetter.symm {m n : Nat} (h : SameLetter m n) : SameLetter n m := by
  rw [SameLetter] at h ⊢
  omega

lemma SameBytes.symm {bytes bytes' : List UInt8} (h : SameBytes bytes bytes') :
    SameBytes bytes' bytes :=
  (h.imp fun _ _ => SameLetter.symm).flip

section

variable {c c' : Char} {cs cs' : List Char}

lemma lowercase_eq_of_capital (h : 65 ≤ c.toNat) (h' : c.toNat ≤ 90)
    (hc : c'.toNat = c.toNat + 32) : lowercase c = lowercase c' := by
  have hl : c.toLower = c' := by
    rw [Char.toLower_eq_of_isUpper (isUpper_iff.mpr ⟨h, h'⟩), ← hc, Char.ofNat_toNat]
  have hl' : c'.toLower = c' := by
    refine Char.toLower_eq_of_not_isUpper ?_
    rw [isUpper_iff]
    omega
  rw [lowercase, lowercase, if_pos (by omega), if_pos (by omega), hl, hl']

lemma SameLetter.lowercase_eq (h : SameLetter c.toNat c'.toNat) : lowercase c = lowercase c' := by
  rcases h with h | ⟨h₁, h₂, h₃⟩ | ⟨h₁, h₂, h₃⟩
  · rw [Char.toNat_inj.mp h]
  · exact lowercase_eq_of_capital h₁ h₂ h₃
  · exact (lowercase_eq_of_capital h₁ h₂ h₃).symm

lemma SameLetter.isBlank_eq (h : SameLetter c.toNat c'.toNat) : isBlank c = isBlank c' := by
  rcases h with h | h
  · rw [Char.toNat_inj.mp h]
  · have hc : ¬ isBlank c := fun hb => by
      have := toNat_of_isBlank hb
      omega
    have hc' : ¬ isBlank c' := fun hb => by
      have := toNat_of_isBlank hb
      omega
    rw [Bool.eq_iff_iff]
    exact iff_of_false hc hc'

lemma SameChars.trimStart (h : SameChars cs cs') :
    SameChars (Text.trimStart cs) (Text.trimStart cs') := by
  induction h with
  | nil => exact .nil
  | @cons c c' cs cs' hc hcs ih =>
    rw [Text.trimStart, Text.trimStart, List.dropWhile_cons, List.dropWhile_cons, hc.isBlank_eq]
    split
    · exact ih
    · exact .cons hc hcs

lemma SameChars.trimEnd (h : SameChars cs cs') :
    SameChars (Text.trimEnd cs) (Text.trimEnd cs') :=
  List.forall₂_reverse_iff.mpr (SameChars.trimStart (List.forall₂_reverse_iff.mpr h))

lemma SameChars.lowercase (h : SameChars cs cs') :
    cs.flatMap Text.lowercase = cs'.flatMap Text.lowercase := by
  induction h with
  | nil => rfl
  | cons hc _ ih => rw [List.flatMap_cons, List.flatMap_cons, hc.lowercase_eq, ih]

end

lemma lower_eq_of_sameChars {text text' : String} (h : SameChars text.toList text'.toList) :
    lower text = lower text' := by
  rw [lower, lower, h.lowercase]

lemma lower_trim_eq_of_sameChars {text text' : String}
    (h : SameChars text.toList text'.toList) : lower (trim text) = lower (trim text') := by
  apply lower_eq_of_sameChars
  rw [trim, trim, String.toList_ofList, String.toList_ofList]
  exact h.trimStart.trimEnd

lemma fromUTF8?_eq_some_iff {bytes : ByteArray} {text : String} :
    String.fromUTF8? bytes = some text ↔ bytes = text.toUTF8 := by
  rw [String.fromUTF8?]
  split
  · rw [Option.some.injEq, ← String.toByteArray_inj, String.toUTF8_eq_toByteArray]
    rfl
  · rename_i h
    refine iff_of_false (by simp) ?_
    rintro rfl
    exact h text.isValidUTF8

lemma isValidUTF8_iff_of_append {front back : ByteArray} (h : (front ++ back).IsValidUTF8) :
    front.IsValidUTF8 ↔ back.IsValidUTF8 := by
  let whole : String := .fromUTF8 (front ++ back) h
  have hw : whole.toByteArray = front ++ back := rfl
  have hs : whole.utf8ByteSize = front.size + back.size := by
    rw [← String.size_toByteArray, hw, ByteArray.size_append]
  have hle : (⟨front.size⟩ : String.Pos.Raw) ≤ whole.rawEndPos := by
    simp [String.Pos.Raw.le_iff, hs]
  have hf := String.Pos.Raw.isValid_iff_isValidUTF8_extract_zero (s := whole) (p := ⟨front.size⟩)
  have hb := String.Pos.Raw.isValid_iff_isValidUTF8_extract_utf8ByteSize (s := whole)
    (p := ⟨front.size⟩)
  rw [hw, ByteArray.extract_append_eq_left rfl, and_iff_right hle] at hf
  rw [hw, ByteArray.extract_append_eq_right rfl hs, and_iff_right hle] at hb
  exact hf.symm.trans hb

lemma isValidUTF8_append_iff (before : String) (bytes : ByteArray) (after : String) :
    (before.toUTF8 ++ bytes ++ after.toUTF8).IsValidUTF8 ↔ bytes.IsValidUTF8 := by
  constructor
  · intro h
    have hl := (isValidUTF8_iff_of_append h).mpr after.isValidUTF8
    exact (isValidUTF8_iff_of_append hl).mp before.isValidUTF8
  · intro h
    exact (before.isValidUTF8.append h).append after.isValidUTF8

lemma fromUTF8?_append (before : String) (bytes : ByteArray) (after : String) :
    String.fromUTF8? (before.toUTF8 ++ bytes ++ after.toUTF8) =
      (String.fromUTF8? bytes).map fun text => before ++ text ++ after := by
  cases h : String.fromUTF8? bytes with
  | some text =>
    obtain rfl := fromUTF8?_eq_some_iff.mp h
    rw [Option.map_some, fromUTF8?_eq_some_iff]
    simp
  | none =>
    have hn : ¬ bytes.IsValidUTF8 := by simpa [String.fromUTF8?] using h
    rw [Option.map_none, String.fromUTF8?, dif_neg]
    exact (isValidUTF8_append_iff before bytes after).not.mpr hn

lemma utf8EncodeChar_of_lt {c : Char} (h : c.toNat < 0x80) :
    String.utf8EncodeChar c = [UInt8.ofNat c.toNat] :=
  if_pos (Nat.le_of_lt_succ h)

lemma le_toNat_of_mem_utf8EncodeChar {c : Char} (hc : 0x80 ≤ c.toNat) {b : UInt8}
    (h : b ∈ String.utf8EncodeChar c) : 0x80 ≤ b.toNat := by
  have hv : c.val.toNat = c.toNat := rfl
  rw [String.utf8EncodeChar] at h
  split at h
  · omega
  · split_ifs at h
    all_goals
      simp only [List.mem_cons, List.not_mem_nil, or_false] at h
      rcases h with rfl | rfl | rfl | rfl
      all_goals
        simp only [UInt8.toNat_ofNat']
        omega

lemma exists_utf8EncodeChar {c : Char} {bytes : List UInt8}
    (h : SameBytes bytes (String.utf8EncodeChar c)) :
    ∃ c' : Char, bytes = String.utf8EncodeChar c' ∧ SameLetter c'.toNat c.toNat := by
  by_cases hc : c.toNat < 0x80
  · rw [utf8EncodeChar_of_lt hc] at h
    obtain ⟨b, _, hb, ht, rfl⟩ := List.forall₂_cons_right_iff.mp h
    obtain rfl := List.forall₂_nil_right_iff.mp ht
    have hs : SameLetter b.toNat c.toNat := by
      rwa [UInt8.toNat_ofNat', Nat.mod_eq_of_lt (by omega)] at hb
    have hlt : b.toNat < 0x80 := by
      rw [SameLetter] at hs
      omega
    have hn : (Char.ofNat b.toNat).toNat = b.toNat :=
      (Char.toNat_ofNat _).trans (if_pos (Or.inl (by omega)))
    refine ⟨Char.ofNat b.toNat, ?_, hn.symm ▸ hs⟩
    rw [utf8EncodeChar_of_lt (by omega), hn, UInt8.ofNat_toNat]
  · refine ⟨c, ?_, Or.inl rfl⟩
    have hm := (List.forall₂_and_left (p := fun b : UInt8 => 0x80 ≤ b.toNat) _ _).mpr
      ⟨fun b => le_toNat_of_mem_utf8EncodeChar (Nat.le_of_not_lt hc), SameBytes.symm h⟩
    have he : List.Forall₂ Eq (String.utf8EncodeChar c) bytes := by
      refine hm.imp ?_
      rintro b b' ⟨hb, hs⟩
      rw [SameLetter] at hs
      exact UInt8.toNat_inj.mp (by omega)
    rw [List.forall₂_eq_eq_eq] at he
    exact he.symm

lemma exists_flatMap_utf8EncodeChar {cs : List Char} {bytes : List UInt8}
    (h : SameBytes bytes (cs.flatMap String.utf8EncodeChar)) :
    ∃ cs', bytes = cs'.flatMap String.utf8EncodeChar ∧ SameChars cs' cs := by
  induction cs generalizing bytes with
  | nil =>
    obtain rfl := List.forall₂_nil_right_iff.mp h
    exact ⟨[], rfl, .nil⟩
  | cons c cs ih =>
    have hf := List.forall₂_take_append _ _ _ h
    have hb := List.forall₂_drop_append _ _ _ h
    obtain ⟨c', hc', hc⟩ := exists_utf8EncodeChar hf
    obtain ⟨cs', hcs', hcs⟩ := ih hb
    refine ⟨c' :: cs', ?_, .cons hc hcs⟩
    rw [List.flatMap_cons, ← hc', ← hcs', List.take_append_drop]

lemma Recased.exists_text {bytes : ByteArray} {text : String} (h : Recased bytes text.toUTF8) :
    ∃ text', String.fromUTF8? bytes = some text' ∧ SameChars text'.toList text.toList := by
  have hd (cs : List Char) : (String.ofList cs).toUTF8.data.toList =
      cs.flatMap String.utf8EncodeChar := by
    simp [List.utf8Encode]
  rw [Recased, ← String.ofList_toList (s := text), hd] at h
  obtain ⟨cs, hb, hc⟩ := exists_flatMap_utf8EncodeChar h
  refine ⟨.ofList cs, fromUTF8?_eq_some_iff.mpr ?_, by rwa [String.toList_ofList]⟩
  exact ByteArray.ext (Array.toList_inj.mp (hb.trans (hd cs).symm))

lemma Recased.fromUTF8? {bytes bytes' : ByteArray} (h : Recased bytes bytes') :
    Option.Rel (fun text text' : String => SameChars text.toList text'.toList)
      (String.fromUTF8? bytes) (String.fromUTF8? bytes') := by
  cases hb : String.fromUTF8? bytes' with
  | some text' =>
    obtain rfl := fromUTF8?_eq_some_iff.mp hb
    obtain ⟨text, ht, hs⟩ := h.exists_text
    rw [ht]
    exact .some hs
  | none =>
    cases ha : String.fromUTF8? bytes with
    | none => exact .none
    | some text =>
      obtain rfl := fromUTF8?_eq_some_iff.mp ha
      obtain ⟨text', ht, _⟩ := Recased.exists_text (SameBytes.symm h)
      cases ht.symm.trans hb

end RolePolicy.Text
