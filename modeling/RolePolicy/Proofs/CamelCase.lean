import RolePolicy.Proofs.Segment
import RolePolicy.Proofs.TextForms

namespace RolePolicy.TypeName

open Text (isUpper_iff)

def IsSmall (c : Char) : Prop := c.isLower ∨ c.isDigit

inductive Word
  | capitalized (initial next : Char) (rest : List Char) (isUpper : initial.isUpper)
      (small : ∀ c ∈ next :: rest, IsSmall c)
  | acronym (initial : Char) (rest : List Char) (capitals : ∀ c ∈ initial :: rest, c.isUpper)

namespace Word

def chars : Word → List Char
  | capitalized initial next rest _ _ => initial :: next :: rest
  | acronym initial rest _ => initial :: rest

def lower (w : Word) : String := String.ofList (w.chars.map Char.toLower)

/-- Where an acronym ends is told by a small letter, the second one of the word behind it. -/
def Precedes : Word → Word → Prop
  | capitalized .., _ => True
  | acronym .., capitalized _ next .. => next.isAlpha
  | acronym .., acronym .. => False

end Word

structure CamelCase where
  path : String
  words : List Word
  arguments : String
  path_closed : '<' ∉ path.toList
  path_ends : path = "" ∨ ∃ parent, path = parent ++ "::"
  words_ne_nil : words ≠ []
  words_chain : words.IsChain Word.Precedes
  arguments_start : arguments = "" ∨ ∃ rest, arguments = "<" ++ rest

def CamelCase.text (n : CamelCase) : String :=
  n.path ++ String.ofList (n.words.flatMap Word.chars) ++ n.arguments

section

variable {b c : Char}

lemma isLower_iff : c.isLower ↔ 97 ≤ c.toNat ∧ c.toNat ≤ 122 := by
  simp [Char.isLower, UInt32.le_iff_toNat_le, ← Char.toNat_val]

lemma isDigit_iff : c.isDigit ↔ 48 ≤ c.toNat ∧ c.toNat ≤ 57 := by
  simp [Char.isDigit, UInt32.le_iff_toNat_le, ← Char.toNat_val]

lemma isSmall_iff :
    IsSmall c ↔ 97 ≤ c.toNat ∧ c.toNat ≤ 122 ∨ 48 ≤ c.toNat ∧ c.toNat ≤ 57 := by
  rw [IsSmall, isLower_iff, isDigit_iff]

lemma isUppercase_iff (h : c.toNat < 0x80) : Text.isUppercase c ↔ c.isUpper := by
  rw [Text.isUppercase, if_pos h]

lemma isLowercase_iff (h : c.toNat < 0x80) : Text.isLowercase c ↔ c.isLower := by
  rw [Text.isLowercase, if_pos h]

lemma toNat_lt_of_isUpper (h : c.isUpper) : c.toNat < 0x80 := by
  rw [isUpper_iff] at h
  omega

lemma IsSmall.toNat_lt (h : IsSmall c) : c.toNat < 0x80 := by
  rw [isSmall_iff] at h
  omega

lemma isUppercase_of_isUpper (h : c.isUpper) : Text.isUppercase c :=
  (isUppercase_iff (toNat_lt_of_isUpper h)).mpr h

lemma lowercase_of_isUpper (h : c.isUpper) : Text.lowercase c = [c.toLower] := by
  rw [Text.lowercase, if_pos (toNat_lt_of_isUpper h)]

lemma not_isLowercase_of_isUpper (h : c.isUpper) : ¬ Text.isLowercase c := by
  rw [isLowercase_iff (toNat_lt_of_isUpper h), isLower_iff]
  rw [isUpper_iff] at h
  omega

lemma isLower_toLower (h : c.isUpper) : c.toLower.isLower := by
  simp [Char.isAlpha, h]

lemma IsSmall.not_isUpper (h : IsSmall c) : ¬ c.isUpper := by
  rw [isSmall_iff] at h
  rw [isUpper_iff]
  omega

lemma IsSmall.not_isUppercase (h : IsSmall c) : ¬ Text.isUppercase c :=
  (isUppercase_iff h.toNat_lt).not.mpr h.not_isUpper

lemma IsSmall.toLower_eq (h : IsSmall c) : c.toLower = c :=
  Char.toLower_eq_of_not_isUpper h.not_isUpper

lemma IsSmall.startsWord (h : IsSmall b) (after : Option Char) : startsWord (some b) after := by
  rcases h with h | h
  · have hl : Text.isLowercase b := (isLowercase_iff (IsSmall.toNat_lt (Or.inl h))).mpr h
    simp [TypeName.startsWord, hl]
  · simp [TypeName.startsWord, h]

lemma startsWord_of_isUpper (h : b.isUpper) (after : Option Char) :
    startsWord (some b) after = after.any Text.isLowercase := by
  have hd : ¬ b.isDigit := by
    rw [isUpper_iff] at h
    rw [isDigit_iff]
    omega
  simp [startsWord, not_isLowercase_of_isUpper h, isUppercase_of_isUpper h, hd]

end

section

variable {before : Option Char} {tail cs : List Char}

lemma getLast?_cons_or (c : Char) (tail : List Char) (before : Option Char) :
    (c :: tail).getLast?.or before = tail.getLast?.or (some c) := by
  rw [List.getLast?_cons, Option.some_or, Option.or_some]

lemma spell_capital {c : Char} (h : c.isUpper) : spell before (c :: cs) =
    (if startsWord before cs.head? then ['_'] else []) ++ c.toLower :: spell (some c) cs := by
  rw [spell, if_pos (isUppercase_of_isUpper h), lowercase_of_isUpper h, List.append_assoc,
    List.singleton_append]

lemma spell_small (h : ∀ c ∈ tail, IsSmall c) : spell before (tail ++ cs) =
    tail.map Char.toLower ++ spell (tail.getLast?.or before) cs := by
  induction tail generalizing before with
  | nil => rfl
  | cons c tail ih =>
    obtain ⟨hc, ht⟩ := List.forall_mem_cons.mp h
    rw [List.cons_append, spell, if_neg hc.not_isUppercase, ih ht, getLast?_cons_or, List.map_cons,
      hc.toLower_eq, List.cons_append]

lemma spell_capitals {b : Char} (hb : b.isUpper) (h : ∀ c ∈ tail, c.isUpper)
    (hcs : cs.head?.any Text.isLowercase = false) : spell (some b) (tail ++ cs) =
      tail.map Char.toLower ++ spell (tail.getLast?.or (some b)) cs := by
  induction tail generalizing b with
  | nil => rfl
  | cons c tail ih =>
    obtain ⟨hc, ht⟩ := List.forall_mem_cons.mp h
    have hn : (tail ++ cs).head?.any Text.isLowercase = false := by
      cases tail with
      | nil => exact hcs
      | cons d tail => simpa using not_isLowercase_of_isUpper (ht d List.mem_cons_self)
    rw [List.cons_append, spell_capital hc, startsWord_of_isUpper hb, hn, ih hc ht,
      getLast?_cons_or]
    rfl

end

namespace Word

variable {v w : Word} {ws : List Word} {before : Option Char} {cs : List Char}

def mark (before : Option Char) (w : Word) (cs : List Char) : List Char :=
  if startsWord before (w.chars.tail ++ cs).head? then ['_'] else []

lemma spell_chars (before : Option Char) (w : Word) (hcs : cs.head?.any Text.isLowercase = false) :
    spell before (w.chars ++ cs) =
      w.mark before cs ++ (w.chars.map Char.toLower ++ spell w.chars.getLast? cs) := by
  have hl (c : Char) (tail : List Char) : (c :: tail).getLast? = tail.getLast?.or (some c) := by
    rw [← getLast?_cons_or c tail none, Option.or_none]
  cases w with
  | capitalized initial next rest hi hs =>
    rw [chars, List.cons_append, spell_capital hi, spell_small hs, ← hl]
    rfl
  | acronym initial rest hc =>
    obtain ⟨hi, hr⟩ := List.forall_mem_cons.mp hc
    rw [chars, List.cons_append, spell_capital hi, spell_capitals hi hr hcs, ← hl]
    rfl

lemma Precedes.mark_eq (h : v.Precedes w) (cs : List Char) :
    w.mark v.chars.getLast? cs = ['_'] := by
  obtain ⟨b, hb⟩ : ∃ b, v.chars.getLast? = some b := by cases v <;> simp [chars, List.getLast?_cons]
  have hm : b ∈ v.chars := List.mem_of_getLast? hb
  rw [mark, hb, if_pos]
  -- behind a small letter or digit a capital starts a word, behind a capital what follows decides
  cases v with
  | capitalized initial next rest hi hs =>
    rw [chars, List.getLast?_cons_cons] at hb
    exact (hs b (List.mem_of_getLast? hb)).startsWord _
  | acronym initial rest hc =>
    rw [startsWord_of_isUpper (hc b hm)]
    cases w with
    | acronym => exact h.elim
    | capitalized _ next rest _ hs =>
      have hn := hs next List.mem_cons_self
      have hl : next.isLower := by simpa [Precedes, Char.isAlpha, hn.not_isUpper] using h
      exact (isLowercase_iff hn.toNat_lt).mpr hl

lemma head?_flatMap_chars (ws : List Word) :
    (ws.flatMap chars).head?.any Text.isLowercase = false := by
  cases ws with
  | nil => rfl
  | cons w ws =>
    cases w with
    | capitalized _ _ _ hi => simpa using! not_isLowercase_of_isUpper hi
    | acronym _ _ hc => simpa using! not_isLowercase_of_isUpper (hc _ List.mem_cons_self)

lemma spell_words (before : Option Char) (h : (w :: ws).IsChain Precedes) :
    spell before ((w :: ws).flatMap chars) = w.mark before (ws.flatMap chars) ++
      ['_'].intercalate ((w :: ws).map fun w => w.chars.map Char.toLower) := by
  induction ws generalizing before w with
  | nil =>
    have hs : spell before (w.chars ++ []) =
        w.mark before [] ++ (w.chars.map Char.toLower ++ spell w.chars.getLast? []) :=
      w.spell_chars before rfl
    simpa [spell] using hs
  | cons v ws ih =>
    obtain ⟨hv, hws⟩ := List.isChain_cons_cons.mp h
    rw [List.flatMap_cons, w.spell_chars before (head?_flatMap_chars _), ih _ hws, hv.mark_eq]
    simp [List.intercalate_cons_cons]

lemma spell_none (hne : ws ≠ []) (h : ws.IsChain Precedes) : spell none (ws.flatMap chars) =
    ['_'].intercalate (ws.map fun w => w.chars.map Char.toLower) := by
  obtain ⟨w, ws, rfl⟩ := List.exists_cons_of_ne_nil hne
  exact spell_words none h

lemma isUpper_or_isSmall {c : Char} (h : c ∈ w.chars) : c.isUpper ∨ IsSmall c := by
  cases w with
  | capitalized initial next rest hi hs =>
    rcases List.mem_cons.mp h with rfl | h
    · exact Or.inl hi
    · exact Or.inr (hs c h)
  | acronym initial rest hc => exact Or.inl (hc c h)

lemma ne_of_mem_chars {c : Char} (h : c ∈ w.chars) : c ≠ '<' ∧ c ≠ ':' := by
  have hc := isUpper_or_isSmall h
  rw [isUpper_iff, isSmall_iff] at hc
  constructor <;> rintro rfl <;> simp at hc

lemma underscore_notMem (w : Word) : '_' ∉ w.chars.map Char.toLower := by
  intro h
  obtain ⟨c, hc, he⟩ := List.mem_map.mp h
  rcases isUpper_or_isSmall hc with hu | hs
  · have hl := isLower_toLower hu
    simp [he] at hl
  · rw [hs.toLower_eq] at he
    simp [he, isSmall_iff] at hs

lemma lower_injective {vs ws : List Word} (hv : vs ≠ []) (hw : ws ≠ [])
    (h : "_".intercalate (vs.map lower) = "_".intercalate (ws.map lower)) :
    vs.map lower = ws.map lower := by
  -- no word has a mark of its own, so that cutting at the marks gives the words back
  have split (us : List Word) (hu : us ≠ []) :
      ("_".intercalate (us.map lower)).toList.splitOn '_' = us.map fun w => w.lower.toList := by
    rw [String.toList_intercalate, List.map_map]
    refine List.splitOn_intercalate '_' ?_ (by simpa using hu)
    intro l hl
    obtain ⟨w, _, rfl⟩ := List.mem_map.mp hl
    simpa [lower] using w.underscore_notMem
  have hs := split vs hv
  rw [h, split ws hw] at hs
  have hm := congrArg (List.map String.ofList) hs
  simpa [List.map_map, Function.comp_def] using hm.symm

end Word

lemma not_infix_of_forall_ne {cs : List Char} (h : ∀ c ∈ cs, c ≠ ':') :
    ¬ [':', ':'] <:+: ':' :: cs := by
  intro hi
  rcases List.infix_cons_iff.mp hi with hp | hi
  · have hc : [':'] <+: cs := (List.cons_prefix_cons.mp hp).2
    exact h ':' (hc.subset List.mem_cons_self) rfl
  · exact h ':' (hi.subset List.mem_cons_self) rfl

namespace CamelCase

lemma isSegment_text (n : CamelCase) : IsSegment n.text.toList (n.words.flatMap Word.chars) := by
  have hw : ∀ c ∈ n.words.flatMap Word.chars, c ≠ '<' ∧ c ≠ ':' := by
    intro c hc
    obtain ⟨w, _, hw⟩ := List.mem_flatMap.mp hc
    exact Word.ne_of_mem_chars hw
  have hc := not_infix_of_forall_ne fun c hc => (hw c hc).2
  refine ⟨n.path.toList ++ n.words.flatMap Word.chars, n.arguments.toList, ?_, ?_, ?_, ?_⟩
  · rw [text, String.toList_append, String.toList_append, String.toList_ofList]
  · rw [List.mem_append, not_or]
    exact ⟨n.path_closed, fun h => (hw '<' h).1 rfl⟩
  · rcases n.arguments_start with h | ⟨rest, h⟩
    · exact Or.inl (by simp [h])
    · exact Or.inr ⟨rest.toList, by simp [h]⟩
  · rcases n.path_ends with h | ⟨parent, h⟩
    · exact Or.inl ⟨by simp [h], not_infix_of_cons hc⟩
    · exact Or.inr ⟨parent.toList, by simp [h], hc⟩

lemma segment_text (n : CamelCase) : segment n.text.toList = n.words.flatMap Word.chars :=
  (isSegment_iff.mp n.isSegment_text).symm

theorem derive_words (n : CamelCase) :
    derive n.text = "_".intercalate (n.words.map Word.lower) ∧
    ∀ m : CamelCase, derive m.text = derive n.text ↔
      m.words.map Word.lower = n.words.map Word.lower := by
  have hd (n : CamelCase) : derive n.text = "_".intercalate (n.words.map Word.lower) := by
    rw [derive, segment_text, Word.spell_none n.words_ne_nil n.words_chain]
    apply String.toList_inj.mp
    rw [String.toList_intercalate, String.toList_ofList, List.map_map]
    simp [Word.lower, Function.comp_def]
  refine ⟨hd n, fun m => ⟨fun h => ?_, fun h => ?_⟩⟩
  · rw [hd, hd] at h
    exact Word.lower_injective m.words_ne_nil n.words_ne_nil h
  · rw [hd, hd, h]

def requestLog : CamelCase where
  path := "app:::v2::"
  words := [.acronym 'H' ['T', 'T', 'P'] (by simp),
    .capitalized 'R' 'e' ['q', '2'] rfl (by simp [IsSmall]), .acronym 'X' [] (by simp)]
  arguments := "<app::Page<T>>"
  path_closed := by decide
  path_ends := Or.inr ⟨"app:::v2", rfl⟩
  words_ne_nil := by simp
  words_chain := by simp [Word.Precedes]
  arguments_start := Or.inr ⟨"app::Page<T>>", rfl⟩

def plainLog : CamelCase where
  path := ""
  words := [.capitalized 'H' 't' ['t', 'p'] rfl (by simp [IsSmall]),
    .capitalized 'R' 'e' ['q', '2'] rfl (by simp [IsSmall]), .acronym 'X' [] (by simp)]
  arguments := ""
  path_closed := by decide
  path_ends := Or.inl rfl
  words_ne_nil := by simp
  words_chain := by simp [Word.Precedes]
  arguments_start := Or.inl rfl

theorem requestLog_derive_words :
    requestLog.text = "app:::v2::HTTPReq2X<app::Page<T>>" ∧
    derive requestLog.text = "http_req2_x" ∧ plainLog.text = "HttpReq2X" ∧
    derive plainLog.text = derive requestLog.text := by
  obtain ⟨hd, hm⟩ := requestLog.derive_words
  exact ⟨by decide +kernel, hd.trans (by decide +kernel), by decide +kernel,
    (hm plainLog).mpr (by decide +kernel)⟩

end CamelCase

end RolePolicy.TypeName
