import RolePolicy.Environment
import RolePolicy.Proofs.TextForms

namespace RolePolicy

open Text

def flagWords : Bool → List String
  | true => ["1", "true", "yes", "on"]
  | false => ["0", "false", "no", "off"]

def policyWords : MissingParentPolicy → List String
  | .skip => ["skip", "ignore"]
  | .error => ["error", "strict"]

def SpellsFlag (text : String) (b : Bool) : Prop :=
  ∃ before word after, text = before ++ word ++ after ∧ Blank before ∧ Blank after ∧
    lower word ∈ flagWords b

def SpellsPolicy (text : String) (p : MissingParentPolicy) : Prop := lower text ∈ policyWords p

namespace Setting

def slot : Setting → Variable
  | defaultQueryResponse _ => .defaultQueryResponse
  | actorMustPlayRole _ => .actorMustPlayRole
  | allTypesAreResources _ => .allTypesAreResources
  | missingParent _ => .missingParent

def SpelledBy (text : String) : Setting → Prop
  | defaultQueryResponse b | actorMustPlayRole b | allTypesAreResources b => SpellsFlag text b
  | missingParent p => SpellsPolicy text p

end Setting

def Config.get (c : Config) : Variable → Setting
  | .defaultQueryResponse => .defaultQueryResponse c.defaultQueryResponse
  | .actorMustPlayRole => .actorMustPlayRole c.actorMustPlayRole
  | .allTypesAreResources => .allTypesAreResources c.allTypesAreResources
  | .missingParent => .missingParent c.missingParent

structure Environment.ReadApart (env : Environment) : Prop where
  own : ∀ (env' : Environment) (v : Variable), env' v = env v →
    env'.config.get v = env.config.get v
  others : ∀ (v u : Variable) (value : Option ByteArray), u ≠ v →
    (config (Function.update env v value)).get u = env.config.get u
  spelled : ∀ (s : Setting) (text : String), env s.slot = some text.toUTF8 →
    s.SpelledBy text → env.config.get s.slot = s
  unread : ∀ v : Variable, (∀ (s : Setting) (text : String), s.slot = v →
    env v = some text.toUTF8 → ¬ s.SpelledBy text) → env.config.get v = Config.get {} v
  blanks : ∀ (v : Variable) (before : String) (bytes : ByteArray) (after : String),
    v ≠ .missingParent → Blank before → Blank after → env v = some bytes →
      config (Function.update env v (some (before.toUTF8 ++ bytes ++ after.toUTF8))) = env.config
  recased : ∀ (v : Variable) (bytes bytes' : ByteArray), Recased bytes bytes' →
    env v = some bytes → config (Function.update env v (some bytes')) = env.config
  policy : ∀ p : MissingParentPolicy, env .missingParent = some p.text.toUTF8 →
    env.config.missingParent = p

lemma not_isBlank_of_mem_flagWords {word : String} {b : Bool} (h : word ∈ flagWords b) :
    ∀ c ∈ word.toList, ¬ isBlank c := by
  have hw : ∀ b, ∀ word ∈ flagWords b, word.toList.all fun c => !isBlank c := by decide
  simpa using hw b word h

lemma ite_mem_eq_some_iff {α : Type} (words : α → List String) (a b : α) {x : α} {word : String}
    (hx : x = a ∨ x = b) (hd : ∀ w ∈ words b, w ∉ words a) :
    (if word ∈ words a then some a else if word ∈ words b then some b else none) = some x ↔
      word ∈ words x := by
  split_ifs with ha hb
  · rcases hx with rfl | rfl
    · exact iff_of_true rfl ha
    · refine ⟨fun h => ?_, fun h => absurd ha (hd word h)⟩
      cases h
      exact ha
  · rcases hx with rfl | rfl
    · refine ⟨fun h => ?_, fun h => absurd h ha⟩
      cases h
      exact hb
    · exact iff_of_true rfl hb
  · rcases hx with rfl | rfl
    · exact iff_of_false (by simp) ha
    · exact iff_of_false (by simp) hb

lemma flagOfText?_eq_some_iff {text : String} {b : Bool} :
    flagOfText? text = some b ↔ SpellsFlag text b := by
  have hw : flagOfText? text = some b ↔ lower (trim text) ∈ flagWords b := by
    simp only [flagOfText?]
    exact ite_mem_eq_some_iff flagWords true false (by cases b <;> simp) (by decide)
  rw [hw]
  constructor
  · intro h
    obtain ⟨before, after, ht, hb, ha⟩ := exists_eq_trim text
    exact ⟨before, trim text, after, ht, hb, ha, h⟩
  · rintro ⟨before, word, after, rfl, hb, ha, h⟩
    rwa [trim_append hb word ha, trim_of_lower (not_isBlank_of_mem_flagWords h)]

lemma ofText?_eq_some_iff {text : String} {p : MissingParentPolicy} :
    MissingParentPolicy.ofText? text = some p ↔ SpellsPolicy text p := by
  have hw (q : MissingParentPolicy) (w w' : String) (h : policyWords q = [w, w']) :
      (lower text = w ∨ lower text = w') ↔ lower text ∈ policyWords q := by
    rw [h, List.mem_pair]
  rw [MissingParentPolicy.ofText?]
  simp only [hw .skip "skip" "ignore" rfl, hw .error "error" "strict" rfl]
  exact ite_mem_eq_some_iff policyWords .skip .error (by cases p <;> simp) (by decide)

def Variable.read? (text : String) : Variable → Option Setting
  | defaultQueryResponse => (flagOfText? text).map .defaultQueryResponse
  | actorMustPlayRole => (flagOfText? text).map .actorMustPlayRole
  | allTypesAreResources => (flagOfText? text).map .allTypesAreResources
  | missingParent => (MissingParentPolicy.ofText? text).map .missingParent

namespace Variable

variable {v : Variable} {text text' : String}

lemma read?_eq_some_iff {s : Setting} : v.read? text = some s ↔ s.slot = v ∧ s.SpelledBy text := by
  cases v <;> cases s <;>
    simp [read?, Setting.slot, Setting.SpelledBy, flagOfText?_eq_some_iff, ofText?_eq_some_iff]

lemma read?_append {before after : String} (hv : v ≠ .missingParent) (hb : Blank before)
    (ha : Blank after) : v.read? (before ++ text ++ after) = v.read? text := by
  have hf : flagOfText? (before ++ text ++ after) = flagOfText? text := by
    rw [flagOfText?, flagOfText?, trim_append hb text ha]
  cases v with
  | missingParent => exact absurd rfl hv
  | _ => rw [read?, read?, hf]

lemma read?_of_sameChars (h : SameChars text.toList text'.toList) (v : Variable) :
    v.read? text = v.read? text' := by
  have hf : flagOfText? text = flagOfText? text' := by
    rw [flagOfText?, flagOfText?, lower_trim_eq_of_sameChars h]
  have hp : MissingParentPolicy.ofText? text = MissingParentPolicy.ofText? text' := by
    rw [MissingParentPolicy.ofText?, MissingParentPolicy.ofText?, lower_eq_of_sameChars h]
  cases v with
  | missingParent => rw [read?, read?, hp]
  | _ => rw [read?, read?, hf]

end Variable

lemma Config.ext_get {c c' : Config} (h : ∀ v, c.get v = c'.get v) : c = c' := by
  have hq := h .defaultQueryResponse
  have ha := h .actorMustPlayRole
  have ht := h .allTypesAreResources
  have hp := h .missingParent
  cases c
  cases c'
  cases hq
  cases ha
  cases ht
  cases hp
  rfl

namespace Environment

variable {env env' : Environment} {v : Variable}

lemma get_config (env : Environment) (v : Variable) :
    env.config.get v = ((env.text? v).bind v.read?).getD (Config.get {} v) := by
  have hg {α : Type} (read? : String → Option α) (f : α → Setting) (d : α) :
      f (((env.text? v).bind read?).getD d) =
        ((env.text? v).bind fun text => (read? text).map f).getD (f d) := by
    have hm : ((env.text? v).bind fun text => (read? text).map f) =
        ((env.text? v).bind read?).map f := (Option.map_bind ..).symm
    rw [hm, Option.getD_map]
  cases v <;> exact hg _ _ _

lemma text?_eq_some_iff {text : String} : env.text? v = some text ↔ env v = some text.toUTF8 := by
  rw [text?, Option.bind_eq_some_iff]
  simp only [fromUTF8?_eq_some_iff]
  simp

lemma config_update_eq {value : Option ByteArray}
    (h : (value.bind String.fromUTF8?).bind v.read? = (env.text? v).bind v.read?) :
    config (Function.update env v value) = env.config := by
  refine Config.ext_get fun u => ?_
  rw [get_config, get_config]
  rcases eq_or_ne u v with rfl | hu
  · rw [text?, Function.update_self, h]
  · rw [text?, Function.update_of_ne hu, text?]

lemma get_config_of_spelled {s : Setting} {text : String} (ht : env s.slot = some text.toUTF8)
    (hs : s.SpelledBy text) : env.config.get s.slot = s := by
  rw [get_config, text?_eq_some_iff.mpr ht, Option.bind_some,
    Variable.read?_eq_some_iff.mpr ⟨rfl, hs⟩, Option.getD_some]

theorem config_readApart (env : Environment) : env.ReadApart where
  own env' v h := by rw [get_config, get_config, text?, text?, h]
  others v u value hu := by rw [get_config, get_config, text?, text?, Function.update_of_ne hu]
  spelled s text := get_config_of_spelled
  unread v h := by
    have hn : (env.text? v).bind v.read? = none := by
      rw [Option.eq_none_iff_forall_ne_some]
      intro s hs
      obtain ⟨text, ht, hr⟩ := Option.bind_eq_some_iff.mp hs
      obtain ⟨hv, hs⟩ := Variable.read?_eq_some_iff.mp hr
      exact h s text hv (text?_eq_some_iff.mp ht) hs
    rw [get_config, hn, Option.getD_none]
  blanks v before bytes after hv hb ha he := by
    refine config_update_eq ?_
    rw [Option.bind_some, fromUTF8?_append, text?, he, Option.bind_some]
    cases String.fromUTF8? bytes with
    | none => rfl
    | some text => exact Variable.read?_append hv hb ha
  recased v bytes bytes' hr he := by
    refine config_update_eq ?_
    rw [Option.bind_some, text?, he, Option.bind_some]
    have hs := hr.fromUTF8?
    revert hs
    generalize String.fromUTF8? bytes = text
    generalize String.fromUTF8? bytes' = text'
    rintro (hs | _)
    · exact (Variable.read?_of_sameChars hs v).symm
    · rfl
  policy p hp := by
    have hw : (Setting.missingParent p).SpelledBy p.text := by
      rw [Setting.SpelledBy, SpellsPolicy]
      cases p <;> decide
    exact Setting.missingParent.inj (get_config_of_spelled (s := .missingParent p) hp hw)

def sample : Environment
  | .defaultQueryResponse => some "\u00a0Yes\u3000".toUTF8
  | .actorMustPlayRole => some ⟨#[0xff]⟩
  | .allTypesAreResources => some "maybe".toUTF8
  | .missingParent => some "STRICT".toUTF8

theorem config_sample :
    sample.config = { defaultQueryResponse := true, missingParent := .error } := by
  have h := config_readApart sample
  refine Config.ext_get fun v => ?_
  cases v with
  | defaultQueryResponse =>
    exact h.spelled (.defaultQueryResponse true) _ rfl
      ⟨"\u00a0", "Yes", "\u3000", rfl, by decide, by decide, by decide⟩
  | actorMustPlayRole =>
    refine h.unread .actorMustPlayRole fun s text _ ht => ?_
    have hn : sample.text? .actorMustPlayRole = none := by decide
    cases hn.symm.trans (text?_eq_some_iff.mpr ht)
  | allTypesAreResources =>
    refine h.unread .allTypesAreResources fun s text hv ht hs => ?_
    have hn : (sample.text? .allTypesAreResources).bind (Variable.read? · .allTypesAreResources) =
        none := by decide
    rw [text?_eq_some_iff.mpr ht, Option.bind_some,
      Variable.read?_eq_some_iff.mpr ⟨hv, hs⟩] at hn
    cases hn
  | missingParent =>
    have hw : lower "STRICT" ∈ policyWords .error := by decide
    exact h.spelled (.missingParent .error) "STRICT" rfl hw

end Environment

end RolePolicy
