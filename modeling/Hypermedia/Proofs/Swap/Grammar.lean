import Hypermedia.Proofs.Grammar
import Hypermedia.Swap.Entry

/-!
The grammar of swaps. A swap is a run of items with white space where there is
some, and nearly every text is one: what is not a strategy or a known setting
is an item that is passed over. The only texts left out are those with a known
key whose value is none.

Items may touch. So it is part of each item what stands behind it, as far as
that decides where the item ends.
-/

namespace Hypermedia

open Swap

/-- The keys that are known. -/
def Swap.Setting.keys : List String :=
  Timing.values.map Timing.keyword ++ Movement.values.map Movement.keyword ++
    Switch.values.map Switch.keyword

/-- The value of a switch as a word. -/
def Swap.Switch.state (isOn : Bool) : String :=
  if isOn then "true" else "false"

namespace Grammar

/-- A known key, a colon and a value for that key. -/
inductive SettingText : Setting → List Char → List Char → Prop
  | delay {timing : Timing} {time : Duration} {used rest : List Char}
      (value : DurationText time used rest) :
      SettingText (.delay timing time) (timing.keyword.toList ++ (':' :: used)) rest
  | move {movement : Movement} {place : String} {used rest : List Char}
      (value : TokenText place used rest) :
      SettingText (.move movement place) (movement.keyword.toList ++ (':' :: used)) rest
  | turn {switch : Switch} {isOn : Bool} {rest : List Char}
      (value : MaximalRun isBareChar (Switch.state isOn).toList rest) :
      SettingText (.turn switch isOn)
        (switch.keyword.toList ++ (':' :: (Switch.state isOn).toList)) rest

/-- An item, which is the first one of its text or a later one. A strategy can
only be the first, and then it ends with its name, while any other word ends
where a token does. A quote that is not closed is passed over with all that is
behind it, but only as the value of a key that is not known. -/
inductive ItemText : Bool → Item → List Char → List Char → Prop
  | strategy {key : String} {named : Strategy} {rest : List Char} (nonempty : key ≠ "")
      (name : MaximalRun isNameChar key.toList rest) (alone : rest.head? ≠ some ':')
      (known : Strategy.ofKeyword? key = some named) :
      ItemText true (.strategy named) key.toList rest
  | word {isFirst : Bool} {key tail : String} {rest : List Char} (nonempty : key ≠ "")
      (name : MaximalRun isNameChar key.toList (tail.toList ++ rest))
      (alone : (tail.toList ++ rest).head? ≠ some ':')
      (plain : isFirst = true → Strategy.ofKeyword? key = none)
      (run : MaximalRun isBareChar tail.toList rest) :
      ItemText isFirst (.ignored (.word (key ++ tail))) (key.toList ++ tail.toList) rest
  | setting {isFirst : Bool} {setting : Setting} {used rest : List Char}
      (text : SettingText setting used rest) : ItemText isFirst (.setting setting) used rest
  | unknown {isFirst : Bool} {key value : String} {used rest : List Char} (word : Word key)
      (free : key ∉ Setting.keys) (text : TokenText value used rest) :
      ItemText isFirst (.ignored (.setting key value)) (key.toList ++ (':' :: used)) rest
  | unclosed {isFirst : Bool} {key : String} {quote : Char} {inner : List Char} (word : Word key)
      (free : key ∉ Setting.keys) (kind : isQuote quote = true) (absent : quote ∉ inner) :
      ItemText isFirst (.ignored (.setting key (String.ofList (quote :: inner))))
        (key.toList ++ (':' :: quote :: inner)) []
  | token {isFirst : Bool} {text : String} {rest : List Char} (nonempty : text ≠ "")
      (nameless : ∀ c ∈ text.toList.head?, isNameChar c = false)
      (run : MaximalRun isBareChar text.toList rest) (alone : rest.head? ≠ some ',') :
      ItemText isFirst (.ignored (.token text)) text.toList rest
  | comma {isFirst : Bool} {text : String} {rest : List Char}
      (nameless : ∀ c ∈ text.toList.head?, isNameChar c = false)
      (bare : ∀ c ∈ text.toList, isBareChar c = true) :
      ItemText isFirst (.ignored (.token text)) (text.toList ++ [',']) rest

/-- The items from here to the end of the text. -/
inductive ItemsText : Bool → List Item → List Char → Prop
  | nil {isFirst : Bool} {gap : List Char} (blank : Blank gap) : ItemsText isFirst [] gap
  | cons {isFirst : Bool} {item : Item} {items : List Item} {gap used rest : List Char}
      (blank : Blank gap) (first : ItemText isFirst item used rest)
      (others : ItemsText false items rest) :
      ItemsText isFirst (item :: items) (gap ++ (used ++ rest))

theorem word_strategy (strategy : Strategy) : Word strategy.keyword := by
  cases strategy <;> decide

theorem word_timing (timing : Timing) : Word timing.keyword := by
  cases timing <;> decide

theorem word_movement (movement : Movement) : Word movement.keyword := by
  cases movement <;> decide

theorem word_switch (switch : Switch) : Word switch.keyword := by
  cases switch <;> decide

theorem word_state (isOn : Bool) : Word (Switch.state isOn) := by
  cases isOn <;> decide

/-- The known keys are those that the three tables know. -/
theorem not_mem_keys_iff {key : String} :
    key ∉ Setting.keys ↔ Timing.ofKeyword? key = none ∧ Movement.ofKeyword? key = none ∧
      Switch.ofKeyword? key = none := by
  unfold Setting.keys Timing.ofKeyword? Movement.ofKeyword? Switch.ofKeyword?
  rw [find?_keyword_eq_none_iff, find?_keyword_eq_none_iff, find?_keyword_eq_none_iff,
    List.mem_append, List.mem_append, not_or, not_or, and_assoc]

/-- A known setting starts with its key and a colon. -/
theorem SettingText.key {setting : Setting} {used rest : List Char}
    (h : SettingText setting used rest) :
    ∃ key value, Word key ∧ used = key.toList ++ (':' :: value) := by
  cases h with
  | delay value => exact ⟨_, _, word_timing _, rfl⟩
  | move value => exact ⟨_, _, word_movement _, rfl⟩
  | turn value => exact ⟨_, _, word_switch _, rfl⟩

theorem Word.head {text : String} (h : Word text) (more : List Char) :
    ∃ c others, text.toList ++ more = c :: others ∧ isNameChar c = true := by
  cases hlist : text.toList with
  | nil => exact absurd (String.toList_eq_nil_iff.mp hlist) h.nonempty
  | cons c others => exact ⟨c, others ++ more, rfl, h.name c (by simp [hlist])⟩

/-- Nothing that starts an item is white space. -/
theorem ItemText.head {isFirst : Bool} {item : Item} {used rest : List Char}
    (h : ItemText isFirst item used rest) :
    ∃ c more, used = c :: more ∧ Text.isBlank c = false := by
  have hname : ∀ {key : String} (more : List Char), Word key →
      ∃ c others, key.toList ++ more = c :: others ∧ Text.isBlank c = false := by
    intro key more hword
    obtain ⟨c, others, hlist, hc⟩ := hword.head more
    exact ⟨c, others, hlist, not_isBlank_of_isNameChar hc⟩
  cases h with
  | @strategy key named rest nonempty name alone known =>
      have hkey := hname [] ⟨nonempty, name.all⟩
      rwa [List.append_nil] at hkey
  | word nonempty name alone plain run => exact hname _ ⟨nonempty, name.all⟩
  | setting text =>
      obtain ⟨key, value, hword, rfl⟩ := text.key
      exact hname _ hword
  | unknown word free text => exact hname _ word
  | unclosed word free kind absent => exact hname _ word
  | @token _ text rest nonempty nameless run alone =>
      cases hlist : text.toList with
      | nil => exact absurd (String.toList_eq_nil_iff.mp hlist) nonempty
      | cons c more =>
          exact ⟨c, more, rfl, not_isBlank_of_isBareChar (run.all c (by simp [hlist]))⟩
  | @comma _ text rest nameless bare =>
      cases hlist : text.toList with
      | nil => exact ⟨',', [], rfl, by decide⟩
      | cons c more =>
          exact ⟨c, more ++ [','], rfl, not_isBlank_of_isBareChar (bare c (by simp [hlist]))⟩

theorem SettingText.startsLike {setting : Setting} {used rest' rest : List Char}
    (h : SettingText setting used rest) (hlike : StartsLike rest' rest) :
    SettingText setting used rest' := by
  cases h with
  | delay value => exact .delay (value.startsLike hlike)
  | move value => exact .move (value.startsLike hlike)
  | turn value => exact .turn (value.startsLike hlike)

/-- An item with more text behind it looks no further than one character. An
item without may be a quote that is not closed. -/
theorem ItemText.startsLike {isFirst : Bool} {item : Item} {used rest' rest : List Char}
    (h : ItemText isFirst item used rest) (hlike : StartsLike rest' rest) (hne : rest ≠ []) :
    ItemText isFirst item used rest' := by
  cases h with
  | strategy nonempty name alone known =>
      exact .strategy nonempty (name.startsLike hlike) (fun h => alone (hlike ':' h)) known
  | word nonempty name alone plain run =>
      have hname := name.startsLike (hlike.append _)
      exact .word nonempty hname (fun h => alone (hlike.append _ ':' h)) plain
        (run.startsLike hlike)
  | setting text => exact .setting (text.startsLike hlike)
  | unknown word free text => exact .unknown word free (text.startsLike hlike)
  | unclosed word free kind absent => exact absurd rfl hne
  | token nonempty nameless run alone =>
      exact .token nonempty nameless (run.startsLike hlike) fun h => alone (hlike ',' h)
  | comma nameless bare => exact .comma nameless bare

end Grammar

end Hypermedia
