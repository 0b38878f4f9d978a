import Hypermedia.Proofs.Swap.Meaning

/-!
Where the strategy of a swap comes from. Only the first item of a text can name
one, and the name that the text starts with decides, whether or not that name is
all of its token. A colon makes the name a key. Anything else that touches a
keyword leaves it a strategy, and is passed over as an item of its own. So the
first token as a whole gives the strategy too, except in texts of that kind.
-/

namespace Hypermedia

open Grammar

namespace Swap

/-- What is left of a text behind the white space at its start. -/
def unindented (text : String) : List Char :=
  text.toList.dropWhile Text.isBlank

/-- The first token of a text, up to white space or a comma. -/
def firstToken (text : String) : String :=
  String.ofList ((unindented text).takeWhile isBareChar)

/-- The name that a text starts with, which may be empty. -/
def firstName (text : String) : String :=
  String.ofList ((unindented text).takeWhile isNameChar)

/-- The first name of the text is the key of a setting. -/
def StartsWithKey (text : String) : Prop :=
  ((unindented text).dropWhile isNameChar).head? = some ':'

instance (text : String) : Decidable (StartsWithKey text) :=
  inferInstanceAs (Decidable (_ = _))

/-- A word for a strategy is made of letters. -/
theorem Strategy.isAlpha_of_ofKeyword? {word : String} {named : Strategy}
    (h : Strategy.ofKeyword? word = some named) : ∀ c ∈ word.toList, c.isAlpha = true := by
  intro c hc
  have hfolded : Text.folded named.keyword = Text.folded word := by
    simpa [Text.sameLetters] using List.find?_some h
  have hletters : (Text.folded named.keyword).all Char.isAlpha = true := by
    cases named <;> decide
  have hlower : c.toLower ∈ Text.folded word := List.mem_map_of_mem hc
  rw [← hfolded] at hlower
  exact isAlpha_of_toLower (List.all_eq_true.mp hletters _ hlower)

/-- A token that stands for a strategy ends with its name. -/
theorem firstToken_eq_firstName {text : String} {named : Strategy}
    (h : Strategy.ofKeyword? (firstToken text) = some named) :
    firstToken text = firstName text := by
  have htoken := maximalRun_takeWhile isBareChar (unindented text)
  have hletters := Strategy.isAlpha_of_ofKeyword? h
  rw [firstToken, String.toList_ofList] at hletters
  have hname : MaximalRun isNameChar ((unindented text).takeWhile isBareChar)
      ((unindented text).dropWhile isBareChar) :=
    .of_boundary (fun _ hc => isBareChar_of_isNameChar hc) htoken.ends
      fun c hc => isNameChar_of_isAlpha (hletters c hc)
  have hrun := hname.takeWhile_eq
  rw [List.takeWhile_append_dropWhile] at hrun
  rw [firstToken, firstName, hrun]

/-- The colon behind a key belongs to its token. -/
theorem StartsWithKey.firstToken_ne {text : String} (h : StartsWithKey text) :
    firstToken text ≠ firstName text := by
  intro hsame
  have htaken : (unindented text).takeWhile isBareChar =
      (unindented text).takeWhile isNameChar := String.ofList_injective hsame
  have hall : (unindented text).takeWhile isBareChar ++ (unindented text).dropWhile isBareChar =
      (unindented text).takeWhile isBareChar ++ (unindented text).dropWhile isNameChar := by
    rw [List.takeWhile_append_dropWhile, htaken, List.takeWhile_append_dropWhile]
  have hleft := List.append_cancel_left hall
  have hends := (maximalRun_takeWhile isBareChar (unindented text)).ends ':'
  rw [hleft] at hends
  exact absurd (hends h) (by decide)

end Swap

namespace Grammar

open Swap

variable {item : Item} {items : List Item} {used rest : List Char}

theorem ItemText.strategy?_of_later (h : ItemText false item used rest) :
    item.strategy? = none := by
  cases h <;> rfl

/-- No item behind the first one names a strategy. -/
theorem ItemsText.strategies_of_later {text : List Char} (h : ItemsText false items text) :
    items.filterMap Item.strategy? = [] := by
  generalize hfirst : false = isFirst at h
  induction h with
  | nil blank => rfl
  | cons blank first others ih =>
      subst hfirst
      rw [List.filterMap_cons, first.strategy?_of_later]
      exact ih rfl

/-- The strategy that the name at the start of some text stands for, if that is
not a key. -/
def leadingStrategy? (text : List Char) : Option Strategy :=
  if (text.dropWhile isNameChar).head? = some ':' then none
  else Strategy.ofKeyword? (String.ofList (text.takeWhile isNameChar))

theorem leadingStrategy?_of_name {name : List Char} (hrun : MaximalRun isNameChar name rest)
    (halone : rest.head? ≠ some ':') :
    leadingStrategy? (name ++ rest) = Strategy.ofKeyword? (String.ofList name) := by
  rw [leadingStrategy?, hrun.dropWhile_eq, hrun.takeWhile_eq, if_neg halone]

theorem leadingStrategy?_of_key {key : String} (hword : Word key) (rest : List Char) :
    leadingStrategy? (key.toList ++ (':' :: rest)) = none := by
  have hrun : MaximalRun isNameChar key.toList (':' :: rest) := by
    refine ⟨hword.name, fun c hc => ?_⟩
    cases hc
    decide
  rw [leadingStrategy?, hrun.dropWhile_eq]
  exact if_pos rfl

theorem leadingStrategy?_of_nameless (h : ∀ c ∈ rest.head?, isNameChar c = false) :
    leadingStrategy? rest = none := by
  have hrun : MaximalRun isNameChar [] rest := ⟨nofun, h⟩
  have htaken : rest.takeWhile isNameChar = [] := hrun.takeWhile_eq
  have hempty : Strategy.ofKeyword? (String.ofList []) = none := by decide
  rw [leadingStrategy?, htaken, hempty]
  exact ite_self none

/-- The first item is a strategy exactly if the name in front stands for one. -/
theorem ItemText.strategy?_of_first (h : ItemText true item used rest) :
    item.strategy? = leadingStrategy? (used ++ rest) := by
  cases h with
  | strategy nonempty name alone known =>
      rw [leadingStrategy?_of_name name alone, String.ofList_toList, known]
      rfl
  | word nonempty name alone plain run =>
      rw [List.append_assoc, leadingStrategy?_of_name name alone, String.ofList_toList,
        plain rfl]
      rfl
  | setting text =>
      obtain ⟨key, value, hword, rfl⟩ := text.key
      rw [List.append_assoc]
      exact (leadingStrategy?_of_key hword _).symm
  | unknown word free text =>
      rw [List.append_assoc]
      exact (leadingStrategy?_of_key word _).symm
  | unclosed word free kind absent =>
      rw [List.append_assoc]
      exact (leadingStrategy?_of_key word _).symm
  | @token _ text _ nonempty nameless run alone =>
      refine (leadingStrategy?_of_nameless fun c hc => ?_).symm
      cases hlist : text.toList with
      | nil => exact absurd (String.toList_eq_nil_iff.mp hlist) nonempty
      | cons first more =>
          rw [hlist] at hc nameless
          exact nameless c hc
  | @comma _ text _ nameless bare =>
      refine (leadingStrategy?_of_nameless fun c hc => ?_).symm
      cases hlist : text.toList with
      | nil =>
          rw [hlist] at hc
          cases hc
          decide
      | cons first more =>
          rw [hlist] at hc nameless
          exact nameless c hc

/-- The strategies among the items of a text are the one in front, if there is
one. -/
theorem ItemsText.strategies {text : List Char} (h : ItemsText true items text) :
    items.filterMap Item.strategy? =
      (leadingStrategy? (text.dropWhile Text.isBlank)).toList := by
  cases h with
  | nil blank =>
      have hrun : MaximalRun Text.isBlank text [] := ⟨blank, nofun⟩
      have hleft := hrun.dropWhile_eq
      rw [List.append_nil] at hleft
      rw [hleft]
      decide
  | @cons _ item _ gap used rest blank first others =>
      obtain ⟨c, more, rfl, hc⟩ := first.head
      have hrun : MaximalRun Text.isBlank gap (c :: more ++ rest) := by
        refine ⟨blank, fun d hd => ?_⟩
        cases hd
        exact hc
      rw [hrun.dropWhile_eq, List.filterMap_cons, others.strategies_of_later,
        first.strategy?_of_first]
      cases leadingStrategy? (c :: more ++ rest) <;> rfl

end Grammar

namespace Swap

/-- The strategy of a swap is the one that its first name stands for, unless
that is a key, and otherwise it stays as it was. The first token as a whole
gives the same, except where it goes on behind a name that is no key and stands
for another strategy than the one there was. -/
theorem strategy_eq_of_first_name {defaults : Defaults} {text : String} {options : Options}
    (h : parse defaults text = .ok options) :
    options.strategy =
        (if StartsWithKey text then none
          else Strategy.ofKeyword? (firstName text)).getD defaults.strategy ∧
      (options.strategy ≠ (Strategy.ofKeyword? (firstToken text)).getD defaults.strategy ↔
        ¬ StartsWithKey text ∧ firstToken text ≠ firstName text ∧
          ∃ named, Strategy.ofKeyword? (firstName text) = some named ∧
            named ≠ defaults.strategy) := by
  have hstrategy : options.strategy =
      (if StartsWithKey text then none
        else Strategy.ofKeyword? (firstName text)).getD defaults.strategy := by
    obtain ⟨items, hitems, rfl⟩ := parse_eq_ok_iff_itemsText.mp h
    rw [Options.foldl_applyItem, hitems.strategies]
    change (leadingStrategy? (unindented text)).toList.getLast?.getD defaults.strategy = _
    cases hlead : leadingStrategy? (unindented text) <;>
      exact congrArg (Option.getD · defaults.strategy) hlead.symm
  refine ⟨hstrategy, ?_⟩
  rw [hstrategy]
  by_cases hsame : firstToken text = firstName text
  · have hfree : ¬ StartsWithKey text := fun hkey => hkey.firstToken_ne hsame
    simp [hsame, hfree]
  · have htoken : Strategy.ofKeyword? (firstToken text) = none :=
      Option.eq_none_iff_forall_ne_some.mpr fun named hnamed =>
        hsame (firstToken_eq_firstName hnamed)
    rw [htoken]
    by_cases hkey : StartsWithKey text
    · simp [hkey]
    · rw [if_neg hkey]
      cases Strategy.ofKeyword? (firstName text) <;> simp [hsame, hkey]

/-- What touches a keyword is passed over, and so no setting. -/
theorem parse_keyword_before_sign :
    parse .documented "outerHTML#swap:5" =
      .ok ⟨.outerHTML, .zero, .zero, "", "", true, false, false⟩ := by
  decide +kernel

theorem strategy_eq_of_first_name_before_sign :
    parse .documented "outerHTML#swap:5" =
        .ok ⟨.outerHTML, .zero, .zero, "", "", true, false, false⟩ ∧
      Strategy.outerHTML ≠
        (Strategy.ofKeyword? (firstToken "outerHTML#swap:5")).getD .innerHTML := by
  have hname : ¬ StartsWithKey "outerHTML#swap:5" ∧
      firstToken "outerHTML#swap:5" ≠ firstName "outerHTML#swap:5" := by
    decide +kernel
  have hnamed : Strategy.ofKeyword? (firstName "outerHTML#swap:5") = some .outerHTML := by
    decide +kernel
  exact ⟨parse_keyword_before_sign, (strategy_eq_of_first_name parse_keyword_before_sign).2.mpr
    ⟨hname.1, hname.2, .outerHTML, hnamed, by decide⟩⟩

/-- The first token as a whole does not decide. -/
theorem not_strategy_eq_of_first_token :
    ¬ ∀ (defaults : Defaults) (text : String) (options : Options),
      parse defaults text = .ok options →
        options.strategy = (Strategy.ofKeyword? (firstToken text)).getD defaults.strategy := by
  intro h
  exact absurd (h _ _ _ parse_keyword_before_sign) (by decide +kernel)

end Swap

end Hypermedia
