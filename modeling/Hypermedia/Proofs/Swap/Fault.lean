import Hypermedia.Proofs.Swap.Recognition

/-!
Swaps that break off. Reading is lenient, so there is only one way in which it
can fail: a known key whose value is none. Every item in front of that key has
been read, and none of them sees more than the first character of the key.
-/

namespace Hypermedia.Grammar

open Swap
open ParseError (Cause)

/-- A known key with a value that it does not take. A switch reports the whole
token that is there. -/
inductive ItemFault : Cause → List Char → List Char → Prop
  | delay {timing : Timing} {cause : Cause} {used behind : List Char}
      (value : DurationFault cause used behind) :
      ItemFault cause (timing.keyword.toList ++ (':' :: used)) behind
  | move {movement : Movement} {cause : Cause} {used behind : List Char}
      (value : TokenFault cause used behind) :
      ItemFault cause (movement.keyword.toList ++ (':' :: used)) behind
  | turn {switch : Switch} {value : String} {rest : List Char}
      (run : MaximalRun isBareChar value.toList rest)
      (other : ∀ isOn, value ≠ Switch.state isOn) :
      ItemFault (.invalidValue switch.keyword value) (switch.keyword.toList ++ [':'])
        (value.toList ++ rest)

inductive ItemsFault : Bool → Cause → List Char → List Char → Prop
  | here {isFirst : Bool} {cause : Cause} {gap used behind : List Char} (blank : Blank gap)
      (fault : ItemFault cause used behind) : ItemsFault isFirst cause (gap ++ used) behind
  | later {isFirst : Bool} {item : Item} {cause : Cause} {gap used more behind : List Char}
      (blank : Blank gap) (first : ItemText isFirst item used (more ++ behind))
      (fault : ItemsFault false cause more behind) :
      ItemsFault isFirst cause (gap ++ (used ++ more)) behind

variable {cause : Cause} {used behind : List Char} {isFirst : Bool}

theorem ItemFault.evidence (h : ItemFault cause used behind) : Evidence used behind cause := by
  cases h with
  | delay value => exact (value.evidence.append [':']).append _
  | move value => exact (value.evidence.append [':']).append _
  | turn run other => exact ⟨List.prefix_append _ _, List.suffix_refl _⟩

theorem ItemsFault.evidence (h : ItemsFault isFirst cause used behind) :
    Evidence used behind cause := by
  induction h with
  | here blank fault => exact fault.evidence.append _
  | later blank first fault ih => exact (ih.append _).append _

/-- The key can be kept, and some value of it will do. -/
theorem ItemFault.completes (h : ItemFault cause used behind) :
    used ≠ [] ∧ ∃ tail setting, SettingText setting (used ++ tail) [] := by
  cases h with
  | @delay timing _ used _ value =>
      obtain ⟨tail, time, htime⟩ := value.completes
      refine ⟨by simp, tail, .delay timing time, ?_⟩
      rw [List.append_assoc]
      exact .delay htime
  | @move movement _ used _ value =>
      obtain ⟨-, tail, place, -, hplace⟩ := value.completes
      refine ⟨by simp, tail, .move movement place, ?_⟩
      rw [List.append_assoc]
      exact .move (.quoted hplace)
  | @turn switch value rest run other =>
      refine ⟨by simp, (Switch.state true).toList, .turn switch true, ?_⟩
      rw [List.append_assoc]
      exact .turn ((word_state true).bareRun nofun)

/-- Up to a fault, a swap is the beginning of one that has none. -/
theorem ItemsFault.completes (h : ItemsFault isFirst cause used behind) :
    used ≠ [] ∧ ∃ tail items, ItemsText isFirst items (used ++ tail) := by
  induction h with
  | @here isFirst _ gap used _ blank fault =>
      obtain ⟨hne, tail, setting, hsetting⟩ := fault.completes
      have hitems : ItemsText isFirst [.setting setting] _ :=
        .cons blank (.setting hsetting) (.nil blank_nil)
      refine ⟨by simp [hne], tail, [.setting setting], ?_⟩
      simpa using hitems
  | @later isFirst item _ gap used more behind blank first fault ih =>
      obtain ⟨hne, tail, items, hitems⟩ := ih
      have hfirst := first.startsLike (startsLike_append hne tail behind) (by simp [hne])
      refine ⟨by simp [hne], tail, item :: items, ?_⟩
      rw [List.append_assoc, List.append_assoc]
      exact .cons blank hfirst hitems

end Hypermedia.Grammar

namespace Hypermedia.Swap

open Cursor Grammar Reader
open ParseError (Cause)

variable {c d : Cursor} {e : ParseError} {isFirst : Bool} {key : String}

theorem switchValue_error {switch : Switch} (h : switchValue switch c = .error e d) :
    ∃ value rest, c.rest = value.toList ++ rest ∧ MaximalRun isBareChar value.toList rest ∧
      (∀ isOn, value ≠ Switch.state isOn) ∧
      e = ⟨c.position, .invalidValue switch.keyword value⟩ := by
  unfold switchValue at h
  rw [get_bind] at h
  rcases error_of_bind h with ⟨here, hword⟩ | ⟨word, here, hword, h⟩
  · exact absurd hword run_ne_error
  · obtain ⟨htakes, hrun⟩ := bareToken_eq_ok_iff.mp hword
    by_cases htrue : word = "true"
    · rw [if_pos htrue] at h
      cases h
    · rw [if_neg htrue] at h
      by_cases hfalse : word = "false"
      · rw [if_pos hfalse] at h
        cases h
      · rw [if_neg hfalse] at h
        cases h
        refine ⟨word, _, htakes.rest_eq, hrun, fun isOn => ?_, rfl⟩
        cases isOn with
        | true => exact htrue
        | false => exact hfalse

/-- The value of an unknown key is never refused. -/
theorem unknownValue_ne_error : unknownValue c ≠ .error e d := by
  unfold unknownValue
  split <;> nofun

theorem valueReader_error (h : Item.valueReader key c = .error e d) :
    Faults (fun cause used => ItemFault cause (key.toList ++ (':' :: used))) c e := by
  unfold Item.valueReader at h
  cases htiming : Timing.ofKeyword? key with
  | some timing =>
      rw [htiming] at h
      obtain rfl := keyword_of_find? htiming
      rcases error_of_bind h with ⟨here, htime⟩ | ⟨time, here, -, h⟩
      · exact (duration_error htime).imp fun _ _ _ hfault => .delay hfault
      · cases h
  | none =>
      rw [htiming] at h
      cases hmovement : Movement.ofKeyword? key with
      | some movement =>
          rw [hmovement] at h
          obtain rfl := keyword_of_find? hmovement
          rcases error_of_bind h with ⟨here, hplace⟩ | ⟨place, here, -, h⟩
          · exact (token_error hplace).imp fun _ _ _ hfault => .move hfault
          · cases h
      | none =>
          rw [hmovement] at h
          cases hswitch : Switch.ofKeyword? key with
          | some switch =>
              rw [hswitch] at h
              obtain rfl := keyword_of_find? hswitch
              rcases error_of_bind h with ⟨here, hisOn⟩ | ⟨isOn, here, -, h⟩
              · obtain ⟨value, rest, hrest, hrun, hother, rfl⟩ := switchValue_error hisOn
                apply faults_here
                rw [hrest]
                exact .turn hrun hother
              · cases h
          | none =>
              rw [hswitch] at h
              rcases error_of_bind h with ⟨here, hvalue⟩ | ⟨value, here, -, h⟩
              · exact absurd hvalue unknownValue_ne_error
              · cases h

theorem namedReader_error (hat : c.isAt isNameChar = true)
    (h : Item.namedReader isFirst c = .error e d) : c.Faults ItemFault e := by
  unfold Item.namedReader at h
  rcases error_of_bind h with ⟨here, hname⟩ | ⟨key, here, hkey, h⟩
  · rw [name_run, if_pos hat] at hname
    cases hname
  · obtain ⟨htakes, -, -⟩ := name_eq_ok_iff.mp hkey
    rcases error_of_bind h with ⟨behind, hfound⟩ | ⟨found, behind, hfound, h⟩
    · exact absurd hfound literal?_ne_error
    · cases found with
      | true =>
          have hcolon := takes_of_literal? hfound
          apply (htakes.trans hcolon).faults (valueReader_error h)
          intro used rest _ hfault
          rw [List.append_assoc]
          exact hfault
      | false =>
          cases hnamed : (if isFirst then Strategy.ofKeyword? key else none) with
          | some named =>
              simp only [hnamed] at h
              cases h
          | none =>
              simp only [hnamed] at h
              rcases error_of_bind h with ⟨stop, htail⟩ | ⟨tail, stop, -, h⟩
              · exact absurd htail run_ne_error
              · cases h

/-- What does not start like a name is passed over, whatever it is. -/
theorem tokenReader_ne_error : Item.tokenReader c ≠ .error e d := by
  intro h
  rcases error_of_bind h with ⟨here, htext⟩ | ⟨text, here, -, h⟩
  · exact absurd htext run_ne_error
  · rcases error_of_bind h with ⟨behind, hfound⟩ | ⟨found, behind, -, h⟩
    · exact absurd hfound literal?_ne_error
    · cases h

theorem reader_error (h : Item.reader isFirst c = .error e d) : c.Faults ItemFault e := by
  unfold Item.reader at h
  rw [get_bind] at h
  by_cases hat : c.isAt isNameChar = true
  · rw [if_pos hat] at h
    exact namedReader_error hat h
  · rw [if_neg hat] at h
    exact absurd h tokenReader_ne_error

theorem entries_error (h : (entries isFirst c).toExcept = .error e) :
    c.Faults (ItemsFault isFirst) e := by
  induction hlength : c.rest.length using Nat.strongRecOn generalizing c isFirst with
  | ind length ih =>
      have hgap := c.takes_pastRun Text.isBlank
      have hblank := (c.maximalRun_run Text.isBlank).all
      rcases entries_cases isFirst c with
        ⟨-, hrun⟩ | ⟨f, d, hitem, hrun⟩ | ⟨entry, d, -, htakes, htext, hrun⟩
      · rw [hrun] at h
        cases h
      · rw [hrun] at h
        cases h
        exact hgap.faults (reader_error hitem) fun _ _ _ hfault => .here hblank hfault
      · rw [hrun] at h
        have hlater := Reading.toExcept_cons_eq_error_iff.mp h
        have hshorter := length_lt_of_itemText htakes htext
        rw [hlength] at hshorter
        apply (hgap.trans htakes).faults (ih _ hshorter hlater rfl)
        intro more rest hmore hfault
        rw [hmore] at htext
        rw [List.append_assoc]
        exact .later hblank htext hfault

/-- An error in a swap reports a fault that its text has, whatever the starting
values are. -/
theorem parse_error_itemsFault {defaults : Defaults} {text : String}
    (h : parse defaults text = .error e) : (Cursor.start text).Faults (ItemsFault true) e := by
  unfold parse read at h
  cases hread : (entries true (.start text)).toExcept with
  | ok found =>
      rw [hread] at h
      cases h
  | error f =>
      rw [hread] at h
      cases h
      exact entries_error hread

end Hypermedia.Swap
