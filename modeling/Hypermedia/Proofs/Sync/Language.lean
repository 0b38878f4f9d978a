import Mathlib.Data.List.DropRight
import Hypermedia.Proofs.Sync

/-!
The whole language of syncs. Up to white space at both ends it has seven texts,
and each of them is read. Of any other text it is known in advance how it will
be refused: for want of a strategy, for something behind a strategy that is
complete, or else for a name that is none.
-/

namespace Hypermedia

open Grammar

namespace Text

/-- The text without the white space at both ends. -/
def trimmed (text : List Char) : List Char :=
  (text.dropWhile isBlank).rdropWhile isBlank

theorem exists_trimmed (text : List Char) :
    ∃ gap behind, Blank gap ∧ Blank behind ∧ text = gap ++ (trimmed text ++ behind) := by
  refine ⟨text.takeWhile isBlank, (text.dropWhile isBlank).rtakeWhile isBlank, ?_, ?_, ?_⟩
  · exact (maximalRun_takeWhile isBlank text).all
  · intro c hc
    exact List.mem_rtakeWhile_imp hc
  · unfold trimmed
    rw [List.rdropWhile_append_rtakeWhile, List.takeWhile_append_dropWhile]

/-- White space around a text that has none is all that is taken off. -/
theorem trimmed_eq {gap used behind : List Char} (hgap : Blank gap) (hbehind : Blank behind)
    (hne : used ≠ []) (hsolid : ∀ c ∈ used, isBlank c = false) :
    trimmed (gap ++ (used ++ behind)) = used := by
  have hfront : MaximalRun isBlank gap (used ++ behind) := by
    refine ⟨hgap, fun c hc => ?_⟩
    rw [List.head?_append_of_ne_nil _ hne] at hc
    exact hsolid c (List.mem_of_mem_head? hc)
  have hback : MaximalRun isBlank behind.reverse used.reverse := by
    refine ⟨fun c hc => hbehind c (List.mem_reverse.mp hc), fun c hc => ?_⟩
    exact hsolid c (List.mem_reverse.mp (List.mem_of_mem_head? hc))
  unfold trimmed List.rdropWhile
  rw [hfront.dropWhile_eq, List.reverse_append, hback.dropWhile_eq, List.reverse_reverse]

end Text

namespace Sync

/-- The texts of the language and what they stand for. -/
def spellings : List (String × Sync) :=
  [("drop", .drop), ("replace", .replace), ("abort", .abort), ("queue", .queue .last),
    ("queue:last", .queue .last), ("queue:first", .queue .first), ("queue:all", .queue .all)]

theorem solid_of_mem_spellings {word : String} {sync : Sync} (h : (word, sync) ∈ spellings) :
    word.toList ≠ [] ∧ ∀ c ∈ word.toList, Text.isBlank c = false := by
  have hall : ∀ spelling ∈ spellings, spelling.1.toList ≠ [] ∧
      (spelling.1.toList.all fun c => !Text.isBlank c) = true := by
    decide
  obtain ⟨hnonempty, hsolid⟩ := hall _ h
  refine ⟨hnonempty, fun c hc => ?_⟩
  simpa using List.all_eq_true.mp hsolid c hc

end Sync

namespace Grammar

open Sync

theorem StrategyText.mem_spellings {sync : Sync} {used behind : List Char}
    (h : StrategyText sync used behind) : (String.ofList used, sync) ∈ spellings := by
  cases h with
  | single listed run =>
      simp only [singles, List.mem_cons, List.not_mem_nil, or_false] at listed
      rcases listed with rfl | rfl | rfl <;> decide
  | queue run alone => decide
  | mode listed run =>
      simp only [queueModes, List.mem_cons, List.not_mem_nil, or_false] at listed
      rcases listed with rfl | rfl | rfl <;> decide

/-- Each spelling is a strategy, if white space or nothing follows. -/
theorem strategyText_of_mem_spellings {sync : Sync} {word : String} {behind : List Char}
    (hbehind : Blank behind) (h : (word, sync) ∈ spellings) :
    StrategyText sync word.toList behind := by
  have hends : Boundary behind := by
    intro c hc
    exact isBareChar_eq_false_iff.mpr (.inl (hbehind c (List.mem_of_mem_head? hc)))
  have halone : behind.head? ≠ some ':' := by
    intro hcolon
    exact absurd (hbehind ':' (List.mem_of_mem_head? hcolon)) (by decide)
  have hsingle : ∀ other ∈ singles, StrategyText other other.written.toList behind := by
    intro other hother
    refine .single hother (Word.nameRun ?_ hends)
    simp only [singles, List.mem_cons, List.not_mem_nil, or_false] at hother
    rcases hother with rfl | rfl | rfl <;> decide
  have hmode : ∀ mode ∈ queueModes,
      StrategyText (.queue mode) ("queue".toList ++ (':' :: mode.keyword.toList)) behind := by
    intro mode hlisted
    refine .mode hlisted (Word.bareRun ?_ hends)
    cases mode <;> decide
  simp only [spellings, List.mem_cons, List.not_mem_nil, or_false, Prod.mk.injEq] at h
  rcases h with ⟨rfl, rfl⟩ | ⟨rfl, rfl⟩ | ⟨rfl, rfl⟩ | ⟨rfl, rfl⟩ | ⟨rfl, rfl⟩ | ⟨rfl, rfl⟩ |
    ⟨rfl, rfl⟩
  · exact hsingle .drop (by decide)
  · exact hsingle .replace (by decide)
  · exact hsingle .abort (by decide)
  · exact .queue (Word.nameRun (by decide) hends) halone
  · exact hmode .last (by decide)
  · exact hmode .first (by decide)
  · exact hmode .all (by decide)

theorem syncText_iff_mem_spellings {sync : Sync} {text : List Char} :
    SyncText sync text ↔ (String.ofList (Text.trimmed text), sync) ∈ spellings := by
  constructor
  · intro h
    cases h with
    | @intro gap used behind blank strategy ending =>
        have hlisted := strategy.mem_spellings
        obtain ⟨hne, hsolid⟩ := solid_of_mem_spellings hlisted
        rw [String.toList_ofList] at hne hsolid
        rwa [Text.trimmed_eq blank ending hne hsolid]
  · intro h
    obtain ⟨gap, behind, hgap, hbehind, htext⟩ := Text.exists_trimmed text
    have hstrategy := strategyText_of_mem_spellings hbehind h
    rw [String.toList_ofList] at hstrategy
    have hsync := SyncText.intro hgap hstrategy hbehind
    rwa [← htext] at hsync

/-- A strategy, and then more than white space: the text is cut where that
starts. -/
inductive Excess : List Char → List Char → Prop
  | intro {sync : Sync} {found : Char} {gap used pause more : List Char} (blank : Blank gap)
      (strategy : StrategyText sync used (pause ++ found :: more)) (pausing : Blank pause)
      (solid : Text.isBlank found = false) : Excess (gap ++ (used ++ pause)) (found :: more)

/-- Whatever is not white space starts somewhere. -/
theorem exists_solid {text : List Char} (h : ¬ Blank text) :
    ∃ pause found more, text = pause ++ found :: more ∧ Blank pause ∧
      Text.isBlank found = false := by
  have hsplit := List.takeWhile_append_dropWhile (p := Text.isBlank) (l := text)
  have hrun := maximalRun_takeWhile Text.isBlank text
  cases hrest : text.dropWhile Text.isBlank with
  | nil =>
      rw [hrest, List.append_nil] at hsplit
      rw [hsplit] at hrun
      exact absurd hrun.all h
  | cons found more =>
      rw [hrest] at hsplit hrun
      exact ⟨_, found, more, hsplit.symm, hrun.all, hrun.ends found rfl⟩

end Grammar

namespace Sync

open Cursor Reader

variable {text : String}

theorem parse_of_blank (h : Blank text.toList) :
    parse text = .error ⟨Position.start.after text.toList, .unexpectedEnd "sync strategy"⟩ := by
  have hpast := (Cursor.start text).takes_rest.pastBlank_eq h (by simp)
  unfold parse reader
  rw [blank_bind, get_bind, hpast]
  rfl

theorem parse_of_excess {before more : List Char} {found : Char}
    (htext : text.toList = before ++ found :: more) (h : Excess before (found :: more)) :
    parse text = .error ⟨Position.start.after before, .unexpectedChar "end of input" found⟩ := by
  cases h with
  | @intro sync _ gap used pause _ blank strategy pausing solid =>
      obtain ⟨d, htakes, hrest⟩ : ∃ d : Cursor,
          (Cursor.start text).Takes (gap ++ (used ++ pause)) d ∧ d.rest = found :: more :=
        ⟨⟨Position.start.after (gap ++ (used ++ pause)), found :: more⟩, ⟨htext, rfl⟩, rfl⟩
      obtain ⟨here, hgap, hbehind⟩ := htakes.split
      obtain ⟨stop, hused, hpause⟩ := hbehind.split
      rw [← hrest, ← hpause.rest_eq] at strategy
      have hpast : stop.pastRun Text.isBlank = d := by
        apply hpause.pastBlank_eq pausing
        intro c hc
        rw [hrest] at hc
        cases hc
        exact solid
      have hend : ¬ d.atEnd = true := by simp [atEnd, hrest]
      unfold parse
      rw [reader_run_of_strategyText hgap blank hused strategy, hpast, if_neg hend]
      unfold missing
      rw [hrest, htakes.position_eq]
      rfl

/-- Every text is read, or lacks a strategy, or has an excess, or is refused for
a name. -/
theorem parse_cases (text : String) :
    (∃ sync, parse text = .ok sync) ∨
      (Blank text.toList ∧
        parse text = .error ⟨Position.start.after text.toList, .unexpectedEnd "sync strategy"⟩) ∨
      (∃ before found more, text.toList = before ++ found :: more ∧ Excess before (found :: more) ∧
        parse text = .error ⟨Position.start.after before, .unexpectedChar "end of input" found⟩) ∨
      ∃ position name, parse text = .error ⟨position, .invalidModifier name⟩ := by
  cases hparse : parse text with
  | ok sync => exact .inl ⟨sync, rfl⟩
  | error e =>
      rw [← hparse]
      obtain ⟨used, here, htakes, -, hfault⟩ := parse_error_syncFault hparse
      have htext : text.toList = used ++ here.rest := htakes.rest_eq
      obtain ⟨position, cause⟩ := e
      generalize here.rest = behind at htext hfault
      cases hfault with
      | missing blank =>
          rw [List.append_nil] at htext
          rw [← htext] at blank
          exact .inr (.inl ⟨blank, parse_of_blank blank⟩)
      | unknown blank => exact .inr (.inr (.inr ⟨position, _, hparse⟩))
      | mode blank => exact .inr (.inr (.inr ⟨position, _, hparse⟩))
      | @more sync found gap used pause more blank strategy pausing =>
          have hsplit : text.toList = gap ++ (used ++ (pause ++ found :: more)) := by
            simpa using htext
          generalize pause ++ found :: more = rest at hsplit strategy
          by_cases hrest : Blank rest
          · have hsync := SyncText.intro blank strategy hrest
            rw [← hsplit, ← parse_eq_ok_iff_syncText, hparse] at hsync
            cases hsync
          · obtain ⟨pause, found, more, rfl, hpause, hfound⟩ := exists_solid hrest
            have hexcess := Excess.intro blank strategy hpause hfound
            have hcut : text.toList = gap ++ (used ++ pause) ++ found :: more := by simp [hsplit]
            exact .inr (.inr (.inl ⟨_, found, more, hcut, hexcess, parse_of_excess hcut hexcess⟩))

theorem parse_written (sync : Sync) (h : ∃ word, (word, sync) ∈ spellings) :
    parse sync.written = .ok sync := by
  have hall : ∀ spelling ∈ spellings, (spelling.2.written, spelling.2) ∈ spellings := by decide
  obtain ⟨word, hword⟩ := h
  have hwritten := hall _ hword
  obtain ⟨hne, hsolid⟩ := solid_of_mem_spellings hwritten
  have htrimmed := Text.trimmed_eq blank_nil blank_nil hne hsolid
  rw [List.nil_append, List.append_nil] at htrimmed
  rw [parse_eq_ok_iff_syncText, syncText_iff_mem_spellings, htrimmed, String.ofList_toList]
  exact hwritten

/-- Which outcome a text has, in each of the four ways. The seven texts of the
language are read, up to white space. White space lacks a strategy, an excess is
refused where it starts, and all other texts are refused for a name. What was
read is read again from its written form. -/
theorem parse_outcome_iff (text : String) :
    (∀ sync, parse text = .ok sync ↔
      (String.ofList (Text.trimmed text.toList), sync) ∈ spellings) ∧
    (∀ position expected, parse text = .error ⟨position, .unexpectedEnd expected⟩ ↔
      Blank text.toList ∧ position = Position.start.after text.toList ∧
        expected = "sync strategy") ∧
    (∀ position expected found, parse text = .error ⟨position, .unexpectedChar expected found⟩ ↔
      ∃ before more, text.toList = before ++ found :: more ∧ Excess before (found :: more) ∧
        position = Position.start.after before ∧ expected = "end of input") ∧
    ((∃ position name, parse text = .error ⟨position, .invalidModifier name⟩) ↔
      (∀ sync, (String.ofList (Text.trimmed text.toList), sync) ∉ spellings) ∧
        ¬ Blank text.toList ∧
        ¬ ∃ before found more, text.toList = before ++ found :: more ∧
          Excess before (found :: more)) ∧
    ∀ sync, parse text = .ok sync → parse sync.written = .ok sync := by
  have hread : ∀ sync, parse text = .ok sync ↔
      (String.ofList (Text.trimmed text.toList), sync) ∈ spellings :=
    fun sync => parse_eq_ok_iff_syncText.trans syncText_iff_mem_spellings
  have hcases := parse_cases text
  refine ⟨hread, fun position expected => ⟨fun h => ?_, ?_⟩,
    fun position expected found => ⟨fun h => ?_, ?_⟩, ⟨?_, ?_⟩, fun sync h => ?_⟩
  · rw [h] at hcases
    simpa using hcases
  · rintro ⟨hblank, rfl, rfl⟩
    exact parse_of_blank hblank
  · rw [h] at hcases
    rcases hcases with ⟨-, ⟨⟩⟩ | ⟨-, ⟨⟩⟩ | ⟨before, _, more, htext, hexcess, ⟨⟩⟩ | ⟨-, -, ⟨⟩⟩
    exact ⟨before, more, htext, hexcess, rfl, rfl⟩
  · rintro ⟨before, more, htext, hexcess, rfl, rfl⟩
    exact parse_of_excess htext hexcess
  · rintro ⟨position, name, h⟩
    refine ⟨fun sync hlisted => ?_, fun hblank => ?_, ?_⟩
    · rw [(hread sync).mpr hlisted] at h
      cases h
    · rw [parse_of_blank hblank] at h
      cases h
    · rintro ⟨before, found, more, htext, hexcess⟩
      rw [parse_of_excess htext hexcess] at h
      cases h
  · rintro ⟨hunlisted, hsolid, hexact⟩
    rcases hcases with ⟨sync, h⟩ | ⟨hblank, -⟩ | ⟨before, found, more, htext, hexcess, -⟩ | hname
    · exact absurd ((hread sync).mp h) (hunlisted sync)
    · exact absurd hblank hsolid
    · exact absurd ⟨before, found, more, htext, hexcess⟩ hexact
    · exact hname
  · exact parse_written sync ⟨_, (hread sync).mp h⟩

/-- A mode between wide blanks, two lines of nothing, something behind a mode,
and a name that goes on behind a mode. -/
theorem parse_outcome_iff_around_modes :
    parse "\u3000queue:all\u00a0" = .ok (.queue .all) ∧
      parse (Sync.queue .all).written = .ok (.queue .all) ∧
      parse "\u2003\n" = .error ⟨⟨4, 2, 1⟩, .unexpectedEnd "sync strategy"⟩ ∧
      parse "\u00a0queue:last ,é" = .error ⟨⟨13, 1, 13⟩, .unexpectedChar "end of input" ','⟩ ∧
      parse "queue:lasté" = .error ⟨⟨6, 1, 7⟩, .invalidModifier "lasté"⟩ ∧
      ¬ ∃ before found more, "queue:lasté".toList = before ++ found :: more ∧
        Excess before (found :: more) := by
  have hall : parse "\u3000queue:all\u00a0" = .ok (.queue .all) :=
    ((parse_outcome_iff _).1 _).mpr (by decide)
  have hgap : Blank ['\u00a0'] := by decide
  have hlast : StrategyText (.queue .last) _ ([' '] ++ [',', 'é']) := .mode (by decide) (by decide)
  have hexcess : Excess _ [',', 'é'] := .intro hgap hlast blank_space (by decide)
  have hmode : parse "queue:lasté" = .error ⟨⟨6, 1, 7⟩, .invalidModifier "lasté"⟩ := by
    decide +kernel
  exact ⟨hall, (parse_outcome_iff _).2.2.2.2 _ hall,
    ((parse_outcome_iff _).2.1 _ _).mpr (by decide),
    ((parse_outcome_iff _).2.2.1 _ _ _).mpr ⟨_, _, by decide, hexcess, by decide, rfl⟩, hmode,
    ((parse_outcome_iff _).2.2.2.1.mp ⟨_, _, hmode⟩).2.2⟩

end Sync

end Hypermedia
