import Hypermedia.Proofs.Reader.Fault
import Hypermedia.Sync

/-!
The language of syncs: one strategy, and white space around it. A bare queue
keeps the last request only where no colon follows, so what stands behind a
strategy decides which strategy it is, and there may be nothing but white space
behind either.
-/

namespace Hypermedia

namespace Sync

/-- The strategies that are a single word. -/
def singles : List Sync := [.drop, .replace, .abort]

theorem written_of_ofKeyword? {word : String} {sync : Sync} (h : ofKeyword? word = some sync) :
    sync ∈ singles ∧ sync.written = word :=
  ⟨List.mem_of_find?_eq_some h, Grammar.keyword_of_find? h⟩

theorem ofKeyword?_written {sync : Sync} (h : sync ∈ singles) :
    ofKeyword? sync.written = some sync := by
  simp only [singles, List.mem_cons, List.not_mem_nil, or_false] at h
  rcases h with rfl | rfl | rfl <;> decide

theorem mode_of_find? {word : String} {mode : QueueMode}
    (h : (queueModes.find? fun mode => mode.keyword == word) = some mode) :
    mode ∈ queueModes ∧ mode.keyword = word :=
  ⟨List.mem_of_find?_eq_some h, Grammar.keyword_of_find? h⟩

theorem find?_keyword {mode : QueueMode} (h : mode ∈ queueModes) :
    (queueModes.find? fun other => other.keyword == mode.keyword) = some mode := by
  simp only [queueModes, List.mem_cons, List.not_mem_nil, or_false] at h
  rcases h with rfl | rfl | rfl <;> decide

end Sync

namespace Grammar

open Sync
open ParseError (Cause)

inductive StrategyText : Sync → List Char → List Char → Prop
  | single {sync : Sync} {rest : List Char} (listed : sync ∈ singles)
      (name : MaximalRun isNameChar sync.written.toList rest) :
      StrategyText sync sync.written.toList rest
  | queue {rest : List Char} (name : MaximalRun isNameChar "queue".toList rest)
      (alone : rest.head? ≠ some ':') : StrategyText (.queue .last) "queue".toList rest
  | mode {mode : QueueMode} {rest : List Char} (listed : mode ∈ queueModes)
      (value : MaximalRun isBareChar mode.keyword.toList rest) :
      StrategyText (.queue mode) ("queue".toList ++ (':' :: mode.keyword.toList)) rest

inductive SyncText : Sync → List Char → Prop
  | intro {sync : Sync} {gap used behind : List Char} (blank : Blank gap)
      (strategy : StrategyText sync used behind) (ending : Blank behind) :
      SyncText sync (gap ++ (used ++ behind))

/-- A strategy is missing or unknown, its mode is unknown, or there is more
behind it. -/
inductive SyncFault : Cause → List Char → List Char → Prop
  | missing {gap : List Char} (blank : Blank gap) :
      SyncFault (.unexpectedEnd "sync strategy") gap []
  | unknown {name : String} {gap rest : List Char} (blank : Blank gap)
      (bare : ∀ c ∈ name.toList, isBareChar c = true)
      (solid : ∀ c ∈ (name.toList ++ rest).head?, Text.isBlank c = false) :
      SyncFault (.invalidModifier name) gap (name.toList ++ rest)
  | mode {mode : String} {gap rest : List Char} (blank : Blank gap)
      (bare : ∀ c ∈ mode.toList, isBareChar c = true) :
      SyncFault (.invalidModifier mode) (gap ++ ("queue".toList ++ [':'])) (mode.toList ++ rest)
  | more {sync : Sync} {found : Char} {gap used pause more : List Char} (blank : Blank gap)
      (strategy : StrategyText sync used (pause ++ found :: more)) (pausing : Blank pause)
      (solid : Text.isBlank found = false) :
      SyncFault (.unexpectedChar "end of input" found) (gap ++ (used ++ pause)) (found :: more)

variable {cause : Cause} {used behind : List Char}

theorem StrategyText.startsLike {sync : Sync} {rest' rest : List Char}
    (h : StrategyText sync used rest) (hlike : StartsLike rest' rest) :
    StrategyText sync used rest' := by
  cases h with
  | single listed name => exact .single listed (name.startsLike hlike)
  | queue name alone => exact .queue (name.startsLike hlike) fun h => alone (hlike ':' h)
  | mode listed value => exact .mode listed (value.startsLike hlike)

/-- A strategy starts with a name. -/
theorem StrategyText.head {sync : Sync} {rest : List Char} (h : StrategyText sync used rest) :
    ∃ c more, used = c :: more ∧ isNameChar c = true := by
  cases h with
  | single listed name =>
      simp only [singles, List.mem_cons, List.not_mem_nil, or_false] at listed
      rcases listed with rfl | rfl | rfl <;> exact ⟨_, _, rfl, by decide⟩
  | queue name alone => exact ⟨_, _, rfl, by decide⟩
  | mode listed value => exact ⟨_, _, rfl, by decide⟩

theorem SyncFault.evidence (h : SyncFault cause used behind) : Evidence used behind cause := by
  cases h with
  | missing blank => rfl
  | unknown blank => exact List.prefix_append _ _
  | mode blank => exact List.prefix_append _ _
  | more blank strategy pausing => rfl

/-- Up to a fault, a sync is white space, a queue that lacks its mode, or all
that it should be. -/
theorem SyncFault.completes (h : SyncFault cause used behind) :
    ∃ tail sync, SyncText sync (used ++ tail) := by
  have hdrop : StrategyText .drop "drop".toList [] :=
    .single (by decide) (Word.nameRun (by decide) nofun)
  cases h with
  | missing blank => exact ⟨"drop".toList, .drop, .intro blank hdrop blank_nil⟩
  | unknown blank => exact ⟨"drop".toList, .drop, .intro blank hdrop blank_nil⟩
  | mode blank =>
      have hall : StrategyText (.queue .all) ("queue".toList ++ (':' :: "all".toList)) [] :=
        .mode (by decide) (Word.bareRun (by decide) nofun)
      have hsync := SyncText.intro blank hall blank_nil
      exact ⟨"all".toList, .queue .all, by simpa using hsync⟩
  | @more sync found gap used pause more blank strategy pausing =>
      have hlike : StartsLike pause (pause ++ found :: more) := by
        have hnil := (startsLike_nil (found :: more)).append pause
        rwa [List.append_nil] at hnil
      refine ⟨[], sync, ?_⟩
      rw [List.append_nil]
      exact .intro blank (strategy.startsLike hlike) pausing

end Grammar

namespace Sync

open Cursor Grammar Reader
open ParseError (Cause)

variable {c d : Cursor} {e : ParseError} {start : Position} {word : String} {sync : Sync}

theorem queueReader_eq_ok_iff :
    queueReader c = .ok sync d ↔
      ∃ mode, sync = .queue mode ∧ mode ∈ queueModes ∧ c.Takes mode.keyword.toList d ∧
        MaximalRun isBareChar mode.keyword.toList d.rest := by
  unfold queueReader
  rw [get_bind]
  constructor
  · intro h
    obtain ⟨text, here, htext, h⟩ := ok_of_bind h
    cases hmode : queueModes.find? fun mode => mode.keyword == text with
    | none =>
        simp only [hmode] at h
        cases h
    | some mode =>
        simp only [hmode] at h
        cases h
        obtain ⟨hlisted, rfl⟩ := mode_of_find? hmode
        obtain ⟨htakes, hrun⟩ := bareToken_eq_ok_iff.mp htext
        exact ⟨mode, rfl, hlisted, htakes, hrun⟩
  · rintro ⟨mode, rfl, hlisted, htakes, hrun⟩
    rw [bind_of_ok (bareToken_eq_ok_iff.mpr ⟨htakes, hrun⟩)]
    simp only [find?_keyword hlisted]
    rfl

theorem queueReader_error (h : queueReader c = .error e d) :
    ∃ mode rest, c.rest = mode.toList ++ rest ∧ (∀ x ∈ mode.toList, isBareChar x = true) ∧
      e = ⟨c.position, .invalidModifier mode⟩ := by
  unfold queueReader at h
  rw [get_bind] at h
  rcases error_of_bind h with ⟨here, htext⟩ | ⟨text, here, htext, h⟩
  · exact absurd htext run_ne_error
  · obtain ⟨htakes, hrun⟩ := bareToken_eq_ok_iff.mp htext
    cases hmode : queueModes.find? fun mode => mode.keyword == text with
    | some mode =>
        simp only [hmode] at h
        cases h
    | none =>
        simp only [hmode] at h
        cases h
        exact ⟨text, _, htakes.rest_eq, hrun.all, rfl⟩

/-- A word and what is read behind it make up a strategy. -/
theorem strategyReader_sound (hrun : MaximalRun isNameChar word.toList c.rest)
    (h : strategyReader start word c = .ok sync d) :
    ∃ used, c.Takes used d ∧ StrategyText sync (word.toList ++ used) d.rest := by
  unfold strategyReader at h
  cases hsingle : ofKeyword? word with
  | some single =>
      rw [hsingle] at h
      cases h
      obtain ⟨hlisted, rfl⟩ := written_of_ofKeyword? hsingle
      refine ⟨[], c.takes_nil, ?_⟩
      rw [List.append_nil]
      exact .single hlisted hrun
  | none =>
      rw [hsingle] at h
      dsimp only at h
      by_cases hqueue : word = "queue"
      · rw [if_pos hqueue] at h
        subst hqueue
        obtain ⟨found, here, hfound, h⟩ := ok_of_bind h
        cases found with
        | true =>
            have hcolon := takes_of_literal? hfound
            obtain ⟨mode, rfl, hlisted, htakes, hvalue⟩ := queueReader_eq_ok_iff.mp h
            exact ⟨_, hcolon.trans htakes, .mode hlisted hvalue⟩
        | false =>
            obtain ⟨rfl, halone⟩ := literal?_absent rfl hfound
            cases h
            refine ⟨[], c.takes_nil, ?_⟩
            rw [List.append_nil]
            exact .queue hrun halone
      · rw [if_neg hqueue] at h
        obtain ⟨tail, here, htail, h⟩ := ok_of_bind h
        cases h

theorem strategyReader_complete {used : List Char} (htakes : c.Takes used d)
    (htext : StrategyText sync used d.rest) :
    ∃ word here, c.isAt isNameChar = true ∧ name c = .ok word here ∧
      ∀ start, strategyReader start word here = .ok sync d := by
  cases htext with
  | single listed run =>
      have hword : Word sync.written := by
        simp only [singles, List.mem_cons, List.not_mem_nil, or_false] at listed
        rcases listed with rfl | rfl | rfl <;> decide
      have hlist : sync.written.toList ≠ [] := mt String.toList_eq_nil_iff.mp hword.nonempty
      refine ⟨_, d, htakes.isAt_of_all hlist run.all,
        name_eq_ok_iff.mpr ⟨htakes, hword.nonempty, run⟩, fun start => ?_⟩
      unfold strategyReader
      rw [ofKeyword?_written listed]
      rfl
  | queue run alone =>
      refine ⟨"queue", d, htakes.isAt_of_all (by decide) run.all,
        name_eq_ok_iff.mpr ⟨htakes, by decide, run⟩, fun start => ?_⟩
      have hsingle : ofKeyword? "queue" = none := by decide
      unfold strategyReader
      rw [hsingle]
      exact bind_of_ok (literal?_of_absent rfl alone)
  | @mode mode _ listed value =>
      obtain ⟨behind, here, hat, hname, hcolon, hused⟩ := key_of_takes (by decide) htakes
      have hsingle : ofKeyword? "queue" = none := by decide
      refine ⟨"queue", behind, hat, hname, fun start => ?_⟩
      unfold strategyReader
      rw [hsingle]
      have hmode := queueReader_eq_ok_iff.mpr ⟨mode, rfl, listed, hused, value⟩
      exact (bind_of_ok hcolon).trans hmode

/-- An unknown word is refused with all that touches it, and where it starts.
An unknown mode is refused behind the colon. -/
theorem strategyReader_error (h : strategyReader start word c = .error e d) :
    (∃ tail rest, c.rest = tail.toList ++ rest ∧ (∀ x ∈ tail.toList, isBareChar x = true) ∧
        e = ⟨start, .invalidModifier (word ++ tail)⟩) ∨
      ∃ mode rest here, word = "queue" ∧ c.Takes [':'] here ∧ here.rest = mode.toList ++ rest ∧
        (∀ x ∈ mode.toList, isBareChar x = true) ∧ e = ⟨here.position, .invalidModifier mode⟩ := by
  unfold strategyReader at h
  cases hsingle : ofKeyword? word with
  | some single =>
      rw [hsingle] at h
      cases h
  | none =>
      rw [hsingle] at h
      dsimp only at h
      by_cases hqueue : word = "queue"
      · rw [if_pos hqueue] at h
        rcases error_of_bind h with ⟨here, hfound⟩ | ⟨found, here, hfound, h⟩
        · exact absurd hfound literal?_ne_error
        · cases found with
          | true =>
              have hcolon := takes_of_literal? hfound
              obtain ⟨mode, rest, hrest, hbare, he⟩ := queueReader_error h
              exact .inr ⟨mode, rest, here, hqueue, hcolon, hrest, hbare, he⟩
          | false => cases h
      · rw [if_neg hqueue] at h
        rcases error_of_bind h with ⟨here, htail⟩ | ⟨tail, here, htail, h⟩
        · exact absurd htail run_ne_error
        · obtain ⟨htakes, hrun⟩ := bareToken_eq_ok_iff.mp htail
          cases h
          exact .inl ⟨tail, _, htakes.rest_eq, hrun.all, rfl⟩

theorem reader_sound (h : reader c = .ok sync d) : SyncText sync c.rest := by
  unfold reader at h
  rw [blank_bind, get_bind] at h
  have hgap := c.takes_pastRun Text.isBlank
  have hblank := (c.maximalRun_run Text.isBlank).all
  generalize c.pastRun Text.isBlank = here at h hgap
  by_cases hend : here.atEnd = true
  · rw [if_pos hend] at h
    cases h
  · rw [if_neg hend] at h
    by_cases hat : here.isAt isNameChar = true
    · rw [if_pos hat] at h
      obtain ⟨word, behind, hword, h⟩ := ok_of_bind h
      obtain ⟨htakes, -, hrun⟩ := name_eq_ok_iff.mp hword
      obtain ⟨found, stop, hfound, h⟩ := ok_of_bind h
      obtain ⟨used, hused, htext⟩ := strategyReader_sound hrun hfound
      rw [blank_bind, get_bind] at h
      by_cases hlast : (stop.pastRun Text.isBlank).atEnd = true
      · rw [if_pos hlast] at h
        cases h
        have hrest : (stop.pastRun Text.isBlank).rest = [] := List.isEmpty_iff.mp hlast
        have hending : Blank stop.rest := by
          rw [(stop.takes_pastRun Text.isBlank).rest_eq, hrest, List.append_nil]
          exact (stop.maximalRun_run Text.isBlank).all
        rw [hgap.rest_eq, (htakes.trans hused).rest_eq]
        exact .intro hblank htext hending
      · rw [if_neg hlast] at h
        cases h
    · rw [if_neg hat] at h
      obtain ⟨word, behind, hword, h⟩ := ok_of_bind h
      cases h

/-- Behind white space a strategy is read, and what is behind the next white
space decides between it and an error. -/
theorem reader_run_of_strategyText {gap used : List Char} {here : Cursor}
    (hgap : c.Takes gap here) (hblank : Blank gap) (hused : here.Takes used d)
    (hstrategy : StrategyText sync used d.rest) :
    reader c =
      if (d.pastRun Text.isBlank).atEnd then .ok sync (d.pastRun Text.isBlank)
      else .error ((d.pastRun Text.isBlank).missing "end of input") (d.pastRun Text.isBlank) := by
  obtain ⟨word, stop, hat, hname, hread⟩ := strategyReader_complete hused hstrategy
  obtain ⟨first, more, rfl, hfirst⟩ := hstrategy.head
  have hpast := hgap.pastBlank_of_next hblank hused (not_isBlank_of_isNameChar hfirst)
  have hend : ¬ here.atEnd = true := by simp [atEnd, hused.rest_eq]
  unfold reader
  rw [blank_bind, get_bind, hpast, if_neg hend, if_pos hat, bind_of_ok hname,
    bind_of_ok (hread here.position), blank_bind, get_bind]
  split <;> rfl

theorem reader_complete (h : SyncText sync c.rest) : ∃ d, reader c = .ok sync d := by
  generalize hrest : c.rest = text at h
  cases h with
  | @intro gap used behind blank strategy ending =>
      obtain ⟨d, htakes, rfl⟩ : ∃ d : Cursor, c.Takes (gap ++ used) d ∧ d.rest = behind :=
        ⟨⟨c.position.after (gap ++ used), behind⟩, ⟨by simp [hrest], rfl⟩, rfl⟩
      obtain ⟨here, hgap, hused⟩ := htakes.split
      have hlast := d.takes_rest.pastBlank_eq ending (by simp)
      refine ⟨d.pastRun Text.isBlank, ?_⟩
      rw [reader_run_of_strategyText hgap blank hused strategy, hlast]
      rfl

theorem reader_error (h : reader c = .error e d) : c.Faults SyncFault e := by
  unfold reader at h
  rw [blank_bind, get_bind] at h
  have hgap := c.takes_pastRun Text.isBlank
  obtain ⟨hblank, hsolid⟩ := c.maximalRun_run Text.isBlank
  generalize c.pastRun Text.isBlank = here at h hgap hsolid
  have hunknown : ∀ {text : String} {rest : List Char}, here.rest = text.toList ++ rest →
      (∀ x ∈ text.toList, isBareChar x = true) →
        c.Faults SyncFault ⟨here.position, .invalidModifier text⟩ := by
    intro text rest hrest hbare
    apply hgap.faults_behind
    rw [hrest] at hsolid ⊢
    exact .unknown hblank hbare hsolid
  by_cases hend : here.atEnd = true
  · rw [if_pos hend] at h
    cases h
    have hrest : d.rest = [] := List.isEmpty_iff.mp hend
    unfold Cursor.missing
    rw [hrest]
    apply hgap.faults_behind
    rw [hrest]
    exact .missing hblank
  · rw [if_neg hend] at h
    by_cases hat : here.isAt isNameChar = true
    · rw [if_pos hat] at h
      rcases error_of_bind h with ⟨behind, hname⟩ | ⟨word, behind, hword, h⟩
      · rw [name_run, if_pos hat] at hname
        cases hname
      obtain ⟨htakes, -, hrun⟩ := name_eq_ok_iff.mp hword
      rcases error_of_bind h with ⟨stop, hstrategy⟩ | ⟨sync, stop, hstrategy, h⟩
      · rcases strategyReader_error hstrategy with
          ⟨tail, rest, hrest, hbare, rfl⟩ | ⟨mode, rest, colon, rfl, hcolon, hrest, hbare, rfl⟩
        · apply hunknown
          · rw [htakes.rest_eq, hrest, String.toList_append, List.append_assoc]
          · intro x hx
            rw [String.toList_append] at hx
            rcases List.mem_append.mp hx with hword | htail
            · exact isBareChar_of_isNameChar (hrun.all x hword)
            · exact hbare x htail
        · apply (hgap.trans (htakes.trans hcolon)).faults_behind
          rw [hrest]
          exact .mode hblank hbare
      · obtain ⟨used, hused, htext⟩ := strategyReader_sound hrun hstrategy
        rw [blank_bind, get_bind] at h
        have hpause := stop.takes_pastRun Text.isBlank
        obtain ⟨hpausing, hends⟩ := stop.maximalRun_run Text.isBlank
        generalize stop.pastRun Text.isBlank = last at h hpause hends
        by_cases hlast : last.atEnd = true
        · rw [if_pos hlast] at h
          cases h
        · rw [if_neg hlast] at h
          cases h
          cases hrest : d.rest with
          | nil => simp [atEnd, hrest] at hlast
          | cons found more =>
              unfold Cursor.missing
              rw [hrest]
              apply (hgap.trans ((htakes.trans hused).trans hpause)).faults_behind
              rw [hpause.rest_eq, hrest] at htext
              rw [hrest]
              exact .more hblank htext hpausing (hends found (by rw [hrest]; rfl))
    · rw [if_neg hat] at h
      rcases error_of_bind h with ⟨behind, hword⟩ | ⟨word, behind, hword, h⟩
      · exact absurd hword run_ne_error
      · obtain ⟨htakes, hrun⟩ := bareToken_eq_ok_iff.mp hword
        cases h
        exact hunknown htakes.rest_eq hrun.all

/-- A text is a sync exactly if it is in the grammar. -/
theorem parse_eq_ok_iff_syncText {text : String} :
    parse text = .ok sync ↔ SyncText sync text.toList := by
  unfold parse
  constructor
  · intro h
    cases hread : reader (.start text) with
    | ok found d =>
        rw [hread] at h
        cases h
        exact reader_sound hread
    | error e d =>
        rw [hread] at h
        cases h
  · intro h
    obtain ⟨d, hread⟩ := reader_complete (c := .start text) h
    rw [hread]

theorem parse_error_syncFault {text : String} (h : parse text = .error e) :
    (Cursor.start text).Faults SyncFault e := by
  unfold parse at h
  cases hread : reader (.start text) with
  | ok found d =>
      rw [hread] at h
      cases h
  | error f d =>
      rw [hread] at h
      cases h
      exact reader_error hread

end Sync

end Hypermedia
