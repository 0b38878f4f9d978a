import Mathlib.Control.Monad.Basic
import Hypermedia.Proofs.Token
import Hypermedia.Proofs.Trigger.Recognition

/-!
Which triggers can be written down. Writing is tied to the grammar and not to
the reader: a value that is writable has its written form among the texts of
the grammar, and every value that has any text at all is writable. So the
written form is read back exactly if some text is read as the value.
-/

namespace Hypermedia.Trigger

open Grammar

/-- A selector with a text. A text that has to be quoted holds one of the two
quotes at most, and the words of the grammar have to be quoted where they are
not behind a relation. -/
def Selector.Writable : Selector → Prop
  | .scope _ => True
  | .relative _ text => text ≠ "" ∧ Token.Quotable [] text
  | .css text => text ≠ "" ∧ Token.Quotable Selector.reserved text

/-- A modifier with a text. A filter has no way to say a closing bracket. -/
def Modifier.Writable : Modifier → Prop
  | .filter condition => ']' ∉ condition.toList
  | .element _ selector => selector.Writable
  | _ => True

/-- A clause with a text: an interval follows the event `every` at once. -/
structure Clause.Writable (clause : Clause) : Prop where
  nonempty : clause.event ≠ ""
  name : ∀ c ∈ clause.event.toList, isNameChar c = true
  modifiers : ∀ modifier ∈ clause.modifiers, modifier.Writable
  polling : ∀ (index : Nat) (interval : Duration),
    clause.modifiers[index]? = some (.every interval) → index = 0 ∧ clause.event = "every"

/-- A modifier that a clause may have anywhere. -/
def Modifier.Free (modifier : Modifier) : Prop :=
  ∀ interval, modifier ≠ .every interval

/-- The modifiers of a clause as they stand behind its event. -/
def Modifier.spaced (modifiers : List Modifier) : List Char :=
  modifiers.flatMap fun modifier => ' ' :: modifier.written.toList

theorem Modifier.spaced_cons (modifier : Modifier) (others : List Modifier) :
    Modifier.spaced (modifier :: others) =
      [' '] ++ (modifier.written.toList ++ Modifier.spaced others) := by
  simp [Modifier.spaced]

theorem Clause.toList_written (clause : Clause) :
    clause.written.toList = clause.event.toList ++ Modifier.spaced clause.modifiers := by
  unfold Clause.written Modifier.spaced
  rw [Token.toList_intercalate_space, Token.spaced, List.flatMap_map]

theorem written_singleton (clause : Clause) : written [clause] = clause.written := by
  simp [written]

theorem toList_written_cons_cons (first second : Clause) (others : List Clause) :
    (written (first :: second :: others)).toList =
      first.written.toList ++ ',' :: ([' '] ++ (written (second :: others)).toList) := by
  simp [written]

/-- An interval stands first and alone, or not at all. -/
theorem Clause.Writable.cases {clause : Clause} (h : clause.Writable) :
    (∀ modifier ∈ clause.modifiers, modifier.Free) ∨
      ∃ interval others, clause = ⟨"every", .every interval :: others⟩ ∧
        ∀ modifier ∈ others, modifier.Free := by
  obtain ⟨event, modifiers⟩ := clause
  have hlater : ∀ modifier ∈ modifiers.tail, modifier.Free := by
    rintro modifier hmem interval rfl
    obtain ⟨index, hindex⟩ := List.getElem?_of_mem hmem
    rw [List.getElem?_tail] at hindex
    have hfirst := (h.polling (index + 1) interval hindex).1
    omega
  cases modifiers with
  | nil =>
      left
      intro modifier hmem
      cases hmem
  | cons modifier others =>
      by_cases hfree : modifier.Free
      · left
        intro other hmem
        rcases List.mem_cons.mp hmem with rfl | hmem
        · exact hfree
        · exact hlater other hmem
      · right
        have hevery : ∃ interval, modifier = .every interval := by
          simpa [Modifier.Free] using hfree
        obtain ⟨interval, rfl⟩ := hevery
        have hevent : event = "every" := (h.polling 0 interval rfl).2
        exact ⟨interval, others, by rw [hevent], hlater⟩

end Hypermedia.Trigger

namespace Hypermedia.Grammar

open Trigger

theorem boundary_blank (rest : List Char) : Boundary (' ' :: rest) :=
  boundary_cons (by decide)

theorem selectorText_written {selector : Selector} {rest : List Char}
    (h : selector.Writable) (hrest : Boundary rest) :
    SelectorText selector selector.written.toList rest := by
  cases selector with
  | scope named =>
      exact .scope ((word_scope named).bareRun hrest)
  | relative how text =>
      obtain ⟨hne, hquotable⟩ := h
      have hwritten : (Selector.relative how text).written.toList =
          how.keyword.toList ++ ([' '] ++ (Token.written [] text).toList) := by
        simp [Selector.written]
      rw [hwritten]
      refine .relative ?_ blank_space (tokenText_written hquotable hrest) hne
      exact (word_relation how).bareRun (boundary_blank _)
  | css text =>
      obtain ⟨hne, hquotable⟩ := h
      have hwritten : (Selector.css text).written = Token.written Selector.reserved text := rfl
      rw [hwritten]
      by_cases hneeds : Token.needsQuotes Selector.reserved text = true
      · exact .quoted (quotedText_of_quotable hneeds hquotable) hne
      · obtain ⟨hrun, hunquoted, hfree⟩ := bare_of_plain hneeds hrest
        rw [written_of_plain hneeds]
        exact .css hrun hne hunquoted hfree

theorem writable_of_selectorText {selector : Selector} {used rest : List Char}
    (h : SelectorText selector used rest) : selector.Writable := by
  cases h with
  | quoted hquoted hne => exact ⟨hne, quotable_of_quotedText hquoted _⟩
  | scope hrun => trivial
  | relative hword hblank htoken hne => exact ⟨hne, quotable_of_tokenText htoken⟩
  | css hrun hne hunquoted hfree => exact ⟨hne, quotable_of_bare hrun hunquoted hfree⟩

theorem modifierText_written {modifier : Modifier} {rest : List Char}
    (h : modifier.Writable) (hfree : modifier.Free) (hrest : Boundary rest) :
    ModifierText modifier modifier.written.toList rest := by
  cases modifier with
  | flag word =>
      apply ModifierText.flag ((word_flag word).nameRun hrest)
      intro hcolon
      exact absurd (hrest ':' hcolon) (by decide)
  | pace kind time =>
      have hwritten : (Modifier.pace kind time).written.toList =
          kind.keyword.toList ++ (':' :: time.written.toList) := by
        simp [Modifier.written]
      rw [hwritten]
      exact .pace (durationText_written time hrest)
  | element role selector =>
      have hwritten : (Modifier.element role selector).written.toList =
          role.keyword.toList ++ (':' :: selector.written.toList) := by
        simp [Modifier.written]
      rw [hwritten]
      exact .element (selectorText_written h hrest)
  | filter condition =>
      have hwritten : (Modifier.filter condition).written.toList =
          '[' :: (condition.toList ++ [']']) := by
        simp [Modifier.written]
      rw [hwritten]
      exact .filter h
  | queue mode =>
      have hwritten : (Modifier.queue mode).written.toList =
          "queue".toList ++ (':' :: mode.keyword.toList) := by
        simp [Modifier.written]
      rw [hwritten]
      exact .queue ((word_queueMode mode).bareRun hrest)
  | every interval => exact absurd rfl (hfree interval)

theorem writable_of_modifierText {modifier : Modifier} {used rest : List Char}
    (h : ModifierText modifier used rest) : modifier.Writable ∧ modifier.Free := by
  cases h with
  | filter habsent => exact ⟨habsent, nofun⟩
  | flag hrun halone => exact ⟨trivial, nofun⟩
  | pace hvalue => exact ⟨trivial, nofun⟩
  | element hvalue => exact ⟨writable_of_selectorText hvalue, nofun⟩
  | queue hvalue => exact ⟨trivial, nofun⟩

/-- Every modifier is written with a space before it, so each one ends at a
boundary, whatever comes next. -/
theorem boundary_spaced (modifiers : List Modifier) {rest : List Char} (hrest : Boundary rest) :
    Boundary (Modifier.spaced modifiers ++ rest) := by
  cases modifiers with
  | nil => exact hrest
  | cons modifier others =>
      rw [Modifier.spaced_cons]
      exact boundary_blank _

theorem modifiersText_written {modifiers : List Modifier} {rest : List Char}
    (h : ∀ modifier ∈ modifiers, modifier.Writable)
    (hfree : ∀ modifier ∈ modifiers, modifier.Free) (hrest : Boundary rest) :
    ModifiersText modifiers (Modifier.spaced modifiers) rest := by
  induction modifiers with
  | nil => exact .nil blank_nil
  | cons modifier others ih =>
      obtain ⟨hfirst, hothers⟩ := List.forall_mem_cons.mp h
      obtain ⟨hfree, hfrees⟩ := List.forall_mem_cons.mp hfree
      have hboundary := boundary_spaced others hrest
      rw [Modifier.spaced_cons]
      exact .cons blank_space (modifierText_written hfirst hfree hboundary) (ih hothers hfrees)

theorem writable_of_modifiersText {modifiers : List Modifier} {used rest : List Char}
    (h : ModifiersText modifiers used rest) :
    ∀ modifier ∈ modifiers, modifier.Writable ∧ modifier.Free := by
  induction h with
  | nil hblank =>
      intro modifier hmem
      cases hmem
  | cons hblank hfirst hnext ih =>
      intro modifier hmem
      rcases List.mem_cons.mp hmem with rfl | hmem
      · exact writable_of_modifierText hfirst
      · exact ih modifier hmem

/-- No written modifier is taken for an interval. -/
theorem not_polls_spaced {event : String} {modifiers : List Modifier} {rest : List Char}
    (h : ∀ modifier ∈ modifiers, modifier.Writable)
    (hfree : ∀ modifier ∈ modifiers, modifier.Free) (hrest : ClauseEnd rest) :
    ¬ Polls event (Modifier.spaced modifiers ++ rest) :=
  not_polls_of_modifiersText (modifiersText_written h hfree hrest.boundary) hrest event

theorem clauseText_written {clause : Clause} {gap rest : List Char} (h : clause.Writable)
    (hgap : Blank gap) (hrest : ClauseEnd rest) :
    ClauseText clause (gap ++ clause.written.toList) rest := by
  have hevent : Word clause.event := ⟨h.nonempty, h.name⟩
  rw [Clause.toList_written]
  rcases h.cases with hfree | ⟨interval, others, rfl, hfree⟩
  · refine .event hgap h.nonempty ?_ ?_ ?_
    · exact hevent.nameRun (boundary_spaced _ hrest.boundary)
    · exact not_polls_spaced h.modifiers hfree hrest
    · exact modifiersText_written h.modifiers hfree hrest.boundary
  · obtain ⟨-, hothers⟩ := List.forall_mem_cons.mp h.modifiers
    have hboundary := boundary_spaced others hrest.boundary
    dsimp only at hevent ⊢
    rw [Modifier.spaced_cons]
    refine .polling hgap ?_ blank_space ?_ ?_
    · exact hevent.nameRun (boundary_blank _)
    · exact durationText_written interval hboundary
    · exact modifiersText_written hothers hfree hrest.boundary

theorem writable_of_clauseText {clause : Clause} {used rest : List Char}
    (h : ClauseText clause used rest) : clause.Writable := by
  cases h with
  | event hblank hne hname hwaits hothers =>
      have hall := writable_of_modifiersText hothers
      refine ⟨hne, hname.all, fun modifier hmem => (hall modifier hmem).1, ?_⟩
      intro index interval hindex
      exact absurd rfl ((hall _ (List.mem_of_getElem? hindex)).2 interval)
  | polling hblank hname hpausing hvalue hothers =>
      have hall := writable_of_modifiersText hothers
      have hevent : "every" ≠ "" := by decide
      refine ⟨hevent, hname.all, ?_, ?_⟩
      · intro modifier hmem
        rcases List.mem_cons.mp hmem with rfl | hmem
        · trivial
        · exact (hall modifier hmem).1
      · intro index interval hindex
        cases index with
        | zero => exact ⟨rfl, rfl⟩
        | succ index =>
            rw [List.getElem?_cons_succ] at hindex
            exact absurd rfl ((hall _ (List.mem_of_getElem? hindex)).2 interval)

theorem triggerText_written {clauses : List Clause} {gap : List Char} (hne : clauses ≠ [])
    (h : ∀ clause ∈ clauses, clause.Writable) (hgap : Blank gap) :
    TriggerText clauses (gap ++ (written clauses).toList) := by
  induction clauses generalizing gap with
  | nil => exact absurd rfl hne
  | cons clause others ih =>
      obtain ⟨hfirst, hothers⟩ := List.forall_mem_cons.mp h
      cases others with
      | nil =>
          rw [written_singleton]
          exact .one (clauseText_written hfirst hgap clauseEnd_nil)
      | cons second others =>
          have hrest := ih (List.cons_ne_nil _ _) hothers blank_space
          rw [toList_written_cons_cons, ← List.append_assoc]
          exact .more (clauseText_written hfirst hgap (clauseEnd_comma _)) hrest

theorem writable_of_triggerText {clauses : List Clause} {text : List Char}
    (h : TriggerText clauses text) : clauses ≠ [] ∧ ∀ clause ∈ clauses, clause.Writable := by
  induction h with
  | one hlast =>
      refine ⟨List.cons_ne_nil _ _, ?_⟩
      intro clause hmem
      rw [List.mem_singleton.mp hmem]
      exact writable_of_clauseText hlast
  | more hfirst hothers ih =>
      refine ⟨List.cons_ne_nil _ _, ?_⟩
      intro clause hmem
      rcases List.mem_cons.mp hmem with rfl | hmem
      · exact writable_of_clauseText hfirst
      · exact ih.2 clause hmem

end Hypermedia.Grammar

namespace Hypermedia.Trigger

open Grammar

/-- What can be written is read back as it was. -/
theorem parse_written_of_writable {found : List Clause} (hne : found ≠ [])
    (h : ∀ clause ∈ found, clause.Writable) : parse (written found) = .ok found := by
  have htext : TriggerText found ([] ++ (written found).toList) :=
    triggerText_written hne h blank_nil
  exact clauses_complete (c := .start (written found)) rfl htext

/-- Whatever was read can be written. -/
theorem writable_of_parse {text : String} {found : List Clause} (h : parse text = .ok found) :
    found ≠ [] ∧ ∀ clause ∈ found, clause.Writable :=
  writable_of_triggerText (clauses_sound (c := .start text) h)

/-- Reading what was read from any text, once it is written down, changes
nothing. -/
theorem parse_written_of_parse {text : String} {found : List Clause}
    (h : parse text = .ok found) : parse (written found) = .ok found := by
  obtain ⟨hne, hwritable⟩ := writable_of_parse h
  exact parse_written_of_writable hne hwritable

/-- The filter touches its neighbours and the selector needs its quotes. -/
theorem parse_written_of_touching_filter :
    parse "every 2s[a, b]once, click from:closest 'a, \"b\"'" =
        .ok [⟨"every", [.every ⟨2000, by decide⟩, .filter "a, b", .flag .once]⟩,
          ⟨"click", [.element .source (.relative .closest "a, \"b\"")]⟩] ∧
      parse (written [⟨"every", [.every ⟨2000, by decide⟩, .filter "a, b", .flag .once]⟩,
          ⟨"click", [.element .source (.relative .closest "a, \"b\"")]⟩]) =
        .ok [⟨"every", [.every ⟨2000, by decide⟩, .filter "a, b", .flag .once]⟩,
          ⟨"click", [.element .source (.relative .closest "a, \"b\"")]⟩] := by
  have hread : parse "every 2s[a, b]once, click from:closest 'a, \"b\"'" =
      .ok [⟨"every", [.every ⟨2000, by decide⟩, .filter "a, b", .flag .once]⟩,
        ⟨"click", [.element .source (.relative .closest "a, \"b\"")]⟩] := by
    decide +kernel
  exact ⟨hread, parse_written_of_parse hread⟩

/-- The triggers that survive being written down are those whose parts have a
text. For any other the written form is refused or means something else. -/
theorem parse_written_eq_ok_iff (found : List Clause) :
    parse (written found) = .ok found ↔ found ≠ [] ∧ ∀ clause ∈ found, clause.Writable := by
  constructor
  · exact writable_of_parse
  · rintro ⟨hne, hwritable⟩
    exact parse_written_of_writable hne hwritable

end Hypermedia.Trigger
