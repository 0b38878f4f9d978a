import Hypermedia.Proofs.Reader.Recognition

/-!
A reader run twice: on a text that stands alone, and on the same text at another
place and with a tail behind it. If the tail is empty or starts with a comma,
the two runs agree step by step, until the first one fails because its text has
ended. So what is read before a comma does not depend on what is behind it, and
what is read behind a comma does not depend on what is before.
-/

namespace Hypermedia

open Grammar Reader

/-- A text, the tail that it has in the second run, and the places at which it
starts in the two runs. -/
structure TwoRuns where
  text : List Char
  tail : List Char
  start : Position
  start' : Position
  ends : ClauseEnd tail

namespace TwoRuns

variable {runs : TwoRuns} {α β : Type} {c d : Cursor} {p : Char → Bool}

/-- The same place of the text in both runs. -/
def Places (runs : TwoRuns) (place place' : Position) : Prop :=
  ∃ used rest, runs.text = used ++ rest ∧ place = runs.start.after used ∧
    place' = runs.start'.after used

/-- The same cut of the text in both runs, so the second cursor also has the
tail before it. -/
structure Cursors (runs : TwoRuns) (c d : Cursor) : Prop where
  rest_eq : d.rest = c.rest ++ runs.tail
  passed : ∃ used, runs.text = used ++ c.rest ∧ c.position = runs.start.after used ∧
    d.position = runs.start'.after used

structure Faults (runs : TwoRuns) (e f : ParseError) : Prop where
  cause_eq : f.cause = e.cause
  places : runs.Places e.position f.position

/-- The first run has come to an end of the text that the second does not
have. -/
def Cut (runs : TwoRuns) (e : ParseError) : Prop :=
  runs.tail ≠ [] ∧ ∃ expected, e.cause = .unexpectedEnd expected

/-- Two outcomes that agree. Nothing is known of the second run once the first
one lacks text that the second may have. -/
inductive Outcomes (runs : TwoRuns) :
    EStateM.Result ParseError Cursor α → EStateM.Result ParseError Cursor α → Prop
  | ok {a : α} {c d : Cursor} (cursors : runs.Cursors c d) : Outcomes runs (.ok a c) (.ok a d)
  | fault {e f : ParseError} {c d : Cursor} (faults : runs.Faults e f) :
      Outcomes runs (.error e c) (.error f d)
  | cut {e : ParseError} {c : Cursor} {result : EStateM.Result ParseError Cursor α}
      (cut : runs.Cut e) : Outcomes runs (.error e c) result

/-- Two readers that agree wherever the two runs are at the same place. They may
differ in the places that they remember. -/
def Alike (runs : TwoRuns) (r s : Reader α) : Prop :=
  ∀ c d, runs.Cursors c d → runs.Outcomes (r c) (s d)

/-- A run of such characters does not go on into the tail. -/
def Stops (runs : TwoRuns) (p : Char → Bool) : Prop :=
  ∀ c ∈ runs.tail.head?, p c = false

theorem stops_of_comma (hp : p ',' = false) : runs.Stops p := by
  intro c hc
  rw [runs.ends c hc]
  exact hp

theorem Cursors.places (h : runs.Cursors c d) : runs.Places c.position d.position := by
  obtain ⟨used, htext, hc, hd⟩ := h.passed
  exact ⟨used, c.rest, htext, hc, hd⟩

/-- Whatever the first cursor moves over, the second one can move over too. -/
theorem Cursors.takes {c' : Cursor} {used : List Char} (h : runs.Cursors c d)
    (htakes : c.Takes used c') : ∃ d', d.Takes used d' ∧ runs.Cursors c' d' := by
  obtain ⟨before, htext, hc, hd⟩ := h.passed
  refine ⟨⟨d.position.after used, c'.rest ++ runs.tail⟩, ⟨?_, rfl⟩,
    ⟨rfl, before ++ used, ?_, ?_, ?_⟩⟩
  · rw [h.rest_eq, htakes.rest_eq, List.append_assoc]
  · rw [htext, htakes.rest_eq, List.append_assoc]
  · rw [htakes.position_eq, hc, Position.after_append]
  · rw [hd, Position.after_append]

theorem Cursors.head?_eq (h : runs.Cursors c d) {first : Char} {more : List Char}
    (hrest : c.rest = first :: more) : d.rest.head? = c.rest.head? := by
  rw [h.rest_eq, hrest]
  rfl

theorem Cursors.isAt_eq (h : runs.Cursors c d) (hp : runs.Stops p) : d.isAt p = c.isAt p := by
  unfold Cursor.isAt
  cases hrest : c.rest with
  | cons first more => rw [h.head?_eq hrest, hrest]
  | nil =>
      rw [h.rest_eq, hrest, List.nil_append]
      cases htail : runs.tail.head? with
      | none => rfl
      | some first => exact hp first htail

theorem Cursors.run (h : runs.Cursors c d) (hp : runs.Stops p) :
    d.run p = c.run p ∧ runs.Cursors (c.pastRun p) (d.pastRun p) := by
  obtain ⟨behind, htakes, hcursors⟩ := h.takes (c.takes_pastRun p)
  have hmaximal := c.maximalRun_run p
  have hrun : MaximalRun p (c.run p) behind.rest := by
    refine ⟨hmaximal.all, fun x hx => ?_⟩
    rw [hcursors.rest_eq] at hx
    cases hrest : (c.pastRun p).rest with
    | nil =>
        rw [hrest, List.nil_append] at hx
        exact hp x hx
    | cons first more =>
        rw [hrest] at hx
        apply hmaximal.ends
        rw [hrest]
        exact hx
  refine ⟨htakes.run_eq hrun, ?_⟩
  rw [htakes.pastRun_eq hrun]
  exact hcursors

/-- What is missing is missing in both runs, unless the tail is there instead. -/
theorem Cursors.missing (h : runs.Cursors c d) (expected : String) :
    runs.Cut (c.missing expected) ∨ runs.Faults (c.missing expected) (d.missing expected) := by
  have hplaces := h.places
  have hrest := h.rest_eq
  obtain ⟨place, rest⟩ := c
  obtain ⟨place', rest'⟩ := d
  dsimp only at hrest hplaces
  cases rest with
  | cons first more =>
      rw [hrest]
      exact .inr ⟨rfl, hplaces⟩
  | nil =>
      by_cases htail : runs.tail = []
      · rw [hrest, htail]
        exact .inr ⟨rfl, hplaces⟩
      · exact .inl ⟨htail, expected, rfl⟩

theorem alike_pure (a : α) : runs.Alike (pure a) (pure a) := by
  intro c d h
  exact .ok h

theorem alike_throw {e f : ParseError} (h : runs.Faults e f) :
    runs.Alike (throw e : Reader α) (throw f) := by
  intro c d _
  exact .fault h

theorem alike_missing (h : runs.Cursors c d) (expected : String) :
    runs.Alike (throw (c.missing expected) : Reader α) (throw (d.missing expected)) := by
  intro here here' _
  rcases h.missing expected with hcut | hfaults
  · exact .cut hcut
  · exact .fault hfaults

/-- One after the other: the second readers are only asked to agree where the
first ones stop. -/
theorem Outcomes.bind {r s : Reader α} {next next' : α → Reader β}
    (h : runs.Outcomes (r c) (s d))
    (hnext : ∀ a behind behind', r c = .ok a behind → runs.Cursors behind behind' →
      runs.Outcomes (next a behind) (next' a behind')) :
    runs.Outcomes ((r >>= next) c) ((s >>= next') d) := by
  rw [bind_run, bind_run]
  generalize s d = second at h
  cases hr : r c with
  | ok a behind =>
      rw [hr] at h
      cases h with
      | ok hbehind => exact hnext a behind _ hr hbehind
  | error e behind =>
      rw [hr] at h
      cases h with
      | cut hcut => exact .cut hcut
      | fault hfaults => exact .fault hfaults

theorem alike_bind {r s : Reader α} {next next' : α → Reader β} (h : runs.Alike r s)
    (hnext : ∀ a, runs.Alike (next a) (next' a)) : runs.Alike (r >>= next) (s >>= next') := by
  intro c d hcursors
  apply (h c d hcursors).bind
  intro a behind behind' _ hbehind
  exact hnext a behind behind' hbehind

/-- Each run remembers its own cursor, so all that is known of the two is that
they belong together. -/
theorem alike_get_bind {next next' : Cursor → Reader α}
    (h : ∀ c d, runs.Cursors c d → runs.Alike (next c) (next' d)) :
    runs.Alike (get >>= next) (get >>= next') := by
  intro c d hcursors
  rw [get_bind, get_bind]
  exact h c d hcursors c d hcursors

theorem alike_ite {P : Prop} [Decidable P] {r r' s s' : Reader α} (h : runs.Alike r s)
    (h' : runs.Alike r' s') : runs.Alike (if P then r else r') (if P then s else s') := by
  by_cases hP : P
  · rw [if_pos hP, if_pos hP]
    exact h
  · rw [if_neg hP, if_neg hP]
    exact h'

theorem alike_run (hp : p ',' = false) : runs.Alike (run p) (run p) := by
  intro c d h
  obtain ⟨hrun, hcursors⟩ := h.run (stops_of_comma hp)
  unfold run
  rw [hrun]
  exact .ok hcursors

theorem alike_blank : runs.Alike blank blank := by
  intro c d h
  exact .ok (h.run (stops_of_comma (by decide))).2

theorem alike_bareToken : runs.Alike bareToken bareToken :=
  alike_run (by decide)

theorem alike_name : runs.Alike name name := by
  apply alike_get_bind
  intro c d h
  rw [h.isAt_eq (stops_of_comma (by decide))]
  exact alike_ite (alike_run (by decide)) (alike_missing h _)

/-- The start of the tail is not taken for the end of a literal. -/
theorem Cursors.startsWith_eq (h : runs.Cursors c d) {text : String} (hfree : ',' ∉ text.toList) :
    d.startsWith text = c.startsWith text := by
  unfold Cursor.startsWith
  rw [h.rest_eq, Bool.eq_iff_iff, List.isPrefixOf_iff_prefix, List.isPrefixOf_iff_prefix]
  constructor
  · rintro ⟨more, hmore⟩
    rcases List.append_eq_append_iff.mp hmore with ⟨left, hleft, -⟩ | ⟨others, hothers, htail⟩
    · exact ⟨left, hleft.symm⟩
    · cases others with
      | nil => exact ⟨[], by rw [hothers, List.append_nil, List.append_nil]⟩
      | cons first others =>
          have hcomma : first = ',' := runs.ends first (by rw [htail]; rfl)
          rw [hothers, hcomma] at hfree
          exact absurd (by simp) hfree
  · intro hshort
    exact hshort.trans (List.prefix_append _ _)

theorem alike_literal? {text : String} (hfree : ',' ∉ text.toList) :
    runs.Alike (literal? text) (literal? text) := by
  intro c d h
  have hstart := h.startsWith_eq hfree
  by_cases hc : c.startsWith text = true
  · have hfound : literal? text c = .ok true (c.past text.toList.length) := by
      rw [literal?_run, if_pos hc]
    obtain ⟨behind, htakes, hcursors⟩ := h.takes (takes_of_literal? hfound)
    rw [hfound, literal?_of_takes htakes]
    exact .ok hcursors
  · rw [literal?_run, literal?_run, hstart, if_neg hc, if_neg hc]
    exact .ok h

theorem alike_literal {text : String} (hfree : ',' ∉ text.toList) :
    runs.Alike (literal text) (literal text) := by
  apply alike_bind (alike_literal? hfree)
  intro found
  cases found with
  | true => exact alike_pure ()
  | false => exact alike_get_bind fun c d h => alike_missing h _

/-- A span may hold commas, so it is not cut short by the tail. But if it is
closed within the text, it ends there in both runs. -/
theorem alike_closedBy (closing : Char) (expected : String) :
    runs.Alike (closedBy closing expected) (closedBy closing expected) := by
  intro c d h
  by_cases hend : (c.pastRun (· != closing)).atEnd = true
  · rw [closedBy_run closing expected c, if_pos hend]
    by_cases htail : runs.tail = []
    · have hstops : runs.Stops (· != closing) := by
        intro x hx
        rw [htail] at hx
        cases hx
      have hcursors := (h.run hstops).2
      have hend' : (d.pastRun (· != closing)).atEnd = true := by
        unfold Cursor.atEnd at hend ⊢
        rw [hcursors.rest_eq, htail, List.append_nil]
        exact hend
      rw [closedBy_run closing expected d, if_pos hend']
      exact alike_missing hcursors expected _ _ hcursors
    · have hrest : (c.pastRun (· != closing)).rest = [] := List.isEmpty_iff.mp hend
      refine .cut ⟨htail, expected, ?_⟩
      unfold Cursor.missing
      rw [hrest]
  · have hok := closedBy_run closing expected c
    rw [if_neg hend] at hok
    obtain ⟨htakes, habsent⟩ := closedBy_eq_ok_iff.mp hok
    obtain ⟨behind, htakes', hcursors⟩ := h.takes htakes
    rw [hok, closedBy_eq_ok_iff.mpr ⟨htakes', habsent⟩]
    exact .ok hcursors

theorem alike_bracketed : runs.Alike bracketed bracketed :=
  alike_bind (alike_literal (by decide)) fun _ => alike_closedBy _ _

theorem alike_token : runs.Alike token token := by
  intro c d h
  have hat := h.isAt_eq (p := isQuote) (stops_of_comma (by decide))
  cases hquoted : c.isAt isQuote with
  | false =>
      rw [hquoted] at hat
      rw [token_run_of_bare hquoted, token_run_of_bare hat]
      exact alike_bareToken c d h
  | true =>
      obtain ⟨place, rest⟩ := c
      cases rest with
      | nil => cases hquoted
      | cons quote more =>
          have hquote : isQuote quote = true := hquoted
          obtain ⟨behind, htakes, hcursors⟩ := h.takes (Cursor.takes_cons place quote more)
          rw [token_run_of_quote rfl hquote, token_run_of_quote htakes.rest_eq hquote,
            htakes.past_one_eq]
          exact alike_closedBy _ _ _ _ hcursors

theorem alike_duration (units : List String) :
    runs.Alike (duration units) (duration units) := by
  apply alike_get_bind
  intro c d h
  apply alike_bind (alike_run (by decide))
  intro digits
  apply alike_ite
  · exact alike_bind alike_bareToken fun value => alike_throw ⟨rfl, h.places⟩
  · cases Duration.ofMillis? (Nat.ofDigitChars 10 digits.toList 0) with
    | none => exact alike_throw ⟨rfl, h.places⟩
    | some count =>
        apply alike_get_bind
        intro behind behind' hbehind
        apply alike_bind (alike_run (by decide))
        intro unit
        cases unit.toList with
        | nil => exact alike_pure count
        | cons first more =>
            dsimp only
            cases (if unit ∈ units then Duration.unitMillis? unit else none) with
            | none => exact alike_throw ⟨rfl, hbehind.places⟩
            | some factor =>
                dsimp only
                cases Duration.ofMillis? (count.millis * factor) with
                | none => exact alike_throw ⟨rfl, h.places⟩
                | some product => exact alike_pure product

end TwoRuns

end Hypermedia
