import Hypermedia.Proofs.Reader.Coherence
import Hypermedia.Proofs.Swap.Recognition
import Hypermedia.Proofs.Trigger.Recognition

/-!
Why the loops over attributes end. Several readers may use up nothing: a bare
token in front of a comma, an empty value, an empty tail. But a round of a loop
that neither ends it nor fails has used up at least one character, so there are
at most as many of them as there are characters, and one more round.

A loop is told by what one round of it does. That the rounds are those of the
readers is part of what is shown.
-/

namespace Hypermedia

/-- What one round comes to: the result of the loop, or a part of it and the
state in which the next round starts. -/
inductive Round (σ α β : Type) where
  | stops (result : β)
  | goesOn (part : α) (next : σ)

/-- A loop over a text. A part is joined to what the later rounds come to. -/
structure Loop (σ α β : Type) where
  cursor : σ → Cursor
  round : σ → Round σ α β
  join : α → β → β

namespace Loop

variable {σ α β : Type}

/-- What the loop comes to if it stops within so many rounds. -/
def within (loop : Loop σ α β) : Nat → σ → Option β
  | 0, _ => none
  | count + 1, s =>
      match loop.round s with
      | .stops result => some result
      | .goesOn part next => (loop.within count next).map (loop.join part)

/-- The result is that of one round, or what the result from the next round on
makes of it. -/
def Unrolls (loop : Loop σ α β) (result : σ → β) : Prop :=
  ∀ s, result s =
    match loop.round s with
    | .stops last => last
    | .goesOn part next => loop.join part (result next)

/-- A round that goes on moves the cursor over some text. -/
def Moves (loop : Loop σ α β) : Prop :=
  ∀ s part next, loop.round s = .goesOn part next →
    (loop.cursor s).Reaches (loop.cursor next) ∧
      (loop.cursor next).rest.length < (loop.cursor s).rest.length

/-- The loop gives this result. The offset grows with each round that goes on,
and with `n` characters left there are at most `n + 1` rounds. -/
structure Progresses (loop : Loop σ α β) (result : σ → β) : Prop where
  unrolls : loop.Unrolls result
  advances : ∀ s part next, loop.round s = .goesOn part next →
    (loop.cursor s).position.offset < (loop.cursor next).position.offset
  ends : ∀ s, loop.within ((loop.cursor s).rest.length + 1) s = some (result s)

end Loop

theorem Cursor.Reaches.offset_lt {c d : Cursor} (h : c.Reaches d)
    (hshorter : d.rest.length < c.rest.length) : c.position.offset < d.position.offset := by
  obtain ⟨used, hrest, hplace⟩ := h
  rw [hplace, Position.offset_after]
  cases used with
  | nil =>
      rw [hrest, List.nil_append] at hshorter
      exact absurd hshorter (Nat.lt_irrefl _)
  | cons first more =>
      have hsize := first.utf8Size_pos
      rw [Position.utf8ByteSize_ofList_cons]
      omega

theorem Cursor.Takes.reaches {c d : Cursor} {used : List Char} (h : c.Takes used d) :
    c.Reaches d :=
  ⟨used, h.rest_eq, h.position_eq⟩

namespace Loop

variable {σ α β : Type} {loop : Loop σ α β} {result : σ → β}

/-- More rounds than characters are never needed. By induction on the number of
rounds that are granted. -/
theorem within_of_length_lt (hmoves : loop.Moves) (hrun : loop.Unrolls result) (count : Nat)
    (s : σ) (henough : (loop.cursor s).rest.length < count) :
    loop.within count s = some (result s) := by
  induction count generalizing s with
  | zero => exact absurd henough (Nat.not_lt_zero _)
  | succ count ih =>
      have hresult := hrun s
      unfold within
      cases hround : loop.round s with
      | stops last =>
          rw [hround] at hresult
          rw [hresult]
      | goesOn part next =>
          rw [hround] at hresult
          have hshorter := (hmoves s part next hround).2
          have hnext := ih next (by omega)
          rw [hresult]
          dsimp only
          rw [hnext, Option.map_some]

theorem progresses (hmoves : loop.Moves) (hrun : loop.Unrolls result) :
    loop.Progresses result where
  unrolls := hrun
  advances s part next hround :=
    have ⟨hreaches, hshorter⟩ := hmoves s part next hround
    hreaches.offset_lt hshorter
  ends s := within_of_length_lt hmoves hrun _ s (Nat.lt_succ_self _)

end Loop

namespace Swap

open Cursor Reader

/-- The loop over the items of a swap. The state tells too whether the item is
the first one. -/
def itemLoop : Loop (Bool × Cursor) Entry (Reading Entry) where
  cursor s := s.2
  round s :=
    let here := s.2.pastRun Text.isBlank
    if here.atEnd then .stops .done
    else
      match Item.reader s.1 here with
      | .error e _ => .stops (.failed e)
      | .ok item next =>
          let used := here.rest.take (here.rest.length - next.rest.length)
          .goesOn ⟨here.position, String.ofList used, item⟩ (false, next)
  join := .cons

theorem itemLoop_unrolls : itemLoop.Unrolls fun s => entries s.1 s.2 := by
  rintro ⟨isFirst, c⟩
  dsimp only [itemLoop]
  rw [entries]
  cases hend : (c.pastRun Text.isBlank).atEnd with
  | true => simp only [dite_true, if_true]
  | false =>
      simp only [Bool.false_eq_true, dite_false, if_false]
      split
      · rename_i e d hitem
        rw [hitem]
      · rename_i item d hitem
        rw [hitem]

/-- An item has at least one character, even if its value has none. -/
theorem itemLoop_moves : itemLoop.Moves := by
  rintro ⟨isFirst, c⟩ entry ⟨isFirst', next⟩ hround
  dsimp only [itemLoop] at hround ⊢
  by_cases hend : (c.pastRun Text.isBlank).atEnd = true
  · rw [if_pos hend] at hround
    cases hround
  · rw [if_neg hend] at hround
    cases hitem : Item.reader isFirst (c.pastRun Text.isBlank) with
    | error e d =>
        rw [hitem] at hround
        cases hround
    | ok item d =>
        rw [hitem] at hround
        cases hround
        have hgap := c.takes_pastRun Text.isBlank
        obtain ⟨used, htakes, htext⟩ :=
          reader_sound (isAt_pastRun_isBlank c) (Bool.eq_false_iff.mpr hend) hitem
        exact ⟨(hgap.trans htakes).reaches, length_lt_of_itemText htakes htext⟩

end Swap

namespace Trigger

open Cursor Reader

/-- The loop over the modifiers of a clause, which ends where the clause does. -/
def modifierLoop : Loop Cursor Modifier (EStateM.Result ParseError Cursor (List Modifier)) where
  cursor := id
  round c :=
    match Modifier.next? c with
    | .error e d => .stops (.error e d)
    | .ok none d => .stops (.ok [] d)
    | .ok (some modifier) d => .goesOn modifier d
  join modifier
    | .ok others d => .ok (modifier :: others) d
    | .error e d => .error e d

theorem modifierLoop_unrolls : modifierLoop.Unrolls Modifier.readAll := by
  intro c
  dsimp only [modifierLoop]
  rw [Modifier.readAll]
  split
  · rename_i e d hnext
    rw [hnext]
  · rename_i d hnext
    rw [hnext]
  · rename_i modifier d hnext
    rw [hnext]
    dsimp only
    cases Modifier.readAll d <;> rfl

theorem modifierLoop_moves : modifierLoop.Moves := by
  intro c modifier next hround
  dsimp only [modifierLoop, id] at hround ⊢
  cases hnext : Modifier.next? c with
  | error e d =>
      rw [hnext] at hround
      cases hround
  | ok found d =>
      rw [hnext] at hround
      cases found with
      | none => cases hround
      | some modifier =>
          cases hround
          have hreaches := Modifier.forward_next? c
          rw [hnext] at hreaches
          exact ⟨hreaches, Modifier.length_lt_of_next? hnext⟩

/-- The loop over the clauses. The round of the last clause is the one that
ends it. -/
def clauseLoop : Loop Cursor Clause (Reading Clause) where
  cursor := id
  round c :=
    match Clause.reader c with
    | .error e _ => .stops (.failed e)
    | .ok clause d =>
        let here := d.pastRun Text.isBlank
        if here.atEnd then .stops (.cons clause .done)
        else
          match literal "," here with
          | .error e _ => .stops (.cons clause (.failed e))
          | .ok () next => .goesOn clause next
  join := .cons

theorem clauseLoop_unrolls : clauseLoop.Unrolls clauses := by
  intro c
  dsimp only [clauseLoop]
  rw [clauses]
  split
  · rename_i e d hclause
    rw [hclause]
  · rename_i clause d hclause
    rw [hclause]
    dsimp only
    by_cases hend : (d.pastRun Text.isBlank).atEnd = true
    · rw [if_pos hend, if_pos hend]
    · rw [if_neg hend, if_neg hend]
      split
      · rename_i e behind hcomma
        rw [hcomma]
      · rename_i behind hcomma
        rw [hcomma]

theorem clauseLoop_moves : clauseLoop.Moves := by
  intro c clause next hround
  dsimp only [clauseLoop, id] at hround ⊢
  cases hclause : Clause.reader c with
  | error e d =>
      rw [hclause] at hround
      cases hround
  | ok found d =>
      rw [hclause] at hround
      dsimp only at hround
      by_cases hend : (d.pastRun Text.isBlank).atEnd = true
      · rw [if_pos hend] at hround
        cases hround
      · rw [if_neg hend] at hround
        cases hcomma : literal "," (d.pastRun Text.isBlank) with
        | error e behind =>
            rw [hcomma] at hround
            cases hround
        | ok found behind =>
            rw [hcomma] at hround
            cases hround
            obtain ⟨used, htakes, -, -⟩ := clause_sound hclause
            have hgap := d.takes_pastRun Text.isBlank
            have hbehind := (htakes.trans hgap).trans (literal_eq_ok_iff.mp hcomma)
            have hconsumed := Clause.consuming_reader _ _ _ hclause
            have hlater := (hgap.trans (literal_eq_ok_iff.mp hcomma)).reaches.length_le
            exact ⟨hbehind.reaches, Nat.lt_of_le_of_lt hlater hconsumed⟩

end Trigger

/-- Each loop goes forward in every round but its last, and ends after at most
one round more than there are characters. So does the reading of a whole text,
with what it has read or with one error. -/
theorem loops_progress :
    Swap.itemLoop.Progresses (fun s => Swap.entries s.1 s.2) ∧
      Trigger.modifierLoop.Progresses Trigger.Modifier.readAll ∧
      Trigger.clauseLoop.Progresses Trigger.clauses ∧
      ∀ text : String,
        (∃ reading, Trigger.clauseLoop.within (text.length + 1) (.start text) = some reading ∧
          Trigger.parse text = reading.toExcept) ∧
        ∃ reading, Swap.itemLoop.within (text.length + 1) (true, .start text) = some reading ∧
          ∀ defaults, Swap.parse defaults text =
            reading.toExcept.map (Swap.Options.ofEntries defaults) := by
  have hitems := Loop.progresses Swap.itemLoop_moves Swap.itemLoop_unrolls
  have hmodifiers := Loop.progresses Trigger.modifierLoop_moves Trigger.modifierLoop_unrolls
  have hclauses := Loop.progresses Trigger.clauseLoop_moves Trigger.clauseLoop_unrolls
  refine ⟨hitems, hmodifiers, hclauses, fun text => ?_⟩
  have hlength : (Cursor.start text).rest.length = text.length := String.length_toList
  rw [← hlength]
  exact ⟨⟨_, hclauses.ends _, rfl⟩, _, hitems.ends (true, .start text), fun _ => rfl⟩

/-- One round for each comma, and one that finds nothing left. -/
example : (Swap.itemLoop.within 2 (true, .start ",,")).isNone = true := by
  decide +kernel

end Hypermedia
