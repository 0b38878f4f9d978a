import Hypermedia.Reader

/-!
How far readers go. A reader is `Forward` if it moves its cursor over text that
is left, whether it succeeds or fails, and it is `Consuming` if it uses up at
least one character whenever it succeeds. The loops of the attribute languages
end because each round is made of such readers.
-/

namespace Hypermedia.Reader

/-- The cursor that a reader leaves behind, with a value or with an error. -/
def cursorAfter {α : Type} : EStateM.Result ParseError Cursor α → Cursor
  | .ok _ c => c
  | .error _ c => c

/-- The reader moves its cursor forward, even if it fails. -/
def Forward {α : Type} (r : Reader α) : Prop :=
  ∀ c : Cursor, c.Reaches (cursorAfter (r c))

/-- The reader uses up some text whenever it succeeds. -/
def Consuming {α : Type} (r : Reader α) : Prop :=
  ∀ c a d, r c = .ok a d → d.rest.length < c.rest.length

variable {α β : Type}

theorem bind_run (r : Reader α) (next : α → Reader β) (c : Cursor) :
    (r >>= next) c =
      match r c with
      | .ok a d => next a d
      | .error e d => .error e d := by
  cases h : r c <;> simp [bind, EStateM.bind, h]

theorem get_bind (next : Cursor → Reader β) (c : Cursor) :
    ((get : Reader Cursor) >>= next) c = next c c :=
  rfl

theorem blank_bind (next : Unit → Reader β) (c : Cursor) :
    (blank >>= next) c = next () (c.pastRun Text.isBlank) :=
  rfl

theorem run_bind (p : Char → Bool) (next : String → Reader β) (c : Cursor) :
    (run p >>= next) c = next (String.ofList (c.run p)) (c.pastRun p) :=
  rfl

theorem Forward.length_le {r : Reader α} (h : Forward r) {c d : Cursor} {a : α}
    (hr : r c = .ok a d) : d.rest.length ≤ c.rest.length := by
  have := (h c).length_le
  rwa [hr] at this

theorem forward_pure (a : α) : Forward (pure a : Reader α) :=
  fun c => Cursor.Reaches.refl c

theorem forward_throw (e : ParseError) : Forward (throw e : Reader α) :=
  fun c => Cursor.Reaches.refl c

theorem forward_get : Forward (get : Reader Cursor) :=
  fun c => Cursor.Reaches.refl c

theorem forward_bind {r : Reader α} {next : α → Reader β} (hr : Forward r)
    (hnext : ∀ a, Forward (next a)) : Forward (r >>= next) := by
  intro c
  have h := hr c
  rw [bind_run]
  cases hc : r c with
  | ok a d =>
      rw [hc] at h
      exact h.trans (hnext a d)
  | error e d =>
      rw [hc] at h
      exact h

theorem consuming_throw (e : ParseError) : Consuming (throw e : Reader α) := by
  intro c a d h
  cases h

/-- It is enough that the first part uses up text. -/
theorem consuming_bind {r : Reader α} {next : α → Reader β} (hr : Consuming r)
    (hnext : ∀ a, Forward (next a)) : Consuming (r >>= next) := by
  intro c b e h
  rw [bind_run] at h
  cases hc : r c with
  | ok a d =>
      rw [hc] at h
      exact Nat.lt_of_le_of_lt ((hnext a).length_le h) (hr c a d hc)
  | error e d =>
      rw [hc] at h
      cases h

/-- It is also enough that whatever comes after the first part does. -/
theorem consuming_bind_of_next {r : Reader α} {next : α → Reader β}
    (hr : Forward r) (hnext : ∀ a, Consuming (next a)) : Consuming (r >>= next) := by
  intro c b e h
  rw [bind_run] at h
  cases hc : r c with
  | ok a d =>
      rw [hc] at h
      exact Nat.lt_of_lt_of_le (hnext a d b e h) (hr.length_le hc)
  | error e d =>
      rw [hc] at h
      cases h

theorem forward_skip (count : Nat) : Forward (skip count) :=
  fun c => c.reaches_past count

theorem forward_run (p : Char → Bool) : Forward (run p) :=
  fun c => c.reaches_pastRun p

theorem forward_blank : Forward blank :=
  fun c => c.reaches_pastRun Text.isBlank

theorem forward_literal? (text : String) : Forward (literal? text) := by
  refine forward_bind forward_get fun here => ?_
  split
  · exact forward_bind (forward_skip _) fun _ => forward_pure _
  · exact forward_pure _

theorem forward_literal (text : String) : Forward (literal text) := by
  refine forward_bind (forward_literal? text) fun found => ?_
  split
  · exact forward_pure _
  · exact forward_bind forward_get fun _ => forward_throw _

theorem literal?_run (text : String) (c : Cursor) :
    literal? text c =
      if c.startsWith text then .ok true (c.past text.toList.length)
      else .ok false c := by
  unfold literal?
  rw [get_bind]
  split <;> rfl

theorem literal_run (text : String) (c : Cursor) :
    literal text c =
      if c.startsWith text then .ok () (c.past text.toList.length)
      else .error (c.missing ("'" ++ text ++ "'")) c := by
  unfold literal
  rw [bind_run, literal?_run]
  by_cases h : c.startsWith text = true
  · rw [if_pos h, if_pos h]
    rfl
  · rw [if_neg h, if_neg h]
    rfl

/-- A literal that is there has been used up. -/
theorem consuming_literal {text : String} (h : text.toList ≠ []) :
    Consuming (literal text) := by
  intro c a d hd
  rw [literal_run] at hd
  split at hd
  · rename_i hpre
    cases hd
    have hle := (List.isPrefixOf_iff_prefix.mp hpre).length_le
    have := List.length_pos_iff.mpr h
    simp only [Cursor.past, List.length_drop]
    omega
  · cases hd

theorem forward_name : Forward name := by
  refine forward_bind forward_get fun here => ?_
  split
  · exact forward_run _
  · exact forward_throw _

theorem forward_bareToken : Forward bareToken :=
  forward_run _

theorem forward_closedBy (closing : Char) (expected : String) :
    Forward (closedBy closing expected) := by
  refine forward_bind (forward_run _) fun inner => ?_
  refine forward_bind forward_get fun here => ?_
  split
  · exact forward_throw _
  · exact forward_bind (forward_skip 1) fun _ => forward_pure _

theorem forward_bracketed : Forward bracketed :=
  forward_bind (forward_literal "[") fun _ => forward_closedBy _ _

theorem consuming_bracketed : Consuming bracketed :=
  consuming_bind (consuming_literal (by decide)) fun _ => forward_closedBy _ _

theorem forward_token : Forward token := by
  refine forward_bind forward_get fun here => ?_
  split
  · exact forward_bareToken
  · split
    · exact forward_bind (forward_skip 1) fun _ => forward_closedBy _ _
    · exact forward_bareToken

theorem forward_duration (units : List String) : Forward (duration units) := by
  refine forward_bind forward_get fun here => ?_
  refine forward_bind (forward_run _) fun digits => ?_
  dsimp only
  split
  · exact forward_bind forward_bareToken fun _ => forward_throw _
  · split
    · exact forward_throw _
    · refine forward_bind forward_get fun behind => ?_
      refine forward_bind (forward_run _) fun unit => ?_
      split
      · exact forward_pure _
      · split
        · exact forward_throw _
        · split
          · exact forward_throw _
          · exact forward_pure _

theorem name_run (c : Cursor) :
    name c =
      if c.isAt isNameChar then
        .ok (String.ofList (c.run isNameChar)) (c.pastRun isNameChar)
      else .error (c.missing "identifier") c := by
  unfold name
  rw [get_bind]
  split <;> rfl

/-- A name has at least one character. -/
theorem consuming_name : Consuming name := by
  intro c a d h
  rw [name_run] at h
  split at h
  · rename_i hat
    cases h
    obtain ⟨place, rest⟩ := c
    cases rest with
    | nil => simp [Cursor.isAt] at hat
    | cons x xs =>
        have hx : isNameChar x = true := by simpa [Cursor.isAt] using hat
        have := (List.dropWhile_sublist isNameChar (l := xs)).length_le
        simp only [Cursor.pastRun, List.dropWhile_cons, hx, if_true, List.length_cons]
        omega
  · cases h

end Hypermedia.Reader
