import Hypermedia.Position

/-!
Offsets and places say the same about a text. A place inside a text is counted
up character by character, and its offset alone is enough to find it again,
because every character takes at least one byte. Its line is told by the line
feeds in front of it, and its column by what stands behind the last of them.
-/

namespace Hypermedia.Position

theorem offset_advance (p : Position) (c : Char) :
    (p.advance c).offset = p.offset + c.utf8Size := by
  unfold advance
  split <;> rfl

theorem utf8ByteSize_ofList_cons (c : Char) (run : List Char) :
    (String.ofList (c :: run)).utf8ByteSize = c.utf8Size + (String.ofList run).utf8ByteSize := by
  have hsplit : String.ofList (c :: run) = String.singleton c ++ String.ofList run := by
    apply String.toList_injective
    simp
  rw [hsplit, String.utf8ByteSize_append, String.utf8ByteSize_singleton]

/-- Offsets count the bytes of what has been passed. -/
theorem offset_after (p : Position) (run : List Char) :
    (p.after run).offset = p.offset + (String.ofList run).utf8ByteSize := by
  induction run generalizing p with
  | nil => rfl
  | cons c rest ih =>
      have hrest := ih (p.advance c)
      have hc := offset_advance p c
      rw [utf8ByteSize_ofList_cons]
      change ((p.advance c).after rest).offset = _
      omega

/-- Counting up to the offset of a place stops at that place. -/
theorem scan_offset_after (p : Position) (run rest : List Char) :
    p.scan (p.after run).offset (run ++ rest) = p.after run := by
  induction run generalizing p with
  | nil =>
      have hafter : p.after [] = p := rfl
      rw [hafter, List.nil_append]
      cases rest with
      | nil => rfl
      | cons c rest =>
          unfold scan
          rw [if_pos (Nat.le_refl _)]
  | cons c run ih =>
      have hoffset := offset_after (p.advance c) run
      have hc := offset_advance p c
      have hsize := c.utf8Size_pos
      have hafter : p.after (c :: run) = (p.advance c).after run := rfl
      have hpassed : ¬ ((p.advance c).after run).offset ≤ p.offset := by
        omega
      rw [hafter, List.cons_append]
      unfold scan
      rw [if_neg hpassed]
      exact ih (p.advance c)

theorem offset_start_after (used : List Char) :
    (start.after used).offset = (String.ofList used).utf8ByteSize := by
  rw [offset_after]
  exact Nat.zero_add _

/-- A text can be cut behind the bytes of its first characters. -/
theorem charsFrom?_append (used rest : List Char) :
    charsFrom? (String.ofList used).utf8ByteSize (used ++ rest) = some rest := by
  induction used with
  | nil => simp [charsFrom?]
  | cons c used ih =>
      obtain ⟨size, hsize⟩ : ∃ size, c.utf8Size = size + 1 :=
        ⟨c.utf8Size - 1, (Nat.sub_add_cancel c.utf8Size_pos).symm⟩
      have hcount : c.utf8Size + (String.ofList used).utf8ByteSize =
          size + (String.ofList used).utf8ByteSize + 1 := by
        omega
      rw [utf8ByteSize_ofList_cons, hcount, List.cons_append]
      unfold charsFrom?
      rw [if_pos (by omega), ← hcount, Nat.add_sub_cancel_left]
      exact ih

theorem line_after (p : Position) (run : List Char) :
    (p.after run).line = p.line + run.count '\n' := by
  induction run generalizing p with
  | nil => rfl
  | cons c rest ih =>
      have hrest : (p.after (c :: rest)).line = (p.advance c).line + rest.count '\n' :=
        ih (p.advance c)
      rw [hrest]
      unfold advance
      by_cases hc : c = '\n'
      · rw [if_pos hc, hc, List.count_cons_self]
        change p.line + 1 + rest.count '\n' = _
        omega
      · rw [if_neg hc, List.count_cons_of_ne hc]

theorem column_after_of_line (p : Position) {run : List Char} (h : '\n' ∉ run) :
    (p.after run).column = p.column + run.length := by
  induction run generalizing p with
  | nil => rfl
  | cons c rest ih =>
      have hc : '\n' ≠ c := List.ne_of_not_mem_cons h
      have hrest : '\n' ∉ rest := List.not_mem_of_not_mem_cons h
      have hcolumn : (p.after (c :: rest)).column = (p.advance c).column + rest.length :=
        ih (p.advance c) hrest
      rw [hcolumn, List.length_cons]
      unfold advance
      rw [if_neg fun hfeed => hc hfeed.symm]
      change p.column + 1 + rest.length = _
      omega

/-- Behind a line feed columns are counted from one again. -/
theorem column_after_feed (p : Position) (run : List Char) :
    (p.after (run ++ ['\n'])).column = 1 := by
  rw [after_append]
  rfl

section Cut

variable {text : String} {used rest : List Char}

/-- A cut between the characters is a cut of the text. -/
theorem eq_append_of_toList (h : text.toList = used ++ rest) :
    text = String.ofList used ++ String.ofList rest := by
  apply String.toList_injective
  rw [String.toList_append, String.toList_ofList, String.toList_ofList, h]

theorem offset_start_after_le (h : text.toList = used ++ rest) :
    (start.after used).offset ≤ text.utf8ByteSize := by
  rw [offset_start_after, eq_append_of_toList h, String.utf8ByteSize_append]
  exact Nat.le_add_right _ _

/-- A place in a text is the place of its own offset. -/
theorem ofOffset_after (h : text.toList = used ++ rest) :
    ofOffset text (start.after used).offset = start.after used := by
  unfold ofOffset
  rw [Nat.min_eq_left (offset_start_after_le h), h]
  exact scan_offset_after start used rest

end Cut

end Hypermedia.Position
