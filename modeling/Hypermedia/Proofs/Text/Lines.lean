import Hypermedia.Text.Basic

/-!
Lines and line endings. A line feed behind a text that does not end in the
middle of a line ending closes its last line and opens no other one.

Which line of a text is the one of some number can be told without splitting
the text: it stands behind as many line feeds as there are lines in front of it,
and goes on up to its ending.
-/

namespace Hypermedia.Text

section Feed

variable {cs : List Char} {last : Char}

theorem getLast?_of_cons {c : Char} (h : (c :: cs).getLast? = some last) (hne : c ≠ last) :
    cs.getLast? = some last := by
  cases cs with
  | nil => exact absurd (by simpa using h) hne
  | cons d rest => simpa using h

theorem lineChars_append_feed (hlast : cs.getLast? = some last) (hfeed : last ≠ '\n')
    (hreturn : last ≠ '\r') : lineChars (cs ++ ['\n']) = lineChars cs := by
  -- A carriage return in front of the feed would make it one line ending.
  have hapart : ∀ {c : Char} {rest : List Char}, (c :: rest).getLast? = some last →
      (∀ others, c = '\r' → rest = '\n' :: others → False) →
      ∀ others, c = '\r' → rest ++ ['\n'] = '\n' :: others → False := by
    intro c rest h hbreak others hc hothers
    cases rest with
    | nil => exact hreturn (by simpa [hc] using h.symm)
    | cons d rest =>
        obtain ⟨rfl, -⟩ := List.cons.inj hothers
        exact hbreak rest hc rfl
  fun_induction lineChars cs with
  | case1 => simp at hlast
  | case2 rest ih =>
      rw [List.cons_append, lineChars, ih (getLast?_of_cons hlast hfeed.symm)]
  | case3 rest ih =>
      have hrest := getLast?_of_cons (getLast?_of_cons hlast hreturn.symm) hfeed.symm
      rw [List.cons_append, List.cons_append, lineChars, ih hrest]
  | case4 c rest hc hbreak hnone ih =>
      rw [List.cons_append, lineChars.eq_4 c _ hc (hapart hlast hbreak)]
      cases rest with
      | nil => simp [lineChars]
      | cons d rest => rw [ih (by simpa using hlast), hnone]
  | case5 c rest hc hbreak line lines hsome ih =>
      rw [List.cons_append, lineChars.eq_4 c _ hc (hapart hlast hbreak)]
      cases rest with
      | nil => simp [lineChars] at hsome
      | cons d rest => rw [ih (by simpa using hlast), hsome]

end Feed

/-- A line feed behind a text closes its last line. -/
theorem lines_append_feed {text : String} {last : Char} (hlast : text.toList.getLast? = some last)
    (hfeed : last ≠ '\n') (hreturn : last ≠ '\r') : lines (text ++ "\n") = lines text := by
  unfold lines
  rw [String.toList_append]
  exact congrArg _ (lineChars_append_feed hlast hfeed hreturn)

/-- What stands behind a line: nothing, or a line ending. A carriage return
right before a feed is never the end of the line itself. -/
inductive EndsLine : List Char → List Char → Prop
  | last {line : List Char} : EndsLine line []
  | feed {line more : List Char} (apart : line.getLast? ≠ some '\r') :
      EndsLine line ('\n' :: more)
  | returnFeed {line more : List Char} : EndsLine line ('\r' :: '\n' :: more)

/-- Some text that a line can stand behind: nothing, or what ends with a line
feed. -/
def OpensLine (front : List Char) : Prop :=
  ∀ c ∈ front.getLast?, c = '\n'

/-- The line with this number, counted from one, without its ending. Right
behind a line feed at the end of the text there is an empty one. -/
inductive IsLine : List Char → Nat → List Char → Prop
  | intro {front line behind : List Char} (opens : OpensLine front) (whole : '\n' ∉ line)
      (ends : EndsLine line behind) :
      IsLine (front ++ (line ++ behind)) (front.count '\n' + 1) line

section Split

variable {front line behind : List Char} {c : Char}

theorem OpensLine.tail (h : OpensLine (c :: front)) : OpensLine front := by
  intro last hlast
  cases front with
  | nil => cases hlast
  | cons d rest => exact h last (by rwa [List.getLast?_cons_cons])

theorem OpensLine.eq_of_singleton (h : OpensLine [c]) : c = '\n' :=
  h c rfl

theorem EndsLine.tail (h : EndsLine (c :: line) behind) : EndsLine line behind := by
  cases h with
  | last => exact .last
  | feed apart =>
      refine .feed fun hlast => apart ?_
      cases line with
      | nil => cases hlast
      | cons d rest => rwa [List.getLast?_cons_cons]
  | returnFeed => exact .returnFeed

theorem lineChars_eq_nil_iff : lineChars line = [] ↔ line = [] := by
  constructor
  · intro h
    fun_cases lineChars line with
    | case1 => rfl
    | case2 rest => simp [lineChars] at h
    | case3 rest => simp [lineChars] at h
    | case4 c rest hc hbreak hnone =>
        rw [lineChars.eq_4 c _ hc hbreak, hnone] at h
        cases h
    | case5 c rest hc hbreak first lines hsome =>
        rw [lineChars.eq_4 c _ hc hbreak, hsome] at h
        cases h
  · rintro rfl
    rfl

/-- Text that a line can stand behind is made of whole lines. -/
theorem lineChars_append (h : OpensLine front) (rest : List Char) :
    lineChars (front ++ rest) = lineChars front ++ lineChars rest := by
  fun_induction lineChars front with
  | case1 => rfl
  | case2 more ih =>
      rw [List.cons_append, lineChars, ih h.tail]
      rfl
  | case3 more ih =>
      rw [List.cons_append, List.cons_append, lineChars, ih h.tail.tail]
      rfl
  | case4 c more hc hbreak hnone ih =>
      rw [lineChars_eq_nil_iff.mp hnone] at h
      exact absurd h.eq_of_singleton hc
  | case5 c more hc hbreak first lines hsome ih =>
      have hapart : ∀ others, c = '\r' → more ++ rest = '\n' :: others → False := by
        intro others hreturn hothers
        cases more with
        | nil => cases hsome
        | cons d more =>
            obtain ⟨rfl, -⟩ := List.cons.inj hothers
            exact hbreak more hreturn rfl
      rw [List.cons_append, lineChars.eq_4 c _ hc hapart, ih h.tail, hsome]
      rfl

theorem length_lineChars (h : OpensLine front) : (lineChars front).length = front.count '\n' := by
  fun_induction lineChars front with
  | case1 => rfl
  | case2 more ih => simp [ih h.tail]
  | case3 more ih => simp [ih h.tail.tail]
  | case4 c more hc hbreak hnone ih =>
      rw [lineChars_eq_nil_iff.mp hnone] at h
      exact absurd h.eq_of_singleton hc
  | case5 c more hc hbreak first lines hsome ih =>
      have hmore := ih h.tail
      rw [hsome] at hmore
      rw [List.count_cons_of_ne fun hfeed => hc hfeed, ← hmore]
      rfl

/-- The first line of a text. An empty text has none. -/
theorem head?_lineChars (whole : '\n' ∉ line) (ends : EndsLine line behind) :
    (lineChars (line ++ behind)).head?.getD [] = line := by
  induction line with
  | nil => cases ends <;> rfl
  | cons c more ih =>
      have hc : '\n' ≠ c := List.ne_of_not_mem_cons whole
      have hmore : '\n' ∉ more := List.not_mem_of_not_mem_cons whole
      have hapart : ∀ others, c = '\r' → more ++ behind = '\n' :: others → False := by
        intro others hreturn hothers
        cases more with
        | nil =>
            cases ends with
            | last => cases hothers
            | feed apart => exact apart (by rw [hreturn]; rfl)
            | returnFeed => cases hothers
        | cons d more =>
            obtain ⟨rfl, -⟩ := List.cons.inj hothers
            exact hmore List.mem_cons_self
      have hnext := ih hmore ends.tail
      rw [List.cons_append, lineChars.eq_4 c _ (fun hfeed => hc hfeed.symm) hapart]
      cases hlines : lineChars (more ++ behind) with
      | nil =>
          rw [hlines] at hnext
          rw [← hnext]
          rfl
      | cons first lines =>
          rw [hlines] at hnext
          rw [← hnext]
          rfl

theorem IsLine.getD_lines {text : String} {number : Nat} (h : IsLine text.toList number line) :
    ((lines text)[number - 1]?).getD "" = String.ofList line := by
  unfold lines
  generalize text.toList = chars at h
  cases h with
  | @intro front _ behind opens whole ends =>
      have hfirst := head?_lineChars whole ends
      rw [List.getElem?_map, lineChars_append opens, Nat.add_sub_cancel, ← length_lineChars opens,
        List.getElem?_append_right (Nat.le_refl _), Nat.sub_self, ← List.head?_eq_getElem?]
      cases hhead : (lineChars (line ++ behind)).head? with
      | none =>
          rw [hhead] at hfirst
          rw [← hfirst]
          rfl
      | some first =>
          rw [hhead] at hfirst
          rw [← hfirst]
          rfl

/-- Back to where its line starts. -/
theorem exists_lineStart (before : List Char) :
    ∃ front left, before = front ++ left ∧ OpensLine front ∧ '\n' ∉ left := by
  induction before with
  | nil => exact ⟨[], [], rfl, nofun, List.not_mem_nil⟩
  | cons c rest ih =>
      obtain ⟨front, left, rfl, hopens, hleft⟩ := ih
      cases front with
      | cons d front =>
          refine ⟨c :: d :: front, left, rfl, fun last hlast => hopens last ?_, hleft⟩
          rwa [← List.getLast?_cons_cons (a := c)]
      | nil =>
          by_cases hc : c = '\n'
          · refine ⟨[c], left, rfl, fun last hlast => ?_, hleft⟩
            cases hlast
            exact hc
          · exact ⟨[], c :: left, rfl, nofun,
              List.not_mem_cons_of_ne_of_not_mem (Ne.symm hc) hleft⟩

/-- On to where its line ends. -/
theorem exists_lineEnd (behind : List Char) :
    ∃ right ending, behind = right ++ ending ∧ '\n' ∉ right ∧ EndsLine right ending := by
  induction behind with
  | nil => exact ⟨[], [], rfl, List.not_mem_nil, .last⟩
  | cons c rest ih =>
      obtain ⟨right, ending, rfl, hright, hends⟩ := ih
      by_cases hc : c = '\n'
      · rw [hc]
        exact ⟨[], _, rfl, List.not_mem_nil, .feed nofun⟩
      · have hlonger : '\n' ∉ c :: right :=
          List.not_mem_cons_of_ne_of_not_mem (Ne.symm hc) hright
        cases hends with
        | last => exact ⟨c :: right, [], rfl, hlonger, .last⟩
        | returnFeed => exact ⟨c :: right, _, rfl, hlonger, .returnFeed⟩
        | feed apart =>
            cases right with
            | cons d right =>
                refine ⟨c :: d :: right, _, rfl, hlonger, .feed ?_⟩
                rwa [List.getLast?_cons_cons]
            | nil =>
                by_cases hreturn : c = '\r'
                · rw [hreturn]
                  exact ⟨[], _, rfl, List.not_mem_nil, .returnFeed⟩
                · refine ⟨[c], _, rfl, hlonger, .feed fun hlast => hreturn ?_⟩
                  exact Option.some.inj hlast

/-- A cut that does not go through a line ending: what follows is no feed, or
what comes before is there and is no carriage return. -/
def CleanCut (before behind : List Char) : Prop :=
  behind.head? ≠ some '\n' ∨ ∃ last ∈ before.getLast?, last ≠ '\r'

theorem CleanCut.append {before : List Char} (h : CleanCut before behind) (first : List Char) :
    CleanCut (first ++ before) behind := by
  rcases h with hhead | ⟨last, hlast, hreturn⟩
  · exact .inl hhead
  · refine .inr ⟨last, ?_, hreturn⟩
    rw [List.getLast?_append, Option.mem_def.mp hlast]
    rfl

theorem CleanCut.of_not_blank {before : List Char}
    (h : ∀ c ∈ behind.head?, Text.isBlank c = false) : CleanCut before behind := by
  refine .inl fun hhead => ?_
  have hblank := h '\n' hhead
  exact absurd hblank (by decide)

/-- The line around a clean cut. -/
theorem CleanCut.exists_line {before : List Char} (h : CleanCut before behind) :
    ∃ front left right ending, before = front ++ left ∧ behind = right ++ ending ∧
      OpensLine front ∧ '\n' ∉ left ++ right ∧ EndsLine (left ++ right) ending := by
  obtain ⟨front, left, hbefore, hopens, hleft⟩ := exists_lineStart before
  obtain ⟨right, ending, hbehind, hright, hends⟩ := exists_lineEnd behind
  refine ⟨front, left, right, ending, hbefore, hbehind, hopens, ?_, ?_⟩
  · exact fun hmem => (List.mem_append.mp hmem).elim hleft hright
  · cases hends with
    | last => exact .last
    | returnFeed => exact .returnFeed
    | feed apart =>
        refine .feed fun hlast => ?_
        rw [List.getLast?_append] at hlast
        cases hr : right.getLast? with
        | some other =>
            rw [hr] at hlast apart
            exact apart hlast
        | none =>
            rw [hr] at hlast
            have hreturn : left.getLast? = some '\r' := hlast
            rcases h with hhead | ⟨last, hmem, hne⟩
            · rw [hbehind, List.getLast?_eq_none_iff.mp hr] at hhead
              exact hhead rfl
            · rw [hbefore, List.getLast?_append, hreturn] at hmem
              exact hne (Option.some.inj hmem).symm

end Split

end Hypermedia.Text
