import Hypermedia.Proofs.Cursor.Takes
import Hypermedia.Reader.Forward

/-!
The shared readers succeed exactly on the texts of the grammar. Each statement
goes both ways and says where the reader stops: behind the text that stands for
its value. Callers need not open a reader again.
-/

namespace Hypermedia.Reader

open Grammar

variable {α β : Type}

theorem bind_of_ok {r : Reader α} {next : α → Reader β} {c d : Cursor} {a : α}
    (h : r c = .ok a d) : (r >>= next) c = next a d := by
  rw [bind_run, h]

theorem ok_of_bind {r : Reader α} {next : α → Reader β} {c e : Cursor} {b : β}
    (h : (r >>= next) c = .ok b e) : ∃ a d, r c = .ok a d ∧ next a d = .ok b e := by
  rw [bind_run] at h
  cases hr : r c with
  | ok a d =>
      rw [hr] at h
      exact ⟨a, d, rfl, h⟩
  | error f d =>
      rw [hr] at h
      cases h

theorem run_eq_ok_iff {p : Char → Bool} {c d : Cursor} {text : String} :
    run p c = .ok text d ↔ c.Takes text.toList d ∧ MaximalRun p text.toList d.rest := by
  constructor
  · intro h
    cases h
    rw [String.toList_ofList]
    exact ⟨c.takes_pastRun p, c.maximalRun_run p⟩
  · rintro ⟨htakes, hrun⟩
    unfold run
    rw [htakes.run_eq hrun, htakes.pastRun_eq hrun, String.ofList_toList]

theorem bareToken_eq_ok_iff {c d : Cursor} {text : String} :
    bareToken c = .ok text d ↔
      c.Takes text.toList d ∧ MaximalRun isBareChar text.toList d.rest :=
  run_eq_ok_iff

theorem name_eq_ok_iff {c d : Cursor} {text : String} :
    name c = .ok text d ↔
      c.Takes text.toList d ∧ text ≠ "" ∧ MaximalRun isNameChar text.toList d.rest := by
  rw [name_run]
  constructor
  · intro h
    split at h
    · rename_i hat
      obtain ⟨htakes, hrun⟩ := run_eq_ok_iff.mp (h : run isNameChar c = .ok text d)
      refine ⟨htakes, ?_, hrun⟩
      rintro rfl
      have hcd : c = d := htakes.eq_of_nil
      subst hcd
      unfold Cursor.isAt at hat
      cases hhead : c.rest.head? with
      | none => simp [hhead] at hat
      | some first =>
          have hfirst := hrun.ends first hhead
          simp [hhead, hfirst] at hat
    · cases h
  · rintro ⟨htakes, hne, hrun⟩
    have hlist : text.toList ≠ [] := mt String.toList_eq_nil_iff.mp hne
    rw [if_pos (htakes.isAt_of_all hlist hrun.all)]
    exact run_eq_ok_iff.mpr ⟨htakes, hrun⟩

theorem closedBy_run (closing : Char) (expected : String) (c : Cursor) :
    closedBy closing expected c =
      if (c.pastRun (· != closing)).atEnd then
        .error ((c.pastRun (· != closing)).missing expected) (c.pastRun (· != closing))
      else .ok (String.ofList (c.run (· != closing))) ((c.pastRun (· != closing)).past 1) := by
  unfold closedBy
  rw [run_bind, get_bind]
  split <;> rfl

/-- Up to the closing character and with it. The value is what stands before. -/
theorem closedBy_eq_ok_iff {closing : Char} {expected : String} {c d : Cursor} {text : String} :
    closedBy closing expected c = .ok text d ↔
      c.Takes (text.toList ++ [closing]) d ∧ closing ∉ text.toList := by
  rw [closedBy_run]
  constructor
  · intro h
    split at h
    · cases h
    · rename_i hend
      cases h
      have hrun := c.maximalRun_run (· != closing)
      have htakes := c.takes_pastRun (· != closing)
      rw [String.toList_ofList]
      cases hrest : (c.pastRun (· != closing)).rest with
      | nil => simp [Cursor.atEnd, hrest] at hend
      | cons first more =>
          have hfirst : first = closing := by
            simpa using hrun.ends first (by simp [hrest])
          subst hfirst
          refine ⟨htakes.trans ⟨?_, ?_⟩, fun hmem => ?_⟩
          · simp [Cursor.past, hrest]
          · simp [Cursor.past, hrest]
          · simpa using hrun.all first hmem
  · rintro ⟨htakes, habsent⟩
    obtain ⟨here, hinner, hclose⟩ := htakes.split
    have hrun : MaximalRun (· != closing) text.toList here.rest := by
      constructor
      · intro x hx
        have : x ≠ closing := fun h => habsent (h ▸ hx)
        simpa using this
      · intro x hx
        rw [hclose.rest_eq] at hx
        cases hx
        simp
    have hend : here.atEnd = false := by
      simp [Cursor.atEnd, hclose.rest_eq]
    rw [hinner.pastRun_eq hrun, hinner.run_eq hrun, hend, hclose.past_one_eq]
    simp

theorem literal?_of_takes {text : String} {c d : Cursor} (h : c.Takes text.toList d) :
    literal? text c = .ok true d := by
  have hpre : c.startsWith text = true := by
    simp [Cursor.startsWith, h.rest_eq]
  have hpast : c.Takes text.toList (c.past text.toList.length) := by
    constructor
    · simp [Cursor.past, h.rest_eq]
    · simp [Cursor.past, h.rest_eq]
  rw [literal?_run, if_pos hpre, hpast.unique h]

theorem takes_of_literal? {text : String} {c d : Cursor} (h : literal? text c = .ok true d) :
    c.Takes text.toList d := by
  rw [literal?_run] at h
  split at h
  · rename_i hpre
    cases h
    obtain ⟨more, hmore⟩ := List.isPrefixOf_iff_prefix.mp hpre
    constructor
    · simp [Cursor.past, ← hmore]
    · simp [Cursor.past, ← hmore]
  · cases h

/-- A literal that was not there. -/
theorem literal?_other {text : String} {c d : Cursor} (h : literal? text c = .ok false d) :
    c = d ∧ ¬ text.toList <+: c.rest := by
  rw [literal?_run] at h
  by_cases hstart : c.startsWith text = true
  · rw [if_pos hstart] at h
    cases h
  · rw [if_neg hstart] at h
    cases h
    exact ⟨rfl, fun hprefix => hstart (List.isPrefixOf_iff_prefix.mpr hprefix)⟩

theorem literal?_absent {text : String} {x : Char} {c d : Cursor} (hx : text.toList = [x])
    (h : literal? text c = .ok false d) : c = d ∧ c.rest.head? ≠ some x := by
  obtain ⟨rfl, hother⟩ := literal?_other h
  refine ⟨rfl, fun hhead => hother ?_⟩
  obtain ⟨more, hmore⟩ := List.head?_eq_some_iff.mp hhead
  exact ⟨more, by rw [hx, hmore, List.singleton_append]⟩

theorem literal?_of_absent {text : String} {x : Char} {c : Cursor} (hx : text.toList = [x])
    (h : c.rest.head? ≠ some x) : literal? text c = .ok false c := by
  rw [literal?_run, if_neg]
  intro hstart
  obtain ⟨more, hmore⟩ := List.isPrefixOf_iff_prefix.mp hstart
  rw [← hmore, hx] at h
  exact h rfl

/-- A key is read as a name because the colon behind it ends the name. -/
theorem key_of_takes {c d : Cursor} {key : String} {used : List Char} (hkey : Word key)
    (htakes : c.Takes (key.toList ++ (':' :: used)) d) :
    ∃ behind here, c.isAt isNameChar = true ∧ name c = .ok key behind ∧
      literal? ":" behind = .ok true here ∧ here.Takes used d := by
  obtain ⟨behind, hname, hrest⟩ := htakes.split
  obtain ⟨here, hcolon, hused⟩ := hrest.uncons
  have hrun : MaximalRun isNameChar key.toList behind.rest := by
    refine ⟨hkey.name, fun x hx => ?_⟩
    rw [hcolon.rest_eq] at hx
    cases hx
    decide
  have hlist : key.toList ≠ [] := mt String.toList_eq_nil_iff.mp hkey.nonempty
  have hliteral : literal? ":" behind = .ok true here := literal?_of_takes hcolon
  exact ⟨behind, here, hname.isAt_of_all hlist hkey.name,
    name_eq_ok_iff.mpr ⟨hname, hkey.nonempty, hrun⟩, hliteral, hused⟩

theorem literal_eq_ok_iff {text : String} {c d : Cursor} :
    literal text c = .ok () d ↔ c.Takes text.toList d := by
  constructor
  · intro h
    obtain ⟨found, here, hfound, hrest⟩ := ok_of_bind h
    cases found with
    | true =>
        cases hrest
        exact takes_of_literal? hfound
    | false => cases hrest
  · intro h
    exact bind_of_ok (literal?_of_takes h)

theorem bracketed_eq_ok_iff {c d : Cursor} {text : String} :
    bracketed c = .ok text d ↔
      c.Takes ('[' :: (text.toList ++ [']'])) d ∧ ']' ∉ text.toList := by
  constructor
  · intro h
    obtain ⟨_, here, hopen, hclosed⟩ := ok_of_bind h
    obtain ⟨htakes, habsent⟩ := closedBy_eq_ok_iff.mp hclosed
    exact ⟨(literal_eq_ok_iff.mp hopen).trans htakes, habsent⟩
  · rintro ⟨htakes, habsent⟩
    obtain ⟨here, hopen, hclosed⟩ := htakes.uncons
    unfold bracketed
    rw [bind_of_ok (literal_eq_ok_iff.mpr hopen)]
    exact closedBy_eq_ok_iff.mpr ⟨hclosed, habsent⟩

/-- What is not a quote starts a bare token, also where that token is empty. -/
theorem isAt_isQuote_of_bare {c d : Cursor} {used : List Char} (htakes : c.Takes used d)
    (hrun : MaximalRun isBareChar used d.rest)
    (hunquoted : ∀ first ∈ used.head?, isQuote first = false) : c.isAt isQuote = false := by
  cases used with
  | cons first more =>
      rw [htakes.isAt_eq]
      exact hunquoted first rfl
  | nil =>
      have hcd : c = d := htakes.eq_of_nil
      subst hcd
      unfold Cursor.isAt
      cases hhead : c.rest.head? with
      | none => rfl
      | some first =>
          have hbare := hrun.ends first hhead
          rw [Option.any_some, Bool.eq_false_iff]
          intro hquote
          rw [isBareChar_of_isQuote hquote] at hbare
          cases hbare

theorem not_isQuote_of_isAt {c d : Cursor} {used : List Char} (htakes : c.Takes used d)
    (hat : c.isAt isQuote = false) : ∀ first ∈ used.head?, isQuote first = false := by
  intro first hfirst
  cases used with
  | nil => cases hfirst
  | cons x more =>
      cases hfirst
      rwa [htakes.isAt_eq] at hat

theorem token_run_of_bare {c : Cursor} (h : c.isAt isQuote = false) : token c = bareToken c := by
  unfold token
  rw [get_bind]
  unfold Cursor.isAt at h
  cases hpeek : c.peek with
  | none => rfl
  | some first =>
      have hfirst : isQuote first = false := by
        unfold Cursor.peek at hpeek
        simpa [hpeek] using h
      simp [hfirst]

theorem token_run_of_quote {c : Cursor} {quote : Char} {more : List Char}
    (hrest : c.rest = quote :: more) (h : isQuote quote = true) :
    token c = closedBy quote ("closing " ++ String.singleton quote) (c.past 1) := by
  unfold token
  rw [get_bind]
  have hpeek : c.peek = some quote := by simp [Cursor.peek, hrest]
  simp only [hpeek, h, if_true]
  rfl

theorem token_eq_ok_iff {c d : Cursor} {text : String} :
    token c = .ok text d ↔ ∃ used, c.Takes used d ∧ TokenText text used d.rest := by
  constructor
  · intro h
    cases hat : c.isAt isQuote with
    | false =>
        rw [token_run_of_bare hat] at h
        obtain ⟨htakes, hrun⟩ := bareToken_eq_ok_iff.mp h
        exact ⟨_, htakes, .bare hrun (not_isQuote_of_isAt htakes hat)⟩
    | true =>
        obtain ⟨place, rest⟩ := c
        cases rest with
        | nil => cases hat
        | cons quote more =>
            have hquote : isQuote quote = true := hat
            rw [token_run_of_quote rfl hquote] at h
            obtain ⟨htakes, habsent⟩ := closedBy_eq_ok_iff.mp h
            have hfirst := Cursor.takes_cons place quote more
            exact ⟨_, hfirst.trans htakes, .quoted (.intro quote hquote habsent)⟩
  · rintro ⟨used, htakes, htext⟩
    cases htext with
    | bare hrun hunquoted =>
        rw [token_run_of_bare (isAt_isQuote_of_bare htakes hrun hunquoted)]
        exact bareToken_eq_ok_iff.mpr ⟨htakes, hrun⟩
    | quoted hquoted =>
        cases hquoted with
        | intro quote hquote habsent =>
            obtain ⟨here, hopen, hclosed⟩ := htakes.uncons
            rw [token_run_of_quote hopen.rest_eq hquote, hopen.past_one_eq]
            exact closedBy_eq_ok_iff.mpr ⟨hclosed, habsent⟩

end Hypermedia.Reader
