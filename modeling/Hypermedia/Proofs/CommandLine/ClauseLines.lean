import Hypermedia.Proofs.CommandLine.Check
import Hypermedia.Proofs.Text.Pieces
import Hypermedia.Proofs.Trigger.RoundTrip

/-!
The plain output for a trigger puts each clause on a line of its own. That makes
the lines triggers by themselves, unless a clause goes on over several lines. The
only parts of a clause that can do so are the texts that it takes over as they
are: filters and selectors. All of their line feeds are written out, and nothing
else that is written has any.
-/

namespace Hypermedia

open Grammar Text

theorem Grammar.Word.feeds_eq_zero {text : String} (h : Word text) : feeds text = 0 :=
  feeds_eq_zero_iff.mpr (oneLine_of_bare fun c hc => isBareChar_of_isNameChar (h.name c hc))

/-- Quotes are no line feeds. -/
theorem Token.feeds_written (reserved : List String) (text : String) :
    feeds (Token.written reserved text) = feeds text := by
  have hquote : feeds (String.singleton (quoteFor text)) = 0 := by
    unfold quoteFor
    split <;> rfl
  unfold Token.written
  split
  · rw [feeds_append, feeds_append, hquote, Nat.zero_add, Nat.add_zero]
  · rfl

theorem Duration.feeds_written (time : Duration) : feeds time.written = 0 := by
  unfold Duration.written
  rw [feeds_append, feeds_eq_zero_iff.mpr (oneLine_toString _)]
  rfl

namespace Trigger

/-- The texts in a selector that are taken over as they are. -/
def Selector.texts : Selector → List String
  | .scope _ => []
  | .relative _ text => [text]
  | .css text => [text]

/-- The texts in a modifier that are taken over as they are: its filter, or that
of its selector. -/
def Modifier.texts : Modifier → List String
  | .filter condition => [condition]
  | .element _ selector => selector.texts
  | _ => []

/-- The filter texts and selector texts of a clause. -/
def Clause.texts (clause : Clause) : List String :=
  clause.modifiers.flatMap Modifier.texts

theorem Selector.feeds_written (selector : Selector) :
    feeds selector.written = feeds (String.join selector.texts) := by
  cases selector with
  | scope named => exact (word_scope named).feeds_eq_zero
  | relative how text =>
      have hspace : feeds " " = 0 := by decide
      unfold Selector.written
      rw [feeds_append, feeds_append, (word_relation how).feeds_eq_zero, hspace,
        Token.feeds_written]
      simp [Selector.texts]
  | css text =>
      unfold Selector.written
      rw [Token.feeds_written]
      simp [Selector.texts]

theorem Modifier.feeds_written (modifier : Modifier) :
    feeds modifier.written = feeds (String.join modifier.texts) := by
  have hcolon : feeds ":" = 0 := by decide
  cases modifier with
  | flag word => exact (word_flag word).feeds_eq_zero
  | pace kind time =>
      unfold Modifier.written
      rw [feeds_append, feeds_append, (word_pace kind).feeds_eq_zero, hcolon, time.feeds_written]
      rfl
  | element role selector =>
      unfold Modifier.written
      rw [feeds_append, feeds_append, (word_role role).feeds_eq_zero, hcolon,
        selector.feeds_written]
      simp [Modifier.texts]
  | filter condition =>
      have hopen : feeds "[" = 0 := by decide
      have hclose : feeds "]" = 0 := by decide
      unfold Modifier.written
      rw [feeds_append, feeds_append, hopen, hclose]
      simp [Modifier.texts]
  | queue mode =>
      have hkey : feeds "queue:" = 0 := by decide
      unfold Modifier.written
      rw [feeds_append, hkey, (word_queueMode mode).feeds_eq_zero]
      rfl
  | every interval => exact interval.feeds_written

theorem Modifier.count_spaced (modifiers : List Modifier) :
    (Modifier.spaced modifiers).count '\n' =
      feeds (String.join (modifiers.flatMap Modifier.texts)) := by
  induction modifiers with
  | nil => rfl
  | cons modifier others ih =>
      have hspace : [' '].count '\n' = 0 := by decide
      have hfirst : modifier.written.toList.count '\n' = feeds (String.join modifier.texts) :=
        modifier.feeds_written
      rw [Modifier.spaced_cons, List.count_append, List.count_append, hspace, hfirst, ih,
        List.flatMap_cons, String.join_append, feeds_append, Nat.zero_add]

namespace Clause

variable {clause : Clause}

/-- A clause has the line feeds of its texts, since its event is a word. -/
theorem feeds_written (h : clause.Writable) :
    feeds clause.written = feeds (String.join clause.texts) := by
  have hevent : clause.event.toList.count '\n' = 0 :=
    Word.feeds_eq_zero ⟨h.nonempty, h.name⟩
  unfold feeds
  rw [Clause.toList_written, List.count_append, hevent, Modifier.count_spaced, Nat.zero_add]
  rfl

theorem oneLine_written_iff (h : clause.Writable) :
    OneLine clause.written ↔ ∀ text ∈ clause.texts, OneLine text := by
  rw [← feeds_eq_zero_iff, feeds_written h, feeds_eq_zero_iff, oneLine_join_iff]

/-- What is written for a clause alone is a trigger with this clause alone. -/
theorem parse_written (h : clause.Writable) : parse clause.written = .ok [clause] := by
  rw [← written_singleton]
  exact parse_written_of_writable (List.cons_ne_nil _ _) fun other hmem => by
    rwa [List.mem_singleton.mp hmem]

end Clause

section Output

variable {clauses : List Clause}

theorem feeds_join_written (h : ∀ clause ∈ clauses, clause.Writable) :
    feeds (String.join (clauses.map Clause.written)) =
      feeds (String.join (clauses.flatMap Clause.texts)) := by
  induction clauses with
  | nil => rfl
  | cons clause others ih =>
      obtain ⟨hfirst, hothers⟩ := List.forall_mem_cons.mp h
      rw [List.map_cons, String.join_cons, feeds_append, ih hothers, Clause.feeds_written hfirst,
        List.flatMap_cons, String.join_append, feeds_append]

/-- There is a piece for each clause, and one more for each line feed in a filter
or a selector. -/
theorem length_pieces_written (hne : clauses ≠ [])
    (h : ∀ clause ∈ clauses, clause.Writable) :
    (pieces (Attribute.Value.trigger clauses).written).length =
      clauses.length + feeds (String.join (clauses.flatMap Clause.texts)) := by
  have hmap : clauses.map Clause.written ≠ [] := mt List.map_eq_nil_iff.mp hne
  unfold Attribute.Value.written
  rw [length_pieces_intercalate hmap, List.length_map, feeds_join_written h]

theorem feeds_texts_eq_zero_iff :
    feeds (String.join (clauses.flatMap Clause.texts)) = 0 ↔
      ∀ clause ∈ clauses, ∀ text ∈ clause.texts, OneLine text := by
  rw [feeds_eq_zero_iff, oneLine_join_iff, List.forall_mem_flatMap]

/-- Clauses that are each in one line are the lines of the output. -/
theorem pieces_written_of_oneLine (hne : clauses ≠ [])
    (h : ∀ clause ∈ clauses, OneLine clause.written) :
    pieces (Attribute.Value.trigger clauses).written = clauses.map Clause.written := by
  have hmap : clauses.map Clause.written ≠ [] := mt List.map_eq_nil_iff.mp hne
  unfold Attribute.Value.written
  exact pieces_intercalate_of_oneLine hmap (List.forall_mem_map.mpr h)

/-- The lines are the clauses unless a text in one of them has a line feed. -/
theorem pieces_match_iff (hne : clauses ≠ []) (h : ∀ clause ∈ clauses, clause.Writable) :
    List.Forall₂ (fun piece clause => parse piece = .ok [clause])
        (pieces (Attribute.Value.trigger clauses).written) clauses ↔
      ∀ clause ∈ clauses, ∀ text ∈ clause.texts, OneLine text := by
  constructor
  · intro hmatch
    have hlength := hmatch.length_eq
    rw [length_pieces_written hne h] at hlength
    exact feeds_texts_eq_zero_iff.mp (by omega)
  · intro htexts
    have hlines : ∀ clause ∈ clauses, OneLine clause.written := fun clause hmem =>
      (Clause.oneLine_written_iff (h clause hmem)).mpr (htexts clause hmem)
    rw [pieces_written_of_oneLine hne hlines, List.forall₂_map_left_iff, List.forall₂_same]
    exact fun clause hmem => Clause.parse_written (h clause hmem)

end Output

end Trigger

namespace CommandLine

open FileTree Trigger

/-- What the program prints in the plain format for a trigger that it can read,
cut at its line feeds. The pieces are the clauses, one after another, and each of
them by itself is read as its clause, exactly if no text of a filter or of a
selector has a line feed in it. Otherwise there are more pieces than clauses. -/
theorem trigger_lines_are_clauses_iff {tree : FileTree} {root text : String}
    {arguments : List String} {format : Option String} {settings : Settings}
    {clauses : List Clause}
    (hcommand : Command.ofArguments? arguments = some (.parse .trigger text format))
    (hsettings : (tree.attempt (settingsFor root format)).1 = .ok settings)
    (hpretty : settings.format = .pretty) (hread : Trigger.parse text = .ok clauses) :
    ∃ printed, turn root arguments tree = (.good (printed ++ "\n"), tree) ∧
      (List.Forall₂ (fun piece clause => Trigger.parse piece = .ok [clause])
          (pieces printed) clauses ↔
        ∀ clause ∈ clauses, ∀ part ∈ clause.texts, OneLine part) ∧
      (¬ (∀ clause ∈ clauses, ∀ part ∈ clause.texts, OneLine part) →
        clauses.length < (pieces printed).length) := by
  obtain ⟨hne, hwritable⟩ := writable_of_parse hread
  refine ⟨(Attribute.Value.trigger clauses).written, ?_, pieces_match_iff hne hwritable, ?_⟩
  · rw [turn_of_ok hcommand (attempt_parse hsettings .trigger text)]
    have hparse : Attribute.parse .trigger settings.swap text = .ok (.trigger clauses) := by
      unfold Attribute.parse
      rw [hread]
      rfl
    unfold parseValue
    rw [hparse, hpretty]
    rfl
  · intro htexts
    rw [← feeds_texts_eq_zero_iff] at htexts
    rw [length_pieces_written hne hwritable]
    omega

/-- Two clauses in two lines, and the same with a filter that has a line feed. -/
theorem trigger_lines_are_clauses_iff_around_filter :
    Trigger.parse "b from:'x y' once,a[x]" =
        .ok [⟨"b", [.element .source (.css "x y"), .flag .once]⟩, ⟨"a", [.filter "x"]⟩] ∧
      (∃ printed, turn "root" ["t", "b from:'x y' once,a[x]", "-fpretty"] (ofList []) =
          (.good (printed ++ "\n"), ofList []) ∧
        List.Forall₂ (fun piece clause => Trigger.parse piece = .ok [clause]) (pieces printed)
          [⟨"b", [.element .source (.css "x y"), .flag .once]⟩, ⟨"a", [.filter "x"]⟩]) ∧
      Trigger.parse "b from:'x y' once,a[x\n]" =
        .ok [⟨"b", [.element .source (.css "x y"), .flag .once]⟩, ⟨"a", [.filter "x\n"]⟩] ∧
      ∃ printed, turn "root" ["t", "b from:'x y' once,a[x\n]", "-fpretty"] (ofList []) =
          (.good (printed ++ "\n"), ofList []) ∧
        2 < (pieces printed).length := by
  have hsettings : ((ofList []).attempt (settingsFor "root" (some "pretty"))).1 =
      .ok (.documented "root") := by decide +kernel
  have hcommand : ∀ text, text = "b from:'x y' once,a[x]" ∨ text = "b from:'x y' once,a[x\n]" →
      Command.ofArguments? ["t", text, "-fpretty"] =
        some (.parse .trigger text (some "pretty")) := by
    rintro text (rfl | rfl) <;> decide
  have hplain : Trigger.parse "b from:'x y' once,a[x]" =
      .ok [⟨"b", [.element .source (.css "x y"), .flag .once]⟩, ⟨"a", [.filter "x"]⟩] := by
    decide +kernel
  have hbroken : Trigger.parse "b from:'x y' once,a[x\n]" =
      .ok [⟨"b", [.element .source (.css "x y"), .flag .once]⟩, ⟨"a", [.filter "x\n"]⟩] := by
    decide +kernel
  obtain ⟨lines, hlines, hmatch, -⟩ :=
    trigger_lines_are_clauses_iff (hcommand _ (.inl rfl)) hsettings rfl hplain
  obtain ⟨others, hothers, -, hmore⟩ :=
    trigger_lines_are_clauses_iff (hcommand _ (.inr rfl)) hsettings rfl hbroken
  exact ⟨hplain, ⟨lines, hlines, hmatch.mpr (by decide)⟩, hbroken, others, hothers,
    hmore (by decide)⟩

end CommandLine

end Hypermedia
