import Hypermedia.Proofs.Text.Classes

/-!
Texts cut at their line feeds. There is always one piece more than there are
feeds, and texts that have been joined by feeds come apart again, each into its
own pieces. This is a plainer cut than that into lines: a feed at the end opens
another piece, and a carriage return is a character like any other.
-/

namespace Hypermedia.Text

/-- A text without line feeds. -/
def OneLine (text : String) : Prop :=
  '\n' ∉ text.toList

instance (text : String) : Decidable (OneLine text) :=
  inferInstanceAs (Decidable (_ ∉ _))

/-- How many line feeds a text has. -/
def feeds (text : String) : Nat :=
  text.toList.count '\n'

/-- What stands between the line feeds of a text, in front of the first one and
behind the last one. -/
def pieces (text : String) : List String :=
  (text.toList.splitOn '\n').map String.ofList

theorem OneLine.append {first second : String} (h : OneLine first) (h' : OneLine second) :
    OneLine (first ++ second) := by
  unfold OneLine
  rw [String.toList_append]
  exact fun hmem => (List.mem_append.mp hmem).elim h h'

theorem oneLine_of_bare {text : String} (h : ∀ c ∈ text.toList, isBareChar c = true) :
    OneLine text := by
  intro hmem
  exact absurd (h '\n' hmem) (by decide)

theorem oneLine_toString (n : Nat) : OneLine (toString n) := by
  intro hmem
  rw [Nat.toString_eq_repr, Nat.toList_repr] at hmem
  have hdigit : Char.isDigit '\n' = true :=
    Nat.isDigit_of_mem_toDigits (by decide) (by decide) hmem
  exact absurd hdigit (by decide)

theorem oneLine_join_iff {texts : List String} :
    OneLine (String.join texts) ↔ ∀ text ∈ texts, OneLine text := by
  unfold OneLine
  rw [String.toList_join, List.mem_flatMap]
  simp

theorem feeds_eq_zero_iff {text : String} : feeds text = 0 ↔ OneLine text :=
  List.count_eq_zero

@[simp]
theorem feeds_append (first second : String) :
    feeds (first ++ second) = feeds first + feeds second := by
  unfold feeds
  rw [String.toList_append, List.count_append]

theorem pieces_append_feed (first second : String) :
    pieces (first ++ "\n" ++ second) = pieces first ++ pieces second := by
  have hlist : (first ++ "\n" ++ second).toList = first.toList ++ '\n' :: second.toList := by simp
  unfold pieces
  rw [hlist, List.splitOn_append_cons_self, List.map_append]

theorem length_pieces (text : String) : (pieces text).length = feeds text + 1 := by
  unfold pieces feeds
  rw [List.length_map]
  induction text.toList with
  | nil => rfl
  | cons c rest ih =>
      rw [List.splitOn_cons_eq_if_modifyHead, List.count_cons]
      split <;> simp [ih]

theorem pieces_intercalate {texts : List String} (h : texts ≠ []) :
    pieces ("\n".intercalate texts) = texts.flatMap pieces := by
  induction texts with
  | nil => exact absurd rfl h
  | cons first others ih =>
      cases others with
      | nil => simp
      | cons second others =>
          rw [String.intercalate_cons_cons, pieces_append_feed, ih (List.cons_ne_nil _ _)]
          rfl

theorem pieces_intercalate_of_oneLine {texts : List String} (hne : texts ≠ [])
    (h : ∀ text ∈ texts, OneLine text) : pieces ("\n".intercalate texts) = texts := by
  have hlists : texts.map String.toList ≠ [] := mt List.map_eq_nil_iff.mp hne
  have hfeed : "\n".toList = ['\n'] := rfl
  unfold pieces
  rw [String.toList_intercalate, hfeed,
    List.splitOn_intercalate '\n' (List.forall_mem_map.mpr h) hlists]
  simp

theorem length_pieces_intercalate {texts : List String} (h : texts ≠ []) :
    (pieces ("\n".intercalate texts)).length = texts.length + feeds (String.join texts) := by
  rw [pieces_intercalate h]
  clear h
  induction texts with
  | nil => rfl
  | cons first others ih =>
      rw [List.flatMap_cons, List.length_append, ih, length_pieces, List.length_cons,
        String.join_cons, feeds_append]
      omega

end Hypermedia.Text
