import Mathlib.Data.List.Forall2
import Hypermedia.Manifest

/-!
From the attributes that a manifest lists to its reports. An unknown name refuses
the manifest as a whole, and the first one is named. Otherwise there is a report
for every attribute, in order, and it says what that attribute gives by itself.

Names are known by a table. They can be taken apart just as well: what is left
behind the prefixes is the keyword of the language.
-/

namespace Hypermedia

namespace Attribute

/-- The names of attributes of any kind. -/
def knownNames : List String := Kind.values.flatMap Kind.names

example : knownNames = ["hx-trigger", "data-hx-trigger", "hx-swap", "data-hx-swap", "hx-sync",
    "data-hx-sync"] := by decide

namespace Kind

variable {kind : Kind} {name : String}

/-- The kind whose keyword is left of a name when `data-`, if it is there, is
taken off once, and then `hx-`, which has to be there. -/
def behindPrefixes? (name : String) : Option Kind :=
  let bare := (name.toList.dropPrefix? "data-".toList).getD name.toList
  (bare.dropPrefix? "hx-".toList).bind fun word =>
    values.find? fun kind => kind.keyword.toList == word

theorem mem_values (kind : Kind) : kind ∈ values := by
  cases kind <;> decide

theorem ofName?_eq_some_iff : ofName? name = some kind ↔ name ∈ kind.names := by
  refine ⟨fun h => ?_, ofName?_of_mem_names⟩
  simpa using List.find?_some h

theorem ofName?_eq_none_iff : ofName? name = none ↔ name ∉ knownNames := by
  simp [ofName?, knownNames, mem_values]

theorem behindPrefixes?_of_mem_names (h : name ∈ kind.names) :
    behindPrefixes? name = some kind := by
  rcases List.mem_cons.mp h with rfl | h
  · cases kind <;> decide
  · rw [List.mem_singleton.mp h]
    cases kind <;> decide

/-- A name is put together again from what has been taken off. -/
theorem mem_names_of_behindPrefixes? (h : behindPrefixes? name = some kind) :
    name ∈ kind.names := by
  obtain ⟨word, hword, hfound⟩ := Option.bind_eq_some_iff.mp h
  have hkeyword : kind.keyword.toList = word := by simpa using List.find?_some hfound
  obtain ⟨front, hbare, hfront⟩ := List.dropPrefix?_eq_some_iff.mp hword
  have hhx : front = "hx-".toList := by simpa using hfront
  rw [hhx, ← hkeyword] at hbare
  cases hdata : name.toList.dropPrefix? "data-".toList with
  | none =>
      rw [hdata] at hbare
      have hname : name = "hx-" ++ kind.keyword := by
        rw [← String.toList_inj, String.toList_append]
        exact hbare
      rw [hname]
      exact List.mem_cons_self
  | some bare =>
      rw [hdata] at hbare
      obtain ⟨first, hlist, hfirst⟩ := List.dropPrefix?_eq_some_iff.mp hdata
      have hfirst : first = "data-".toList := by simpa using hfirst
      have hname : name = "data-hx-" ++ kind.keyword := by
        rw [← String.toList_inj, hlist, hfirst, String.toList_append]
        exact congrArg ("data-".toList ++ ·) hbare
      rw [hname]
      exact List.mem_cons_of_mem _ List.mem_cons_self

theorem ofName?_eq_behindPrefixes? (name : String) : ofName? name = behindPrefixes? name := by
  ext kind
  rw [ofName?_eq_some_iff]
  exact ⟨behindPrefixes?_of_mem_names, mem_names_of_behindPrefixes?⟩

end Kind

end Attribute

namespace Manifest

open Attribute

variable {attributes : List (String × String)} {pair : String × String} {failure : Failure}

/-- The report on an attribute, told from its name and its value alone: what the
language of the name makes of the value. -/
inductive Reports (defaults : Swap.Defaults) : String × String → Report → Prop where
  | trigger {name value : String} (h : Kind.behindPrefixes? name = some .trigger) :
      Reports defaults (name, value) ⟨name, value, (Trigger.parse value).map .trigger⟩
  | swap {name value : String} (h : Kind.behindPrefixes? name = some .swap) :
      Reports defaults (name, value) ⟨name, value, (Swap.parse defaults value).map .swap⟩
  | sync {name value : String} (h : Kind.behindPrefixes? name = some .sync) :
      Reports defaults (name, value) ⟨name, value, (Sync.parse value).map .sync⟩

theorem reports_of_kind {kind : Kind} (h : Kind.behindPrefixes? pair.1 = some kind)
    (defaults : Swap.Defaults) :
    Reports defaults pair (Entry.report defaults ⟨kind, pair.1, pair.2⟩) := by
  cases kind with
  | trigger => exact .trigger h
  | swap => exact .swap h
  | sync => exact .sync h

theorem ofPair_of_unknown (h : pair.1 ∉ knownNames) :
    Entry.ofPair pair = .error (.unknownAttribute pair.1) := by
  unfold Entry.ofPair
  rw [Kind.ofName?_eq_none_iff.mpr h]

theorem ofPair_of_known (h : pair.1 ∈ knownNames) :
    ∃ kind, Kind.behindPrefixes? pair.1 = some kind ∧
      Entry.ofPair pair = .ok ⟨kind, pair.1, pair.2⟩ := by
  have hsome : Kind.ofName? pair.1 ≠ none := fun hnone => Kind.ofName?_eq_none_iff.mp hnone h
  obtain ⟨kind, hkind⟩ := Option.ne_none_iff_exists'.mp hsome
  refine ⟨kind, (Kind.ofName?_eq_behindPrefixes? _).symm.trans hkind, ?_⟩
  unfold Entry.ofPair
  rw [hkind]

/-- Known names are collected in order. -/
theorem mapM_ofPair_of_known (h : ∀ pair ∈ attributes, pair.1 ∈ knownNames) :
    ∃ entries, attributes.mapM Entry.ofPair = .ok entries ∧
      ∀ defaults, List.Forall₂ (Reports defaults) attributes
        (entries.map (Entry.report defaults)) := by
  induction attributes with
  | nil => exact ⟨[], rfl, fun _ => .nil⟩
  | cons pair others ih =>
      obtain ⟨hfirst, hothers⟩ := List.forall_mem_cons.mp h
      obtain ⟨kind, hkind, hpair⟩ := ofPair_of_known hfirst
      obtain ⟨entries, hentries, hreports⟩ := ih hothers
      refine ⟨⟨kind, pair.1, pair.2⟩ :: entries, ?_, fun defaults => ?_⟩
      · rw [List.mapM_cons, hpair, hentries]
        rfl
      · exact .cons (reports_of_kind hkind defaults) (hreports defaults)

/-- Known names in front of an unknown one do not matter, and nor does what
follows. -/
theorem mapM_ofPair_of_unknown {front : List (String × String)}
    (hfront : ∀ pair ∈ front, pair.1 ∈ knownNames) (h : pair.1 ∉ knownNames)
    (rest : List (String × String)) :
    (front ++ pair :: rest).mapM Entry.ofPair = .error (.unknownAttribute pair.1) := by
  obtain ⟨entries, hentries, -⟩ := mapM_ofPair_of_known hfront
  rw [List.mapM_append, hentries, List.mapM_cons, ofPair_of_unknown h]
  rfl

theorem parse_of_attributes {text : String} (h : attributes? text = some attributes) :
    parse text = ofAttributes attributes := by
  unfold parse
  rw [h]

/-- A manifest is loaded as a whole or not at all. The first unknown name is the
failure, whatever stands behind it. If all names are known, there are as many
entries as attributes, and a check with any starting values gives a report for
each of them, in order: it repeats the name and the value, and says what the
reader of the language that the name selects gives for the value. -/
theorem parse_all_or_first_unknown {text : String} (h : attributes? text = some attributes) :
    (∀ front name value rest, attributes = front ++ (name, value) :: rest →
      (∀ pair ∈ front, pair.1 ∈ knownNames) → name ∉ knownNames →
        parse text = .error (.unknownAttribute name) ∧
          (Failure.unknownAttribute name).message =
            "Manifest error: Unknown attribute '" ++ name ++ "'") ∧
    ((∀ pair ∈ attributes, pair.1 ∈ knownNames) →
      ∃ manifest, parse text = .ok manifest ∧ manifest.entries.length = attributes.length ∧
        ∀ defaults, List.Forall₂ (Reports defaults) attributes (manifest.check defaults)) := by
  rw [parse_of_attributes h]
  constructor
  · rintro front name value rest rfl hfront hname
    refine ⟨?_, rfl⟩
    unfold ofAttributes
    rw [mapM_ofPair_of_unknown hfront hname]
    rfl
  · intro hknown
    obtain ⟨entries, hentries, hreports⟩ := mapM_ofPair_of_known hknown
    refine ⟨⟨entries⟩, ?_, ?_, hreports⟩
    · unfold ofAttributes
      rw [hentries]
      rfl
    · have hlength := (hreports .documented).length_eq
      rw [List.length_map] at hlength
      exact hlength.symm

/-- A manifest that lists these attributes, if nothing in them has to be
escaped. -/
def listing (attributes : List (String × String)) : String :=
  String.join (attributes.map fun pair =>
    "[[attribute]]\nname = \"" ++ pair.1 ++ "\"\nvalue = \"" ++ pair.2 ++ "\"\n")

/-- Two unknown names behind a known one, and two known names with a value that
cannot be read. -/
theorem parse_all_or_first_unknown_around_faults :
    attributes? (listing [("hx-sync", "never"), ("data-data-hx-swap", ""), ("hx-post", "/")]) =
        some [("hx-sync", "never"), ("data-data-hx-swap", ""), ("hx-post", "/")] ∧
      "data-data-hx-swap" ∉ knownNames ∧
      parse (listing [("hx-sync", "never"), ("data-data-hx-swap", ""), ("hx-post", "/")]) =
        .error (.unknownAttribute "data-data-hx-swap") ∧
      attributes? (listing [("hx-sync", "never"), ("data-hx-swap", "delete")]) =
        some [("hx-sync", "never"), ("data-hx-swap", "delete")] ∧
      ∃ manifest, parse (listing [("hx-sync", "never"), ("data-hx-swap", "delete")]) =
          .ok manifest ∧
        manifest.entries.length = 2 ∧
        ∀ defaults, List.Forall₂ (Reports defaults)
            [("hx-sync", "never"), ("data-hx-swap", "delete")] (manifest.check defaults) ∧
          (manifest.check defaults).head?.map Report.outcome =
            some (.error ⟨.start, .invalidModifier "never"⟩) := by
  have hrefused : attributes?
      (listing [("hx-sync", "never"), ("data-data-hx-swap", ""), ("hx-post", "/")]) =
        some [("hx-sync", "never"), ("data-data-hx-swap", ""), ("hx-post", "/")] := by
    decide +kernel
  have hloaded : attributes? (listing [("hx-sync", "never"), ("data-hx-swap", "delete")]) =
      some [("hx-sync", "never"), ("data-hx-swap", "delete")] := by
    decide +kernel
  have hname : "data-data-hx-swap" ∉ knownNames := by decide
  have hfirst := (parse_all_or_first_unknown hrefused).1 [("hx-sync", "never")] _ _ _ rfl (by decide) hname
  obtain ⟨manifest, hmanifest, hlength, hreports⟩ :=
    (parse_all_or_first_unknown hloaded).2 (by decide)
  refine ⟨hrefused, hname, hfirst.1, hloaded, manifest, hmanifest, hlength, fun defaults => ?_⟩
  refine ⟨hreports defaults, ?_⟩
  have hnever : Sync.parse "never" = .error ⟨.start, .invalidModifier "never"⟩ := by
    decide +kernel
  cases hchecked : manifest.check defaults with
  | nil => simpa [hchecked] using hreports defaults
  | cons first others =>
      have hpair := hreports defaults
      rw [hchecked, List.forall₂_cons] at hpair
      cases hpair.1 with
      | trigger h => exact absurd h (by decide)
      | swap h => exact absurd h (by decide)
      | sync => simp [hnever, Except.map]

end Manifest

end Hypermedia
