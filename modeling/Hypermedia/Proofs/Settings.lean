import Hypermedia.Proofs.FileTree.Directories
import Hypermedia.Proofs.Toml.Plain
import Hypermedia.Settings

/-!
Settings survive being saved and loaded, and a failed save costs nothing. The
text is made before the file is touched, so settings that no text can hold
leave behind every file as it was.
-/

namespace Hypermedia.Settings

open Toml

/-- Whether both delays are integers of TOML. -/
structure HaveText (settings : Settings) : Prop where
  swapDelay : settings.swap.swapDelay.millis < 0x8000000000000000
  settleDelay : settings.swap.settleDelay.millis < 0x8000000000000000

/-- The lines of the settings file. -/
def lines (settings : Settings) : List PlainLine :=
  [.text "format" settings.format.keyword, .blank, .header "swap",
    .text "strategy" settings.swap.strategy.tag,
    .number "swap_delay" settings.swap.swapDelay.millis,
    .number "settle_delay" settings.swap.settleDelay.millis]

section Text

variable {settings : Settings}

theorem isSound_lines (h : settings.HaveText) : ∀ line ∈ settings.lines, line.IsSound := by
  have hformat : settings.format.keyword.toList.all isLiteral = true := by
    cases settings.format <;> decide
  have hstrategy : settings.swap.strategy.tag.toList.all isLiteral = true := by
    cases settings.swap.strategy <;> decide
  rw [List.all_eq_true] at hformat hstrategy
  have hword : ∀ word ∈ ["format", "swap", "strategy", "swap_delay", "settle_delay"],
      IsBareKey word.toList := by
    have hchars : ∀ word ∈ ["format", "swap", "strategy", "swap_delay", "settle_delay"],
        word.toList ≠ [] ∧ word.toList.all isKeyChar = true := by decide
    exact fun word hmem => ⟨(hchars word hmem).1, List.all_eq_true.mp (hchars word hmem).2⟩
  intro line hline
  simp only [lines, List.mem_cons, List.not_mem_nil, or_false] at hline
  rcases hline with rfl | rfl | rfl | rfl | rfl | rfl
  · exact ⟨hword _ (by simp), hformat⟩
  · trivial
  · exact hword _ (by simp)
  · exact ⟨hword _ (by simp), hstrategy⟩
  · exact ⟨hword _ (by simp), h.swapDelay⟩
  · exact ⟨hword _ (by simp), h.settleDelay⟩

theorem written?_of_haveText (h : settings.HaveText) :
    settings.written? = some (String.join (settings.lines.map PlainLine.written)) := by
  simp only [written?, delayText?, if_pos h.swapDelay, if_pos h.settleDelay, Option.some.injEq]
  apply String.toList_injective
  simp [lines, PlainLine.written]

theorem haveText_of_written? {text : String} (h : settings.written? = some text) :
    settings.HaveText := by
  unfold written? delayText? at h
  split at h
  next hswap hsettle =>
    rw [Option.ite_none_right_eq_some] at hswap hsettle
    exact ⟨hswap.1, hsettle.1⟩
  · simp at h

theorem ofLines?_lines (settings : Settings) :
    ofLines? (settings.lines.map PlainLine.meaning) =
      some (.table [("format", .string settings.format.keyword),
        ("swap", .table [("strategy", .string settings.swap.strategy.tag),
          ("swap_delay", .integer settings.swap.swapDelay.millis),
          ("settle_delay", .integer settings.swap.settleDelay.millis)])]) := by
  rfl

/-- The text of settings stands for these settings. -/
theorem ofText?_of_written? {text : String} (h : settings.written? = some text) :
    ofText? settings.root text = some settings := by
  have hfits := haveText_of_written? h
  obtain rfl : String.join (settings.lines.map PlainLine.written) = text := by
    simpa [written?_of_haveText hfits] using h
  have hparse : parse? (String.join (settings.lines.map PlainLine.written)) =
      some (.table [("format", .string settings.format.keyword),
        ("swap", .table [("strategy", .string settings.swap.strategy.tag),
          ("swap_delay", .integer settings.swap.swapDelay.millis),
          ("settle_delay", .integer settings.swap.settleDelay.millis)])]) := by
    simp [parse?, PlainLine.lines?_written (isSound_lines hfits), ofLines?_lines]
  have hformat : decodeFormat (.string settings.format.keyword) = some settings.format :=
    Format.ofKeyword?_keyword settings.format
  have hstrategy : decodeStrategy (.string settings.swap.strategy.tag) =
      some settings.swap.strategy :=
    Swap.Strategy.ofTag?_tag settings.swap.strategy
  have hdelay : ∀ delay : Duration, decodeDelay (.integer delay.millis) = some delay := by
    intro delay
    simp [decodeDelay, Value.natural?, Duration.ofMillis?_millis]
  unfold ofText?
  rw [hparse]
  simp [Value.fields?, fieldOr, List.lookup_cons, decodeSwap, hformat, hstrategy, hdelay]

end Text

/-- Whether a tree has room for the settings of a root directory: there can be
the directory, and no directory is or comes about where its settings file
belongs. -/
structure Fits (root : String) (tree : FileTree) : Prop where
  directory : tree.HasRoomFor root
  notDirectory : tree.lookup? (tree.placeOf (fileIn root)) ≠ some .directory
  notOnWay : tree.placeOf (fileIn root) ∉ tree.wayOf root

section Files

variable {settings : Settings} {tree saved : FileTree} {root : String}

/-- The three steps of saving: the directory, the text, the file. -/
theorem attempt_save (settings : Settings) (tree : FileTree) :
    tree.attempt settings.save =
      if (tree.makeDirectories settings.root).2 then
        match settings.written? with
        | none => (.error .unwritableSettings, (tree.makeDirectories settings.root).1)
        | some text =>
            (tree.makeDirectories settings.root).1.attempt
              (FileSystem.writeText settings.file text)
      else
        (.error (.io "cannot make the directory"), (tree.makeDirectories settings.root).1) := by
  unfold save
  rw [FileTree.attempt_bind, FileTree.attempt_createDirectories]
  cases (tree.makeDirectories settings.root).2 with
  | false => rfl
  | true => cases settings.written? <;> rfl

theorem attempt_save_of_not_haveText (h : ¬ settings.HaveText) (tree : FileTree) :
    ∃ failure, tree.attempt settings.save =
        (.error failure, (tree.makeDirectories settings.root).1) ∧
      ((tree.makeDirectories settings.root).2 = true → failure = .unwritableSettings) := by
  have hnone : settings.written? = none := by
    cases htext : settings.written? with
    | none => rfl
    | some text => exact absurd (haveText_of_written? htext) h
  rw [attempt_save, hnone]
  split
  · exact ⟨.unwritableSettings, rfl, fun _ => rfl⟩
  next hroot => exact ⟨_, rfl, fun hmade => absurd hmade hroot⟩

theorem isName_file : FileTree.IsName "config.toml" := by
  constructor <;> decide

theorem locate_fileIn (h : tree.HasRoomFor root) :
    (tree.makeDirectories root).1.locate (fileIn root) = some (tree.placeOf (fileIn root)) := by
  have hgrows := FileTree.grows_makeDirectories tree root
  rw [fileIn, FileTree.placeOf_pathIn isName_file, ← hgrows.placeOf]
  refine FileTree.locate_pathIn isName_file h.noNull fun place hplace => ?_
  rw [hgrows.wayOf] at hplace
  rw [h.lookup?, if_pos hplace]

/-- There is room where the steps of saving would succeed one after another. -/
theorem fits_iff_write? {text : String} :
    Fits root tree ↔ (tree.makeDirectories root).2 = true ∧
      ∃ saved, (tree.makeDirectories root).1.write? (fileIn root) text = some saved := by
  rw [FileTree.makeDirectories_iff]
  constructor
  · rintro ⟨hroot, hfile, hway⟩
    refine ⟨hroot, _, FileTree.write?_eq_some_iff.mpr ⟨_, locate_fileIn hroot, ?_, rfl⟩⟩
    rwa [hroot.lookup?, if_neg hway]
  · rintro ⟨hroot, saved, hwrite⟩
    obtain ⟨place, hplace, hfile, -⟩ := FileTree.write?_eq_some_iff.mp hwrite
    obtain rfl : tree.placeOf (fileIn root) = place :=
      Option.some.inj ((locate_fileIn hroot).symm.trans hplace)
    rw [hroot.lookup?] at hfile
    split at hfile
    · exact absurd rfl hfile
    next hway => exact ⟨hroot, hfile, hway⟩

/-- Saving succeeds where there is a text and room for it, and then the file
holds that text. -/
theorem attempt_save_eq_ok_iff :
    tree.attempt settings.save = (.ok (), saved) ↔
      ∃ text, settings.written? = some text ∧
        (tree.makeDirectories settings.root).2 = true ∧
        (tree.makeDirectories settings.root).1.write? settings.file text = some saved := by
  rw [attempt_save]
  cases hroot : (tree.makeDirectories settings.root).2 with
  | false => simp
  | true =>
      cases settings.written? with
      | none => simp
      | some text =>
          cases hwrite : (tree.makeDirectories settings.root).1.write? settings.file text <;>
            simp [hwrite]

/-- Settings that have a text are saved exactly where there is room for them. -/
theorem attempt_save_ok_iff_fits (h : settings.HaveText) :
    (tree.attempt settings.save).1 = .ok () ↔ Fits settings.root tree := by
  have hwritten := written?_of_haveText h
  constructor
  · intro hsave
    obtain ⟨text, -, hroot, hwrite⟩ := attempt_save_eq_ok_iff.mp (Prod.ext hsave rfl)
    exact fits_iff_write?.mpr ⟨hroot, _, hwrite⟩
  · intro hfits
    obtain ⟨hroot, saved, hwrite⟩ := fits_iff_write?.mp hfits
    rw [attempt_save_eq_ok_iff.mpr ⟨_, hwritten, hroot, hwrite⟩]

theorem attempt_load_of_text {text : String}
    (hfile : tree.find? (fileIn root) = some (.text text))
    (htext : ofText? root text = some settings) :
    tree.attempt (load root) = (.ok settings, tree) := by
  unfold load
  rw [FileTree.attempt_bind, FileTree.attempt_isPresent]
  simp only [hfile, Option.isSome_some, if_true]
  rw [FileTree.attempt_bind, FileTree.attempt_readText _ hfile]
  simp [htext]

theorem attempt_load_of_missing (h : tree.find? (fileIn root) = none) :
    tree.attempt (load root) = (.ok (documented root), tree) := by
  unfold load
  rw [FileTree.attempt_bind, FileTree.attempt_isPresent]
  simp [h]

/-- What has been saved is loaded from the same root directory. -/
theorem attempt_load_of_saved (h : tree.attempt settings.save = (.ok (), saved)) :
    saved.attempt (load settings.root) = (.ok settings, saved) := by
  obtain ⟨text, htext, -, hwrite⟩ := attempt_save_eq_ok_iff.mp h
  exact attempt_load_of_text (FileTree.find?_write hwrite) (ofText?_of_written? htext)

/-- What saving leaves besides the file: the root directory, and all else as it
was but for directories that lie on its way. -/
theorem lookup?_of_saved (h : tree.attempt settings.save = (.ok (), saved))
    (place : List String) :
    saved.lookup? place =
      if place = tree.placeOf settings.file then settings.written?.map FileTree.Entry.text
      else if place ∈ tree.wayOf settings.root then some .directory
      else tree.lookup? place := by
  obtain ⟨text, htext, hroot, hwrite⟩ := attempt_save_eq_ok_iff.mp h
  have hroom := FileTree.makeDirectories_iff.mp hroot
  obtain ⟨found, hfound, hfile, rfl⟩ := FileTree.write?_eq_some_iff.mp hwrite
  obtain rfl : tree.placeOf settings.file = found :=
    Option.some.inj ((locate_fileIn hroom).symm.trans hfound)
  split
  next hplace =>
    rw [hplace, FileTree.lookup?_put_self (FileTree.not_prefix_of_lookup? hfile), htext]
    rfl
  next hplace => rw [FileTree.lookup?_put_of_ne hplace, hroom.lookup?]

/-- The root directory is made on demand. -/
theorem lookup?_root_of_saved (h : tree.attempt settings.save = (.ok (), saved)) :
    saved.lookup? (tree.placeOf settings.root) = some .directory := by
  obtain ⟨text, -, hroot, hwrite⟩ := attempt_save_eq_ok_iff.mp h
  exact (FileTree.grows_write hwrite).directories _
    (FileTree.makeDirectories_iff.mp hroot).lookup?_placeOf

end Files

/-- Settings that TOML can hold are saved wherever there is room for them. The
root directory is there then, all else is as it was but for directories on the
way to it, and loading gives the settings back, with the root they were saved
under. Settings with a larger delay are never saved: all that is left of the
attempt are directories, and whatever was at a place or along a path still
is. -/
theorem save_then_load :
    (∀ (settings : Settings) (tree : FileTree), settings.HaveText →
      (Fits settings.root tree ↔ ∃ saved, tree.attempt settings.save = (.ok (), saved)) ∧
      ∀ saved, tree.attempt settings.save = (.ok (), saved) →
        saved.attempt (load settings.root) = (.ok settings, saved) ∧
        saved.lookup? (tree.placeOf settings.root) = some .directory ∧
        ∀ place, place ≠ tree.placeOf settings.file →
          saved.lookup? place =
            if place ∈ tree.wayOf settings.root then some .directory
            else tree.lookup? place) ∧
    ∀ (settings : Settings) (tree : FileTree), ¬ settings.HaveText →
      ∃ failure left, tree.attempt settings.save = (.error failure, left) ∧
        (Fits settings.root tree → failure = .unwritableSettings) ∧
        FileTree.Grows none tree left ∧
        ∀ path entry, tree.find? path = some entry → left.find? path = some entry := by
  constructor
  · intro settings tree htext
    rw [← attempt_save_ok_iff_fits htext]
    refine ⟨⟨fun hsave => ⟨_, Prod.ext hsave rfl⟩, ?_⟩, fun saved hsave => ?_⟩
    · rintro ⟨saved, hsave⟩
      rw [hsave]
    · refine ⟨attempt_load_of_saved hsave, lookup?_root_of_saved hsave, fun place hplace => ?_⟩
      rw [lookup?_of_saved hsave, if_neg hplace]
  · intro settings tree htext
    obtain ⟨failure, hsave, hcause⟩ := attempt_save_of_not_haveText htext tree
    have hgrows := FileTree.grows_makeDirectories tree settings.root
    refine ⟨failure, _, hsave, fun hfits => ?_, hgrows, fun path entry => hgrows.find? nofun⟩
    exact hcause (FileTree.makeDirectories_iff.mpr hfits.directory)

/-- The largest delay that is kept, under a root directory that has to be made
first, and the next one, over an older file. -/
theorem save_then_load_at_limit :
    (∃ saved, (FileTree.ofList [("/home/a/b", .text "b")]).attempt
        (save ⟨"/home/a/.config/hxa", .json, ⟨.delete, ⟨0x7fffffffffffffff, by decide⟩, .zero⟩⟩) =
          (.ok (), saved) ∧
      saved.attempt (load "/home/a/.config/hxa") =
        (.ok ⟨"/home/a/.config/hxa", .json,
          ⟨.delete, ⟨0x7fffffffffffffff, by decide⟩, .zero⟩⟩, saved) ∧
      saved.lookup? ["home", "a", ".config", "hxa"] = some .directory ∧
      saved.lookup? ["home", "a", "b"] = some (.text "b")) ∧
    ∃ left, (FileTree.ofList [("a/config.toml", .text "old")]).attempt
        (save ⟨"new/../a", .json, ⟨.delete, ⟨0x8000000000000000, by decide⟩, .zero⟩⟩) =
          (.error .unwritableSettings, left) ∧
      left.find? "a/config.toml" = some (.text "old") := by
  constructor
  · obtain ⟨hsaves, hloads⟩ := save_then_load.1
      ⟨"/home/a/.config/hxa", .json, ⟨.delete, ⟨0x7fffffffffffffff, by decide⟩, .zero⟩⟩
      (FileTree.ofList [("/home/a/b", .text "b")]) ⟨by decide, by decide⟩
    have hfits : Fits "/home/a/.config/hxa" (FileTree.ofList [("/home/a/b", .text "b")]) := by
      refine ⟨FileTree.makeDirectories_iff.mp ?_, ?_, ?_⟩ <;> decide +kernel
    obtain ⟨saved, hsaved⟩ := hsaves.mp hfits
    obtain ⟨hload, hroot, hothers⟩ := hloads saved hsaved
    refine ⟨saved, hsaved, hload, hroot, ?_⟩
    rw [hothers _ (by decide +kernel)]
    decide +kernel
  · obtain ⟨failure, left, hfailed, hcause, -, hfiles⟩ := save_then_load.2
      ⟨"new/../a", .json, ⟨.delete, ⟨0x8000000000000000, by decide⟩, .zero⟩⟩
      (FileTree.ofList [("a/config.toml", .text "old")])
      (fun htext => absurd htext.swapDelay (by decide))
    have hfits : Fits "new/../a" (FileTree.ofList [("a/config.toml", .text "old")]) := by
      refine ⟨FileTree.makeDirectories_iff.mp ?_, ?_, ?_⟩ <;> decide +kernel
    cases hcause hfits
    exact ⟨left, hfailed, hfiles _ _ (by decide +kernel)⟩

end Hypermedia.Settings
