import Hypermedia.CommandLine.Run
import Hypermedia.Proofs.Settings

/-!
What the program does to files, over any number of runs. Only one command
writes, and it writes one file. Until that file is there its documented content
is in force already, so the other commands say the same before and after it has
come about. Whether it is there is asked along its path, and a path leads
nowhere as long as a directory on its way is missing, even if there is something
where it would lead.
-/

namespace Hypermedia

open FileTree

namespace Settings

/-- The text of the documented settings. -/
def documentedText : String :=
  "format = \"pretty\"\n\n[swap]\nstrategy = \"InnerHTML\"\nswap_delay = 0\nsettle_delay = 0\n"

theorem haveText_documented (root : String) : (documented root).HaveText := by
  constructor <;> exact (by decide : 0 < 0x8000000000000000)

theorem written?_documented (root : String) :
    (documented root).written? = some documentedText := by
  have hroot : (documented root).written? = (documented "").written? := rfl
  rw [hroot]
  decide +kernel

section Trees

variable {tree other : FileTree} {root : String}

/-- Saving makes directories and the settings file, and when it fails, at most
directories. -/
theorem grows_save (settings : Settings) (tree : FileTree) :
    Grows (some (tree.placeOf settings.file)) tree (tree.attempt settings.save).2 := by
  have hgrows := grows_makeDirectories tree settings.root
  have hmade := hgrows.sparing (some (tree.placeOf settings.file))
  rw [attempt_save]
  split
  · split
    · exact hmade
    · rw [attempt_writeText]
      split
      next hwrite =>
        refine hmade.trans ?_
        rw [← hgrows.placeOf]
        exact grows_write hwrite
      · exact hmade
  · exact hmade

theorem readsAlike_load (h : tree.find? (fileIn root) = other.find? (fileIn root)) :
    ReadsAlike tree other (load root) := by
  unfold load
  refine readsAlike_bind (readsAlike_isPresent h) fun isThere => ?_
  split
  · refine readsAlike_bind (readsAlike_readText h) fun text => ?_
    split
    · exact readsAlike_pure _
    · exact readsAlike_throw _
  · exact readsAlike_pure _

/-- No settings file says the same as one with the documented settings. -/
theorem readsAlike_load_of_documented (htree : tree.find? (fileIn root) = none)
    (hother : other.find? (fileIn root) = some (.text documentedText)) :
    ReadsAlike tree other (load root) :=
  ⟨.ok (documented root), attempt_load_of_missing htree,
    attempt_load_of_text hother (ofText?_of_written? (written?_documented root))⟩

end Trees

end Settings

theorem Manifest.readsAlike_load {tree other : FileTree} {path : String}
    (h : tree.find? path = other.find? path) : ReadsAlike tree other (Manifest.load path) := by
  unfold Manifest.load
  refine readsAlike_bind (readsAlike_isPresent h) fun isThere => ?_
  split
  · refine readsAlike_bind (readsAlike_readText h) fun text => ?_
    split
    · exact readsAlike_pure _
    · exact readsAlike_throw _
  · exact readsAlike_throw _

namespace CommandLine

section Commands

variable {tree other : FileTree} {root : String}

theorem readsAlike_settingsFor (h : ReadsAlike tree other (Settings.load root))
    (format : Option String) : ReadsAlike tree other (settingsFor root format) := by
  unfold settingsFor
  refine readsAlike_bind h fun settings => ?_
  split
  · exact readsAlike_pure _
  · split
    · exact readsAlike_pure _
    · exact readsAlike_throw _

/-- A command that does not write settings depends on the settings and, if it
checks a manifest, on what is found along the path to it. -/
theorem readsAlike_command (h : ReadsAlike tree other (Settings.load root)) {command : Command}
    (hinit : ∀ isForced, command ≠ .init isForced)
    (hfile : ∀ file format, command = .check file format →
      tree.find? file = other.find? file) :
    ReadsAlike tree other (command.run root) := by
  cases command with
  | version => exact readsAlike_pure _
  | help => exact readsAlike_pure _
  | parse kind text format =>
      exact readsAlike_bind (readsAlike_settingsFor h format) fun _ => readsAlike_pure _
  | check file format =>
      refine readsAlike_bind (readsAlike_settingsFor h format) fun _ => ?_
      refine readsAlike_bind (Manifest.readsAlike_load (hfile file format rfl)) fun _ => ?_
      exact readsAlike_pure _
  | init isForced => exact absurd rfl (hinit isForced)

theorem exists_of_readSubject {arguments : List String} {command : Command}
    {next : String × Option String → Except Stop Command}
    (h : Words.readSubject arguments >>= next = .ok command) :
    ∃ found, next found = .ok command := by
  cases hfound : Words.readSubject arguments with
  | error stop =>
      rw [hfound] at h
      cases h
  | ok found =>
      rw [hfound] at h
      exact ⟨found, h⟩

theorem word_of_read_init {word : String} {arguments : List String} {isForced : Bool}
    (h : Command.read word arguments = .ok (.init isForced)) : word = "init" := by
  unfold Command.read at h
  split at h
  · split at h <;> cases h
  · rfl
  · obtain ⟨found, hfound⟩ := exists_of_readSubject h
    cases hfound
  · obtain ⟨found, hfound⟩ := exists_of_readSubject h
    cases hfound
  · split at h
    · obtain ⟨found, hfound⟩ := exists_of_readSubject h
      cases hfound
    · cases h

/-- Only one word asks for a command that writes. -/
theorem head?_of_init {arguments : List String} {isForced : Bool}
    (h : Command.ofArguments? arguments = some (.init isForced)) :
    arguments.head? = some "init" := by
  unfold Command.ofArguments? at h
  split at h
  · cases h
  next word rest =>
    split at h
    · cases h
    · split at h
      · cases h
      · split at h
        next hread =>
          cases h
          rw [List.head?_cons, word_of_read_init hread]
        · cases h
        · cases h

end Commands

/-- What one run gives on a tree, and the tree that it leaves. -/
def turn (root : String) (arguments : List String) (tree : FileTree) : Outcome × FileTree :=
  (run root arguments : StateM FileTree Outcome).run tree

/-- What runs give on a tree, one after another, and the tree that they
leave. -/
def session (root : String) (calls : List (List String)) (tree : FileTree) :
    List Outcome × FileTree :=
  (calls.mapM (run root) : StateM FileTree (List Outcome)).run tree

section Turn

variable {root : String} {arguments : List String} {tree after : FileTree} {command : Command}

theorem turn_of_usage (h : Command.ofArguments? arguments = none) :
    turn root arguments tree = (⟨2, "", usage⟩, tree) := by
  unfold turn run
  rw [h]
  rfl

/-- A run of a command, and what is said when the command fails. -/
theorem turn_of_command (h : Command.ofArguments? arguments = some command) :
    turn root arguments tree =
      match tree.attempt (command.run root) with
      | (.ok outcome, after) => (outcome, after)
      | (.error failure, after) => (.failed failure, after) := by
  have hrun : StateT.run (ExceptT.run (command.run root : ExceptT Failure
      (StateM FileTree) Outcome)) tree = tree.attempt (command.run root) := rfl
  unfold turn run
  rw [h]
  change StateT.run (ExceptT.run (command.run root) >>= _) tree = _
  rw [StateT.run_bind, hrun]
  obtain ⟨result, after⟩ := tree.attempt (command.run root)
  cases result <;> rfl

theorem turn_of_ok (h : Command.ofArguments? arguments = some command) {outcome : Outcome}
    (hrun : tree.attempt (command.run root) = (.ok outcome, after)) :
    turn root arguments tree = (outcome, after) := by
  rw [turn_of_command h, hrun]

theorem turn_of_error (h : Command.ofArguments? arguments = some command) {failure : Failure}
    (hrun : tree.attempt (command.run root) = (.error failure, after)) :
    turn root arguments tree = (.failed failure, after) := by
  rw [turn_of_command h, hrun]

end Turn

theorem session_cons (root : String) (arguments : List String) (calls : List (List String))
    (tree : FileTree) :
    session root (arguments :: calls) tree =
      ((turn root arguments tree).1 :: (session root calls (turn root arguments tree).2).1,
        (session root calls (turn root arguments tree).2).2) := by
  unfold session
  rw [List.mapM_cons]
  rfl

theorem session_append (root : String) (first second : List (List String)) (tree : FileTree) :
    session root (first ++ second) tree =
      ((session root first tree).1 ++ (session root second (session root first tree).2).1,
        (session root second (session root first tree).2).2) := by
  induction first generalizing tree with
  | nil => rfl
  | cons arguments first ih =>
      rw [List.cons_append, session_cons, session_cons, ih]
      rfl

section Turns

variable {root : String} {arguments : List String} {tree other : FileTree}

/-- A run that is not about writing settings gives the same on trees in which it
finds the same settings and the same manifest. -/
theorem turn_alike (hload : ReadsAlike tree other (Settings.load root))
    (hinit : ∀ isForced, Command.ofArguments? arguments ≠ some (.init isForced))
    (hfile : ∀ file format, Command.ofArguments? arguments = some (.check file format) →
      tree.find? file = other.find? file) :
    ∃ outcome, turn root arguments tree = (outcome, tree) ∧
      turn root arguments other = (outcome, other) := by
  cases hcommand : Command.ofArguments? arguments with
  | none => exact ⟨_, turn_of_usage hcommand, turn_of_usage hcommand⟩
  | some command =>
      obtain ⟨result, htree, hother⟩ := readsAlike_command hload
        (fun isForced h => hinit isForced (h ▸ hcommand))
        (fun file format h => hfile file format (h ▸ hcommand))
      cases result with
      | ok outcome => exact ⟨outcome, turn_of_ok hcommand htree, turn_of_ok hcommand hother⟩
      | error failure =>
          exact ⟨_, turn_of_error hcommand htree, turn_of_error hcommand hother⟩

theorem turn_snd_of_reading
    (hinit : ∀ isForced, Command.ofArguments? arguments ≠ some (.init isForced))
    (root : String) (tree : FileTree) : (turn root arguments tree).2 = tree := by
  have hload : ReadsAlike tree tree (Settings.load root) := Settings.readsAlike_load rfl
  obtain ⟨outcome, hturn, -⟩ := turn_alike hload hinit fun _ _ _ => rfl
  rw [hturn]

/-- A settings file that is there is left alone unless force is used. In all
other cases the documented settings are saved. -/
theorem attempt_writeSettings (root : String) (isForced : Bool) (tree : FileTree) :
    tree.attempt (writeSettings root isForced) =
      if (tree.find? (Settings.fileIn root)).isSome && !isForced then
        (.ok (.good ("Config already exists at " ++ Settings.fileIn root
          ++ "\nUse --force to overwrite\n")), tree)
      else
        match tree.attempt (Settings.documented root).save with
        | (.ok (), saved) =>
            (.ok (.good ("Config written to " ++ Settings.fileIn root ++ "\n")), saved)
        | (.error failure, left) => (.error failure, left) := by
  have hfile : (Settings.documented root).file = Settings.fileIn root := rfl
  unfold writeSettings
  dsimp only
  rw [attempt_bind, attempt_isPresent, hfile]
  dsimp only
  split
  · rfl
  · rw [attempt_bind]
    obtain ⟨result, left⟩ := tree.attempt (Settings.documented root).save
    cases result <;> rfl

theorem turn_of_present (h : Command.ofArguments? arguments = some (.init false))
    (hfile : (tree.find? (Settings.fileIn root)).isSome) :
    (turn root arguments tree).1.code = 0 ∧ (turn root arguments tree).2 = tree := by
  have hrun : tree.attempt ((Command.init false).run root) = _ :=
    attempt_writeSettings root false tree
  rw [hfile] at hrun
  rw [turn_of_ok h hrun]
  exact ⟨rfl, rfl⟩

theorem turn_of_saving {isForced : Bool}
    (h : Command.ofArguments? arguments = some (.init isForced))
    (hfile : isForced = true ∨ tree.find? (Settings.fileIn root) = none) :
    (turn root arguments tree).2 = (tree.attempt (Settings.documented root).save).2 ∧
      ((turn root arguments tree).1.code = 0 ↔
        (tree.attempt (Settings.documented root).save).1 = .ok ()) := by
  have hrun : tree.attempt ((Command.init isForced).run root) = _ :=
    attempt_writeSettings root isForced tree
  have hwrites : ((tree.find? (Settings.fileIn root)).isSome && !isForced) = false := by
    rcases hfile with hfile | hfile <;> simp [hfile]
  rw [hwrites] at hrun
  cases hsave : tree.attempt (Settings.documented root).save with
  | mk result left =>
      rw [hsave] at hrun
      cases result with
      | ok done =>
          rw [turn_of_ok h hrun]
          exact ⟨rfl, fun _ => rfl, fun _ => rfl⟩
      | error failure =>
          rw [turn_of_error h hrun]
          exact ⟨rfl, nofun, nofun⟩

/-- One run changes nothing but the settings file. -/
theorem grows_turn (root : String) (arguments : List String) (tree : FileTree) :
    Grows (some (tree.placeOf (Settings.fileIn root))) tree (turn root arguments tree).2 := by
  by_cases hinit : ∃ isForced, Command.ofArguments? arguments = some (.init isForced)
  · obtain ⟨isForced, h⟩ := hinit
    by_cases hfile : isForced = true ∨ tree.find? (Settings.fileIn root) = none
    · rw [(turn_of_saving h hfile).1]
      exact Settings.grows_save (Settings.documented root) tree
    · obtain ⟨hforced, hthere⟩ := not_or.mp hfile
      obtain rfl : isForced = false := by simpa using hforced
      rw [(turn_of_present h (Option.isSome_iff_ne_none.mpr hthere)).2]
      exact .refl _ tree
  · rw [turn_snd_of_reading (fun isForced h => hinit ⟨isForced, h⟩)]
    exact .refl _ tree

end Turns

section Sessions

variable {root : String} {tree other : FileTree}

theorem grows_session (root : String) (calls : List (List String)) (tree : FileTree) :
    Grows (some (tree.placeOf (Settings.fileIn root))) tree (session root calls tree).2 := by
  induction calls generalizing tree with
  | nil => exact .refl _ tree
  | cons arguments calls ih =>
      rw [session_cons]
      have hturn := grows_turn root arguments tree
      refine hturn.trans ?_
      rw [← hturn.placeOf]
      exact ih _

/-- Runs that read the same, one by one, read the same one after another, since
no tree changes in between. -/
theorem session_alike (hload : ReadsAlike tree other (Settings.load root))
    {calls : List (List String)}
    (hcalls : ∀ arguments ∈ calls,
      (∀ isForced, Command.ofArguments? arguments ≠ some (.init isForced)) ∧
      ∀ file format, Command.ofArguments? arguments = some (.check file format) →
        tree.find? file = other.find? file) :
    ∃ outcomes, session root calls tree = (outcomes, tree) ∧
      session root calls other = (outcomes, other) := by
  induction calls with
  | nil => exact ⟨[], rfl, rfl⟩
  | cons arguments calls ih =>
      obtain ⟨hinit, hfile⟩ := hcalls arguments (by simp)
      obtain ⟨outcome, htree, hother⟩ := turn_alike hload hinit hfile
      obtain ⟨outcomes, htrees, hothers⟩ :=
        ih fun others hothers => hcalls others (List.mem_cons_of_mem arguments hothers)
      refine ⟨outcome :: outcomes, ?_, ?_⟩
      · rw [session_cons, htree, htrees]
      · rw [session_cons, hother, hothers]

/-- A run that saves and says so leaves the documented settings. -/
theorem find?_of_saving {arguments : List String} {isForced : Bool}
    (h : Command.ofArguments? arguments = some (.init isForced))
    (hfile : isForced = true ∨ tree.find? (Settings.fileIn root) = none)
    (hcode : (turn root arguments tree).1.code = 0) :
    (turn root arguments tree).2.find? (Settings.fileIn root) =
      some (.text Settings.documentedText) := by
  obtain ⟨hleft, hsaves⟩ := turn_of_saving h hfile
  obtain ⟨text, htext, -, hwrite⟩ :=
    Settings.attempt_save_eq_ok_iff.mp (Prod.ext (hsaves.mp hcode) hleft.symm)
  obtain rfl : Settings.documentedText = text := by
    simpa [Settings.written?_documented] using htext
  exact find?_write hwrite

/-- A run that saves succeeds exactly where there is room for the settings. -/
theorem code_of_saving {arguments : List String} {isForced : Bool}
    (h : Command.ofArguments? arguments = some (.init isForced))
    (hfile : isForced = true ∨ tree.find? (Settings.fileIn root) = none) :
    (turn root arguments tree).1.code = 0 ↔ Settings.Fits root tree := by
  rw [(turn_of_saving h hfile).2]
  exact Settings.attempt_save_ok_iff_fits (Settings.haveText_documented root)

/-- A successful first run that writes a settings file which nothing has been in
place of makes no difference to runs that only read. -/
theorem session_after_saving {arguments : List String} {isForced : Bool}
    (h : Command.ofArguments? arguments = some (.init isForced))
    (hmissing : tree.lookup? (tree.placeOf (Settings.fileIn root)) = none)
    (hcode : (turn root arguments tree).1.code = 0) {calls : List (List String)}
    (hcalls : ∀ others ∈ calls, others.head? ≠ some "init" ∧
      ∀ file format, Command.ofArguments? others = some (.check file format) →
        (tree.find? file).isSome) :
    (session root calls (turn root arguments tree).2).1 = (session root calls tree).1 := by
  have hgrows := grows_turn root arguments tree
  have hnone : tree.find? (Settings.fileIn root) = none := by
    cases hfile : tree.find? (Settings.fileIn root) with
    | none => rfl
    | some entry => simp [lookup?_placeOf hfile] at hmissing
  have hload : ReadsAlike tree (turn root arguments tree).2 (Settings.load root) :=
    Settings.readsAlike_load_of_documented hnone (find?_of_saving h (.inr hnone) hcode)
  have hreads : ∀ others ∈ calls,
      (∀ isForced, Command.ofArguments? others ≠ some (.init isForced)) ∧
      ∀ file format, Command.ofArguments? others = some (.check file format) →
        tree.find? file = (turn root arguments tree).2.find? file := by
    intro others hothers
    obtain ⟨hhead, hchecks⟩ := hcalls others hothers
    refine ⟨fun _ h => hhead (head?_of_init h), fun file format hcheck => ?_⟩
    obtain ⟨entry, hentry⟩ := Option.isSome_iff_exists.mp (hchecks file format hcheck)
    -- A path that leads to something does not lead to where nothing is.
    have hplace : some (tree.placeOf (Settings.fileIn root)) ≠ some (tree.placeOf file) := by
      intro hsame
      rw [Option.some.inj hsame, lookup?_placeOf hentry] at hmissing
      cases hmissing
    rw [hentry, hgrows.find? hplace hentry]
  obtain ⟨outcomes, hbefore, hafter⟩ := session_alike hload hreads
  rw [hbefore, hafter]

end Sessions

/-- Whether there is something where the settings file of a root directory
belongs, while the path of that file does not lead to it. -/
def IsHidden (root : String) (tree : FileTree) : Prop :=
  (tree.lookup? (tree.placeOf (Settings.fileIn root))).isSome ∧
    tree.find? (Settings.fileIn root) = none

instance (root : String) (tree : FileTree) : Decidable (IsHidden root tree) :=
  inferInstanceAs (Decidable (_ ∧ _))

section Places

variable {root : String} {arguments : List String} {tree : FileTree} {entry : Entry}

/-- Without force, only what is hidden is lost. -/
theorem init_of_lookup?_ne
    (hentry : tree.lookup? (tree.placeOf (Settings.fileIn root)) = some entry)
    (hlost : (turn root arguments tree).2.lookup? (tree.placeOf (Settings.fileIn root)) ≠
      some entry) :
    Command.ofArguments? arguments = some (.init true) ∨
      Command.ofArguments? arguments = some (.init false) ∧ IsHidden root tree := by
  by_cases hinit : ∃ isForced, Command.ofArguments? arguments = some (.init isForced)
  · obtain ⟨isForced, h⟩ := hinit
    cases isForced with
    | true => exact .inl h
    | false =>
        refine .inr ⟨h, by rw [hentry]; rfl, ?_⟩
        cases hfile : tree.find? (Settings.fileIn root) with
        | none => rfl
        | some found =>
            rw [(turn_of_present h (by rw [hfile]; rfl)).2] at hlost
            exact absurd hentry hlost
  · rw [turn_snd_of_reading fun isForced h => hinit ⟨isForced, h⟩] at hlost
    exact absurd hentry hlost

/-- Without force, what is at the place of the settings file is kept by a run
that succeeds, unless it is hidden. -/
theorem keeps_iff (h : Command.ofArguments? arguments = some (.init false))
    (hentry : tree.lookup? (tree.placeOf (Settings.fileIn root)) = some entry) :
    ((turn root arguments tree).1.code = 0 ∧
        (turn root arguments tree).2.lookup? (tree.placeOf (Settings.fileIn root)) =
          some entry) ↔
      ¬ IsHidden root tree ∨
        Settings.Fits root tree ∧ entry = .text Settings.documentedText := by
  cases hfile : tree.find? (Settings.fileIn root) with
  | some found =>
      have hthere : (tree.find? (Settings.fileIn root)).isSome := by
        rw [hfile]
        rfl
      obtain ⟨hcode, hkept⟩ := turn_of_present h hthere
      rw [hkept]
      exact iff_of_true ⟨hcode, hentry⟩ (.inl fun hhidden => by simp [hhidden.2] at hfile)
  | none =>
      have hhidden : IsHidden root tree := ⟨by rw [hentry]; rfl, hfile⟩
      have hleft : (turn root arguments tree).1.code = 0 →
          (turn root arguments tree).2.lookup? (tree.placeOf (Settings.fileIn root)) =
            some (.text Settings.documentedText) := by
        intro hcode
        rw [← (grows_turn root arguments tree).placeOf]
        exact lookup?_placeOf (find?_of_saving h (.inr hfile) hcode)
      rw [← code_of_saving h (.inr hfile)]
      constructor
      · rintro ⟨hcode, hkept⟩
        exact .inr ⟨hcode, Option.some.inj (hkept.symm.trans (hleft hcode))⟩
      · rintro (hshown | ⟨hcode, rfl⟩)
        · exact absurd hhidden hshown
        · exact ⟨hcode, hleft hcode⟩

end Places

/-- What a run does with a root directory, from the tree that it finds to the one
that it leaves. -/
structure KeepsSettings (root : String) (arguments : List String) (before : FileTree)
    (outcome : Outcome) (after : FileTree) : Prop where
  /-- Only one command changes anything. -/
  reading : (arguments.head? ≠ some "init" ∨
      ∀ isForced, Command.ofArguments? arguments ≠ some (.init isForced)) →
    after = before
  /-- Without force it leaves the settings alone that it finds. -/
  finding : Command.ofArguments? arguments = some (.init false) →
    (before.find? (Settings.fileIn root)).isSome → outcome.code = 0 ∧ after = before
  /-- Otherwise it leaves the documented settings, wherever there is room. -/
  writing : ∀ isForced, Command.ofArguments? arguments = some (.init isForced) →
    isForced = true ∨ before.find? (Settings.fileIn root) = none →
      (outcome.code = 0 ↔ Settings.Fits root before) ∧
      (outcome.code = 0 → after.find? (Settings.fileIn root) =
        some (.text Settings.documentedText))
  /-- So settings change by force, or where they are hidden. -/
  changing : ∀ entry, before.lookup? (before.placeOf (Settings.fileIn root)) = some entry →
    after.lookup? (before.placeOf (Settings.fileIn root)) ≠ some entry →
      Command.ofArguments? arguments = some (.init true) ∨
        Command.ofArguments? arguments = some (.init false) ∧ IsHidden root before
  /-- And a run without force succeeds and keeps them unless they are hidden. -/
  keeping : ∀ entry, before.lookup? (before.placeOf (Settings.fileIn root)) = some entry →
    Command.ofArguments? arguments = some (.init false) →
      (outcome.code = 0 ∧
          after.lookup? (before.placeOf (Settings.fileIn root)) = some entry ↔
        ¬ IsHidden root before ∨
          Settings.Fits root before ∧ entry = .text Settings.documentedText)

theorem turn_keepsSettings (root : String) (arguments : List String) (tree : FileTree) :
    KeepsSettings root arguments tree (turn root arguments tree).1
      (turn root arguments tree).2 where
  reading h := by
    rcases h with hhead | hinit
    · exact turn_snd_of_reading (fun _ h => hhead (head?_of_init h)) root tree
    · exact turn_snd_of_reading hinit root tree
  finding h hthere := turn_of_present h hthere
  writing _ h hfile := ⟨code_of_saving h hfile, find?_of_saving h hfile⟩
  changing _ hentry hlost := init_of_lookup?_ne hentry hlost
  keeping _ hentry h := keeps_iff h hentry

/-- What the program may write, over any number of runs with one root directory.
Only the settings file is ever written, besides directories that come about. One
more run leaves everything as it is, or keeps the settings that it finds, or
leaves the documented ones. Settings that are there are kept without force
except where they are hidden, since their path is looked at before the
directories are made that it leads through. And a first settings file makes no
difference to runs that write nothing. -/
theorem session_writes_settings_only (root : String) (tree : FileTree)
    (calls : List (List String)) :
    Grows (some (tree.placeOf (Settings.fileIn root))) tree (session root calls tree).2 ∧
    (∀ arguments, ∃ outcome after,
      session root (calls ++ [arguments]) tree =
        ((session root calls tree).1 ++ [outcome], after) ∧
      KeepsSettings root arguments (session root calls tree).2 outcome after) ∧
    (∀ arguments isForced, Command.ofArguments? arguments = some (.init isForced) →
      tree.lookup? (tree.placeOf (Settings.fileIn root)) = none →
      (turn root arguments tree).1.code = 0 →
      (∀ others ∈ calls, others.head? ≠ some "init" ∧
        ∀ file format, Command.ofArguments? others = some (.check file format) →
          (tree.find? file).isSome) →
      (session root (arguments :: calls) tree).1 =
        (turn root arguments tree).1 :: (session root calls tree).1) := by
  refine ⟨grows_session root calls tree, fun arguments => ?_, ?_⟩
  · refine ⟨_, _, ?_, turn_keepsSettings root arguments (session root calls tree).2⟩
    rw [session_append, session_cons]
    rfl
  · intro arguments isForced h hmissing hcode hcalls
    rw [session_cons, session_after_saving h hmissing hcode hcalls]

/-- A tree with one file: a manifest that lists one value, with a fault. -/
def faultyManifest (path : String) : FileTree :=
  ofList [(path, .text "[[attribute]]\nname = \"hx-sync\"\nvalue = \"never\"\n")]

/-- A manifest with a fault is checked before and after the first settings are
written, and settings that are there are left alone or overwritten. -/
theorem session_writes_settings_only_around_check :
    (session "/etc/hxa" [["init"], ["check", "m.toml"]] (faultyManifest "m.toml")).1 =
        (turn "/etc/hxa" ["init"] (faultyManifest "m.toml")).1 ::
          (session "/etc/hxa" [["check", "m.toml"]] (faultyManifest "m.toml")).1 ∧
      (∃ outcome, session "/etc/hxa" [["sync", "never"]] (faultyManifest "m.toml") =
        ([outcome], faultyManifest "m.toml")) ∧
      (∃ outcome, session "root" [["init"]] (ofList [("root/config.toml", .text "old")]) =
        ([outcome], ofList [("root/config.toml", .text "old")]) ∧ outcome.code = 0) ∧
      ∃ outcome after,
        session "root" [["init", "--force"]] (ofList [("root/config.toml", .text "old")]) =
          ([outcome], after) ∧
        outcome.code = 0 ∧
        after.find? (Settings.fileIn "root") = some (.text Settings.documentedText) := by
  have hplain : Command.ofArguments? ["init"] = some (.init false) := by decide
  have hforced : Command.ofArguments? ["init", "--force"] = some (.init true) := by decide
  obtain ⟨-, -, hinserts⟩ :=
    session_writes_settings_only "/etc/hxa" (faultyManifest "m.toml") [["check", "m.toml"]]
  obtain ⟨-, hfaulty, -⟩ := session_writes_settings_only "/etc/hxa" (faultyManifest "m.toml") []
  obtain ⟨-, hold, -⟩ :=
    session_writes_settings_only "root" (ofList [("root/config.toml", .text "old")]) []
  refine ⟨?_, ?_, ?_, ?_⟩
  · refine hinserts ["init"] false hplain (by decide +kernel) (by decide +kernel) ?_
    intro others hothers
    obtain rfl := List.mem_singleton.mp hothers
    refine ⟨by decide, fun file format hcheck => ?_⟩
    have hcommand : Command.ofArguments? ["check", "m.toml"] = some (.check "m.toml" none) := by
      decide
    cases hcommand.symm.trans hcheck
    decide +kernel
  · obtain ⟨outcome, after, hrun, hkeeps⟩ := hfaulty ["sync", "never"]
    obtain rfl := hkeeps.reading (.inl (by decide))
    exact ⟨outcome, hrun⟩
  · obtain ⟨outcome, after, hrun, hkeeps⟩ := hold ["init"]
    obtain ⟨hcode, rfl⟩ := hkeeps.finding hplain (by decide +kernel)
    exact ⟨outcome, hrun, hcode⟩
  · obtain ⟨outcome, after, hrun, hkeeps⟩ := hold ["init", "--force"]
    have hfits : Settings.Fits "root" (ofList [("root/config.toml", .text "old")]) := by
      refine ⟨makeDirectories_iff.mp ?_, ?_, ?_⟩ <;> decide +kernel
    obtain ⟨hcode, hfile⟩ := hkeeps.writing true hforced (.inl rfl)
    exact ⟨outcome, after, hrun, hcode.mpr hfits, hfile (hcode.mpr hfits)⟩

/-- Settings are hidden where a directory is missing that their path leads
through and back out of. A run that is not forced then makes the directory and
writes over them. -/
theorem init_overwrites_hidden_settings :
    IsHidden (Settings.rootFor "new/..")
        (ofList [(".config/hxa/config.toml", .text "format = \"json\"\n")]) ∧
      turn (Settings.rootFor "new/..") ["init"]
          (ofList [(".config/hxa/config.toml", .text "format = \"json\"\n")]) =
        (.good "Config written to new/../.config/hxa/config.toml\n",
          ofList [(".config/hxa/config.toml", .text Settings.documentedText),
            ("new", .directory)]) := by
  decide +kernel

end CommandLine

end Hypermedia
