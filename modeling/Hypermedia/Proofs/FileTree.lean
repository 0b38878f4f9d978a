import Hypermedia.FileTree

/-!
How commands can change a tree of files. Directories are made where nothing has
been and are never taken away, and a file is written at one place, so that a
path leads where it has led before, and what is there is the same unless it is
the file that was written.
-/

namespace Hypermedia.FileTree

/-- The place that a path stands for, also if it cannot be reached yet. -/
def placeOf (tree : FileTree) (path : String) : List String :=
  (piecesOf path).foldl stepTo (tree.startOf path)

/-- The places that a path leads through, from where it begins to where it ends. -/
def wayOf (tree : FileTree) (path : String) : List (List String) :=
  (piecesOf path).scanl stepTo (tree.startOf path)

section Paths

variable {tree : FileTree}

theorem isPrefix_startOf (tree : FileTree) (path : String) : tree.startOf path <+: tree.current := by
  unfold startOf
  split
  · exact List.nil_prefix
  · exact List.prefix_rfl

theorem lookup?_of_prefix {place : List String} (h : place <+: tree.current) :
    tree.lookup? place = some .directory :=
  if_pos h

/-- What is in a tree decides whether a place can be reached, but not which
place it is. -/
theorem follow_eq_foldl {place pieces found : List String}
    (h : tree.follow place pieces = some found) : pieces.foldl stepTo place = found := by
  induction pieces generalizing place with
  | nil => exact Option.some.inj h
  | cons piece rest ih =>
      rw [follow, Option.ite_none_right_eq_some] at h
      exact ih h.2

theorem locate_eq_some_iff {path : String} {place : List String} :
    tree.locate path = some place ↔
      isPath path = true ∧ tree.follow (tree.startOf path) (piecesOf path) = some place :=
  Option.ite_none_right_eq_some

theorem placeOf_of_locate {path : String} {place : List String}
    (h : tree.locate path = some place) : tree.placeOf path = place :=
  follow_eq_foldl (locate_eq_some_iff.mp h).2

theorem find?_eq_some_iff {path : String} {entry : Entry} :
    tree.find? path = some entry ↔
      ∃ place, tree.locate path = some place ∧ tree.lookup? place = some entry :=
  Option.bind_eq_some_iff

/-- What a path leads to is at the place that it stands for. -/
theorem lookup?_placeOf {path : String} {entry : Entry} (h : tree.find? path = some entry) :
    tree.lookup? (tree.placeOf path) = some entry := by
  obtain ⟨place, hplace, hentry⟩ := find?_eq_some_iff.mp h
  rwa [placeOf_of_locate hplace]

/-- One file by three paths, seen from the directory that it is in. -/
example : ["a", "../t/./a", "/t/a"].map (find? ⟨["t"], [(["t", "a"], .text "b")]⟩) =
    [some (.text "b"), some (.text "b"), some (.text "b")] := by
  decide +kernel

/-- A path leads to a directory if it passes through directories only. -/
theorem follow_bind_eq_directory_iff {place pieces : List String} :
    (tree.follow place pieces).bind tree.lookup? = some .directory ↔
      ∀ passed ∈ pieces.scanl stepTo place, tree.lookup? passed = some .directory := by
  induction pieces generalizing place with
  | nil => simp [follow]
  | cons piece rest ih =>
      rw [follow, List.scanl_cons, List.forall_mem_cons]
      by_cases h : tree.lookup? place = some .directory
      · simp only [h, if_true, true_and]
        exact ih
      · simp [h]

theorem find?_eq_directory_iff {path : String} :
    tree.find? path = some .directory ↔
      isPath path = true ∧ ∀ place ∈ tree.wayOf path, tree.lookup? place = some .directory := by
  rw [find?, locate, wayOf, ← follow_bind_eq_directory_iff]
  cases isPath path <;> simp

/-- From a directory, one more piece can be followed. -/
theorem follow_concat {place pieces : List String}
    (h : ∀ passed ∈ pieces.scanl stepTo place, tree.lookup? passed = some .directory)
    (piece : String) :
    tree.follow place (pieces ++ [piece]) = some (stepTo (pieces.foldl stepTo place) piece) := by
  induction pieces generalizing place with
  | nil => simp [follow, h place (by simp)]
  | cons first rest ih =>
      rw [List.scanl_cons, List.forall_mem_cons] at h
      rw [List.cons_append, follow, if_pos h.1]
      exact ih h.2

end Paths

/-- The current directory is the same, all directories are still there, and at
each place but the spared one there is what has been there, or a directory where
nothing has been. -/
structure Grows (spared : Option (List String)) (before after : FileTree) : Prop where
  current : after.current = before.current
  directories : ∀ place, before.lookup? place = some .directory →
    after.lookup? place = some .directory
  elsewhere : ∀ place, spared ≠ some place →
    after.lookup? place = before.lookup? place ∨
      before.lookup? place = none ∧ after.lookup? place = some .directory

namespace Grows

variable {spared : Option (List String)} {before middle after : FileTree}

theorem refl (spared : Option (List String)) (tree : FileTree) : Grows spared tree tree where
  current := rfl
  directories _ h := h
  elsewhere _ _ := .inl rfl

theorem trans (first : Grows spared before middle) (second : Grows spared middle after) :
    Grows spared before after where
  current := second.current.trans first.current
  directories place h := second.directories place (first.directories place h)
  elsewhere place h := by
    rcases second.elsewhere place h with hsecond | ⟨hnone, hmade⟩
    · rw [hsecond]
      exact first.elsewhere place h
    · rcases first.elsewhere place h with hfirst | ⟨_, hmiddle⟩
      · exact .inr ⟨hfirst ▸ hnone, hmade⟩
      · simp [hnone] at hmiddle

/-- What is true of all places is true of all but one. -/
theorem sparing (h : Grows none before after) (spared : Option (List String)) :
    Grows spared before after where
  current := h.current
  directories := h.directories
  elsewhere place _ := h.elsewhere place nofun

theorem lookup? (h : Grows spared before after) {place : List String} {entry : Entry}
    (hplace : spared ≠ some place) (hentry : before.lookup? place = some entry) :
    after.lookup? place = some entry := by
  rcases h.elsewhere place hplace with hsame | ⟨hnone, _⟩
  · exact hsame.trans hentry
  · simp [hentry] at hnone

theorem startOf (h : Grows spared before after) (path : String) :
    after.startOf path = before.startOf path := by
  unfold FileTree.startOf
  rw [h.current]

theorem placeOf (h : Grows spared before after) (path : String) :
    after.placeOf path = before.placeOf path := by
  unfold FileTree.placeOf
  rw [h.startOf]

theorem wayOf (h : Grows spared before after) (path : String) :
    after.wayOf path = before.wayOf path := by
  unfold FileTree.wayOf
  rw [h.startOf]

theorem follow (h : Grows spared before after) {place pieces found : List String}
    (hfound : before.follow place pieces = some found) :
    after.follow place pieces = some found := by
  induction pieces generalizing place with
  | nil => exact hfound
  | cons piece rest ih =>
      rw [FileTree.follow, Option.ite_none_right_eq_some] at hfound
      rw [FileTree.follow, if_pos (h.directories place hfound.1)]
      exact ih hfound.2

/-- A path that leads to a place goes on to lead there. -/
theorem locate (h : Grows spared before after) {path : String} {place : List String}
    (hplace : before.locate path = some place) : after.locate path = some place := by
  obtain ⟨hpath, hfollow⟩ := locate_eq_some_iff.mp hplace
  refine locate_eq_some_iff.mpr ⟨hpath, ?_⟩
  rw [h.startOf]
  exact h.follow hfollow

/-- What is found along a path is found there again, unless it is what may have
been changed. -/
theorem find? (h : Grows spared before after) {path : String} {entry : Entry}
    (hpath : spared ≠ some (before.placeOf path)) (hfind : before.find? path = some entry) :
    after.find? path = some entry := by
  obtain ⟨place, hplace, hentry⟩ := find?_eq_some_iff.mp hfind
  rw [placeOf_of_locate hplace] at hpath
  exact find?_eq_some_iff.mpr ⟨place, h.locate hplace, h.lookup? hpath hentry⟩

end Grows

/-- Whether a place can be a directory: it is one, or there is nothing yet. -/
def IsClear (tree : FileTree) (place : List String) : Prop :=
  tree.lookup? place = none ∨ tree.lookup? place = some .directory

section Directories

variable {tree : FileTree}

theorem not_prefix_of_lookup? {place : List String}
    (h : tree.lookup? place ≠ some .directory) : ¬ place <+: tree.current :=
  mt lookup?_of_prefix h

theorem Grows.isClear {before after : FileTree} (h : Grows none before after)
    {place : List String} (hplace : after.lookup? place = some .directory) :
    before.IsClear place := by
  rcases h.elsewhere place nofun with hsame | ⟨hnone, -⟩
  · exact .inr (hsame.symm.trans hplace)
  · exact .inl hnone

theorem lookup?_put_directory {place : List String} (h : tree.lookup? place = none) :
    (tree.put place .directory).lookup? place = some .directory :=
  lookup?_put_self (not_prefix_of_lookup? (by rw [h]; nofun)) .directory

theorem grows_put_directory {place : List String} (h : tree.lookup? place = none) :
    Grows none tree (tree.put place .directory) where
  current := rfl
  directories other hother := by
    have hne : other ≠ place := by
      rintro rfl
      simp [h] at hother
    rw [lookup?_put_of_ne hne, hother]
  elsewhere other _ := by
    by_cases hne : other = place
    · subst hne
      exact .inr ⟨h, lookup?_put_directory h⟩
    · exact .inl (lookup?_put_of_ne hne tree .directory)

theorem IsClear.put_directory {place other : List String} (h : tree.IsClear other)
    (hplace : tree.lookup? place = none) : (tree.put place .directory).IsClear other := by
  by_cases hne : other = place
  · subst hne
    exact .inr (lookup?_put_directory hplace)
  · unfold IsClear
    rwa [lookup?_put_of_ne hne]

theorem grows_makeAlong (tree : FileTree) (place pieces : List String) :
    Grows none tree (tree.makeAlong place pieces) := by
  induction pieces generalizing tree place with
  | nil => exact .refl none tree
  | cons piece rest ih =>
      unfold makeAlong
      dsimp only
      split
      next hmissing => exact (grows_put_directory hmissing).trans (ih _ _)
      · exact ih tree _
      · exact .refl none tree

theorem grows_makeDirectories (tree : FileTree) (path : String) :
    Grows none tree (tree.makeDirectories path).1 := by
  unfold makeDirectories
  split
  · exact .refl none tree
  · split
    · exact grows_makeAlong tree _ _
    · exact .refl none tree

/-- Directories come about only at places that are passed. -/
theorem lookup?_makeAlong_of_not_mem {place pieces other : List String}
    (h : other ∉ pieces.scanl stepTo place) :
    (tree.makeAlong place pieces).lookup? other = tree.lookup? other := by
  induction pieces generalizing tree place with
  | nil => rfl
  | cons piece rest ih =>
      rw [List.scanl_cons, List.mem_cons, not_or] at h
      have hne : other ≠ stepTo place piece := by
        rintro rfl
        exact h.2 (by cases rest <;> simp)
      unfold makeAlong
      dsimp only
      split
      · rw [ih h.2, lookup?_put_of_ne hne]
      · exact ih h.2
      · rfl

/-- Where no file stands in the way, there are directories at all places that
are passed. -/
theorem lookup?_makeAlong_of_mem {place pieces : List String}
    (hplace : tree.lookup? place = some .directory)
    (hclear : ∀ passed ∈ pieces.scanl stepTo place, tree.IsClear passed) :
    ∀ passed ∈ pieces.scanl stepTo place,
      (tree.makeAlong place pieces).lookup? passed = some .directory := by
  induction pieces generalizing tree place with
  | nil => simpa [makeAlong] using hplace
  | cons piece rest ih =>
      have hkept := (grows_makeAlong tree place (piece :: rest)).directories place hplace
      rw [List.scanl_cons, List.forall_mem_cons] at hclear ⊢
      refine ⟨hkept, ?_⟩
      unfold makeAlong
      dsimp only
      rcases hclear.2 (stepTo place piece) (by cases rest <;> simp) with hmissing | hthere
      · simp only [hmissing]
        exact ih (lookup?_put_directory hmissing) fun passed hpassed =>
          (hclear.2 passed hpassed).put_directory hmissing
      · simp only [hthere]
        exact ih hthere hclear.2

end Directories

section Writing

variable {tree after : FileTree} {path text : String}

theorem write?_eq_some_iff :
    tree.write? path text = some after ↔
      ∃ place, tree.locate path = some place ∧ tree.lookup? place ≠ some .directory ∧
        tree.put place (.text text) = after := by
  unfold write?
  cases tree.locate path with
  | none => simp
  | some place => by_cases h : tree.lookup? place = some .directory <;> simp [h]

/-- A written file stands in the place of nothing or of a file, so that no
directory is lost. -/
theorem grows_write (h : tree.write? path text = some after) :
    Grows (some (tree.placeOf path)) tree after := by
  obtain ⟨place, hplace, hfile, rfl⟩ := write?_eq_some_iff.mp h
  constructor
  · rfl
  · intro other hother
    have hne : other ≠ place := by
      rintro rfl
      exact hfile hother
    rw [lookup?_put_of_ne hne, hother]
  · intro other hother
    rw [placeOf_of_locate hplace] at hother
    have hne : other ≠ place := by
      rintro rfl
      exact hother rfl
    exact .inl (lookup?_put_of_ne hne tree _)

/-- What has been written is found along the same path. -/
theorem find?_write (h : tree.write? path text = some after) :
    after.find? path = some (.text text) := by
  have hgrows := grows_write h
  obtain ⟨place, hplace, hfile, rfl⟩ := write?_eq_some_iff.mp h
  exact find?_eq_some_iff.mpr ⟨place, hgrows.locate hplace,
    lookup?_put_self (not_prefix_of_lookup? hfile) _⟩

end Writing

section Attempts

variable {α β : Type}

/-- What an action gives on a tree, and the tree that it leaves behind. -/
def attempt (tree : FileTree) (action : ExceptT Failure (StateM FileTree) α) :
    Except Failure α × FileTree :=
  (ExceptT.run action).run tree

variable (tree : FileTree)

@[simp] theorem attempt_pure (a : α) : tree.attempt (pure a) = (.ok a, tree) :=
  rfl

@[simp] theorem attempt_throw (failure : Failure) :
    tree.attempt (throw failure : ExceptT Failure (StateM FileTree) α) = (.error failure, tree) :=
  rfl

/-- An action behind a failed one is not taken. -/
theorem attempt_bind (action : ExceptT Failure (StateM FileTree) α)
    (next : α → ExceptT Failure (StateM FileTree) β) :
    tree.attempt (action >>= next) =
      match tree.attempt action with
      | (.ok a, after) => after.attempt (next a)
      | (.error failure, after) => (.error failure, after) := by
  unfold attempt
  rw [ExceptT.run_bind, StateT.run_bind]
  obtain ⟨result, after⟩ := (ExceptT.run action).run tree
  cases result <;> rfl

@[simp] theorem attempt_isPresent (path : String) :
    tree.attempt (liftM (FileSystem.isPresent path : StateM FileTree Bool)) =
      (.ok (tree.find? path).isSome, tree) :=
  rfl

theorem attempt_get_bind (next : FileTree → ExceptT Failure (StateM FileTree) β) :
    tree.attempt (get >>= next) = tree.attempt (next tree) :=
  attempt_bind tree get next

theorem attempt_set_bind (after : FileTree)
    (next : PUnit → ExceptT Failure (StateM FileTree) β) :
    tree.attempt (set after >>= next) = after.attempt (next ⟨⟩) :=
  attempt_bind tree (set after) next

theorem attempt_readText {path text : String} (h : tree.find? path = some (.text text)) :
    tree.attempt (FileSystem.readText path) = (.ok text, tree) := by
  simp only [FileSystem.readText, attempt_get_bind, h, attempt_pure]

/-- Reading changes nothing, also where there is nothing to read. -/
@[simp] theorem attempt_readText_snd (path : String) :
    (tree.attempt (FileSystem.readText path)).2 = tree := by
  simp only [FileSystem.readText, attempt_get_bind]
  cases tree.find? path with
  | none => rfl
  | some entry => cases entry <;> rfl

@[simp] theorem attempt_createDirectories (path : String) :
    tree.attempt (FileSystem.createDirectories path) =
      (if (tree.makeDirectories path).2 then .ok ()
        else .error (.io "cannot make the directory"), (tree.makeDirectories path).1) := by
  simp only [FileSystem.createDirectories, attempt_get_bind, attempt_set_bind]
  split <;> rfl

@[simp] theorem attempt_writeText (path text : String) :
    tree.attempt (FileSystem.writeText path text) =
      match tree.write? path text with
      | some after => (.ok (), after)
      | none => (.error (.io "cannot write the file"), tree) := by
  simp only [FileSystem.writeText, attempt_get_bind]
  cases tree.write? path text <;> rfl

end Attempts

/-- An action that gives the same on two trees and leaves each as it was. -/
def ReadsAlike {α : Type} (tree other : FileTree)
    (action : ExceptT Failure (StateM FileTree) α) : Prop :=
  ∃ result, tree.attempt action = (result, tree) ∧ other.attempt action = (result, other)

section ReadsAlike

variable {α β : Type} {tree other : FileTree}

theorem readsAlike_pure (a : α) : ReadsAlike tree other (pure a) :=
  ⟨.ok a, rfl, rfl⟩

theorem readsAlike_throw (failure : Failure) :
    ReadsAlike tree other (throw failure : ExceptT Failure (StateM FileTree) α) :=
  ⟨.error failure, rfl, rfl⟩

theorem readsAlike_bind {action : ExceptT Failure (StateM FileTree) α}
    {next : α → ExceptT Failure (StateM FileTree) β} (hfirst : ReadsAlike tree other action)
    (hnext : ∀ a, ReadsAlike tree other (next a)) : ReadsAlike tree other (action >>= next) := by
  obtain ⟨result, htree, hother⟩ := hfirst
  cases result with
  | error failure =>
      refine ⟨.error failure, ?_, ?_⟩
      · rw [attempt_bind, htree]
      · rw [attempt_bind, hother]
  | ok a =>
      obtain ⟨result, hnexttree, hnextother⟩ := hnext a
      refine ⟨result, ?_, ?_⟩
      · rw [attempt_bind, htree]
        exact hnexttree
      · rw [attempt_bind, hother]
        exact hnextother

/-- What an action gives that only reads is all that it does. -/
theorem attempt_of_readsAlike {action : ExceptT Failure (StateM FileTree) α}
    (h : ReadsAlike tree tree action) {result : Except Failure α}
    (hresult : (tree.attempt action).1 = result) : tree.attempt action = (result, tree) := by
  obtain ⟨found, hfound, -⟩ := h
  rw [hfound] at hresult ⊢
  exact Prod.ext hresult rfl

variable {path : String}

theorem readsAlike_isPresent (h : tree.find? path = other.find? path) :
    ReadsAlike tree other (liftM (FileSystem.isPresent path : StateM FileTree Bool)) :=
  ⟨.ok (tree.find? path).isSome, rfl, by rw [h]; rfl⟩

theorem readsAlike_readText (h : tree.find? path = other.find? path) :
    ReadsAlike tree other (FileSystem.readText path) := by
  refine ⟨(tree.attempt (FileSystem.readText path)).1, ?_, ?_⟩
  · exact Prod.ext rfl (attempt_readText_snd tree path)
  · refine Prod.ext ?_ (attempt_readText_snd other path)
    simp only [FileSystem.readText, attempt_get_bind, ← h]
    cases tree.find? path with
    | none => rfl
    | some entry => cases entry <;> rfl

end ReadsAlike

end Hypermedia.FileTree
