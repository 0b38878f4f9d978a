import Hypermedia.Proofs.FileTree

/-!
When a directory can be made, told by the tree as it is before. A path fixes the
places that it leads through, whatever stands there, so what making a directory
takes is that no file stands at one of them.
-/

namespace Hypermedia.FileTree

/-- Whether there is a directory at a path or one can be made there. No file may
stand on the way. A dot behind the last name stands for a directory that is
there before, or comes about on the way to that name. -/
structure HasRoomFor (tree : FileTree) (path : String) : Prop where
  noNull : '\x00' ∉ path.toList
  clear : ∀ place ∈ tree.wayOf path, tree.IsClear place
  dot : ∀ front name idle, piecesOf path = front ++ name :: idle → isIdle name = false →
    (∀ piece ∈ idle, isIdle piece = true) → "." ∈ idle →
      tree.placeOf path ∈ front.scanl stepTo (tree.startOf path) ∨
        tree.lookup? (tree.placeOf path) = some .directory

section Steps

variable {place passed : List String}

theorem stepTo_of_isIdle {piece : String} (h : isIdle piece = true) :
    stepTo place piece = place :=
  if_pos h

theorem foldl_stepTo_of_isIdle {idle : List String} (h : ∀ piece ∈ idle, isIdle piece = true) :
    idle.foldl stepTo place = place := by
  induction idle with
  | nil => rfl
  | cons piece rest ih =>
      rw [List.forall_mem_cons] at h
      rw [List.foldl_cons, stepTo_of_isIdle h.1, ih h.2]

theorem eq_of_mem_scanl_of_isIdle {idle : List String}
    (h : ∀ piece ∈ idle, isIdle piece = true) (hpassed : passed ∈ idle.scanl stepTo place) :
    passed = place := by
  induction idle with
  | nil => simpa using hpassed
  | cons piece rest ih =>
      rw [List.forall_mem_cons] at h
      rw [List.scanl_cons, stepTo_of_isIdle h.1, List.mem_cons] at hpassed
      exact hpassed.elim id (ih h.2)

theorem foldl_mem_scanl (pieces : List String) :
    pieces.foldl stepTo place ∈ pieces.scanl stepTo place :=
  List.mem_of_getLast? List.getLast?_scanl

theorem mem_scanl_iff_dropLast {pieces : List String} :
    passed ∈ pieces.scanl stepTo place ↔
      passed ∈ pieces.dropLast.scanl stepTo place ∨ passed = pieces.foldl stepTo place := by
  rcases List.eq_nil_or_concat pieces with rfl | ⟨front, piece, rfl⟩
  · simp
  · rw [List.concat_eq_append, List.dropLast_concat, List.scanl_append, List.mem_append]
    simp

theorem core_append_idleEnd (path : String) : core path ++ idleEnd path = piecesOf path := by
  rw [core, idleEnd, ← List.reverse_append, List.takeWhile_append_dropWhile, List.reverse_reverse]

theorem isIdle_of_mem_idleEnd {path : String} :
    ∀ piece ∈ idleEnd path, isIdle piece = true := by
  intro piece hpiece
  exact List.all_eq_true.mp List.all_takeWhile piece (List.mem_reverse.mp hpiece)

theorem placeOf_eq_core (tree : FileTree) (path : String) :
    tree.placeOf path = (core path).foldl stepTo (tree.startOf path) := by
  rw [placeOf, ← core_append_idleEnd, List.foldl_append,
    foldl_stepTo_of_isIdle isIdle_of_mem_idleEnd]

/-- Behind the last name of a path there are only idle pieces. -/
theorem core_eq {path name : String} {front idle : List String}
    (hpieces : piecesOf path = front ++ name :: idle) (hname : isIdle name = false)
    (hidle : ∀ piece ∈ idle, isIdle piece = true) :
    core path = front ++ [name] ∧ idleEnd path = idle := by
  have hreverse : (piecesOf path).reverse = idle.reverse ++ name :: front.reverse := by
    simp [hpieces]
  have hall : ∀ piece ∈ idle.reverse, isIdle piece = true :=
    fun piece hpiece => hidle piece (List.mem_reverse.mp hpiece)
  unfold core idleEnd
  rw [hreverse, List.dropWhile_append_of_pos hall, List.takeWhile_append_of_pos hall,
    List.dropWhile_cons_of_neg (by simp [hname]), List.takeWhile_cons_of_neg (by simp [hname])]
  simp

/-- A path either has no name at all or a last one. -/
theorem core_cases (path : String) :
    core path = [] ∨ ∃ front name, core path = front ++ [name] ∧ isIdle name = false := by
  cases hcore : (piecesOf path).reverse.dropWhile isIdle with
  | nil => exact .inl (by simp [core, hcore])
  | cons name front =>
      refine .inr ⟨front.reverse, name, by simp [core, hcore], ?_⟩
      simpa [hcore] using List.head?_dropWhile_not isIdle (piecesOf path).reverse

/-- What a path leads through are the places where directories are made, and the
place where it ends. -/
theorem mem_wayOf_iff (tree : FileTree) {path : String} :
    passed ∈ tree.wayOf path ↔
      passed ∈ (makeable path).scanl stepTo (tree.startOf path) ∨
        passed = tree.placeOf path := by
  have hcore : passed ∈ tree.wayOf path ↔
      passed ∈ (core path).scanl stepTo (tree.startOf path) := by
    rw [wayOf, ← core_append_idleEnd, List.scanl_append, List.mem_append, or_iff_left_of_imp]
    intro hpassed
    rw [eq_of_mem_scanl_of_isIdle isIdle_of_mem_idleEnd (List.mem_of_mem_tail hpassed)]
    exact foldl_mem_scanl (core path)
  rw [hcore, placeOf_eq_core, makeable]
  split
  · exact mem_scanl_iff_dropLast
  · rw [or_iff_left_of_imp]
    rintro rfl
    exact foldl_mem_scanl (core path)

end Steps

section Making

variable {tree : FileTree} {path : String}

theorem isPath_iff : isPath path = true ↔ path ≠ "" ∧ '\x00' ∉ path.toList := by
  simp [isPath]

theorem lookup?_startOf (tree : FileTree) (path : String) :
    tree.lookup? (tree.startOf path) = some .directory :=
  lookup?_of_prefix (isPrefix_startOf tree path)

theorem hasRoomFor_empty (tree : FileTree) : tree.HasRoomFor "" where
  noNull := by decide
  clear place hplace := by
    have hidle : ∀ piece ∈ piecesOf "", isIdle piece = true := by decide
    obtain rfl : place = tree.startOf "" := eq_of_mem_scanl_of_isIdle hidle hplace
    exact .inr (lookup?_startOf tree "")
  dot _ _ _ _ _ _ _ := .inr (lookup?_startOf tree "")

theorem makeDirectories_fst (h : '\x00' ∉ path.toList) :
    (tree.makeDirectories path).1 = tree.makeAlong (tree.startOf path) (makeable path) := by
  unfold makeDirectories
  split
  next hempty =>
    obtain rfl : path = "" := String.toList_eq_nil_iff.mp (List.isEmpty_iff.mp hempty)
    rfl
  next hempty =>
    rw [if_pos (by simp [isPath, hempty, h])]

theorem makeDirectories_snd_iff :
    (tree.makeDirectories path).2 = true ↔
      path = "" ∨ (tree.makeDirectories path).1.find? path = some .directory := by
  unfold makeDirectories
  split
  next hempty =>
    simp [String.toList_eq_nil_iff.mp (List.isEmpty_iff.mp hempty)]
  next hempty =>
    have hne : path ≠ "" := by
      rintro rfl
      exact hempty rfl
    split
    · simp [hne]
    next hpath => simp [hne, find?, locate, hpath]

theorem HasRoomFor.isReached (h : tree.HasRoomFor path) :
    tree.placeOf path ∈ (makeable path).scanl stepTo (tree.startOf path) ∨
      tree.lookup? (tree.placeOf path) = some .directory := by
  rw [makeable]
  split
  next hdot =>
    rcases core_cases path with hcore | ⟨front, name, hcore, hname⟩
    · refine .inr ?_
      rw [placeOf_eq_core, hcore]
      exact lookup?_startOf tree path
    · rw [hcore, List.dropLast_concat]
      refine h.dot front name (idleEnd path) ?_ hname isIdle_of_mem_idleEnd (by simpa using hdot)
      rw [← core_append_idleEnd, hcore, List.append_assoc, List.singleton_append]
  next =>
    rw [placeOf_eq_core]
    exact .inl (foldl_mem_scanl (core path))

/-- Where there is room, directories come about along the way and nothing else
changes. -/
theorem HasRoomFor.lookup? (h : tree.HasRoomFor path) (place : List String) :
    (tree.makeDirectories path).1.lookup? place =
      if place ∈ tree.wayOf path then some .directory else tree.lookup? place := by
  have hgrows := grows_makeDirectories tree path
  have hmade : ∀ passed ∈ (makeable path).scanl stepTo (tree.startOf path),
      (tree.makeDirectories path).1.lookup? passed = some .directory := by
    rw [makeDirectories_fst h.noNull]
    exact lookup?_makeAlong_of_mem (lookup?_startOf tree path) fun passed hpassed =>
      h.clear passed ((mem_wayOf_iff tree).mpr (.inl hpassed))
  split
  next hway =>
    rcases (mem_wayOf_iff tree).mp hway with hpassed | rfl
    · exact hmade place hpassed
    · exact h.isReached.elim (hmade _) (hgrows.directories _)
  next hway =>
    rw [makeDirectories_fst h.noNull]
    exact lookup?_makeAlong_of_not_mem fun hpassed =>
      hway ((mem_wayOf_iff tree).mpr (.inl hpassed))

theorem HasRoomFor.lookup?_placeOf (h : tree.HasRoomFor path) :
    (tree.makeDirectories path).1.lookup? (tree.placeOf path) = some .directory := by
  rw [h.lookup?, if_pos ((mem_wayOf_iff tree).mpr (.inr rfl))]

/-- Directories can be made exactly where there is room for them. -/
theorem makeDirectories_iff :
    (tree.makeDirectories path).2 = true ↔ tree.HasRoomFor path := by
  have hgrows := grows_makeDirectories tree path
  rw [makeDirectories_snd_iff, find?_eq_directory_iff, hgrows.wayOf]
  constructor
  · rintro (rfl | ⟨hpath, hway⟩)
    · exact hasRoomFor_empty tree
    · have hnull := (isPath_iff.mp hpath).2
      refine ⟨hnull, fun place h => hgrows.isClear (hway place h), ?_⟩
      intro front name idle hpieces hname hidle hdot
      obtain ⟨hcore, hend⟩ := core_eq hpieces hname hidle
      have hmakeable : makeable path = front := by
        simp [makeable, hend, hdot, hcore]
      -- Nothing is made but on the way to the name, so what is elsewhere has been there.
      by_cases hmem : tree.placeOf path ∈ front.scanl stepTo (tree.startOf path)
      · exact .inl hmem
      · have hplace := hway _ ((mem_wayOf_iff tree).mpr (.inr rfl))
        rw [makeDirectories_fst hnull, hmakeable, lookup?_makeAlong_of_not_mem hmem] at hplace
        exact .inr hplace
  · intro h
    by_cases hempty : path = ""
    · exact .inl hempty
    · refine .inr ⟨isPath_iff.mpr ⟨hempty, h.noNull⟩, fun place hplace => ?_⟩
      rw [h.lookup?, if_pos hplace]

end Making

/-- A text that can be the name of something in a directory. -/
structure IsName (name : String) : Prop where
  noSlash : '/' ∉ name.toList
  noNull : '\x00' ∉ name.toList
  notIdle : isIdle name = false
  notParent : name ≠ ".."

section Joining

variable {tree : FileTree} {directory name : String}

theorem pieceChars_ne_nil (chars : List Char) : pieceChars chars ≠ [] := by
  cases chars with
  | nil => simp [pieceChars]
  | cons c rest =>
      unfold pieceChars
      split
      · simp
      · split <;> simp

theorem pieceChars_append_slash (front back : List Char) :
    pieceChars (front ++ '/' :: back) = pieceChars front ++ pieceChars back := by
  induction front with
  | nil => simp [pieceChars]
  | cons c front ih =>
      by_cases hc : c = '/'
      · simp [pieceChars, hc, ih]
      · cases hfront : pieceChars front with
        | nil => exact absurd hfront (pieceChars_ne_nil front)
        | cons piece others => simp [pieceChars, hc, ih, hfront]

theorem pieceChars_of_not_mem {chars : List Char} (h : '/' ∉ chars) :
    pieceChars chars = [chars] := by
  induction chars with
  | nil => rfl
  | cons c rest ih =>
      rw [List.mem_cons, not_or] at h
      simp [pieceChars, Ne.symm h.1, ih h.2]

/-- A slash at the end of a directory's path makes no difference, and neither
does it matter that the current directory can go without one. -/
theorem piecesOf_pathIn (directory : String) (h : '/' ∉ name.toList) :
    ∃ lead idle, piecesOf directory = lead ++ idle ∧ (∀ piece ∈ idle, isIdle piece = true) ∧
      piecesOf (pathIn directory name) = lead ++ [name] := by
  have hname : (pieceChars name.toList).map String.ofList = [name] := by
    simp [pieceChars_of_not_mem h]
  have hempty : ∀ piece ∈ [""], isIdle piece = true := by decide
  rcases List.eq_nil_or_concat directory.toList with hnil | ⟨front, c, hconcat⟩
  · refine ⟨[], [""], ?_, hempty, ?_⟩
    · simp [piecesOf, hnil, pieceChars]
    · simp [piecesOf, pathIn, hnil, hname]
  · rw [List.concat_eq_append] at hconcat
    by_cases hslash : c = '/'
    · subst hslash
      refine ⟨(pieceChars front).map String.ofList, [""], ?_, hempty, ?_⟩
      · simp [piecesOf, hconcat, pieceChars_append_slash, pieceChars]
      · simp [piecesOf, pathIn, hconcat, pieceChars_append_slash, hname]
    · have hjoined : (pathIn directory name).toList = directory.toList ++ '/' :: name.toList := by
        simp [pathIn, hconcat, hslash]
      refine ⟨piecesOf directory, [], by simp, by simp, ?_⟩
      rw [piecesOf, hjoined, pieceChars_append_slash, List.map_append, hname, piecesOf]

theorem startOf_pathIn (tree : FileTree) (directory : String) (h : '/' ∉ name.toList) :
    tree.startOf (pathIn directory name) = tree.startOf directory := by
  cases hchars : directory.toList with
  | nil =>
      have hhead : name.toList.head? ≠ some '/' := mt List.mem_of_mem_head? h
      simp [startOf, pathIn, hchars, hhead]
  | cons c rest =>
      unfold startOf pathIn
      split <;> simp [hchars]

theorem stepTo_of_isName (h : IsName name) (place : List String) :
    stepTo place name = place ++ [name] := by
  simp [stepTo, h.notIdle, h.notParent]

theorem placeOf_pathIn (h : IsName name) (tree : FileTree) (directory : String) :
    tree.placeOf (pathIn directory name) = tree.placeOf directory ++ [name] := by
  obtain ⟨lead, idle, hdirectory, hidle, hpath⟩ := piecesOf_pathIn directory h.noSlash
  unfold placeOf
  rw [hpath, hdirectory, startOf_pathIn tree directory h.noSlash, List.foldl_append,
    List.foldl_append, foldl_stepTo_of_isIdle hidle]
  exact stepTo_of_isName h _

theorem isPath_pathIn (h : IsName name) (hdirectory : '\x00' ∉ directory.toList) :
    isPath (pathIn directory name) = true := by
  have hname : name ≠ "" := by
    rintro rfl
    exact absurd h.notIdle (by decide)
  refine isPath_iff.mpr ⟨?_, ?_⟩
  · unfold pathIn
    split <;> simp [hname]
  · unfold pathIn
    split <;> simp [hdirectory, h.noNull]

/-- Where directories have been made, the path of a file in the last of them can
be followed. -/
theorem locate_pathIn (h : IsName name) (hdirectory : '\x00' ∉ directory.toList)
    (hway : ∀ place ∈ tree.wayOf directory, tree.lookup? place = some .directory) :
    tree.locate (pathIn directory name) = some (tree.placeOf directory ++ [name]) := by
  obtain ⟨lead, idle, hpieces, hidle, hpath⟩ := piecesOf_pathIn directory h.noSlash
  refine locate_eq_some_iff.mpr ⟨isPath_pathIn h hdirectory, ?_⟩
  rw [hpath, startOf_pathIn tree directory h.noSlash, placeOf, hpieces, List.foldl_append,
    foldl_stepTo_of_isIdle hidle, ← stepTo_of_isName h (lead.foldl stepTo _)]
  refine follow_concat (fun passed hpassed => ?_) name
  refine hway passed ?_
  rw [wayOf, hpieces, List.scanl_append]
  exact List.mem_append_left _ hpassed

end Joining

end Hypermedia.FileTree
