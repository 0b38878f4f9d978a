import Hypermedia.FileSystem

/-!
A tree of files in memory, with the directory that a program runs in. A place
in the tree is the list of names that lead to it from the root. Paths are
followed one piece at a time, from the root if they begin with a slash and from
the current directory if they do not, and each piece needs a directory to be
looked up in, so a path that leads through a file leads nowhere. The root lies
in itself. There are no links.
-/

namespace Hypermedia

/-- What can be found in a tree of files. -/
inductive FileTree.Entry where
  | directory
  | text (content : String)
  /-- A file that does not hold text. -/
  | bytes (content : List UInt8)
deriving DecidableEq, Repr

/-- A tree of files. The current directory is there without being listed, and so
are those that it lies in. -/
structure FileTree where
  current : List String
  entries : List (List String × FileTree.Entry)
deriving DecidableEq, Repr

namespace FileTree

/-- The tree in which there is nothing but an empty current directory. -/
def empty : FileTree := ⟨["tmp", "work"], []⟩

/-- What is at a place. -/
def lookup? (tree : FileTree) (place : List String) : Option Entry :=
  if place <+: tree.current then some .directory else tree.entries.lookup place

/-- The list with an entry for this place, instead of an earlier one. -/
def listed (place : List String) (entry : Entry) :
    List (List String × Entry) → List (List String × Entry)
  | [] => [(place, entry)]
  | (other, old) :: rest =>
      if other = place then (place, entry) :: rest
      else (other, old) :: listed place entry rest

/-- The tree with an entry at this place, instead of an earlier one. -/
def put (tree : FileTree) (place : List String) (entry : Entry) : FileTree :=
  { tree with entries := listed place entry tree.entries }

@[simp] theorem current_put (tree : FileTree) (place : List String) (entry : Entry) :
    (tree.put place entry).current = tree.current :=
  rfl

theorem lookup_listed_self (place : List String) (entry : Entry)
    (entries : List (List String × Entry)) :
    (listed place entry entries).lookup place = some entry := by
  induction entries with
  | nil => simp [listed]
  | cons head rest ih =>
      obtain ⟨other, old⟩ := head
      by_cases h : other = place
      · simp [listed, h]
      · simp [listed, h, List.lookup_cons, ih, show (place == other) = false by
          simpa using Ne.symm h]

theorem lookup_listed_of_ne {place other : List String} (h : other ≠ place) (entry : Entry)
    (entries : List (List String × Entry)) :
    (listed place entry entries).lookup other = entries.lookup other := by
  induction entries with
  | nil => simp [listed, List.lookup_cons, show (other == place) = false by simpa using h]
  | cons head rest ih =>
      obtain ⟨first, old⟩ := head
      by_cases hfirst : first = place
      · subst hfirst
        simp [listed, List.lookup_cons, show (other == first) = false by simpa using h]
      · simp [listed, hfirst, List.lookup_cons, ih]

/-- What has been put at a place is there. -/
theorem lookup?_put_self {tree : FileTree} {place : List String} (h : ¬ place <+: tree.current)
    (entry : Entry) : (tree.put place entry).lookup? place = some entry := by
  rw [lookup?, current_put, if_neg h]
  exact lookup_listed_self place entry tree.entries

/-- All other places are as they were. -/
theorem lookup?_put_of_ne {place other : List String} (h : other ≠ place) (tree : FileTree)
    (entry : Entry) : (tree.put place entry).lookup? other = tree.lookup? other := by
  rw [lookup?, lookup?, current_put]
  split
  · rfl
  · exact lookup_listed_of_ne h entry tree.entries

/-- The pieces of a path, which are separated by slashes. -/
def pieceChars : List Char → List (List Char)
  | [] => [[]]
  | c :: rest =>
      if c = '/' then [] :: pieceChars rest
      else
        match pieceChars rest with
        | [] => [[c]]
        | piece :: pieces => (c :: piece) :: pieces

/-- The pieces of a path. -/
def piecesOf (path : String) : List String := (pieceChars path.toList).map String.ofList

/-- Whether a text can lead anywhere. -/
def isPath (path : String) : Bool := !path.toList.isEmpty && !path.toList.contains '\x00'

/-- A piece that stays in its directory. -/
def isIdle (piece : String) : Bool := piece == "" || piece == "."

/-- Where one piece of a path leads from a place if nothing stands in the way. -/
def stepTo (place : List String) (piece : String) : List String :=
  if isIdle piece then place
  else if piece = ".." then place.dropLast
  else place ++ [piece]

/-- Where a path begins. -/
def startOf (tree : FileTree) (path : String) : List String :=
  if path.toList.head? = some '/' then [] else tree.current

/-- Where the pieces of a path lead from a place. Nothing needs to be there,
but all that is passed through has to be a directory. -/
def follow (tree : FileTree) : List String → List String → Option (List String)
  | place, [] => some place
  | place, piece :: rest =>
      if tree.lookup? place = some .directory then tree.follow (stepTo place piece) rest
      else none

/-- Where a path leads. -/
def locate (tree : FileTree) (path : String) : Option (List String) :=
  if isPath path then tree.follow (tree.startOf path) (piecesOf path) else none

/-- What is at a path. -/
def find? (tree : FileTree) (path : String) : Option Entry :=
  (tree.locate path).bind tree.lookup?

/-- Makes the directories that are missing along the pieces of a path. What has
been made stays, even if a file stands in the way of what is left. -/
def makeAlong : FileTree → List String → List String → FileTree
  | tree, _, [] => tree
  | tree, place, piece :: rest =>
      let next := stepTo place piece
      match tree.lookup? next with
      | none => (tree.put next .directory).makeAlong next rest
      | some .directory => tree.makeAlong next rest
      | some _ => tree

/-- The pieces at the end of a path that stay in their directory. -/
def idleEnd (path : String) : List String := ((piecesOf path).reverse.takeWhile isIdle).reverse

/-- The pieces of a path in front of those. -/
def core (path : String) : List String := ((piecesOf path).reverse.dropWhile isIdle).reverse

/-- The pieces of a path along which directories are made. A dot at the end of a
path stands for a directory that has to be there, so only those that it lies in
are made for it. -/
def makeable (path : String) : List String :=
  if (idleEnd path).contains "." then (core path).dropLast else core path

/-- The tree with a directory at the path, as far as it can be made, and
whether it is there. Without a path nothing needs to be made. -/
def makeDirectories (tree : FileTree) (path : String) : FileTree × Bool :=
  if path.toList.isEmpty then (tree, true)
  else if isPath path then
    let made := tree.makeAlong (tree.startOf path) (makeable path)
    (made, made.find? path == some .directory)
  else (tree, false)

/-- The tree in which the file at the path holds the text, if there can be such
a file. -/
def write? (tree : FileTree) (path : String) (text : String) : Option FileTree :=
  match tree.locate path with
  | none => none
  | some place =>
      if tree.lookup? place = some .directory then none
      else some (tree.put place (.text text))

/-- The tree with an entry at a path, and with the directories that the path
leads through. What is a directory stays one. -/
def plant (tree : FileTree) (path : String) (entry : Entry) : FileTree :=
  if entry = .directory then tree.makeAlong (tree.startOf path) (piecesOf path)
  else
    let made := tree.makeAlong (tree.startOf path) (piecesOf path).dropLast
    match made.locate path with
    | some place => if made.lookup? place = some .directory then made else made.put place entry
    | none => made

/-- A tree with these entries, given by their paths. They are put there one
after another. -/
def ofList (files : List (String × Entry)) : FileTree :=
  files.foldl (fun tree file => tree.plant file.1 file.2) empty

/-- Commands run on a tree by changing it. A failure leaves behind whatever had
been done before it. -/
instance : FileSystem (StateM FileTree) where
  isPresent path := do return ((← get).find? path).isSome
  readText path := do
    match (← get).find? path with
    | some (.text content) => return content
    | some .directory => throw (.io "is a directory")
    | some (.bytes _) => throw (.io "is not text")
    | none => throw (.io "no such file")
  createDirectories path := do
    let (tree, isThere) := (← get).makeDirectories path
    set tree
    if isThere then pure () else throw (.io "cannot make the directory")
  writeText path text := do
    match (← get).write? path text with
    | some tree => set tree
    | none => throw (.io "cannot write the file")

end FileTree

end Hypermedia
