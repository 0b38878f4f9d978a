import Hypermedia.Failure

/-!
What the program needs of files: to look whether there is something at a path,
to read and write texts, and to make directories. Commands are written over
this, so they run on a disk as well as on a tree of files in memory.
-/

namespace Hypermedia

/-- Access to files and directories by their paths. -/
class FileSystem (m : Type → Type) where
  /-- Whether there is a file or a directory at the path. -/
  isPresent : String → m Bool
  /-- The text of a file. -/
  readText : String → ExceptT Failure m String
  /-- Makes a directory, and those that it lies in, as far as they are
  missing. -/
  createDirectories : String → ExceptT Failure m Unit
  /-- Makes the file at a path hold a text, instead of what it held before. -/
  writeText : String → String → ExceptT Failure m Unit

/-- The path of something with this name in a directory. -/
def pathIn (directory name : String) : String :=
  if directory.toList.isEmpty || directory.toList.getLast? == some '/' then directory ++ name
  else directory ++ "/" ++ name

end Hypermedia
