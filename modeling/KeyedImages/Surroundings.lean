import KeyedImages.Text.Split

/-! What a program finds around it: variables, a working directory, and files. -/
namespace KeyedImages

/-- Variables with their values. -/
abbrev Environment := List (String × String)

/-- The place where a program runs. Files are found by their paths from the working directory. -/
structure Surroundings where
  directory : String
  environment : Environment
  /-- The text of the file at a path, if there is a file. -/
  file? : String → Option String

/-- The value of a variable, if it is set. -/
def Surroundings.get? (s : Surroundings) (name : String) : Option String :=
  s.environment.lookup name

namespace FilePath

/-- The parts of a path. Empty parts and parts of a single point say nothing and are left out. -/
def parts (path : String) : List String :=
  ((Text.split '/' path.toList).filter fun p => p ≠ [] ∧ p ≠ ['.']).map String.ofList

def isAbsolute (path : String) : Bool := path.toList.head? == some '/'

/-- A path without the parts that say nothing. -/
def tidy (path : String) : String :=
  (if isAbsolute path then "/" else "") ++ "/".intercalate (parts path)

/-- A path from a directory. -/
def join (directory path : String) : String :=
  if isAbsolute path then path else directory ++ "/" ++ path

/-- What stands behind the last point of a file's name, where something stands in front of it. -/
def extension (path : String) : String :=
  let reversed := ((parts path).getLast?.getD "").toList.reverse
  match reversed.dropWhile (· ≠ '.') with
  | _ :: _ :: _ => String.ofList (reversed.takeWhile (· ≠ '.')).reverse
  | _ => ""

/-- A path to whose last part an extension can be added. The working directory itself is a name in
the directory above it; a path that ends in the directory above has none. -/
def stem? (directory path : String) : Option String :=
  match (parts path).getLast? with
  | none => (parts directory).getLast?.map ("../" ++ ·)
  | some last => if last = ".." then none else some (tidy path)

end FilePath

/-- Files in directories, by their paths from the root, and a working directory. -/
structure FileTree where
  directory : List String
  files : List (List String × String)

namespace FileTree

/-- Whether there is a directory: the working directory, a directory around it, or one with a file.
-/
def isDirectory (t : FileTree) (path : List String) : Bool :=
  path.isPrefixOf t.directory || t.files.any fun (p, _) => path.isPrefixOf p && path ≠ p

/-- Goes from a directory along the parts of a path to a file. -/
def walk (t : FileTree) : (place : List String) → List String → Option String
  | _, [] => none
  | place, [name] =>
    if name = "" ∨ name = "." ∨ name = ".." then none else t.files.lookup (place ++ [name])
  | place, part :: rest =>
    if part = "" ∨ part = "." then t.walk place rest
    else if part = ".." then t.walk place.dropLast rest
    else if t.isDirectory (place ++ [part]) then t.walk (place ++ [part]) rest
    else none

/-- The text of the file at a path from the working directory. -/
def file? (t : FileTree) (path : String) : Option String :=
  if FilePath.isAbsolute path then none
  else t.walk t.directory ((Text.split '/' path.toList).map String.ofList)

end FileTree

end KeyedImages
