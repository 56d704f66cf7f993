import ScreenPattern.Catalog.Source

/-!
Directories of files, as far as reading them goes. Paths are never shortened: the text of a path
shows how it was put together, and its segments are followed when a file is read.
-/

namespace ScreenPattern

/-- A tree of files. Files and directories stand under their way down from the root. -/
structure FileTree where
  directories : List (List String) := []
  files : List (List String × ByteArray) := []

namespace FileTree

def segments (path : String) : List String :=
  path.splitOn "/"

/-- Nothing or a dot names the directory itself. -/
def isHere (segment : String) : Bool :=
  segment == "" || segment == "."

/-- Enters the directory that a segment names, and creates it if it is not there. The root lies in
itself. -/
def enter : FileTree × List String → String → FileTree × List String
  | (tree, way), segment =>
      if isHere segment then (tree, way)
      else if segment == ".." then (tree, way.dropLast)
      else
        let below := way ++ [segment]
        ({ tree with directories := below :: tree.directories }, below)

def addDirectory (tree : FileTree) (path : String) : FileTree :=
  ((segments path).foldl enter (tree, [])).1

/-- Adds a file, and the directories on the way to it. -/
def add (tree : FileTree) (path : String) (content : ByteArray) : FileTree :=
  let names := segments path
  let (tree, way) := names.dropLast.foldl enter (tree, [])
  { tree with files := (way ++ names.drop (names.length - 1), content) :: tree.files }

def maxName : Nat := 255

def maxPath : Nat := 4095

/-- Follows segments from the directory at `way`. -/
def follow (tree : FileTree) (way : List String) : List String → Except FileFault ByteArray
  | [] => .error .isDirectory
  | segment :: rest =>
      if isHere segment then follow tree way rest
      else if segment == ".." then follow tree way.dropLast rest
      else if maxName < segment.utf8ByteSize then .error .nameTooLong
      else
        let below := way ++ [segment]
        match (tree.files.find? fun f => f.1 == below).map (·.2) with
        | some content => if rest.isEmpty then .ok content else .error .notDirectory
        | none =>
            if tree.directories.contains below then follow tree below rest else .error .notFound

/-- The content of the file at a path. A relative path is followed from the root as well. -/
def read (tree : FileTree) (path : String) : Except FileFault ByteArray :=
  if path.toList.contains '\x00' then .error .nulInName
  else if maxPath < path.utf8ByteSize then .error .nameTooLong
  else if path == "" then .error .notFound
  else follow tree [] (segments path)

def readText (tree : FileTree) (path : String) : Except FileFault String := do
  let content ← tree.read path
  (String.fromUTF8? content).elim (.error .invalidUtf8) .ok

/-! The text of paths. -/

def isAbsolute (path : String) : Bool :=
  path.toList.head? == some '/'

/-- The directory that a path lies in, without segments at its end that name the same directory. -/
def parent (path : String) : String :=
  let names := ((segments path).dropLast.reverse.dropWhile isHere).reverse
  if names.isEmpty && isAbsolute path then "/" else "/".intercalate names

def resolve (directory path : String) : String :=
  let separator := if directory == "" || directory.toList.getLast? == some '/' then "" else "/"
  if isAbsolute path then path else directory ++ separator ++ path

end FileTree

end ScreenPattern
