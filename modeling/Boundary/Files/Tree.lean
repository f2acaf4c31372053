import Boundary.Files.Error
import Boundary.Files.Path
import Boundary.Text.Utf8

/-!
Files and directories below one root. A location is the list of names that leads to a file or
directory; a path is followed step by step to its location. Of what lies outside the root only the
directories above it and the topmost one are known, and nothing in them.
-/

namespace Boundary

/-- Outside the root a location starts with two dots, or with a slash for the topmost directory. -/
abbrev Location := List String

namespace Location

def top : Location := ["/"]

def isAbove (location : Location) : Bool := location.all (· == "..") || location == top

def up (location : Location) : Location :=
  if location = top then top
  else if location.all (· == "..") then ".." :: location
  else location.dropLast

def text (location : Location) : String := "/".intercalate location

end Location

/-- The root has a name for messages. Every directory but the root is listed. What is refused can be
listed as well and is there, but no file is opened there, to read or to write, and no directory
entered. There are no links. -/
structure FileTree where
  name : String
  files : List (Location × List UInt8) := []
  directories : List Location := []
  refused : List (Location × Refusal) := []

namespace FileTree

def file? (tree : FileTree) (location : Location) : Option (List UInt8) :=
  tree.files.lookup location

def isDirectory (tree : FileTree) (location : Location) : Bool :=
  location.isAbove || tree.directories.contains location

def listing (tree : FileTree) : List Location :=
  (tree.files.map Prod.fst).filter fun location =>
    location.head? != some ".." && location.head? != some "/"

def addDirectory (tree : FileTree) (location : Location) : FileTree :=
  let above := (List.range location.length).map fun count => location.take (count + 1)
  let missing := above.filter fun location => !tree.directories.contains location
  { tree with directories := tree.directories ++ missing }

def addFile (tree : FileTree) (location : Location) (bytes : List UInt8) : FileTree :=
  let others := tree.files.filter fun file => file.1 != location
  { tree.addDirectory location.dropLast with files := others ++ [(location, bytes)] }

def access (tree : FileTree) (location : Location) : Except FileError Unit :=
  match tree.refused.lookup location with
  | some cause => .error (.refused cause)
  | none => .ok ()

def enter (tree : FileTree) (location : Location) : Except FileError Unit :=
  if tree.isDirectory location then tree.access location
  else if (tree.file? location).isSome then .error .notDirectory
  else .error .notFound

def follow (tree : FileTree) (location : Location) : List String → Except FileError Location
  | [] => .ok location
  | part :: rest => do
    tree.enter location
    if Path.isIdle part then
      tree.follow location rest
    else if part = ".." then
      tree.follow location.up rest
    else if 255 < part.utf8ByteSize then
      .error .nameTooLong
    else
      tree.follow (location ++ [part]) rest

def checkPath (path : Path) : Except FileError Unit :=
  if path.parts.any (·.contains '\x00') then .error .nulInName
  else if 4095 < (path.text "").utf8ByteSize then .error .nameTooLong
  else .ok ()

def locateFrom (tree : FileTree) (start : Location) (path : Path) :
    Except FileError Location := do
  checkPath path
  tree.follow (if path.absolute then .top else start) path.parts

def locate (tree : FileTree) (path : Path) : Except FileError Location := tree.locateFrom [] path

def contains (tree : FileTree) (path : Path) : Bool :=
  match tree.locate path with
  | .error _ => false
  | .ok location => tree.isDirectory location || (tree.file? location).isSome

def read (tree : FileTree) (path : Path) : Except FileError (List UInt8) := do
  let location ← tree.locate path
  if tree.isDirectory location then .error .isDirectory
  else
    match tree.file? location with
    | some bytes => do
      tree.access location
      .ok bytes
    | none => .error .notFound

def readText (tree : FileTree) (path : Path) : Except FileError String := do
  match Utf8.decode? (← tree.read path) with
  | some text => .ok (String.ofList text)
  | none => .error .notText

def target (tree : FileTree) (start : Location) (path : Path) : Except FileError Location := do
  let location ← tree.locateFrom start path
  if tree.isDirectory location then .error .isDirectory
  else
    tree.enter location.dropLast
    tree.access location
    .ok location

/-- Write a file. A path that declares itself a directory is refused once its own directory is
found. -/
def write (tree : FileTree) (path : Path) (bytes : List UInt8) : Except FileError FileTree := do
  checkPath path
  match path.declaredIn? with
  | some above =>
    tree.enter (← tree.locate above)
    .error .isDirectory
  | none => .ok (tree.addFile (← tree.target [] path) bytes)

def openFile (tree : FileTree) (start : Location) (path : Path) : Except FileError FileTree := do
  let location ← tree.target start path
  .ok (if (tree.file? location).isSome then tree else tree.addFile location [])

def makeDirectory (tree : FileTree) (start : Location) (path : Path) :
    Except FileError FileTree := do
  let location ← tree.locateFrom start path
  if tree.isDirectory location || (tree.file? location).isSome then .error .alreadyExists
  else
    tree.enter location.dropLast
    tree.access location
    .ok { tree with directories := tree.directories ++ [location] }

def hasDirectory (tree : FileTree) (start : Location) (path : Path) : Bool :=
  match tree.locateFrom start path with
  | .ok location => tree.isDirectory location
  | .error _ => false

def ensureDirectory (tree : FileTree) (start : Location) (path : Path) :
    Except FileError FileTree :=
  match tree.makeDirectory start path with
  | .ok tree => .ok tree
  | .error error => if tree.hasDirectory start path then .ok tree else .error error

def ensureDirectories (tree : FileTree) (start : Location) (absolute : Bool) :
    List String → Except FileError FileTree
  | [] => tree.ensureDirectory start ⟨absolute, []⟩
  | name :: above =>
    let path : Path := ⟨absolute, (name :: above).reverse⟩
    match tree.ensureDirectory start path with
    | .error .notFound => do
      let tree ← tree.ensureDirectories start absolute above
      tree.ensureDirectory start path
    | outcome => outcome

end FileTree

end Boundary
