import IniSchema.Fault
import IniSchema.Files.Place

/-!
# Trees of files

A file tree is a value that says which directories and files there are. Reading is a view of it,
`FileTree.view`, and writing gives a changed tree.
-/

namespace IniSchema

structure FileTree where
  root : FileNode

namespace FileTree

/-- The working directory lies in the root, under a name that no path can spell. -/
def workingName : Text := "/"

def blank : FileTree := ⟨.directory [(workingName, .directory [])]⟩

def workingPlace (t : FileTree) : Place :=
  match t.root.child? workingName with
  | some node => .inside (.root t.root) workingName node
  | none => .root t.root

/-! ## Reading -/

def start (t : FileTree) (path : Text) : Place :=
  if Path.isAbsolute path then .root t.root else t.workingPlace

def locate (t : FileTree) (path : Text) : Except Obstacle Place :=
  match Path.obstacle? path with
  | some obstacle => .error obstacle
  | none => (t.start path).walk (Text.split '/' path)

def view (t : FileTree) : FileView := fun path =>
  match t.locate path with
  | .ok place => place.node.contents?
  | .error _ => none

/-! ## Directories -/

/-- Makes the directory `name`, if it is not there, in the one that the pieces `above` lead to. -/
def makeDirectory (t : FileTree) (path : Text) (above : List Text) (name : Text) :
    Except Obstacle FileTree :=
  ((t.start path).walkToDirectory above).bind fun place =>
    match place.follow name with
    | .ok there => if there.node.isDirectory then .ok t else .error .occupied
    | .error .missing => .ok ⟨place.replace (place.node.insert name (.directory []))⟩
    | .error obstacle => .error obstacle

/-- Makes the directory that the names lead to, given last name first. Only if it cannot be made for
want of the directory above, that one is made before it. -/
def makeUpward (t : FileTree) (path : Text) : List Text → FileTree × Except Obstacle Unit
  | [] => (t, .ok ())
  | name :: above =>
      match t.makeDirectory path above.reverse name with
      | .ok t => (t, .ok ())
      | .error .missing =>
          match t.makeUpward path above with
          | (t, .ok _) =>
              match t.makeDirectory path above.reverse name with
              | .ok t => (t, .ok ())
              | .error obstacle => (t, .error obstacle)
          | (t, .error obstacle) => (t, .error obstacle)
      | .error obstacle => (t, .error obstacle)

def makeDirectories (t : FileTree) (path : Text) : FileTree × Except Obstacle Unit :=
  if path.isEmpty then (t, .ok ())
  else match Path.obstacle? path with
    | some obstacle => (t, .error obstacle)
    | none => t.makeUpward path ((Text.split '/' path).filter (!Path.isSilent ·)).reverse

/-! ## Files -/

/-- Writes a file in the directory that the pieces `above` lead to. Two dots, one dot and a slash at
the end stand for directories, whether they are there or not. -/
def writeIn (t : FileTree) (path : Text) (above : List Text) (name : Text)
    (contents : FileContents) : Except Obstacle FileTree :=
  ((t.start path).walkToDirectory above).bind fun place =>
    if name = "." ∨ name = ".." ∨ path.getLast? = some '/' then .error .isDirectory
    else match place.follow name with
      | .ok there =>
          if there.node.isDirectory then .error .isDirectory
          else .ok ⟨there.replace (.file contents)⟩
      | .error .missing => .ok ⟨place.replace (place.node.insert name (.file contents))⟩
      | .error obstacle => .error obstacle

def write (t : FileTree) (path : Text) (contents : FileContents) : Except Obstacle FileTree :=
  match Path.obstacle? path with
  | some obstacle => .error obstacle
  | none =>
      match ((Text.split '/' path).filter (!·.isEmpty)).reverse with
      | [] => .error .isDirectory
      | name :: above => t.writeIn path above.reverse name contents

/-- Writes a file and makes its directory if it is not there. -/
def save (t : FileTree) (path : Text) (contents : FileContents) : FileTree × Except Fault Unit :=
  let directory := (Path.parent? path).getD []
  match t.makeDirectories directory with
  | (t, .error obstacle) => (t, .error (.unreadable directory obstacle.reason))
  | (t, .ok _) =>
      match t.write path contents with
      | .ok t => (t, .ok ())
      | .error obstacle => (t, .error (.unreadable path obstacle.reason))

end FileTree

end IniSchema
