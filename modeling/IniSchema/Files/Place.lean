import IniSchema.Files.Node
import IniSchema.Files.Path

/-!
# Places in a tree of files

A place is where following a path has led: the root, or a name in the directory of another place.
It remembers the way, so that `..` leads back and a change can be carried up to the root.
-/

namespace IniSchema

/-- What can be in the way of finding or making a file. -/
inductive Obstacle where
  | missing
  | occupied
  | notDirectory
  | isDirectory
  | nameTooLong
  | nulInName
  deriving DecidableEq, Repr

def Obstacle.reason : Obstacle → Text
  | missing => "No such file or directory (os error 2)"
  | occupied => "File exists (os error 17)"
  | notDirectory => "Not a directory (os error 20)"
  | isDirectory => "Is a directory (os error 21)"
  | nameTooLong => "File name too long (os error 36)"
  | nulInName => "file name contained an unexpected NUL byte"

def nameLimit : Nat := 255

def pathLimit : Nat := 4095

/-- What is wrong with a path whatever the tree. -/
def Path.obstacle? (path : Text) : Option Obstacle :=
  if path.contains '\x00' then some .nulInName
  else if path.byteLength > pathLimit then some .nameTooLong
  else if path.isEmpty then some .missing
  else none

inductive Place where
  | root (node : FileNode)
  | inside (directory : Place) (name : Text) (node : FileNode)

namespace Place

def node : Place → FileNode
  | .root node => node
  | .inside _ _ node => node

def up : Place → Place
  | .root node => .root node
  | .inside directory _ _ => directory

/-- The root of the tree in which this place has another node. -/
def replace : Place → FileNode → FileNode
  | .root _, new => new
  | .inside directory name _, new => directory.replace (directory.node.insert name new)

/-- The place that one piece of a path leads to from a directory. -/
def follow (place : Place) (piece : Text) : Except Obstacle Place :=
  if Path.isSilent piece then .ok place
  else if piece = ".." then .ok place.up
  else if piece.byteLength > nameLimit then .error .nameTooLong
  else match place.node.child? piece with
    | some node => .ok (.inside place piece node)
    | none => .error .missing

def walk (place : Place) : List Text → Except Obstacle Place
  | [] => .ok place
  | piece :: rest =>
      if place.node.isDirectory then (place.follow piece).bind fun next => next.walk rest
      else .error .notDirectory

/-- Where the pieces lead, if that is a directory. -/
def walkToDirectory (place : Place) (pieces : List Text) : Except Obstacle Place :=
  (place.walk pieces).bind fun place =>
    if place.node.isDirectory then .ok place else .error .notDirectory

end Place

end IniSchema
