import IniSchema.Text

/-!
# Files and directories

A node is a file with what it holds, or a directory with its named entries.
-/

namespace IniSchema

/-- What a regular file holds: a text, or bytes that are none. -/
inductive FileContents where
  | text (t : Text)
  | undecodable
  deriving DecidableEq, Repr, Inhabited

def FileContents.ofBytes (bytes : ByteArray) : FileContents :=
  match String.fromUTF8? bytes with
  | some s => .text s.toList
  | none => .undecodable

def FileContents.text? : FileContents → Option Text
  | .text t => some t
  | .undecodable => none

abbrev FileView := Text → Option FileContents

inductive FileNode where
  | file (contents : FileContents)
  | directory (entries : List (Text × FileNode))

namespace FileNode

def isDirectory : FileNode → Bool
  | .directory _ => true
  | .file _ => false

def contents? : FileNode → Option FileContents
  | .file contents => some contents
  | .directory _ => none

def child? : FileNode → Text → Option FileNode
  | .directory entries, name => entries.lookup name
  | .file _, _ => none

/-- The directory with another entry of that name. A file stays as it is. -/
def insert : FileNode → Text → FileNode → FileNode
  | .directory entries, name, new => .directory ((name, new) :: entries.filter (·.1 != name))
  | .file contents, _, _ => .file contents

end FileNode

end IniSchema
