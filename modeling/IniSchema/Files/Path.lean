import IniSchema.Text

/-!
# Paths

A path is a text with slashes. Joining and taking the parent work on the text alone and leave the
rest of it as it is.
-/

namespace IniSchema.Path

def isAbsolute (path : Text) : Bool := path.head? == some '/'

def join (directory child : Text) : Text :=
  if isAbsolute child || directory.isEmpty then child
  else if directory.getLast? = some '/' then directory ++ child
  else directory ++ '/' :: child

/-- A piece between slashes that does not change where a path leads. -/
def isSilent (piece : Text) : Bool := piece.isEmpty || piece == ['.']

/-- The pieces without the last one that leads anywhere, and without silent ones before it. -/
def parentPieces? (pieces : List Text) : Option (List Text) :=
  match pieces.reverse.dropWhile isSilent with
  | [] => none
  | _ :: rest => some (rest.dropWhile isSilent).reverse

/-- The directory that a path is in. The root and the empty path are in none. -/
def parent? (path : Text) : Option Text :=
  match path with
  | '/' :: rest =>
      (parentPieces? (Text.split '/' rest)).map fun pieces => '/' :: Text.join "/" pieces
  | ['.'] => some []
  | '.' :: '/' :: rest =>
      match parentPieces? ([] :: Text.split '/' rest) with
      | some pieces => some ('.' :: Text.join "/" pieces)
      | none => some []
  | _ => (parentPieces? (Text.split '/' path)).map (Text.join "/")

end IniSchema.Path
