import IniSchema.Demo

/-!
# The demonstration program as a process

Environment variables, files and standard streams around `Demo.answer`. Only the files that the
answer may look at are read.
-/

namespace IniSchema.Demo

def setting (name : String) : IO (Option Text) := do
  return (← IO.getEnv name).map String.toList

/-- The contents of the paths that are files. -/
def snapshot : List Text → IO (List (Text × FileContents))
  | [] => return []
  | path :: rest => do
      let others ← snapshot rest
      try
        let bytes ← IO.FS.readBinFile (String.ofList path)
        return (path, .ofBytes bytes) :: others
      catch _ => return others

def viewOf (files : List (Text × FileContents)) : FileView := fun path =>
  (files.find? (·.1 == path)).map Prod.snd

/-- A failure as the operating system words and numbers it. -/
def failure (code : UInt32) (details : String) : Text :=
  details.toList ++ " (os error " ++ Text.ofNat code.toNat ++ ")"

def reasonOf : IO.Error → Text
  | .noFileOrDirectory _ code details => failure code details
  | .alreadyExists _ code details => failure code details
  | .inappropriateType _ code details => failure code details
  | .invalidArgument _ code details => failure code details
  | .permissionDenied _ code details => failure code details
  | .resourceExhausted _ code details => failure code details
  | e => e.toString.toList

def writeText (path text : Text) : IO (Except Fault Unit) := do
  try
    IO.FS.writeFile (String.ofList path) (String.ofList text)
    return .ok ()
  catch e => return .error (.unreadable path (reasonOf e))

def makeDirectory (path : Text) : IO (Except Fault Unit) := do
  try
    if !path.isEmpty then IO.FS.createDirAll (String.ofList path)
    return .ok ()
  catch e => return .error (.unreadable path (reasonOf e))

def saveFile (path text : Text) : IO (Except Fault Unit) := do
  match ← makeDirectory ((Path.parent? path).getD []) with
  | .ok _ => writeText path text
  | .error f => return .error f

def finish (e : Exit) : IO UInt32 := do
  IO.print (String.ofList e.output)
  IO.eprint (String.ofList e.errors)
  return e.code.toUInt32

def process (args : List Text) : IO UInt32 := do
  match Request.ofArguments args with
  | .error e => finish (.usage e)
  | .ok (request, strict) =>
      let places := SearchPlaces.ofVariables (← setting "HOME") (← setting "XDG_CONFIG_HOME")
        (← setting "XDG_CONFIG_DIRS")
      match loading places strict with
      | .error f => finish (.fail f)
      | .ok l =>
          let files ← snapshot (lookedAt l request)
          match answer l (viewOf files) request with
          | .error f => finish (.fail f)
          | .ok (.print text) => finish (.print text)
          | .ok (.save path text confirmation) =>
              match ← saveFile path text with
              | .ok _ => finish (.print confirmation)
              | .error f => finish (.fail f)

end IniSchema.Demo

def main (args : List String) : IO UInt32 :=
  IniSchema.Demo.process (args.map String.toList)
