import IniSchema.Files.Path

/-!
# Where configuration files are looked for

A file is looked for in the working directory, around the home directory, in the user's and then the
system's configuration directories, and last in the general directory for configuration. In each
directory three file names are tried.
-/

namespace IniSchema

structure SearchPlaces where
  workingDirectory : Text
  home : Option Text
  configHome : Option Text
  configDirectories : List Text
  systemDirectory : Text
  deriving DecidableEq, Repr

namespace SearchPlaces

/-- The places that environment variables name. An empty variable names none, and the list of
directories is separated by colons. -/
def ofVariables (home configHome configDirectories : Option Text) : SearchPlaces where
  workingDirectory := "."
  home := home.filter (!·.isEmpty)
  configHome := configHome.filter (!·.isEmpty)
  configDirectories := (Text.split ':' (configDirectories.getD [])).filter (!·.isEmpty)
  systemDirectory := "/etc"

def suffixes : List Text := ["cfg", "config", "conf"]

def directories (places : SearchPlaces) (appName : Text) : List Text :=
  let inHome (home : Text) : List Text :=
    let config := Path.join home ".config"
    [home, config, Path.join config appName]
  let alsoOwn (directory : Text) : List Text := [directory, Path.join directory appName]
  [places.workingDirectory] ++ places.home.toList.flatMap inHome ++
    places.configHome.toList.flatMap alsoOwn ++ places.configDirectories.flatMap alsoOwn ++
    [Path.join places.systemDirectory appName, places.systemDirectory]

def candidates (places : SearchPlaces) (appName : Text) : List Text :=
  (places.directories appName).flatMap fun directory =>
    suffixes.map fun suffix => Path.join directory (appName ++ '.' :: suffix)

end SearchPlaces

end IniSchema
