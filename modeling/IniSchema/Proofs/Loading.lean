import IniSchema.Loading
import IniSchema.Proofs.Schema
import Mathlib.Data.List.ReduceOption

/-!
# Where a source comes from

A text that is given is the source.  Without one a path that is given must be a file, and without
either the source is the first candidate of the search that is a file.  `Loading.Reads` says so as a
relation, which the loading and every task that reads a source agree with.
-/

namespace IniSchema

/-! ## Candidates -/

namespace SearchPlaces

/-- The rows of the search in their order.  A row is empty when its place is not known. -/
def rows (places : SearchPlaces) (appName : Text) : List (Option Text) :=
  let config := places.home.map (Path.join · ".config")
  [some places.workingDirectory, places.home, config, config.map (Path.join · appName),
      places.configHome, places.configHome.map (Path.join · appName)] ++
    (places.configDirectories.flatMap fun directory =>
      [some directory, some (Path.join directory appName)]) ++
    [some (Path.join places.systemDirectory appName), some places.systemDirectory]

def fileNames (appName : Text) : List Text :=
  [appName ++ ".cfg", appName ++ ".config", appName ++ ".conf"]

theorem directories_eq (places : SearchPlaces) (appName : Text) :
    places.directories appName = (places.rows appName).reduceOption := by
  have hconfigured : (places.configDirectories.flatMap fun directory =>
      [some directory, some (Path.join directory appName)]).reduceOption =
        places.configDirectories.flatMap fun directory =>
          [directory, Path.join directory appName] := by
    induction places.configDirectories with
    | nil => rfl
    | cons directory rest ih =>
        simpa [List.reduceOption_append, List.reduceOption_cons_of_some] using ih
  unfold directories rows
  simp only [List.reduceOption_append, hconfigured]
  cases places.home <;> cases places.configHome <;> rfl

theorem candidates_eq (places : SearchPlaces) (appName : Text) :
    places.candidates appName =
      (places.rows appName).reduceOption.flatMap fun directory =>
        (fileNames appName).map (Path.join directory) := by
  rw [candidates, directories_eq]
  rfl

end SearchPlaces

/-! ## The documented order -/

/-- What reading a file with the contents gives. -/
def FileContents.source (path : Text) : FileContents → Except Fault Source
  | .text t => Source.ofText t (some path)
  | .undecodable => .error (.unreadable path "stream did not contain valid UTF-8")

/-- What is read, where `given` is the path that is given. -/
inductive Loading.Reads (l : Loading) (given : Option Text) (files : FileView) :
    Except Fault Source → Prop
  | text {t : Text} (htext : l.text = some t) : Reads l given files (Source.ofText t none)
  | file {path : Text} {contents : FileContents} (htext : l.text = none)
      (hgiven : given = some path) (hfile : files path = some contents) :
      Reads l given files (contents.source path)
  | missing {path : Text} (htext : l.text = none) (hgiven : given = some path)
      (hfile : files path = none) : Reads l given files (.error (.sourceMissing path))
  | discovered {before after : List Text} {path : Text} {contents : FileContents}
      (htext : l.text = none) (hgiven : given = none)
      (hcandidates : l.places.candidates l.schema.appName = before ++ path :: after)
      (hbefore : ∀ other ∈ before, files other = none) (hfile : files path = some contents) :
      Reads l given files (contents.source path)
  | notDiscovered (htext : l.text = none) (hgiven : given = none)
      (hnone : ∀ path ∈ l.places.candidates l.schema.appName, files path = none) :
      Reads l given files
        (.error (.sourceNotDiscovered l.schema.appName (l.places.candidates l.schema.appName)))

theorem Source.ofFile_of_contents {files : FileView} {path : Text} {contents : FileContents}
    (h : files path = some contents) : Source.ofFile files path = contents.source path := by
  unfold Source.ofFile
  rw [h]
  cases contents <;> rfl

namespace SearchPlaces

variable {places : SearchPlaces} {files : FileView} {appName : Text}

theorem discover_of_first {before after : List Text} {path : Text} {contents : FileContents}
    (hcandidates : places.candidates appName = before ++ path :: after)
    (hbefore : ∀ other ∈ before, files other = none) (hfile : files path = some contents) :
    places.discover files appName = .ok path := by
  have hfound : (places.candidates appName).find? (fun path => (files path).isSome) =
      some path := by
    rw [hcandidates, List.find?_append, List.find?_eq_none.mpr, Option.none_or]
    · simp [hfile]
    · intro other hother
      simp [hbefore other hother]
  rw [discover, hfound]

theorem discover_of_none (hnone : ∀ path ∈ places.candidates appName, files path = none) :
    places.discover files appName =
      .error (.sourceNotDiscovered appName (places.candidates appName)) := by
  have hfound : (places.candidates appName).find? (fun path => (files path).isSome) = none := by
    rw [List.find?_eq_none]
    intro path hpath
    simp [hnone path hpath]
  rw [discover, hfound]

/-- The candidates have a first file, or none of them is one. -/
theorem exists_first_or_none (files : FileView) (paths : List Text) :
    (∃ before path after contents, paths = before ++ path :: after ∧
      (∀ other ∈ before, files other = none) ∧ files path = some contents) ∨
      ∀ path ∈ paths, files path = none := by
  induction paths with
  | nil => exact .inr (List.forall_mem_nil _)
  | cons first rest ih =>
      cases hfirst : files first with
      | some contents =>
          exact .inl ⟨[], first, rest, contents, rfl, List.forall_mem_nil _, hfirst⟩
      | none =>
          rcases ih with ⟨before, path, after, contents, rfl, hbefore, hfile⟩ | hnone
          · left
            exact ⟨first :: before, path, after, contents, rfl,
              List.forall_mem_cons.mpr ⟨hfirst, hbefore⟩, hfile⟩
          · right
            exact List.forall_mem_cons.mpr ⟨hfirst, hnone⟩

end SearchPlaces

namespace Loading

variable {l : Loading} {files : FileView} {given : Option Text} {result : Except Fault Source}

theorem exists_reads (l : Loading) (given : Option Text) (files : FileView) :
    ∃ result, l.Reads given files result := by
  cases htext : l.text with
  | some t => exact ⟨_, .text htext⟩
  | none =>
      cases hgiven : given with
      | some path =>
          cases hfile : files path with
          | some contents => exact ⟨_, .file htext rfl hfile⟩
          | none => exact ⟨_, .missing htext rfl hfile⟩
      | none =>
          rcases SearchPlaces.exists_first_or_none files
              (l.places.candidates l.schema.appName) with
            ⟨before, path, after, contents, hcandidates, hbefore, hfile⟩ | hnone
          · exact ⟨_, .discovered htext rfl hcandidates hbefore hfile⟩
          · exact ⟨_, .notDiscovered htext rfl hnone⟩

theorem source_of_reads (h : l.Reads given files result) :
    { l with path := given }.source files = result := by
  cases h with
  | text htext => simp [source, htext]
  | file htext hgiven hfile =>
      simp [source, find, htext, hgiven, hfile, Except.bind, Source.ofFile_of_contents hfile]
  | missing htext hgiven hfile => simp [source, find, htext, hgiven, hfile, Except.bind]
  | discovered htext hgiven hcandidates hbefore hfile =>
      have hfound := SearchPlaces.discover_of_first hcandidates hbefore hfile
      simp [source, find, htext, hgiven, hfound, Except.bind, Source.ofFile_of_contents hfile]
  | notDiscovered htext hgiven hnone =>
      simp [source, find, htext, hgiven, SearchPlaces.discover_of_none hnone, Except.bind]

theorem source_eq_iff : { l with path := given }.source files = result ↔
    l.Reads given files result := by
  constructor
  · rintro rfl
    obtain ⟨other, hother⟩ := l.exists_reads given files
    rwa [source_of_reads hother]
  · exact source_of_reads

end Loading

/-! ## Tasks that read a source -/

/-- What is asked of a source. -/
inductive Question where
  | valid
  | listing (json : Bool)
  | value (key : Text)

/-- A question, with the path and the environment that are given with it. -/
structure Inquiry where
  question : Question
  path : Option Text
  environment : Option Text

def Task.inquiry? : Task → Option Inquiry
  | .validate path environment => some ⟨.valid, path, environment⟩
  | .list path environment json => some ⟨.listing json, path, environment⟩
  | .get key path environment => some ⟨.value key, path, environment⟩
  | .find => none
  | .template .. => none

namespace Loading

def answer (l : Loading) (question : Question) (environment : Option Text) (source : Source) :
    Except Fault Outcome :=
  let name := (environment <|> l.environment).getD Environment.defaultName
  (l.schema.validate name source l.strict).bind fun settings =>
    match question with
    | .valid => .ok (.report (.valid source.path settings.environment))
    | .listing json =>
        .ok (.report (if json then .json settings.toJson.pretty else .listing settings.listing))
    | .value key => (l.schema.lookUp settings key).map .report

theorem perform_of_inquiry {l : Loading} {task : Task} {i : Inquiry} (h : task.inquiry? = some i)
    (files : FileView) : l.perform files task =
      ({ l with path := i.path <|> l.path }.source files).bind
        (l.answer i.question i.environment) := by
  have hsource : { l with path := i.path <|> l.path }.source files =
      (l.override i.path i.environment).source files := rfl
  have hvalidate : ∀ source, (l.override i.path i.environment).validate source =
      l.schema.validate ((i.environment <|> l.environment).getD Environment.defaultName) source
        l.strict := fun _ => rfl
  rw [hsource]
  cases task with
  | find => cases h
  | template output environment => cases h
  | validate path environment =>
      cases h
      rfl
  | list path environment json =>
      cases h
      simp only [perform, load]
      cases (l.override path environment).source files with
      | error fault => rfl
      | ok source =>
          simp only [Except.bind, hvalidate, answer]
          cases l.schema.validate _ source l.strict <;> rfl
  | get key path environment =>
      cases h
      simp only [perform, load]
      cases (l.override path environment).source files with
      | error fault => rfl
      | ok source => simp only [Except.bind, hvalidate, answer]

/-- What is read is the text, the path or the first candidate that is a file, in this order, and
nothing else of the files counts.  A path that a task gives stands for that of the loading. -/
theorem source_precedence (l : Loading) (files : FileView) :
    (∀ given result, { l with path := given }.source files = result ↔
      l.Reads given files result) ∧
    l.load files = (l.source files).bind l.validate ∧
    (∀ task i, task.inquiry? = some i → l.perform files task =
      ({ l with path := i.path <|> l.path }.source files).bind
        (l.answer i.question i.environment)) ∧
    (∀ t, l.text = some t → ∀ path places files',
      { l with path := path, places := places }.load files' =
        (Source.ofText t none).bind l.validate ∧
      ∀ task i, task.inquiry? = some i →
        { l with path := path, places := places }.perform files' task =
          (Source.ofText t none).bind (l.answer i.question i.environment)) ∧
    l.places.candidates l.schema.appName =
      (l.places.rows l.schema.appName).reduceOption.flatMap fun directory =>
        (SearchPlaces.fileNames l.schema.appName).map (Path.join directory) := by
  refine ⟨fun given result => source_eq_iff, rfl, fun task i h => perform_of_inquiry h files, ?_,
    l.places.candidates_eq l.schema.appName⟩
  intro t htext path places files'
  have hsource : ∀ given, { l with path := given, places := places }.source files' =
      Source.ofText t none := by
    intro given
    rw [source, htext]
  constructor
  · rw [load, hsource path]
    rfl
  · intro task i h
    rw [perform_of_inquiry h, hsource]
    rfl

/-- Two files that the search finds, one around the home directory and one that comes later. -/
def foundFiles : FileView := fun path =>
  if path = "/root/.config/app.config" then some (.text "[main]\nhost = h")
  else if path = "/etc/app.cfg" then some .undecodable
  else none

theorem source_precedence_home :
    ∃ source, (Loading.ofSchema serverSchema (.ofVariables (some "/root") none none)).source
        foundFiles = .ok source ∧
      source.path = some "/root/.config/app.config" ∧
      source.get? "main" "host" = some ⟨"host", "h", 2⟩ := by
  let l := Loading.ofSchema serverSchema (.ofVariables (some "/root") none none)
  obtain ⟨source, hsource, hpath, hhost⟩ : ∃ source,
      Source.ofText "[main]\nhost = h" (some "/root/.config/app.config") = .ok source ∧
        source.path = some "/root/.config/app.config" ∧
        source.get? "main" "host" = some ⟨"host", "h", 2⟩ := ⟨_, rfl, rfl, by decide⟩
  let earlier : List Text := ["./app.cfg", "./app.config", "./app.conf", "/root/app.cfg",
    "/root/app.config", "/root/app.conf", "/root/.config/app.cfg"]
  have hcandidates : l.places.candidates l.schema.appName =
      earlier ++ "/root/.config/app.config".toList ::
        (l.places.candidates l.schema.appName).drop 8 := rfl
  have hearlier : ∀ other ∈ earlier, foundFiles other = none := by decide
  have hfile : foundFiles "/root/.config/app.config" = some (.text "[main]\nhost = h") := by
    decide
  refine ⟨source, ?_, hpath, hhost⟩
  rw [← hsource]
  exact ((source_precedence l foundFiles).1 none _).mpr
    (.discovered rfl rfl hcandidates hearlier hfile)

end Loading

end IniSchema
