import IniSchema.Proofs.Case
import IniSchema.Proofs.Source.Overlay
import IniSchema.Proofs.Validation

/-!
# Names in another case

The case of ASCII letters in headers and keys does not count.  Two texts that differ in nothing else
are read to sources that are equal once names and keys are written in lower case, or are refused for
the same line.  Validation does not see how a source spells its names.
-/

namespace IniSchema

/-! ## Names in lower case -/

def Entry.folded (e : Entry) : Entry := { e with key := e.key.asciiLower }

def SourceSection.folded (s : SourceSection) : SourceSection :=
  { s with name := s.name.asciiLower, entries := s.entries.map Entry.folded }

namespace Source

def folded (s : Source) : Source := { s with sections := s.sections.map SourceSection.folded }

theorem respelling_asciiLower : Respelling Text.asciiLower :=
  ⟨Name.key_asciiLower, Text.trim_asciiLower⟩

theorem folded_ensureSection (s : Source) (name : Text) (line : Nat) :
    (s.ensureSection name line).folded = s.folded.ensureSection name.asciiLower line :=
  respelling_asciiLower.relabel_ensureSection id s name line

theorem folded_put (s : Source) (name : Text) (sectionLine : Nat) (key value : Text) (line : Nat) :
    (s.put name sectionLine key value line).folded =
      s.folded.put name.asciiLower sectionLine key.asciiLower value line :=
  respelling_asciiLower.relabel_put id s name sectionLine key value line

theorem folded_appendLine (s : Source) (sectionKey entryKey text : Text) :
    (s.appendLine sectionKey entryKey text).folded =
      s.folded.appendLine sectionKey entryKey text :=
  relabel_appendLine Text.asciiLower id s sectionKey entryKey text

/-! ## Lines with names in another case -/

def isSeparator (c : Char) : Bool := c == '=' || c == ':'

/-- The second line is the first with letters of its name or key in another case, where the mark
says what the first one is. -/
inductive Mark.Recased : Mark → Text → Text → Prop where
  | same (mark : Mark) (raw : Text) : Recased mark raw raw
  | header {raw raw' : Text} (h : Header) (hletters : raw'.asciiLower = raw.asciiLower) :
      Recased (.header h) raw raw'
  | opening {key key' : Text} {separator : Char} (o : Opening) (rest : Text)
      (hseparator : isSeparator separator = true) (hkey : ∀ c ∈ key, isSeparator c = false)
      (hletters : key'.asciiLower = key.asciiLower) :
      Recased (.opening o) (key ++ separator :: rest) (key' ++ separator :: rest)

/-- The same numbered lines after the marks, but for the case of names and keys. -/
inductive RecasedLines : List Mark → List (Text × Nat) → List (Text × Nat) → Prop where
  | nil (before : List Mark) : RecasedLines before [] []
  | cons {before : List Mark} {raw raw' : Text} {number : Nat} {lines lines' : List (Text × Nat)}
      (hline : (Mark.classify before number raw).Recased raw raw')
      (hlines : RecasedLines (before ++ [Mark.classify before number raw]) lines lines') :
      RecasedLines before ((raw, number) :: lines) ((raw', number) :: lines')

/-- The same text, but for the case of ASCII letters in headers and keys. -/
def Recased (t t' : Text) : Prop := RecasedLines [] (t.lines.zipIdx 1) (t'.lines.zipIdx 1)

theorem Mark.Recased.letters {mark : Mark} {raw raw' : Text} (h : mark.Recased raw raw') :
    raw'.asciiLower = raw.asciiLower := by
  cases h with
  | same => rfl
  | header h hletters => exact hletters
  | opening o rest hseparator hkey hletters =>
      unfold Text.asciiLower at hletters ⊢
      rw [List.map_append, List.map_append, hletters]

theorem isIgnored_asciiLower (t : Text) : isIgnored t.asciiLower = isIgnored t := by
  have hcomment : ∀ c : Char, (c.toLower == '#' || c.toLower == ';') = (c == '#' || c == ';') :=
    Unicode.eq_of_toLower (f := fun c => c == '#' || c == ';') (by decide)
  cases t with
  | nil => rfl
  | cons c rest => simpa [isIgnored, Text.asciiLower] using hcomment c

theorem indentation_asciiLower (t : Text) : indentation t.asciiLower = indentation t := by
  have hblank : Unicode.isBlank ∘ Char.toLower = Unicode.isBlank :=
    funext Unicode.isBlank_toLower
  rw [indentation, Text.asciiLower, List.takeWhile_map, hblank]
  exact Text.byteLength_asciiLower _

theorem between?_brackets_asciiLower (t : Text) :
    t.asciiLower.between? '[' ']' = (t.between? '[' ']').map Text.asciiLower :=
  Text.between?_asciiLower (Unicode.toLower_eq_iff (by decide))
    (Unicode.toLower_eq_iff (by decide)) t

theorem isSeparator_toLower (c : Char) : isSeparator c.toLower = isSeparator c :=
  Unicode.eq_of_toLower (by decide) c

/-! ## What a line says -/

def Line.folded : Line → Line
  | .header name => .header name.asciiLower
  | .entry key value => .entry key.asciiLower value

/-- The name between the brackets, in lower case. -/
private theorem Line.folded_ofText_of_between? {line inner : Text}
    (h : line.between? '[' ']' = some inner) : (Line.ofText line).map folded =
      if inner.asciiLower.trim = [] then .error .emptyHeader
      else .ok (.header inner.asciiLower.trim) := by
  have hempty : inner.asciiLower.trim = [] ↔ inner.trim = [] := by
    rw [Text.trim_asciiLower, Text.asciiLower, List.map_eq_nil_iff]
  unfold Line.ofText
  simp only [h, List.isEmpty_iff, hempty]
  split
  · rfl
  · rw [Text.trim_asciiLower]
    rfl

theorem Line.folded_ofText_header {line line' inner : Text}
    (hletters : line'.asciiLower = line.asciiLower) (h : line.between? '[' ']' = some inner) :
    (Line.ofText line').map folded = (Line.ofText line).map folded := by
  have hbetween := between?_brackets_asciiLower line'
  rw [hletters, between?_brackets_asciiLower, h] at hbetween
  obtain ⟨inner', h', hinner⟩ := Option.map_eq_some_iff.mp hbetween.symm
  rw [folded_ofText_of_between? h, folded_ofText_of_between? h', hinner]

theorem isBlank_of_isSeparator {c : Char} (h : isSeparator c = true) :
    Unicode.isBlank c = false := by
  simp only [isSeparator, Bool.or_eq_true, beq_iff_eq] at h
  rcases h with rfl | rfl
  · decide
  · decide

private theorem Line.folded_ofText_of_separator {separator : Char} {key rest : Text}
    (hseparator : isSeparator separator = true) (hkey : ∀ c ∈ key, isSeparator c = false)
    (h : Text.between? '[' ']' (Text.trim (key ++ separator :: rest)) = none) :
    (Line.ofText (Text.trim (key ++ separator :: rest))).map folded =
      if key.asciiLower.trimStart.trim = [] then .error .emptyKey
      else .ok (.entry key.asciiLower.trimStart.trim rest.trimEnd.trim) := by
  have hcut : (Text.trim (key ++ separator :: rest)).cut? isSeparator =
      some (key.trimStart, rest.trimEnd) :=
    Text.cut?_eq_some_iff.mpr ⟨separator,
      Text.trim_append_cons (isBlank_of_isSeparator hseparator) key rest, hseparator,
      fun c hc => hkey c (Text.mem_of_mem_trimStart hc)⟩
  have hempty : key.asciiLower.trimStart.trim = [] ↔ key.trimStart.trim = [] := by
    rw [Text.trimStart_asciiLower, Text.trim_asciiLower, Text.asciiLower, List.map_eq_nil_iff]
  unfold isSeparator at hcut
  unfold Line.ofText
  simp only [h, hcut, List.isEmpty_iff, hempty]
  split
  · rfl
  · rw [Text.trimStart_asciiLower, Text.trim_asciiLower]
    rfl

theorem Line.folded_ofText_opening {separator : Char} {key key' rest : Text}
    (hseparator : isSeparator separator = true) (hkey : ∀ c ∈ key, isSeparator c = false)
    (hletters : key'.asciiLower = key.asciiLower)
    (h : Text.between? '[' ']' (Text.trim (key ++ separator :: rest)) = none) :
    (Line.ofText (Text.trim (key' ++ separator :: rest))).map folded =
      (Line.ofText (Text.trim (key ++ separator :: rest))).map folded := by
  have hlower : Text.asciiLower (key' ++ separator :: rest) =
      Text.asciiLower (key ++ separator :: rest) := by
    unfold Text.asciiLower at hletters ⊢
    rw [List.map_append, List.map_append, hletters]
  have hkey' : ∀ c ∈ key', isSeparator c = false := by
    intro c hc
    have hmem : c.toLower ∈ key.asciiLower := hletters ▸ List.mem_map_of_mem hc
    obtain ⟨d, hd, heq⟩ := List.mem_map.mp hmem
    rw [← isSeparator_toLower, ← heq, isSeparator_toLower, hkey d hd]
  have h' : Text.between? '[' ']' (Text.trim (key' ++ separator :: rest)) = none := by
    have hbetween := between?_brackets_asciiLower (Text.trim (key' ++ separator :: rest))
    rw [Text.trim_asciiLower_congr hlower, between?_brackets_asciiLower, h] at hbetween
    exact Option.map_eq_none_iff.mp hbetween.symm
  rw [folded_ofText_of_separator hseparator hkey h, folded_ofText_of_separator hseparator hkey' h',
    hletters]

/-! ## Readers -/

namespace Reader

def folded (r : Reader) : Reader :=
  ⟨r.source.folded, r.openSection.map Text.asciiLower, r.openEntry⟩

/-- What a line that continues no value makes of a reader. -/
def read (r : Reader) (number indent : Nat) : Line → Except Offence Reader
  | .header name => .ok ⟨r.source.ensureSection name number, some name, none⟩
  | .entry key value =>
      match r.openSection with
      | none => .error .noHeader
      | some name =>
          .ok ⟨r.source.put name number key value number, some name,
            some ⟨Name.key name, Name.key key, indent⟩⟩

variable {r r' : Reader}

theorem readLine_eq (r : Reader) (number indent : Nat) (line : Text) :
    r.readLine number indent line = (Line.ofText line).bind (r.read number indent) := by
  unfold readLine
  cases Line.ofText line with
  | error offence => rfl
  | ok said => cases said <;> rfl

theorem folded_read (r : Reader) (number indent : Nat) (line : Line) :
    (r.read number indent line).map folded = r.folded.read number indent line.folded := by
  cases line with
  | header name => simp [read, folded, Line.folded, folded_ensureSection, Except.map]
  | entry key value =>
      cases hopen : r.openSection with
      | none => simp [read, folded, hopen, Line.folded, Except.map]
      | some name =>
          simp [read, folded, hopen, Line.folded, folded_put, Name.key_asciiLower, Except.map]

theorem folded_readLine (r : Reader) (number indent : Nat) (line : Text) :
    (r.readLine number indent line).map folded =
      ((Line.ofText line).map Line.folded).bind (r.folded.read number indent) := by
  rw [readLine_eq]
  cases Line.ofText line with
  | error offence => rfl
  | ok said => exact folded_read r number indent said

end Reader

section Readers

variable {r r' : Reader} {marks : List Mark}

/-- A line says the same in another case. -/
theorem Mark.Recased.folded_ofText {number indent : Nat} {raw raw' : Text}
    (h : (Mark.ofLine number indent raw.trim).Recased raw raw') :
    (Line.ofText raw'.trim).map Line.folded = (Line.ofText raw.trim).map Line.folded := by
  have hletters := Text.trim_asciiLower_congr h.letters
  cases hbetween : raw.trim.between? '[' ']' with
  | some inner => exact Line.folded_ofText_header hletters hbetween
  | none =>
      generalize hmark : Mark.ofLine number indent raw.trim = mark at h
      cases h with
      | same => rfl
      | header h =>
          unfold Mark.ofLine at hmark
          rw [hbetween] at hmark
          split at hmark
          · rename_i heq
            cases heq
          · split at hmark
            · cases hmark
            · cases hmark
      | opening o rest hseparator hkey hkeyLetters =>
          exact Line.folded_ofText_opening hseparator hkey hkeyLetters hbetween

theorem Reader.folded_eq_iff : r'.folded = r.folded ↔ r'.source.folded = r.source.folded ∧
    r'.openSection.map Text.asciiLower = r.openSection.map Text.asciiLower ∧
      r'.openEntry = r.openEntry := by
  simp [folded]

theorem Reader.folded_step (htracks : Tracks r marks) (hr : r'.folded = r.folded) {number : Nat}
    {raw raw' : Text} (h : (Mark.classify marks number raw).Recased raw raw') :
    (r'.step number raw').map folded = (r.step number raw).map folded := by
  obtain ⟨hsource, hsection, hentry⟩ := folded_eq_iff.mp hr
  have hignored : isIgnored raw'.trim = isIgnored raw.trim := by
    rw [← isIgnored_asciiLower, Text.trim_asciiLower_congr h.letters, isIgnored_asciiLower]
  have hindent : indentation raw' = indentation raw := by
    rw [← indentation_asciiLower, h.letters, indentation_asciiLower]
  have hcontinued : r'.continued? (indentation raw') = r.continued? (indentation raw) := by
    rw [hindent, continued?, continued?, hentry]
  -- The mark is chosen by what the reader has open, as the step is.
  unfold Mark.classify at h
  rw [← htracks.isSome_continued?] at h
  simp only [step, hignored, hcontinued]
  by_cases hskip : isIgnored raw.trim = true
  · simpa [hskip, Except.map] using hr
  · simp only [hskip, Bool.false_eq_true, if_false] at h ⊢
    cases hopen : r.continued? (indentation raw) with
    | some e =>
        simp only [hopen, Option.isSome_some, if_true] at h
        cases h
        simp [Except.map, folded, folded_appendLine, hsource, hsection, hentry]
    | none =>
        simp only [hopen, Option.isSome_none, Bool.false_eq_true, if_false] at h
        simp only [folded_readLine, hr, hindent, h.folded_ofText]

theorem Reader.folded_readLines {lines lines' : List (Text × Nat)} (htracks : Tracks r marks)
    (hr : r'.folded = r.folded) (h : RecasedLines marks lines lines') :
    (r'.readLines lines').map folded = (r.readLines lines).map folded := by
  induction h generalizing r r' with
  | nil before => simpa [readLines, Except.map] using hr
  | @cons before raw raw' number lines lines' hline _ ih =>
      rw [readLines, readLines]
      rcases Run.map_eq_map_iff.mp (folded_step htracks hr hline) with
        ⟨offence, hstep, hstep'⟩ | ⟨next, next', hstep, hstep', hnext⟩
      · rw [hstep, hstep']
      · rw [hstep, hstep']
        exact ih (htracks.step hstep) hnext

end Readers

/-! ## Texts -/

theorem Recased.folded_ofText {t t' : Text} (h : Recased t t') (path : Option Text) :
    (Source.ofText t' path).map folded = (Source.ofText t path).map folded := by
  have hread := Reader.folded_readLines (Tracks.start path) rfl h
  unfold Source.ofText
  rcases Run.map_eq_map_iff.mp hread with
    ⟨stopped, hstopped, hstopped'⟩ | ⟨r, r', hr, hr', hfolded⟩
  · rw [hstopped, hstopped']
  · rw [hr, hr']
    exact congrArg Except.ok (Reader.folded_eq_iff.mp hfolded).1

theorem section?_folded (s : Source) (name : Text) :
    s.folded.section? name = (s.section? name).map SourceSection.folded :=
  OrderedMap.get?_map ..

end Source

theorem SourceSection.get?_folded (s : SourceSection) (key : Text) :
    s.folded.get? key = (s.get? key).map Entry.folded :=
  OrderedMap.get?_map ..

/-! ## Validation -/

theorem Variable.setting_folded (v : Variable) (sectionName : Text) (entry : Option Entry) :
    v.setting sectionName (entry.map Entry.folded) = v.setting sectionName entry := by
  cases entry with
  | none => rfl
  | some e => rfl

theorem Section.settings_folded (s : Section) (source : Source) :
    s.settings source.folded = s.settings source := by
  have hentry : ∀ v : Variable,
      ((source.section? s.name).map SourceSection.folded).bind (·.get? v.ident) =
        ((source.section? s.name).bind (·.get? v.ident)).map Entry.folded := by
    intro v
    cases source.section? s.name with
    | none => rfl
    | some found => exact found.get?_folded v.ident
  unfold settings
  simp only [Source.section?_folded, Option.isNone_map, hentry, Variable.setting_folded]

theorem Environment.settings_folded (e : Environment) (source : Source) :
    e.settings source.folded = e.settings source := by
  simp only [settings, Section.settings_folded]

theorem Environment.settings_of_folded_eq {source source' : Source}
    (h : source'.folded = source.folded) (e : Environment) :
    e.settings source' = e.settings source := by
  rw [← e.settings_folded source', h, e.settings_folded]

/-- Look-ups of names that only differ in case and white space around them agree. -/
structure Settings.IgnoresCase (settings : Settings) : Prop where
  sections : ∀ name other, Name.Alike name other →
    settings.section? other = settings.section? name
  contains : ∀ name other, Name.Alike name other →
    settings.contains other = settings.contains name
  values : ∀ name other ident ident', Name.Alike name other → Name.Alike ident ident' →
    settings.value? other ident' = settings.value? name ident
  in_section : ∀ found ∈ settings.sections.values, ∀ ident ident', Name.Alike ident ident' →
    found.value? ident' = found.value? ident ∧ found.nameOf? ident' = found.nameOf? ident ∧
      found.contains ident' = found.contains ident

theorem SectionSettings.setting?_of_alike (found : SectionSettings) {ident ident' : Text}
    (h : Name.Alike ident ident') : found.setting? ident' = found.setting? ident := by
  rw [setting?, setting?, h.key_eq]

theorem Settings.ignoresCase (settings : Settings) : settings.IgnoresCase := by
  have hsection : ∀ name other, Name.Alike name other →
      settings.section? other = settings.section? name := by
    intro name other h
    rw [section?, section?, h.key_eq]
  constructor
  · exact hsection
  · intro name other h
    rw [contains, contains, hsection name other h]
  · intro name other ident ident' h hident
    simp only [value?, SectionSettings.value?, hsection name other h,
      SectionSettings.setting?_of_alike _ hident]
  · intro found _ ident ident' hident
    simp only [SectionSettings.value?, SectionSettings.nameOf?, SectionSettings.contains,
      found.setting?_of_alike hident, and_self]

namespace Schema

theorem validate_of_folded_eq (s : Schema) {source source' : Source}
    (h : source'.folded = source.folded) {name name' : Text} (hname : Name.Alike name name') :
    s.validate name' source' false = s.validate name source false ∨
      s.validate name source false = .error (.undefinedEnvironment name s.environmentNames) ∧
        s.validate name' source' false =
          .error (.undefinedEnvironment name' s.environmentNames) := by
  have hsame : s.environment? name' = s.environment? name := by
    rw [environment?, environment?, hname.key_eq]
  unfold validate environment
  rw [hsame]
  cases s.environment? name with
  | some e =>
      left
      exact e.settings_of_folded_eq h
  | none =>
      right
      exact ⟨rfl, rfl⟩

/-- The case of ASCII letters in names does not count, from the text of a source to what is looked
up in its settings. -/
theorem validate_recased (s : Schema) {t t' : Text} (h : Source.Recased t t')
    (path : Option Text) :
    ((∃ fault, Source.ofText t path = .error fault ∧ Source.ofText t' path = .error fault) ∨
      ∃ source source', Source.ofText t path = .ok source ∧ Source.ofText t' path = .ok source' ∧
        ∀ name name', Name.Alike name name' →
          s.validate name' source' false = s.validate name source false ∨
            s.validate name source false =
              .error (.undefinedEnvironment name s.environmentNames) ∧
            s.validate name' source' false =
              .error (.undefinedEnvironment name' s.environmentNames)) ∧
    ∀ settings : Settings, settings.IgnoresCase := by
  refine ⟨?_, Settings.ignoresCase⟩
  rcases Run.map_eq_map_iff.mp (h.folded_ofText path) with
    hfault | ⟨source, source', hsource, hsource', hfolded⟩
  · exact .inl hfault
  · right
    exact ⟨source, source', hsource, hsource', fun name name' hname =>
      s.validate_of_folded_eq hfolded hname⟩

theorem validate_recased_server :
    ∃ source source', Source.ofText "[Main]\nHost = H" none = .ok source ∧
      Source.ofText "[mAIN]\nhOST = H" none = .ok source' ∧
      serverSchema.validate " DEFAULT " source' false =
        serverSchema.validate "default" source false := by
  have hheader : (Source.Mark.header ⟨"Main", 1⟩).Recased "[Main]" "[mAIN]" :=
    .header _ (by decide)
  have hopening : (Source.Mark.opening ⟨"Host", "H", 2, 0⟩).Recased
      ("Host ".toList ++ '=' :: " H".toList) ("hOST ".toList ++ '=' :: " H".toList) :=
    .opening _ _ rfl (by simp [Source.isSeparator]) (by decide)
  have hrecased : Source.Recased "[Main]\nHost = H" "[mAIN]\nhOST = H" :=
    .cons hheader (.cons hopening (.nil _))
  have hname : Name.Alike "default" " DEFAULT " := by
    unfold Name.Alike
    decide
  obtain ⟨source, hsource, hvalid⟩ : ∃ source, Source.ofText "[Main]\nHost = H" none = .ok source ∧
      (serverSchema.validate "default" source false).isOk = true := ⟨_, rfl, by decide⟩
  rcases (validate_recased serverSchema hrecased none).1 with
    ⟨fault, hfault, -⟩ | ⟨found, source', hfound, hsource', hvalidate⟩
  · rw [hsource] at hfault
    cases hfault
  · obtain rfl : source = found := Except.ok.inj (hsource.symm.trans hfound)
    rcases hvalidate "default" " DEFAULT " hname with hsame | ⟨hundefined, -⟩
    · exact ⟨source, source', hsource, hsource', hsame⟩
    · rw [hundefined] at hvalid
      cases hvalid

end Schema

end IniSchema
