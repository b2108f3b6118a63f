import IniSchema.Proofs.Source.Lines
import IniSchema.Proofs.Validation
import IniSchema.Template

/-!
# Templates read back

The template of an environment is a source text that has the environment's sections with an entry
for each default, which is read as the default.  Validation with it gives what validation with
nothing gives, unless a variable is required.
-/

namespace IniSchema

open Source

/-! ## Lines of a template -/

/-- A line that is read by itself, and not changed by reading. -/
def Plain (line : Text) : Prop := '\n' ∉ line ∧ Text.IsTrimmed line

private theorem plain_between {first last : Char} {inner : Text} (hinner : '\n' ∉ inner)
    (hfirst : Unicode.isBlank first = false) (hlast : Unicode.isBlank last = false) :
    Plain (first :: inner ++ [last]) := by
  refine ⟨?_, Text.isTrimmed_between inner hfirst hlast⟩
  have hnewline : Unicode.isBlank '\n' = true := Unicode.isBlank_newline
  intro hmem
  simp only [List.cons_append, List.mem_cons, List.mem_append, List.not_mem_nil, or_false] at hmem
  rcases hmem with rfl | hmem | rfl
  · simp [hnewline] at hfirst
  · exact hinner hmem
  · simp [hnewline] at hlast

def Comment (line : Text) : Prop :=
  ∃ inner last, line = '#' :: inner ++ [last] ∧ '\n' ∉ inner ∧ Unicode.isBlank last = false

theorem Comment.plain {line : Text} (h : Comment line) : Plain line := by
  obtain ⟨inner, last, rfl, hinner, hlast⟩ := h
  exact plain_between hinner (by decide) hlast

theorem Comment.isIgnored {line : Text} (h : Comment line) : isIgnored line = true := by
  obtain ⟨inner, last, rfl, -, -⟩ := h
  simp [Source.isIgnored]

namespace Variable

variable {v : Variable}

theorem exists_default (v : Variable) (h : v.isRequired = false) :
    ∃ value, v.default = some value :=
  Option.isSome_iff_exists.mp (Option.isNone_eq_false_iff.mp h)

private theorem newline_notMem_templateNote : '\n' ∉ v.templateNote := by
  unfold templateNote
  split
  · cases v.type <;> decide
  · cases v.type <;> decide

theorem comment_templateComment (hsound : v.Sound) : Comment v.templateComment := by
  have hnote := newline_notMem_templateNote (v := v)
  have hdescription := hsound.description_line
  unfold templateComment
  split
  · exact ⟨" (" ++ v.templateNote, ')', by simp, by simp [hnote], by decide⟩
  · exact ⟨" " ++ v.description ++ " (" ++ v.templateNote, ')', by simp,
      by simp [hnote, hdescription], by decide⟩

theorem comment_templateEntry (hsound : v.Sound) (hv : v.default = none) :
    Comment v.templateEntry := by
  have hident := hsound.ident_line
  rw [templateEntry, hv]
  exact ⟨" " ++ v.ident ++ " ", '=', by simp, by simp [hident], by decide⟩

theorem templateEntry_eq {value : Value} (hv : v.default = some value) :
    v.templateEntry = v.ident ++ " = " ++ value.display := by
  rw [templateEntry, hv]

theorem plain_templateEntry (hsound : v.Sound) : Plain v.templateEntry := by
  cases hv : v.default with
  | none => exact (comment_templateEntry hsound hv).plain
  | some value =>
      have htype := hsound.default_hasType value hv
      obtain ⟨htrimmed, hne⟩ := Value.isTrimmed_display htype
      rw [templateEntry_eq hv]
      constructor
      · have hident := hsound.ident_line
        have hdisplay : '\n' ∉ value.display := by
          apply Value.newline_notMem_display htype
          rintro s rfl
          exact hsound.default_line s hv
        simp [hident, hdisplay]
      · exact (Reader.isKey_of_isWord hsound.ident_ne_nil hsound.ident_isWord).isTrimmed_entry
          htrimmed hne

end Variable

theorem Section.plain_templateLines {s : Section} (hsound : s.Sound) :
    ∀ line ∈ s.templateLines, Plain line := by
  intro line hline
  simp only [templateLines, List.mem_append, List.mem_cons, List.not_mem_nil, or_false,
    List.mem_flatMap] at hline
  rcases hline with (rfl | rfl) | ⟨v, hv, rfl | rfl⟩
  · exact ⟨List.not_mem_nil, Text.isTrimmed_of_forall (by simp)⟩
  · exact plain_between hsound.name_line (by decide) (by decide)
  · exact (Variable.comment_templateComment (hsound.declared v hv)).plain
  · exact Variable.plain_templateEntry (hsound.declared v hv)

namespace Environment

variable {e : Environment} {appName : Text}

theorem comment_title (hsound : e.Sound) (happName : '\n' ∉ appName) :
    Comment ("# " ++ appName ++ " configuration (" ++ e.name ++ " environment)") := by
  have hname := hsound.name_line
  exact ⟨" " ++ appName ++ " configuration (" ++ e.name ++ " environment", ')', by simp,
    by simp [hname, happName], by decide⟩

theorem plain_templateLines (hsound : e.Sound) (happName : '\n' ∉ appName) :
    ∀ line ∈ e.templateLines appName, Plain line := by
  intro line hline
  rcases List.mem_cons.mp hline with rfl | hline
  · exact (comment_title hsound happName).plain
  · obtain ⟨s, hs, hline⟩ := List.mem_flatMap.mp hline
    exact Section.plain_templateLines (hsound.sections s hs) line hline

theorem lines_unlines_templateLines (hsound : e.Sound) (happName : '\n' ∉ appName) :
    Text.lines (Text.unlines (e.templateLines appName)) = e.templateLines appName := by
  have hplain := plain_templateLines hsound happName
  apply Text.lines_unlines
  · exact fun line hline => (hplain line hline).1
  · intro line hline hlast
    exact absurd ((hplain line hline).2.2 _ hlast) (by decide)

end Environment

/-! ## Sources with some sections written -/

/-- An entry with a text of the variable's default. -/
def Variable.WrittenAs (v : Variable) (e : Entry) : Prop :=
  e.key = v.ident ∧ ∃ value, v.default = some value ∧ v.type.read e.value = .ok value

def defaulted (vs : List Variable) : List Variable := vs.filter (·.default.isSome)

/-- The source has these sections, each with entries for these of its variables. -/
def Source.Holds (source : Source) (sections : List (Section × List Variable)) : Prop :=
  source.sections.Lists
    (fun found block => found.name = block.1.name ∧
      found.entries.Lists (fun e v => v.WrittenAs e) Variable.ident (defaulted block.2))
    (fun block => block.1.name) sections

namespace Source.Holds

variable {source : Source} {sections : List (Section × List Variable)} {s : Section}
  {vs : List Variable} {v : Variable}

theorem header (h : source.Holds sections) (htrimmed : Text.IsTrimmed s.name)
    (hnew : Name.key s.name ∉ sections.map fun block => Name.key block.1.name) (number : Nat) :
    (source.ensureSection s.name number).Holds (sections ++ [(s, [])]) := by
  have hkeys : Name.key s.name ∉ source.sections.keys := by rwa [OrderedMap.Lists.keys_eq h]
  have hcontains : ¬ source.sections.contains (Name.key s.name) = true := by
    rwa [OrderedMap.contains_iff]
  unfold Holds
  rw [ensureSection, if_neg hcontains]
  exact OrderedMap.Lists.insert h (s, []) hkeys ⟨Text.trim_eq_self_iff.mpr htrimmed, .empty⟩

theorem required (h : source.Holds (sections ++ [(s, vs)])) (hv : v.default = none) :
    source.Holds (sections ++ [(s, vs ++ [v])]) := by
  have hsame : defaulted (vs ++ [v]) = defaulted vs := by simp [defaulted, hv]
  apply OrderedMap.Lists.replace_last h (s, vs ++ [v]) rfl
  rintro found ⟨hname, hentries⟩
  refine ⟨hname, ?_⟩
  rwa [hsame]

theorem entry (h : source.Holds (sections ++ [(s, vs)])) (hsound : v.Sound) {value : Value}
    (hv : v.default = some value)
    (hnew : Name.key v.ident ∉ vs.map fun w => Name.key w.ident) (number : Nat) :
    (source.put s.name number v.ident value.display number).Holds
      (sections ++ [(s, vs ++ [v])]) := by
  have hsome : defaulted (vs ++ [v]) = defaulted vs ++ [v] := by simp [defaulted, hv]
  have hmem : Name.key s.name ∈ source.sections.keys := by
    rw [OrderedMap.Lists.keys_eq h]
    simp
  have hident : Text.trim v.ident = v.ident :=
    Text.trim_eq_self_iff.mpr (Text.isTrimmed_of_forall fun c hc =>
      Unicode.isBlank_of_isWord (hsound.ident_isWord c hc))
  unfold Holds
  -- The section is there already, so the entry goes to the end of what it holds.
  rw [put, ensureSection, if_pos (OrderedMap.contains_iff.mpr hmem)]
  apply OrderedMap.Lists.modify h (s, vs ++ [v]) rfl
  rintro found ⟨hname, hentries⟩
  refine ⟨hname, ?_⟩
  rw [hsome]
  apply hentries.insert v
  · rw [hentries.keys_eq]
    intro hkey
    obtain ⟨w, hw, heq⟩ := List.mem_map.mp hkey
    exact hnew (List.mem_map.mpr ⟨w, (List.mem_filter.mp hw).1, heq⟩)
  · exact ⟨hident, value, hv, Value.read_display (hsound.default_hasType value hv)⟩

end Source.Holds

/-! ## Reading a template -/

namespace Source.Reader

variable {r : Reader} {s : Section} {sections : List (Section × List Variable)}
  {vs : List Variable} {P : Reader → Prop}

theorem Reaches.comment {line : Text} {lines : List Text} (hline : Comment line)
    (h : r.Reaches lines P) : r.Reaches (line :: lines) P :=
  .cons fun number => ⟨r, step_ignored hline.plain.2 hline.isIgnored number, h⟩

/-- The reader is in a section that has been written up to some variable. -/
def In (s : Section) (sections : List (Section × List Variable)) (vs : List Variable)
    (r : Reader) : Prop :=
  r.openSection = some s.name ∧ r.source.Holds (sections ++ [(s, vs)])

theorem reaches_variable (h : In s sections vs r) {v : Variable} (hsound : v.Sound)
    (hnew : Name.key v.ident ∉ vs.map fun w => Name.key w.ident) :
    r.Reaches [v.templateComment, v.templateEntry] (In s sections (vs ++ [v])) := by
  obtain ⟨hopen, hholds⟩ := h
  apply Reaches.comment (Variable.comment_templateComment hsound)
  cases hv : v.default with
  | none =>
      apply Reaches.comment (Variable.comment_templateEntry hsound hv)
      exact .nil ⟨hopen, hholds.required hv⟩
  | some value =>
      have hkey := isKey_of_isWord hsound.ident_ne_nil hsound.ident_isWord
      obtain ⟨htrimmed, -⟩ := Value.isTrimmed_display (hsound.default_hasType value hv)
      rw [Variable.templateEntry_eq hv]
      apply Reaches.cons
      intro number
      exact ⟨_, hkey.step_entry htrimmed hopen number,
        .nil ⟨rfl, hholds.entry hsound hv hnew number⟩⟩

theorem reaches_section (hsound : s.Sound) (htrimmed : Text.IsTrimmed s.name) (hne : s.name ≠ [])
    (h : r.source.Holds sections)
    (hnew : Name.key s.name ∉ sections.map fun block => Name.key block.1.name) :
    r.Reaches s.templateLines (In s sections s.declared.values) := by
  unfold Section.templateLines
  have hblank : Text.IsTrimmed [] := Text.isTrimmed_of_forall (by simp)
  refine .cons fun number => ⟨r, step_ignored hblank rfl number, ?_⟩
  refine .cons fun number => ⟨_, step_header htrimmed hne number, ?_⟩
  apply Reaches.flatMap (In s sections) ⟨rfl, h.header htrimmed hnew number⟩
  intro before v after hvalues r' h'
  have hv : v ∈ s.declared.values := by simp [hvalues]
  exact reaches_variable h' (hsound.declared v hv) (hsound.keyed.notMem_before hvalues)

def whole (s : Section) : Section × List Variable := (s, s.declared.values)

theorem reaches_sections {e : Environment} (hsound : e.Sound)
    (hnames : ∀ s ∈ e.sections.values, ∃ c ∈ s.name, Unicode.isBlank c = false)
    (hblank : r.source.Holds []) :
    r.Reaches (e.sections.values.flatMap Section.templateLines)
      fun r' => r'.source.Holds (e.sections.values.map whole) := by
  apply Reaches.flatMap (fun before r' => r'.source.Holds (before.map whole)) hblank
  intro before s after hvalues r' h
  have hs : s ∈ e.sections.values := by simp [hvalues]
  have hname := hnames s hs
  have hne : s.name ≠ [] := by
    rintro hnil
    simp [hnil] at hname
  have hnew : Name.key s.name ∉ (before.map whole).map fun block => Name.key block.1.name := by
    simpa [whole, Function.comp_def] using hsound.keyed.notMem_before hvalues
  have htrimmed := (hsound.sections s hs).name_trimmed hname
  apply (reaches_section (hsound.sections s hs) htrimmed hne h hnew).imp
  rintro r'' ⟨-, h'⟩
  simpa [whole] using h'

end Source.Reader

/-- The sections of the environment, each with an entry for each of its defaults. -/
def Source.Writes (source : Source) (e : Environment) : Prop :=
  source.sections.Lists
    (fun found s => found.name = s.name ∧
      found.entries.Lists (fun e v => v.WrittenAs e) Variable.ident (defaulted s.declared.values))
    Section.name e.sections.values

theorem Source.exists_ofText_template {e : Environment} (hsound : e.Sound) {appName : Text}
    (happName : '\n' ∉ appName)
    (hnames : ∀ s ∈ e.sections.values, ∃ c ∈ s.name, Unicode.isBlank c = false)
    (path : Option Text) :
    ∃ source, Source.ofText (Text.unlines (e.templateLines appName)) path = .ok source ∧
      source.Writes e := by
  have hreaches : (Reader.start path).Reaches (e.templateLines appName)
      fun r => r.source.Holds (e.sections.values.map Reader.whole) := by
    apply Reader.Reaches.comment (Environment.comment_title hsound happName)
    exact Reader.reaches_sections hsound hnames .empty
  obtain ⟨r, hread, hholds⟩ := hreaches ((e.templateLines appName).zipIdx 1) (by simp)
  refine ⟨r.source, ?_, ?_⟩
  · rw [ofText, Environment.lines_unlines_templateLines hsound happName, hread]
  · unfold Holds OrderedMap.Lists at hholds
    rw [List.forall₂_map_right_iff] at hholds
    exact hholds

/-! ## Validation with a template -/

namespace Source.Writes

variable {source : Source} {e : Environment} {s : Section} {v : Variable}

theorem exists_section (h : source.Writes e) (hs : s ∈ e.sections.values) :
    ∃ found, source.section? s.name = some found ∧ found.name = s.name ∧
      found.entries.Lists (fun e v => v.WrittenAs e) Variable.ident
        (defaulted s.declared.values) :=
  OrderedMap.Lists.get?_of_mem h hs

theorem get?_of_required (h : source.Writes e) (hsound : e.Sound) (hs : s ∈ e.sections.values)
    (hv : v ∈ s.declared.values) (hdefault : v.default = none) :
    source.get? s.name v.ident = none := by
  obtain ⟨found, hfound, -, hentries⟩ := h.exists_section hs
  rw [get?, hfound]
  refine OrderedMap.get?_eq_none_iff.mpr ?_
  rw [hentries.keys_eq]
  intro hmem
  obtain ⟨w, hw, hkey⟩ := List.mem_map.mp hmem
  obtain ⟨hw, hsome⟩ := List.mem_filter.mp hw
  have hsame := (hsound.sections s hs).keyed.eq_of_key_eq hw hv hkey
  simp [hsame, hdefault] at hsome

theorem exists_entry (h : source.Writes e) (hs : s ∈ e.sections.values)
    (hv : v ∈ s.declared.values) {value : Value} (hdefault : v.default = some value) :
    ∃ entry, source.get? s.name v.ident = some entry ∧ v.type.read entry.value = .ok value := by
  obtain ⟨found, hfound, -, hentries⟩ := h.exists_section hs
  have hmem : v ∈ defaulted s.declared.values := by simp [defaulted, hv, hdefault]
  obtain ⟨entry, hentry, -, written, hwritten, hread⟩ := hentries.get?_of_mem hmem
  obtain rfl : value = written := Option.some.inj (hdefault.symm.trans hwritten)
  refine ⟨entry, ?_, hread⟩
  rw [get?, hfound]
  exact hentry

theorem takes_iff (h : source.Writes e) (hsound : e.Sound) (hs : s ∈ e.sections.values)
    (hv : v ∈ s.declared.values) (value : Value) :
    v.Takes (source.get? s.name v.ident) value ↔ v.default = some value := by
  cases hdefault : v.default with
  | none =>
      rw [h.get?_of_required hsound hs hv hdefault]
      simp [Variable.Takes, hdefault]
  | some default =>
      obtain ⟨entry, hentry, hread⟩ := h.exists_entry hs hv hdefault
      rw [hentry, Variable.Takes, hread]
      simp

theorem takes_blank_iff (path : Option Text) (s : Section) (v : Variable) (value : Value) :
    v.Takes ((Source.blank path).get? s.name v.ident) value ↔ v.default = some value :=
  Iff.rfl

theorem undeclared_eq_nil (h : source.Writes e) (hsound : e.Sound) : e.undeclared source = [] := by
  unfold Environment.undeclared
  rw [List.flatMap_eq_nil_iff]
  intro found hfound
  obtain ⟨s, hs, hname, hentries⟩ := OrderedMap.Lists.exists_of_mem_values h hfound
  have hsection : e.section? found.name = some s := by
    rw [hname]
    exact hsound.keyed.get?_name hs
  rw [hsection]
  unfold Section.undeclared
  rw [List.map_eq_nil_iff, List.filter_eq_nil_iff]
  intro entry hentry
  obtain ⟨v, hv, hkey, -⟩ := hentries.exists_of_mem_values hentry
  have hvariable : s.get? entry.key = some v := by
    rw [hkey]
    exact (hsound.sections s hs).keyed.get?_name (List.mem_filter.mp hv).1
  simp [hvariable]

theorem validate_eq (h : source.Writes e) (hsound : e.Sound) (strict : Bool) :
    e.validate source strict = e.settings source := by
  simp [Environment.validate, h.undeclared_eq_nil hsound]

theorem fills_iff (h : source.Writes e) (hsound : e.Sound) (path : Option Text) (t : Settings) :
    t.Fills e source ↔ t.Fills e (.blank path) := by
  constructor
  · intro ht
    refine ht.of_takes fun s hs v hv value htakes => ?_
    exact (takes_blank_iff path s v value).mpr ((h.takes_iff hsound hs hv value).mp htakes)
  · intro ht
    refine ht.of_takes fun s hs v hv value htakes => ?_
    exact (h.takes_iff hsound hs hv value).mpr ((takes_blank_iff path s v value).mp htakes)

theorem settings_eq_ok_iff (h : source.Writes e) (hsound : e.Sound) (path : Option Text)
    (t : Settings) : e.settings source = .ok t ↔ e.settings (.blank path) = .ok t := by
  rw [Environment.settings_ok_iff hsound, Environment.settings_ok_iff hsound]
  exact h.fills_iff hsound path t

theorem accepts (h : source.Writes e) (hsound : e.Sound) (hs : s ∈ e.sections.values)
    (hcomplete : ∀ v ∈ s.declared.values, v.isRequired = false) : s.Accepts source := by
  intro v hv
  obtain ⟨value, hvalue⟩ := v.exists_default (hcomplete v hv)
  exact ⟨value, (h.takes_iff hsound hs hv value).mpr hvalue⟩

theorem fails (h : source.Writes e) (hsound : e.Sound) (hs : s ∈ e.sections.values)
    {before after : List Variable} (hvalues : s.declared.values = before ++ v :: after)
    (hbefore : ∀ w ∈ before, w.isRequired = false) (hv : v.isRequired = true) :
    s.Fails source (.badConfig s.name (some v.name) none
      ("missing required variable " ++ v.name)) := by
  obtain ⟨found, hfound, -, -⟩ := h.exists_section hs
  have hget : ∀ w : Variable, source.get? s.name w.ident = found.get? w.ident := by
    intro w
    rw [get?, hfound]
    rfl
  have hdefault : v.default = none := Option.isNone_iff_eq_none.mp hv
  have hnone : found.get? v.ident = none := by
    rw [← hget]
    exact h.get?_of_required hsound hs (by simp [hvalues]) hdefault
  have htaken : ∀ w ∈ before, ∃ value, w.Takes (found.get? w.ident) value := by
    intro w hw
    obtain ⟨value, hvalue⟩ := w.exists_default (hbefore w hw)
    rw [← hget]
    exact ⟨value, (h.takes_iff hsound hs (by simp [hvalues, hw]) value).mpr hvalue⟩
  have hreason : v.Complains (found.get? v.ident) ("missing required variable " ++ v.name) := by
    rw [hnone]
    exact ⟨hdefault, rfl⟩
  have hfails := Section.Fails.variable hfound hvalues htaken hreason
  rwa [hnone] at hfails

end Source.Writes

/-- The template of an environment is read as its defaults, and validates as they do. -/
theorem Schema.template_round_trip {manual : Text} {s : Schema} (hs : Schema.ofManual manual = .ok s)
    {e : Environment} (he : e ∈ s.environments.values)
    (hnames : ∀ sec ∈ e.sections.values, ∃ c ∈ sec.name, Unicode.isBlank c = false)
    (path : Option Text) :
    ∃ text source, s.template e.name = .ok text ∧ Source.ofText text path = .ok source ∧
      source.Writes e ∧
      ((∀ sec ∈ e.sections.values, ∀ v ∈ sec.declared.values, v.isRequired = false) →
        ∃ t, (∀ strict, s.validate e.name source strict = .ok t) ∧
          ∀ path', s.validate e.name (.blank path') false = .ok t) ∧
      ∀ before sec after variablesBefore v variablesAfter,
        e.sections.values = before ++ sec :: after →
        (∀ other ∈ before, ∀ w ∈ other.declared.values, w.isRequired = false) →
        sec.declared.values = variablesBefore ++ v :: variablesAfter →
        (∀ w ∈ variablesBefore, w.isRequired = false) → v.isRequired = true →
        ∀ strict, s.validate e.name source strict = .error
          (.badConfig sec.name (some v.name) none ("missing required variable " ++ v.name)) := by
  have hsound := sound_of_ofManual hs
  have hesound := hsound.environments e he
  have henvironment : s.environment e.name = .ok e := environment_of_key_eq hsound he rfl
  obtain ⟨source, hsource, hwrites⟩ :=
    Source.exists_ofText_template hesound hsound.appName_line hnames path
  have hvalidate : ∀ strict, s.validate e.name source strict = e.settings source := by
    intro strict
    rw [validate_of_key_eq hsound he rfl]
    exact hwrites.validate_eq hesound strict
  refine ⟨_, source, by rw [template, henvironment]; rfl, hsource, hwrites, ?_, ?_⟩
  · intro hcomplete
    obtain ⟨t, ht⟩ := Environment.exists_settings_iff.mpr fun sec hsec =>
      hwrites.accepts hesound hsec (hcomplete sec hsec)
    refine ⟨t, fun strict => (hvalidate strict).trans ht, ?_⟩
    intro path'
    rw [validate_lenient_of_key_eq hsound he rfl]
    exact (hwrites.settings_eq_ok_iff hesound path' t).mp ht
  · intro before sec after variablesBefore v variablesAfter hvalues hbefore hvariables hearlier hv
      strict
    rw [hvalidate, Environment.settings_error_iff]
    refine ⟨before, sec, after, hvalues, ?_, ?_⟩
    · intro other hother
      exact hwrites.accepts hesound (by simp [hvalues, hother]) (hbefore other hother)
    · exact hwrites.fails hesound (by simp [hvalues]) hvariables hearlier hv

theorem Schema.template_round_trip_server :
    ∃ text source, serverSchema.template "default" = .ok text ∧
      Source.ofText text none = .ok source ∧ source.Writes serverEnvironment ∧
      serverSchema.validate "default" source true =
        .error (.badConfig "main" (some "HOST") none "missing required variable HOST") := by
  have hnames : ∀ sec ∈ serverEnvironment.sections.values,
      ∃ c ∈ sec.name, Unicode.isBlank c = false := by
    intro sec hsec
    rw [values_serverEnvironment] at hsec
    obtain rfl := List.mem_singleton.mp hsec
    exact ⟨'m', by decide, by decide⟩
  obtain ⟨text, source, htext, hsource, hwrites, -, hrequired⟩ :=
    template_round_trip ofManual_serverManual serverEnvironment_mem hnames none
  refine ⟨text, source, htext, hsource, hwrites, ?_⟩
  exact hrequired [] serverSection [] [] ⟨"HOST", "host", .string, none, "Where it listens"⟩ _ rfl
    (by simp) rfl (by simp) rfl true

end IniSchema
