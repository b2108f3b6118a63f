import IniSchema.Proofs.Run
import IniSchema.Proofs.Source.Outline

/-!
# What a reader makes of a text

The source that is read from a text holds what the marks of the text say: the first header of each
section, and the last assignment of each entry with all its continuations, in the order in which
sections and entries first appear.
-/

namespace IniSchema.Source

/-! ## Look-ups after a change -/

variable {source : Source}

theorem section?_put (sectionName : Text) (sectionLine : Nat) (key value : Text) (line : Nat)
    {found : SourceSection} (hfound : source.section? sectionName = some found) (other : Text) :
    (source.put sectionName sectionLine key value line).section? other =
      if Name.key other = Name.key sectionName then
        some { found with entries := found.entries.insert (Name.key key) ⟨key.trim, value, line⟩ }
      else source.section? other := by
  have hsection := section?_ensureSection source sectionName other sectionLine
  unfold section? at hsection hfound ⊢
  rw [put, OrderedMap.get?_modify, hsection, hfound]
  by_cases h : Name.key other = Name.key sectionName
  · simp [h]
  · simp [h]

theorem get?_ensureSection (name : Text) (line : Nat) (sectionName key : Text) :
    (source.ensureSection name line).get? sectionName key = source.get? sectionName key := by
  rw [get?, get?, section?_ensureSection]
  by_cases h : Name.key sectionName = Name.key name
  · have hsame : source.section? sectionName = source.section? name := by rw [section?, section?, h]
    rw [if_pos h, hsame]
    cases source.section? name <;> rfl
  · rw [if_neg h]

theorem section?_appendLine (sectionKey entryKey text other : Text) :
    (source.appendLine sectionKey entryKey text).section? other =
      if Name.key other = sectionKey then
        (source.section? other).map fun found => { found with
          entries := found.entries.modify entryKey fun e =>
            { e with value := if e.value.isEmpty then text else e.value ++ '\n' :: text } }
      else source.section? other :=
  OrderedMap.get?_modify ..

theorem get?_appendLine (sectionKey entryKey text sectionName key : Text) :
    (source.appendLine sectionKey entryKey text).get? sectionName key =
      if Name.key sectionName = sectionKey ∧ Name.key key = entryKey then
        (source.get? sectionName key).map fun e =>
          { e with value := if e.value.isEmpty then text else e.value ++ '\n' :: text }
      else source.get? sectionName key := by
  rw [get?, get?, section?_appendLine]
  by_cases hsection : Name.key sectionName = sectionKey
  · cases source.section? sectionName with
    | none => simp
    | some found =>
        by_cases hkey : Name.key key = entryKey
        · simp [hsection, hkey, SourceSection.get?, OrderedMap.get?_modify]
        · simp [hsection, hkey, SourceSection.get?, OrderedMap.get?_modify]
  · simp [hsection]

theorem keys_ensureSection (name : Text) (line : Nat) {keys : List Text}
    (h : source.sections.keys = keys.eraseDups) :
    (source.ensureSection name line).sections.keys = (keys ++ [Name.key name]).eraseDups := by
  unfold ensureSection
  by_cases hmem : Name.key name ∈ keys
  · have hcontains : source.sections.contains (Name.key name) = true := by
      simpa [OrderedMap.contains_iff, h] using hmem
    rw [if_pos hcontains, OrderedMap.eraseDups_concat, if_pos hmem, h]
  · have hcontains : ¬ source.sections.contains (Name.key name) = true := by
      simpa [OrderedMap.contains_iff, h] using hmem
    rw [if_neg hcontains]
    exact OrderedMap.keys_insert_of_eraseDups h _ _

/-! ## Sources of marks -/

/-- The source holds what the marks say. -/
structure Records (source : Source) (marks : List Mark) : Prop where
  sections : ∀ name, (source.section? name).map (fun s => (s.name, s.line)) =
    (headersNamed marks name).head?.map fun h => (h.name, h.number)
  entries : ∀ name key, source.get? name key = (assignmentsOf marks name key).getLast?
  section_order : source.sections.keys = ((headers marks).map fun h => Name.key h.name).eraseDups
  entry_order : ∀ name found, source.section? name = some found →
    found.entries.keys = ((assignmentsIn marks name).map fun e => Name.key e.key).eraseDups

namespace Records

variable {marks : List Mark}

theorem blank (path : Option Text) : Records (.blank path) [] where
  sections := fun _ => rfl
  entries := fun _ _ => rfl
  section_order := rfl
  entry_order := by
    intro name found h
    cases h

theorem skipped (h : Records source marks) : Records source (marks ++ [.skipped]) := by
  constructor
  · intro name
    rw [headersNamed, headers_concat rfl]
    exact h.sections name
  · intro name key
    rw [assignmentsOf, assignmentsIn, assignments_skipped]
    exact h.entries name key
  · rw [headers_concat rfl]
    exact h.section_order
  · intro name found hfound
    rw [assignmentsIn, assignments_skipped]
    exact h.entry_order name found hfound

theorem exists_section (h : Records source marks) {s : Header × List Mark}
    (hopen : openSection? marks = some s) : ∃ found, source.section? s.1.name = some found := by
  have hmem : s.1 ∈ headersNamed marks s.1.name := by
    simpa [headersNamed] using mem_headers_of_openSection? hopen
  have hsections := h.sections s.1.name
  cases hfound : source.section? s.1.name with
  | some found => exact ⟨found, rfl⟩
  | none =>
      cases hnamed : headersNamed marks s.1.name with
      | nil => simp [hnamed] at hmem
      | cons first rest => simp [hfound, hnamed] at hsections

theorem assignmentsIn_of_absent (h : Records source marks) {name : Text}
    (hname : source.section? name = none) : assignmentsIn marks name = [] := by
  have hsections := h.sections name
  have hnone : headersNamed marks name = [] := by
    cases hnamed : headersNamed marks name with
    | nil => rfl
    | cons first rest => simp [hname, hnamed] at hsections
  unfold assignmentsIn
  rw [List.map_eq_nil_iff, List.filter_eq_nil_iff]
  intro a ha hkey
  obtain ⟨header, hheader, hsame⟩ := exists_header_of_mem_assignments ha
  have hmem : header ∈ headersNamed marks name := by
    simpa [headersNamed, hheader, hsame] using hkey
  simp [hnone] at hmem

theorem header (h : Records source marks) (header : Header)
    (hname : header.name.trim = header.name) :
    Records (source.ensureSection header.name header.number) (marks ++ [.header header]) := by
  constructor
  · intro name
    rw [section?_ensureSection, headersNamed, headers_header, List.filter_append,
      List.head?_append, hname]
    have hsections := h.sections name
    unfold headersNamed at hsections
    by_cases hkey : Name.key name = Name.key header.name
    · have hsame : source.section? header.name = source.section? name := by
        rw [section?, section?, hkey]
      rw [if_pos hkey, hsame]
      -- A section that is opened again keeps the name and line of its first header.
      cases hfound : source.section? name with
      | some found =>
          rw [hfound] at hsections
          obtain ⟨first, hfirst, heq⟩ := Option.map_eq_some_iff.mp hsections.symm
          simp [hfirst, heq]
      | none =>
          rw [hfound] at hsections
          rw [Option.map_eq_none_iff.mp hsections.symm]
          simp [hkey]
    · rw [if_neg hkey, hsections]
      simp [Ne.symm hkey]
  · intro name key
    rw [get?_ensureSection, assignmentsOf, assignmentsIn, assignments_header]
    exact h.entries name key
  · rw [headers_header, List.map_append]
    exact keys_ensureSection _ _ h.section_order
  · intro name found hfound
    rw [assignmentsIn, assignments_header]
    rw [section?_ensureSection] at hfound
    by_cases hkey : Name.key name = Name.key header.name
    · have hsame : source.section? header.name = source.section? name := by
        rw [section?, section?, hkey]
      rw [if_pos hkey, hsame] at hfound
      cases hold : source.section? name with
      | some old =>
          rw [hold] at hfound
          cases hfound
          exact h.entry_order name old hold
      | none =>
          rw [hold] at hfound
          cases hfound
          have hnone := h.assignmentsIn_of_absent hold
          unfold assignmentsIn at hnone
          simp [hnone, OrderedMap.keys, OrderedMap.empty]
    · rw [if_neg hkey] at hfound
      exact h.entry_order name found hfound

theorem opening (h : Records source marks) {s : Header × List Mark}
    (hopen : openSection? marks = some s) (o : Opening) (hkey : o.key.trim = o.key) :
    Records (source.put s.1.name o.number o.key o.value o.number) (marks ++ [.opening o]) := by
  obtain ⟨found, hfound⟩ := h.exists_section hopen
  have hput := section?_put s.1.name o.number o.key o.value o.number hfound
  have hvalue : o.entry [] = ⟨o.key, o.value, o.number⟩ := by
    simp [Opening.entry, Text.joinNonempty_singleton]
  constructor
  · intro name
    rw [headersNamed, headers_concat rfl, hput]
    have hsections := h.sections name
    by_cases hname : Name.key name = Name.key s.1.name
    · have hsame : source.section? name = some found := by rw [section?, hname]; exact hfound
      rw [if_pos hname]
      rw [hsame] at hsections
      exact hsections
    · rw [if_neg hname]
      exact hsections
  · intro name key
    rw [get?_put, assignmentsOf, assignmentsIn, assignments_opening hopen, List.filter_append,
      List.map_append, List.filter_append, List.getLast?_append, hvalue, hkey]
    -- The new assignment is the last one of its own name and key, and of no other.
    have hentries := h.entries name key
    unfold assignmentsOf assignmentsIn at hentries
    by_cases hname : Name.key name = Name.key s.1.name
    · by_cases hsame : Name.key key = Name.key o.key
      · simp [hname, hsame]
      · simp [hname, hsame, Ne.symm hsame, hentries]
    · simp [hname, Ne.symm hname, hentries]
  · rw [headers_concat rfl, put]
    have hcontains : source.sections.contains (Name.key s.1.name) = true := by
      rw [OrderedMap.contains, Option.isSome_iff_exists]
      exact ⟨found, hfound⟩
    rw [OrderedMap.keys_modify, ensureSection, if_pos hcontains]
    exact h.section_order
  · intro name sec hsec
    rw [hput] at hsec
    rw [assignmentsIn, assignments_opening hopen, List.filter_append, List.map_append, hvalue]
    by_cases hname : Name.key name = Name.key s.1.name
    · have hsame : source.section? name = some found := by rw [section?, hname]; exact hfound
      rw [if_pos hname] at hsec
      cases hsec
      have horder := OrderedMap.keys_insert_of_eraseDups (h.entry_order name found hsame)
        (Name.key o.key) ⟨o.key.trim, o.value, o.number⟩
      rw [horder]
      simp [assignmentsIn, hname]
    · rw [if_neg hname] at hsec
      have horder := h.entry_order name sec hsec
      simpa [assignmentsIn, Ne.symm hname] using horder

theorem continuation (h : Records source marks) {s : Header × List Mark}
    {e : Opening × List Mark} (hopen : openSection? marks = some s)
    (hentry : lastOpening? marks = some e) {text : Text} (htext : text ≠ []) :
    Records (source.appendLine (Name.key s.1.name) (Name.key e.1.key) text)
      (marks ++ [.continuation text]) := by
  -- Only the last assignment changes, and it keeps its key.
  obtain ⟨front, entry, hbefore, hkey, hafter⟩ :=
    exists_assignments_continuation hopen hentry htext
  constructor
  · intro name
    rw [headersNamed, headers_concat rfl, section?_appendLine]
    have hsections := h.sections name
    unfold headersNamed at hsections
    rw [← hsections]
    by_cases hname : Name.key name = Name.key s.1.name
    · simp [hname, Function.comp_def]
    · simp [hname]
  · intro name key
    rw [get?_appendLine, h.entries, assignmentsOf, assignmentsOf, assignmentsIn, assignmentsIn,
      hbefore, hafter, List.filter_append, List.filter_append, List.map_append, List.map_append,
      List.filter_append, List.filter_append, List.getLast?_append, List.getLast?_append, ← hkey]
    by_cases hname : Name.key name = Name.key s.1.name
    · by_cases hsame : Name.key key = Name.key entry.key
      · simp [hname, hsame]
      · simp [hname, hsame, Ne.symm hsame]
    · simp [hname, Ne.symm hname]
  · rw [headers_concat rfl, appendLine, OrderedMap.keys_modify]
    exact h.section_order
  · intro name sec hsec
    have horder := h.entry_order name
    rw [section?_appendLine] at hsec
    have hkeys : ((assignmentsIn (marks ++ [.continuation text]) name).map
        fun e => Name.key e.key) = (assignmentsIn marks name).map fun e => Name.key e.key := by
      simp only [assignmentsIn, hbefore, hafter, List.filter_append, List.map_append]
      by_cases hname : Name.key s.1.name = Name.key name
      · simp [hname]
      · simp [hname]
    rw [hkeys]
    by_cases hname : Name.key name = Name.key s.1.name
    · rw [if_pos hname] at hsec
      obtain ⟨old, hold, rfl⟩ := Option.map_eq_some_iff.mp hsec
      rw [OrderedMap.keys_modify]
      exact horder old hold
    · rw [if_neg hname] at hsec
      exact horder sec hsec

end Records

/-! ## Runs of a reader -/

theorem Reader.readLines_eq_foldlM (r : Reader) (lines : List (Text × Nat)) :
    r.readLines lines =
      lines.foldlM (fun r line => (r.step line.2 line.1).mapError fun o => (line.2, o)) r := by
  induction lines generalizing r with
  | nil => rfl
  | cons line rest ih =>
      obtain ⟨raw, number⟩ := line
      rw [List.foldlM_cons, readLines]
      cases r.step number raw with
      | ok r => exact ih r
      | error offence => rfl

theorem Reader.readLines_append (r : Reader) (front back : List (Text × Nat)) :
    r.readLines (front ++ back) = (r.readLines front).bind fun r' => r'.readLines back := by
  induction front generalizing r with
  | nil => rfl
  | cons line rest ih =>
      obtain ⟨raw, number⟩ := line
      rw [List.cons_append, readLines, readLines]
      cases r.step number raw with
      | error offence => rfl
      | ok r' => exact ih r'

/-- The reader's source holds what the marks say, and the last entry under the last header is
open. -/
structure Tracks (r : Reader) (marks : List Mark) : Prop where
  wellPlaced : WellPlaced marks
  records : Records r.source marks
  openSection : r.openSection = (openSection? marks).map (·.1.name)
  openEntry : r.openEntry = (openSection? marks).bind fun s => (lastOpening? marks).map fun e =>
    ⟨Name.key s.1.name, Name.key e.1.key, e.1.indent⟩

namespace Tracks

variable {r r' : Reader} {marks : List Mark}

theorem start (path : Option Text) : Tracks (Reader.start path) [] :=
  ⟨wellPlaced_nil, Records.blank path, rfl, rfl⟩

theorem exists_openSection? {e : Opening × List Mark} (hentry : lastOpening? marks = some e) :
    ∃ s, openSection? marks = some s := by
  obtain ⟨s, hs, -⟩ := Option.bind_eq_some_iff.mp hentry
  exact ⟨s, hs⟩

private theorem plain (h : Tracks r marks) {mark : Mark} (hheader : mark.header? = none)
    (hopening : mark.opening? = none) {source : Source}
    (hplaced : WellPlaced (marks ++ [mark])) (hrecords : Records source (marks ++ [mark])) :
    Tracks { r with source := source } (marks ++ [mark]) where
  wellPlaced := hplaced
  records := hrecords
  openSection := by
    rw [openSection?, getLast?_blocks_concat_body marks hheader, Option.map_map]
    exact h.openSection
  openEntry := by
    rw [lastOpening?, innerBlock?_concat_body marks hheader hopening, openSection?,
      getLast?_blocks_concat_body marks hheader, Option.bind_map]
    have hopen := h.openEntry
    rw [openSection?, lastOpening?] at hopen
    simpa [Function.comp_def] using hopen

private theorem readLine (h : Tracks r marks) {number indent : Nat} {line : Text}
    (hread : r.readLine number indent line = .ok r') :
    Tracks r' (marks ++ [Mark.ofLine number indent line]) := by
  unfold Reader.readLine Line.ofText at hread
  unfold Mark.ofLine
  cases hbetween : line.between? '[' ']' with
  | some name =>
      by_cases hempty : Text.trim name = []
      · simp [hbetween, hempty] at hread
      · simp only [hbetween, List.isEmpty_iff, hempty, if_false] at hread
        cases hread
        have hline : (Mark.header ⟨Text.trim name, number⟩).header? =
            some ⟨Text.trim name, number⟩ := rfl
        exact {
          wellPlaced := h.wellPlaced.concat (by simp) (by simp) (by simp)
          records := h.records.header ⟨Text.trim name, number⟩ (Text.trim_trim name)
          openSection := by simp [openSection?, getLast?_blocks_concat_head marks hline]
          openEntry := by
            simp [lastOpening?, innerBlock?_concat_outer marks hline] }
  | none =>
      cases hcut : line.cut? (fun c => c == '=' || c == ':') with
      | none => simp [hbetween, hcut] at hread
      | some cut =>
          obtain ⟨key, value⟩ := cut
          by_cases hempty : Text.trim key = []
          · simp [hbetween, hcut, hempty] at hread
          · simp only [hbetween, hcut, List.isEmpty_iff, hempty, if_false] at hread
            cases hopen : openSection? marks with
            | none => simp [h.openSection, hopen] at hread
            | some s =>
                simp only [h.openSection, hopen, Option.map_some, Except.ok.injEq] at hread
                subst hread
                let o : Opening := ⟨Text.trim key, Text.trim value, number, indent⟩
                have hheader : (Mark.opening o).header? = none := rfl
                have hopening : (Mark.opening o).opening? = some o := rfl
                have hlast : openSection? (marks ++ [.opening o]) =
                    some (s.1, s.2 ++ [.opening o]) := by
                  rw [openSection?, getLast?_blocks_concat_body marks hheader]
                  exact congrArg (Option.map _) hopen
                have hentry : lastOpening? (marks ++ [.opening o]) = some (o, []) := by
                  rw [lastOpening?, innerBlock?_concat_inner marks hheader hopening]
                  exact congrArg (Option.map _) hopen
                exact {
                  wellPlaced := h.wellPlaced.concat (by simp) (fun _ _ => ⟨s, hopen⟩) (by simp)
                  records := h.records.opening hopen o (Text.trim_trim key)
                  openSection := by rw [hlast]; rfl
                  openEntry := by rw [hlast, hentry]; rfl }

private theorem continued?_of_none (h : Tracks r marks) (hentry : lastOpening? marks = none)
    (indent : Nat) : r.continued? indent = none := by
  simp [Reader.continued?, h.openEntry, hentry]

private theorem continued?_of_some (h : Tracks r marks) {s : Header × List Mark}
    {e : Opening × List Mark} (hopen : openSection? marks = some s)
    (hentry : lastOpening? marks = some e) (indent : Nat) :
    r.continued? indent = if e.1.indent < indent then
      some ⟨Name.key s.1.name, Name.key e.1.key, e.1.indent⟩ else none := by
  simp [Reader.continued?, h.openEntry, hopen, hentry, Option.filter]

theorem isSome_continued? (h : Tracks r marks) (indent : Nat) :
    (r.continued? indent).isSome = (lastOpening? marks).any (·.1.indent < indent) := by
  cases hentry : lastOpening? marks with
  | none => simp [h.continued?_of_none hentry]
  | some e =>
      obtain ⟨s, hopen⟩ := exists_openSection? hentry
      rw [h.continued?_of_some hopen hentry]
      by_cases hdeeper : e.1.indent < indent <;> simp [hdeeper]

theorem step (h : Tracks r marks) {number : Nat} {raw : Text}
    (hstep : r.step number raw = .ok r') :
    Tracks r' (marks ++ [Mark.classify marks number raw]) := by
  unfold Reader.step at hstep
  unfold Mark.classify
  by_cases hignored : isIgnored raw.trim = true
  · simp only [hignored, if_true, Except.ok.injEq] at hstep ⊢
    subst hstep
    exact h.plain rfl rfl (h.wellPlaced.concat (by simp) (by simp) (by simp)) h.records.skipped
  · have htext : raw.trim ≠ [] := by
      intro hnil
      simp [hnil, isIgnored] at hignored
    simp only [hignored, Bool.false_eq_true, if_false] at hstep ⊢
    cases hentry : lastOpening? marks with
    | none =>
        rw [h.continued?_of_none hentry] at hstep
        exact h.readLine hstep
    | some e =>
        obtain ⟨s, hopen⟩ := exists_openSection? hentry
        rw [h.continued?_of_some hopen hentry] at hstep
        by_cases hdeeper : e.1.indent < indentation raw
        · simp only [hdeeper, if_true, Except.ok.injEq] at hstep
          subst hstep
          simp only [Option.any_some, hdeeper, decide_true, if_true]
          exact h.plain rfl rfl
            (h.wellPlaced.concat (by simp) (by simp) fun _ _ => ⟨e, hentry⟩)
            (h.records.continuation hopen hentry htext)
        · simp only [hdeeper, if_false] at hstep
          simp only [Option.any_some, hdeeper, decide_false, Bool.false_eq_true, if_false]
          exact h.readLine hstep

end Tracks

theorem tracks_of_readLines {path : Option Text} {lines : List (Text × Nat)} {r : Reader}
    (h : (Reader.start path).readLines lines = .ok r) : Tracks r (marksOf lines) := by
  rw [Reader.readLines_eq_foldlM] at h
  refine Run.invariant_of_ok (fun before r => Tracks r (marksOf before)) (Tracks.start path) ?_ h
  rintro before ⟨raw, number⟩ after s s' - htracks hstep
  rw [marksOf_concat]
  cases hnext : s.step number raw with
  | error offence =>
      rw [hnext] at hstep
      cases hstep
  | ok next =>
      rw [hnext] at hstep
      cases hstep
      exact htracks.step hnext

namespace Records

variable {marks : List Mark}

theorem keyed (h : Records source marks) : source.sections.Keyed SourceSection.name := by
  rintro ⟨key, found⟩ hmem
  have hkey : key ∈ source.sections.keys := List.mem_map_of_mem hmem
  rw [h.section_order, List.mem_eraseDups] at hkey
  obtain ⟨header, -, rfl⟩ := List.mem_map.mp hkey
  have hfound : source.section? header.name = some found :=
    OrderedMap.get?_eq_some_iff.mpr hmem
  have hsections := h.sections header.name
  rw [hfound] at hsections
  obtain ⟨first, hfirst, heq⟩ := Option.map_eq_some_iff.mp hsections.symm
  have hnamed := (List.mem_filter.mp (List.mem_of_mem_head? hfirst)).2
  rw [Prod.mk.injEq] at heq
  rw [← heq.1]
  exact (of_decide_eq_true hnamed).symm

theorem entries_keyed (h : Records source marks) {name : Text} {found : SourceSection}
    (hfound : source.section? name = some found) : found.entries.Keyed Entry.key := by
  rintro ⟨key, entry⟩ hmem
  have hkey : key ∈ found.entries.keys := List.mem_map_of_mem hmem
  rw [h.entry_order name found hfound, List.mem_eraseDups] at hkey
  obtain ⟨e, -, rfl⟩ := List.mem_map.mp hkey
  have hentry : source.get? name e.key = some entry := by
    rw [get?, hfound]
    exact OrderedMap.get?_eq_some_iff.mpr hmem
  rw [h.entries] at hentry
  have hnamed := (List.mem_filter.mp (List.mem_of_getLast? hentry)).2
  exact (of_decide_eq_true hnamed).symm

end Records

/-! ## Sources of texts -/

theorem ofText_eq_ok_iff {text : Text} {path : Option Text} :
    Source.ofText text path = .ok source ↔
      ∃ r, (Reader.start path).readLines (text.lines.zipIdx 1) = .ok r ∧ r.source = source := by
  unfold ofText
  cases (Reader.start path).readLines (text.lines.zipIdx 1) <;> simp

theorem ofText_eq_error_iff {text : Text} {path : Option Text} {fault : Fault} :
    Source.ofText text path = .error fault ↔ ∃ line offence,
      (Reader.start path).readLines (text.lines.zipIdx 1) = .error (line, offence) ∧
        fault = .iniSyntax (path.getD "<text>") line offence.reason := by
  unfold ofText
  cases (Reader.start path).readLines (text.lines.zipIdx 1) with
  | error stopped => simp [Prod.ext_iff, eq_comm, and_assoc]
  | ok r => simp

theorem tracks_of_ofText {text : Text} {path : Option Text}
    (h : Source.ofText text path = .ok source) :
    ∃ r : Reader, r.source = source ∧ Tracks r (marks text) := by
  obtain ⟨r, hread, hsource⟩ := ofText_eq_ok_iff.mp h
  exact ⟨r, hsource, tracks_of_readLines hread⟩

/-- The first header of a section and the last assignment of an entry are what the source of a
text holds, and no line of the text is lost. -/
theorem ofText_last_assignment {text : Text} {path : Option Text} {source : Source}
    (h : Source.ofText text path = .ok source) :
    (∀ name, (source.section? name).map (fun s => (s.name, s.line)) =
      (headersNamed (marks text) name).head?.map fun h => (h.name, h.number)) ∧
    (∀ name key, source.get? name key = (assignmentsOf (marks text) name key).getLast?) ∧
    source.sections.values.map (fun s => Name.key s.name) =
      ((headers (marks text)).map fun h => Name.key h.name).eraseDups ∧
    (∀ name found, source.section? name = some found →
      found.entries.values.map (fun e => Name.key e.key) =
        ((assignmentsIn (marks text) name).map fun e => Name.key e.key).eraseDups) ∧
    WellPlaced (marks text) := by
  obtain ⟨r, rfl, htracks⟩ := tracks_of_ofText h
  have hrecords := htracks.records
  refine ⟨hrecords.sections, hrecords.entries, ?_, ?_, htracks.wellPlaced⟩
  · rw [← hrecords.keyed.keys_eq]
    exact hrecords.section_order
  · intro name found hfound
    rw [← (hrecords.entries_keyed hfound).keys_eq]
    exact hrecords.entry_order name found hfound

theorem ofText_last_assignment_continued :
    ∃ source, Source.ofText "[Main]\nport = 1\n  2\n[ main ]\nPORT:\n # off\n  3\n  4" none =
        .ok source ∧
      source.get? "MAIN" "port" = some ⟨"PORT", "3\n4", 5⟩ := by
  obtain ⟨source, hsource⟩ : ∃ source,
      Source.ofText "[Main]\nport = 1\n  2\n[ main ]\nPORT:\n # off\n  3\n  4" none =
        .ok source := ⟨_, rfl⟩
  refine ⟨source, hsource, ?_⟩
  rw [(ofText_last_assignment hsource).2.1]
  decide

end IniSchema.Source
