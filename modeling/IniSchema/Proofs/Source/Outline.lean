import IniSchema.Proofs.Blocks
import IniSchema.Proofs.Text
import IniSchema.Source.Reader

/-!
# What a source text says, read off its lines

Each line of a text in INI format is marked by its own form and by the entry above it: it is
skipped, a header, an entry, or deeper than the entry above and its continuation.  Headers divide
the marks into sections, and entries divide what is under a header into assignments.
-/

namespace IniSchema.Source

/-! ## Marks -/

structure Header where
  name : Text
  number : Nat

/-- The line of an entry without its continuations. -/
structure Opening where
  key : Text
  value : Text
  number : Nat
  indent : Nat

inductive Mark where
  | skipped
  | header (h : Header)
  | opening (o : Opening)
  | continuation (text : Text)
  | malformed

namespace Mark

def header? : Mark → Option Header
  | .header h => some h
  | _ => none

def opening? : Mark → Option Opening
  | .opening o => some o
  | _ => none

def continuation? : Mark → Option Text
  | .continuation text => some text
  | _ => none

theorem header?_eq_some {mark : Mark} {h : Header} : mark.header? = some h ↔ mark = .header h := by
  cases mark <;> simp [header?]

theorem opening?_eq_some {mark : Mark} {o : Opening} :
    mark.opening? = some o ↔ mark = .opening o := by
  cases mark <;> simp [opening?]

end Mark

abbrev sectionBlocks (marks : List Mark) : List (Header × List Mark) :=
  blocks Mark.header? marks

abbrev entryBlocks (marks : List Mark) : List (Opening × List Mark) :=
  blocks Mark.opening? marks

def openSection? (marks : List Mark) : Option (Header × List Mark) := (sectionBlocks marks).getLast?

/-- The last entry under the last header. -/
def lastOpening? (marks : List Mark) : Option (Opening × List Mark) :=
  innerBlock? Mark.header? Mark.opening? marks

/-- What a trimmed line says that continues no value: a name between brackets, or a key and a value
around the first separator. -/
def Mark.ofLine (number indent : Nat) (line : Text) : Mark :=
  match line.between? '[' ']' with
  | some name => .header ⟨name.trim, number⟩
  | none =>
      match line.cut? (fun c => c == '=' || c == ':') with
      | some (key, value) => .opening ⟨key.trim, value.trim, number, indent⟩
      | none => .malformed

/-- What a line says after the marks before it. -/
def Mark.classify (before : List Mark) (number : Nat) (raw : Text) : Mark :=
  if isIgnored raw.trim then .skipped
  else if (lastOpening? before).any (·.1.indent < indentation raw) then .continuation raw.trim
  else .ofLine number (indentation raw) raw.trim

def marksOf (lines : List (Text × Nat)) : List Mark :=
  lines.foldl (fun marks line => marks ++ [Mark.classify marks line.2 line.1]) []

/-- The marks of the lines of a text, which are numbered from 1. -/
def marks (text : Text) : List Mark := marksOf (text.lines.zipIdx 1)

theorem marksOf_concat (lines : List (Text × Nat)) (raw : Text) (number : Nat) :
    marksOf (lines ++ [(raw, number)]) =
      marksOf lines ++ [Mark.classify (marksOf lines) number raw] := by
  simp [marksOf, List.foldl_append]

/-! ## Headers and assignments -/

def headers (marks : List Mark) : List Header := marks.filterMap Mark.header?

/-- The entry of a line and the lines up to the next entry or header. -/
def Opening.entry (o : Opening) (body : List Mark) : Entry :=
  ⟨o.key, Text.joinNonempty "\n" (o.value :: body.filterMap Mark.continuation?), o.number⟩

/-- All entries in their order, each with the name in the latest header before it. -/
def assignments (marks : List Mark) : List (Text × Entry) :=
  (sectionBlocks marks).flatMap fun s => (entryBlocks s.2).map fun e => (s.1.name, e.1.entry e.2)

def headersNamed (marks : List Mark) (name : Text) : List Header :=
  (headers marks).filter fun h => Name.key h.name = Name.key name

def assignmentsIn (marks : List Mark) (name : Text) : List Entry :=
  ((assignments marks).filter fun a => Name.key a.1 = Name.key name).map Prod.snd

def assignmentsOf (marks : List Mark) (name key : Text) : List Entry :=
  (assignmentsIn marks name).filter fun e => Name.key e.key = Name.key key

/-- Entries stand under a header and continuations after the entry that they continue. -/
structure WellPlaced (marks : List Mark) : Prop where
  none_malformed : .malformed ∉ marks
  opening_under_header : ∀ before o after, marks = before ++ .opening o :: after →
    ∃ h, .header h ∈ before
  continuation_after_opening : ∀ before text after, marks = before ++ .continuation text :: after →
    ∃ front o inner, before = front ++ .opening o :: inner ∧
      ∀ mark ∈ inner, mark.header? = none ∧ mark.opening? = none

/-! ## One more mark -/

variable {marks : List Mark} {mark : Mark}

theorem wellPlaced_nil : WellPlaced [] := by
  constructor <;> simp

theorem WellPlaced.concat (h : WellPlaced marks) (hmalformed : mark ≠ .malformed)
    (hopening : ∀ o, mark = .opening o → ∃ s, openSection? marks = some s)
    (hcontinuation : ∀ text, mark = .continuation text → ∃ e, lastOpening? marks = some e) :
    WellPlaced (marks ++ [mark]) where
  none_malformed := by
    intro hmem
    rcases List.mem_append.mp hmem with hmem | hmem
    · exact h.none_malformed hmem
    · exact hmalformed (List.mem_singleton.mp hmem).symm
  opening_under_header := by
    refine (forall_split_concat Mark.opening).mpr ⟨h.opening_under_header, ?_⟩
    intro o ho
    obtain ⟨s, hs⟩ := hopening o ho
    obtain ⟨before, line, rfl, hline, -⟩ := exists_of_getLast?_blocks hs
    obtain rfl := Mark.header?_eq_some.mp hline
    exact ⟨s.1, by simp⟩
  continuation_after_opening := by
    refine (forall_split_concat Mark.continuation).mpr ⟨h.continuation_after_opening, ?_⟩
    intro text htext
    obtain ⟨e, he⟩ := hcontinuation text htext
    obtain ⟨before, line, hsplit, hline, hinner⟩ := exists_of_innerBlock? he
    obtain rfl := Mark.opening?_eq_some.mp hline
    exact ⟨before, e.1, e.2, hsplit, hinner⟩

theorem headers_concat (h : mark.header? = none) : headers (marks ++ [mark]) = headers marks := by
  simp [headers, h]

theorem headers_header (h : Header) : headers (marks ++ [.header h]) = headers marks ++ [h] := by
  simp [headers, Mark.header?]

theorem mem_headers_of_openSection? {s : Header × List Mark} (h : openSection? marks = some s) :
    s.1 ∈ headers marks := by
  rw [headers, ← map_fst_blocks]
  exact List.mem_map_of_mem (List.mem_of_getLast? h)

theorem exists_header_of_mem_assignments {a : Text × Entry} (ha : a ∈ assignments marks) :
    ∃ h ∈ headers marks, h.name = a.1 := by
  obtain ⟨s, hs, hmem⟩ := List.mem_flatMap.mp ha
  obtain ⟨e, -, rfl⟩ := List.mem_map.mp hmem
  refine ⟨s.1, ?_, rfl⟩
  rw [headers, ← map_fst_blocks]
  exact List.mem_map_of_mem hs

theorem Opening.entry_skipped (o : Opening) (body : List Mark) :
    o.entry (body ++ [.skipped]) = o.entry body := by
  have hline : Mark.skipped.continuation? = none := rfl
  simp [entry, hline]

theorem Opening.entry_continuation (o : Opening) (body : List Mark) {text : Text}
    (htext : text ≠ []) : o.entry (body ++ [.continuation text]) = { o.entry body with
      value := if (o.entry body).value.isEmpty then text
        else (o.entry body).value ++ '\n' :: text } := by
  have hline : (Mark.continuation text).continuation? = some text := rfl
  have hvalue := Text.joinNonempty_concat "\n" (o.value :: body.filterMap Mark.continuation?) text
  simp only [entry, List.filterMap_append, List.filterMap_cons, hline, List.filterMap_nil]
  rw [← List.cons_append, hvalue]
  simp [htext]

theorem assignments_header (h : Header) :
    assignments (marks ++ [.header h]) = assignments marks := by
  have hline : (Mark.header h).header? = some h := rfl
  rw [assignments, sectionBlocks, blocks_concat_head marks hline, List.flatMap_append]
  simp [assignments, blocks]

theorem assignments_opening {s : Header × List Mark} (hopen : openSection? marks = some s)
    (o : Opening) : assignments (marks ++ [.opening o]) =
      assignments marks ++ [(s.1.name, o.entry [])] := by
  have hheader : (Mark.opening o).header? = none := rfl
  have hline : (Mark.opening o).opening? = some o := rfl
  obtain ⟨front, hbefore, hafter⟩ := exists_blocks_concat_body hopen hheader
  simp [assignments, hbefore, hafter, blocks_concat_head s.2 hline]

private theorem getLast?_entryBlocks {s : Header × List Mark}
    (hopen : openSection? marks = some s) :
    (entryBlocks s.2).getLast? = lastOpening? marks := by
  unfold openSection? at hopen
  rw [lastOpening?, innerBlock?, hopen]
  rfl

theorem exists_assignments_concat {s : Header × List Mark} {e : Opening × List Mark}
    (hopen : openSection? marks = some s) (hentry : lastOpening? marks = some e)
    (hheader : mark.header? = none) (hopening : mark.opening? = none) :
    ∃ front, assignments marks = front ++ [(s.1.name, e.1.entry e.2)] ∧
      assignments (marks ++ [mark]) = front ++ [(s.1.name, e.1.entry (e.2 ++ [mark]))] := by
  have hlast := (getLast?_entryBlocks hopen).trans hentry
  obtain ⟨front, hbefore, hafter⟩ := exists_blocks_concat_body hopen hheader
  obtain ⟨inner, hinner, hinner'⟩ := exists_blocks_concat_body hlast hopening
  refine ⟨(front.flatMap fun s => (entryBlocks s.2).map fun e => (s.1.name, e.1.entry e.2)) ++
    inner.map fun e => (s.1.name, e.1.entry e.2), ?_, ?_⟩
  · simp [assignments, hbefore, hinner]
  · simp [assignments, hafter, hinner']

theorem assignments_skipped : assignments (marks ++ [.skipped]) = assignments marks := by
  have hheader : Mark.skipped.header? = none := rfl
  have hopening : Mark.skipped.opening? = none := rfl
  cases hopen : openSection? marks with
  | none =>
      have hblocks : sectionBlocks marks = [] := List.getLast?_eq_none_iff.mp hopen
      simp [assignments, hblocks, blocks_concat_of_none hopen hheader]
  | some s =>
      cases hentry : lastOpening? marks with
      | none =>
          have hlast := (getLast?_entryBlocks hopen).trans hentry
          have hblocks : entryBlocks s.2 = [] := List.getLast?_eq_none_iff.mp hlast
          obtain ⟨front, hbefore, hafter⟩ := exists_blocks_concat_body hopen hheader
          simp [assignments, hbefore, hafter, hblocks, blocks_concat_of_none hlast hopening]
      | some e =>
          obtain ⟨front, hbefore, hafter⟩ :=
            exists_assignments_concat hopen hentry hheader hopening
          rw [hbefore, hafter, Opening.entry_skipped]

theorem exists_assignments_continuation {s : Header × List Mark} {e : Opening × List Mark}
    (hopen : openSection? marks = some s) (hentry : lastOpening? marks = some e) {text : Text}
    (htext : text ≠ []) :
    ∃ front entry, assignments marks = front ++ [(s.1.name, entry)] ∧ entry.key = e.1.key ∧
      assignments (marks ++ [.continuation text]) = front ++ [(s.1.name, { entry with
        value := if entry.value.isEmpty then text else entry.value ++ '\n' :: text })] := by
  have hheader : (Mark.continuation text).header? = none := rfl
  have hopening : (Mark.continuation text).opening? = none := rfl
  obtain ⟨front, hbefore, hafter⟩ := exists_assignments_concat hopen hentry hheader hopening
  refine ⟨front, e.1.entry e.2, hbefore, rfl, ?_⟩
  rw [hafter, Opening.entry_continuation e.1 e.2 htext]

end IniSchema.Source
