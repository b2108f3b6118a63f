import IniSchema.Proofs.Layout
import IniSchema.Proofs.Source.Overlay
import IniSchema.Proofs.Source.Steps

/-!
# Reading the same lines elsewhere

The lines of a text may stand further down, deeper, or with lines between them that are skipped.
Read into a source that is changed to match, they give the source that they gave before, changed
the same way.
-/

namespace IniSchema.Source.Reader

variable {r r' : Reader}

/-! ## The entry that is open -/

theorem hasEntry_appendLine {s : Source} {sectionKey entryKey : Text}
    (h : s.HasEntry sectionKey entryKey) (text : Text) :
    (s.appendLine sectionKey entryKey text).HasEntry sectionKey entryKey := by
  obtain ⟨sec, entry, hsec, hentry⟩ := h
  simp [HasEntry, Source.appendLine, OrderedMap.get?_modify, hsec, hentry]

theorem hasEntry_put (s : Source) (name : Text) (sectionLine : Nat) (key value : Text)
    (line : Nat) :
    (s.put name sectionLine key value line).HasEntry (Name.key name) (Name.key key) := by
  obtain ⟨sec, hsec⟩ := s.exists_section_ensureSection name sectionLine
  simp [HasEntry, Source.put, OrderedMap.get?_modify, OrderedMap.get?_insert, hsec]

/-- The entry that is open is there. -/
def Anchored (r : Reader) : Prop :=
  ∀ e, r.openEntry = some e → r.source.HasEntry e.sectionKey e.entryKey

theorem Anchored.next {number : Nat} (h : r.Anchored) (hnext : r.Next number r') :
    r'.Anchored := by
  cases hnext with
  | skipped => exact h
  | @continued e hentry text =>
      intro other hother
      obtain rfl : other = e := Option.some.inj (hother.symm.trans hentry)
      exact hasEntry_appendLine (h other hentry) text
  | header hname =>
      rintro e ⟨⟩
  | @entry name hopen key value indent =>
      rintro e ⟨⟩
      exact hasEntry_put r.source name number key value number

/-! ## Other lines and other sources -/

/-- The line says the same `margin` deeper. -/
structure Moved (margin : Nat) (raw raw' : Text) : Prop where
  trim : raw'.trim = raw.trim
  indentation : raw.trim ≠ [] → indentation raw' = indentation raw + margin

/-- The same lines under other numbers, `margin` deeper and with skipped lines between them. -/
inductive Relaid (number : Nat → Nat) (margin : Nat) :
    List (Text × Nat) → List (Text × Nat) → Prop where
  | nil : Relaid number margin [] []
  | moved {raw raw' : Text} {lines lines' : List (Text × Nat)} (hline : Moved margin raw raw')
      (line : Nat) (hlines : Relaid number margin lines lines') :
      Relaid number margin ((raw, line) :: lines) ((raw', number line) :: lines')
  | skipped {raw' : Text} {lines lines' : List (Text × Nat)}
      (hignored : isIgnored raw'.trim = true) (line : Nat)
      (hlines : Relaid number margin lines lines') :
      Relaid number margin lines ((raw', line) :: lines')

/-- Reading goes on in the changed source as in the source, on other lines. -/
structure Carries (φ : Source → Source) (number : Nat → Nat) : Prop where
  ensureSection : ∀ s name line,
    φ (s.ensureSection name line) = (φ s).ensureSection name (number line)
  put : ∀ s name key value line,
    φ (s.put name line key value line) = (φ s).put name (number line) key value (number line)
  appendLine : ∀ s sectionKey entryKey text, s.HasEntry sectionKey entryKey →
    φ (s.appendLine sectionKey entryKey text) = (φ s).appendLine sectionKey entryKey text

/-- The reader in the changed source, with the entry that is open `margin` deeper. -/
def carried (φ : Source → Source) (margin : Nat) (r : Reader) : Reader :=
  { r with
    source := φ r.source
    openEntry := r.openEntry.map fun e => { e with indent := e.indent + margin } }

section Lines

variable {number : Nat → Nat} {margin : Nat} {raw raw' : Text}

theorem Moved.refl (raw : Text) : Moved 0 raw raw := ⟨rfl, fun _ => rfl⟩

theorem Relaid.append {front front' back back' : List (Text × Nat)}
    (hfront : Relaid number margin front front') (hback : Relaid number margin back back') :
    Relaid number margin (front ++ back) (front' ++ back') := by
  induction hfront with
  | nil => exact hback
  | moved hline line _ ih => exact .moved hline line ih
  | skipped hignored line _ ih => exact .skipped hignored line ih

theorem relaid_map_number (number : Nat → Nat) (lines : List (Text × Nat)) :
    Relaid number 0 lines (lines.map fun line => (line.1, number line.2)) := by
  induction lines with
  | nil => exact .nil
  | cons line rest ih => exact .moved (Moved.refl line.1) line.2 ih

theorem relaid_zipIdx {lines lines' : List Text} (h : List.Forall₂ (Moved margin) lines lines')
    {n m : Nat} (hnumber : Text.Consecutive number n m lines.length) :
    Relaid number margin (lines.zipIdx n) (lines'.zipIdx m) := by
  induction h generalizing n m with
  | nil => exact .nil
  | @cons line line' lines lines' hline _ ih =>
      rw [List.zipIdx_cons, List.zipIdx_cons]
      obtain ⟨hfirst, hrest⟩ := Text.consecutive_succ.mp hnumber
      rw [← hfirst] at hrest ⊢
      exact .moved hline n (ih hrest)

theorem relaid_skipped {lines : List Text} (h : ∀ line ∈ lines, isIgnored line.trim = true)
    (n : Nat) : Relaid number margin [] (lines.zipIdx n) := by
  induction lines generalizing n with
  | nil => exact .nil
  | cons line rest ih =>
      rw [List.forall_mem_cons] at h
      exact .skipped h.1 n (ih h.2 (n + 1))

/-! ## Reading on -/

theorem continued?_carried (φ : Source → Source) (margin indent : Nat) (r : Reader) :
    (r.carried φ margin).continued? (indent + margin) =
      (r.continued? indent).map fun e => { e with indent := e.indent + margin } := by
  unfold continued? carried
  cases r.openEntry with
  | none => rfl
  | some e => by_cases hdeeper : e.indent < indent <;> simp [Option.filter, hdeeper]

namespace Carries

variable {φ : Source → Source}

theorem readLine (h : Carries φ number) (r : Reader) (margin line indent : Nat) (text : Text) :
    (r.carried φ margin).readLine (number line) (indent + margin) text =
      (r.readLine line indent text).map (carried φ margin) := by
  unfold Reader.readLine
  cases Line.ofText text with
  | error offence => rfl
  | ok read =>
      cases read with
      | header name => simp [carried, h.ensureSection, Except.map]
      | entry key value =>
          cases hopen : r.openSection with
          | none => simp [carried, hopen, Except.map]
          | some name => simp [carried, hopen, h.put, Except.map]

theorem step (h : Carries φ number) (hanchored : r.Anchored) (hline : Moved margin raw raw')
    (line : Nat) : (r.carried φ margin).step (number line) raw' =
      (r.step line raw).map (carried φ margin) := by
  unfold Reader.step
  rw [hline.trim]
  by_cases hignored : isIgnored raw.trim = true
  · simp [hignored, Except.map]
  · have hsolid : raw.trim ≠ [] := by
      intro hnil
      simp [hnil, isIgnored] at hignored
    simp only [hignored, Bool.false_eq_true, if_false, hline.indentation hsolid,
      continued?_carried]
    cases hentry : r.continued? (indentation raw) with
    | none => exact h.readLine r margin line (indentation raw) raw.trim
    | some e =>
        have hhas := hanchored e (Option.eq_some_of_filter_eq_some hentry)
        simp [carried, Except.map, h.appendLine _ _ _ _ hhas]

theorem readLines (h : Carries φ number) (hanchored : r.Anchored) {lines lines' : List (Text × Nat)}
    (hlines : Relaid number margin lines lines') : (r.carried φ margin).readLines lines' =
      match r.readLines lines with
      | .ok out => .ok (out.carried φ margin)
      | .error (line, offence) => .error (number line, offence) := by
  induction hlines generalizing r with
  | nil => rfl
  | @moved raw raw' lines lines' hline line _ ih =>
      rw [Reader.readLines, Reader.readLines, h.step hanchored hline]
      cases hstep : r.step line raw with
      | error offence => rfl
      | ok next => exact ih (hanchored.next (next_of_step hstep))
  | skipped hignored line _ ih =>
      rw [Reader.readLines, Reader.step]
      simp only [hignored, if_true]
      exact ih hanchored

end Carries

end Lines

end IniSchema.Source.Reader
