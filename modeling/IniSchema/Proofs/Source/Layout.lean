import IniSchema.Proofs.Source.Transport

/-!
# The layout of a source text

Blank lines and comments may be put in anywhere, a text may be indented as a whole, and white space
at the end of a line does not count, nor do carriage returns.  The same source is read, or the same
fault is found, on lines that are numbered as they then are.
-/

namespace IniSchema.Source

open Unicode

/-- What is read, with the lines under other numbers. -/
def renumbered (number : Nat → Nat) : Except Fault Source → Except Fault Source
  | .ok source => .ok (source.relabel id number)
  | .error (.iniSyntax path line reason) => .error (.iniSyntax path (number line) reason)
  | .error fault => .error fault

theorem renumbered_id (text : Text) (path : Option Text) :
    renumbered id (Source.ofText text path) = Source.ofText text path := by
  unfold ofText
  split
  · exact congrArg Except.ok (relabel_id _)
  · rfl

/-! ## Lines that say the same -/

namespace Reader

theorem carries_relabel (number : Nat → Nat) : Carries (relabel id number) number where
  ensureSection s name line := respelling_id.relabel_ensureSection number s name line
  put s name key value line := respelling_id.relabel_put number s name line key value line
  appendLine s sectionKey entryKey text _ := relabel_appendLine id number s sectionKey entryKey text

theorem moved_append (margin raw : Text) (hmargin : ∀ c ∈ margin, isBlank c = true) :
    Moved (Text.byteLength margin) raw (margin ++ raw) where
  trim := by
    have htrim := Text.trim_padded raw hmargin (List.forall_mem_nil _)
    rwa [List.append_nil] at htrim
  indentation _ := by
    rw [indentation, List.takeWhile_append_of_pos hmargin, Text.byteLength_append, Nat.add_comm]
    rfl

theorem moved_blank (margin : Nat) : Moved margin [] [] := ⟨rfl, fun h => absurd rfl h⟩

theorem moved_of_trimEnd_eq {raw raw' : Text} (h : raw'.trimEnd = raw.trimEnd) :
    Moved 0 raw raw' where
  trim := Text.trim_of_trimEnd_eq h
  indentation hsolid := by
    have htrimEnd : ∀ raw : Text, raw.trim ≠ [] → indentation raw.trimEnd = indentation raw := by
      intro raw hsolid
      obtain ⟨after, hraw, -⟩ := Text.exists_append_trimEnd raw
      rw [← Text.trim_trimEnd] at hsolid
      conv_rhs => rw [hraw]
      exact (indentation_append hsolid after).symm
    have hsolid' : raw'.trim ≠ [] := Text.trim_of_trimEnd_eq h ▸ hsolid
    rw [← htrimEnd raw hsolid, ← htrimEnd raw' hsolid', h, Nat.add_zero]

end Reader

theorem isIgnored_of_blankOrMarked {line : Text} (h : Text.BlankOrMarked ['#', ';'] line) :
    isIgnored line.trim = true := by
  rcases h.trim with hempty | ⟨c, hmark, hhead⟩
  · simp [isIgnored, hempty]
  · rcases List.mem_pair.mp hmark with rfl | rfl <;> simp [isIgnored, hhead]

/-! ## Texts that say the same -/

variable {t t' : Text}

theorem ofText_relaid {number : Nat → Nat} {margin : Nat}
    (h : Reader.Relaid number margin ((t.split '\n').zipIdx 1) ((t'.split '\n').zipIdx 1))
    (path : Option Text) :
    Source.ofText t' path = renumbered number (Source.ofText t path) := by
  have hanchored : (Reader.start path).Anchored := by
    rintro e ⟨⟩
  have hread := (Reader.carries_relabel number).readLines hanchored h
  have hstart : (Reader.start path).carried (relabel id number) margin = Reader.start path := rfl
  rw [hstart, ← Reader.readLines_lines, ← Reader.readLines_lines] at hread
  unfold ofText
  rw [hread]
  cases (Reader.start path).readLines (t.lines.zipIdx 1) with
  | ok r => rfl
  | error stopped => rfl

theorem ofText_linewise {margin : Nat} (h : Text.Linewise (Reader.Moved margin) t t')
    (path : Option Text) : Source.ofText t' path = Source.ofText t path := by
  rw [← renumbered_id t]
  exact ofText_relaid (Reader.relaid_zipIdx h fun _ _ => rfl) path

theorem ofText_inserted {n : Nat} {extra : List Text} (h : Text.Inserted n extra t t')
    (hextra : ∀ line ∈ extra, Text.BlankOrMarked ['#', ';'] line) (path : Option Text) :
    Source.ofText t' path =
      renumbered (Text.numberAfter n extra.length) (Source.ofText t path) := by
  obtain ⟨front, back, hsplit, rfl, hsplit'⟩ := h
  have hsame : ∀ lines : List Text, List.Forall₂ (Reader.Moved 0) lines lines :=
    fun lines => List.forall₂_same.mpr fun line _ => Reader.Moved.refl line
  have hskipped : Reader.Relaid (Text.numberAfter front.length extra.length) 0 []
      (extra.zipIdx (1 + front.length)) :=
    Reader.relaid_skipped (fun line hline => isIgnored_of_blankOrMarked (hextra line hline)) _
  apply ofText_relaid
  rw [hsplit, hsplit', List.append_assoc, List.zipIdx_append, List.zipIdx_append,
    List.zipIdx_append]
  exact (Reader.relaid_zipIdx (hsame front) (Text.consecutive_numberAfter_front _ _)).append
    (hskipped.append
      (Reader.relaid_zipIdx (hsame back) (Text.consecutive_numberAfter_back _ _ _)))

/-- Lines that are blank or comments, white space in front of all lines and white space at the end
of any do not count, however lines are ended. -/
theorem ofText_layout (t : Text) (path : Option Text) :
    (∀ n extra t', Text.Inserted n extra t t' →
      (∀ line ∈ extra, Text.BlankOrMarked ['#', ';'] line) →
        Source.ofText t' path =
          renumbered (Text.numberAfter n extra.length) (Source.ofText t path)) ∧
    (∀ margin t', (∀ c ∈ margin, isBlank c = true) →
      Text.Linewise (fun line line' => line' = margin ++ line ∨ line = [] ∧ line' = []) t t' →
        Source.ofText t' path = Source.ofText t path) ∧
    (∀ t', Text.Linewise (fun line line' => line'.trimEnd = line.trimEnd) t t' →
      Source.ofText t' path = Source.ofText t path) ∧
    Source.ofText t.withReturns path = Source.ofText t path := by
  have htrimEnd : ∀ t', Text.Linewise (fun line line' => line'.trimEnd = line.trimEnd) t t' →
      Source.ofText t' path = Source.ofText t path :=
    fun t' h => ofText_linewise (h.imp fun _ _ => Reader.moved_of_trimEnd_eq) path
  refine ⟨fun n extra t' h hextra => ofText_inserted h hextra path, ?_, htrimEnd,
    htrimEnd t.withReturns (Text.linewise_trimEnd_withReturns t)⟩
  intro margin t' hmargin h
  have hmoved : Text.Linewise (Reader.Moved (Text.byteLength margin)) t t' := by
    apply h.imp
    rintro line line' (rfl | ⟨rfl, rfl⟩)
    · exact Reader.moved_append margin line hmargin
    · exact Reader.moved_blank _
  exact ofText_linewise hmoved path

theorem ofText_layout_continued :
    ∃ source, Source.ofText "[main]\nport = 1\n  2\n  3\nhost = h" none = .ok source ∧
      source.get? "main" "host" = some ⟨"host", "h", 5⟩ ∧
      Source.ofText "[main]\nport = 1\n  2\n ; off\n\t\n  3\nhost = h" none =
        .ok (source.relabel id (Text.numberAfter 3 2)) ∧
      Source.ofText " [main]\n port = 1\n   2\n   3\n host = h" none = .ok source ∧
      Source.ofText "[main] \nport = 1\t\r\n  2\n  3\r\nhost = h" none = .ok source := by
  obtain ⟨source, hsource⟩ : ∃ source,
      Source.ofText "[main]\nport = 1\n  2\n  3\nhost = h" none = .ok source := ⟨_, rfl⟩
  have hinserted : Text.Inserted 3 [" ; off", "\t"] "[main]\nport = 1\n  2\n  3\nhost = h"
      "[main]\nport = 1\n  2\n ; off\n\t\n  3\nhost = h" :=
    ⟨["[main]", "port = 1", "  2"], ["  3", "host = h"], by decide, rfl, by decide⟩
  obtain ⟨hextra, hmargin, htrimEnd, -⟩ := ofText_layout "[main]\nport = 1\n  2\n  3\nhost = h" none
  refine ⟨source, hsource, ?_, ?_, ?_, ?_⟩
  · cases hsource
    rfl
  · rw [hextra 3 _ _ hinserted, hsource]
    · rfl
    · intro line hline
      rcases List.mem_pair.mp hline with rfl | rfl
      · rintro c ⟨⟩
        decide
      · rintro c ⟨⟩
  · have hblank : ∀ c ∈ " ".toList, Unicode.isBlank c = true := List.all_eq_true.mp (by decide)
    rw [hmargin " " _ hblank (by unfold Text.Linewise; decide), hsource]
  · rw [htrimEnd _ (by unfold Text.Linewise; decide), hsource]

end IniSchema.Source
