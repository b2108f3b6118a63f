import IniSchema.Manual.Draft
import IniSchema.Proofs.Case
import IniSchema.Proofs.Layout

/-!
# The layout of a manual

Prose, comments and blank lines may stand anywhere in a manual, and white space around a line does
not count, nor do carriage returns.  The same schema is compiled, or the same fault is found, on
lines that are numbered as they then are.
-/

namespace IniSchema.Manual

open Unicode

/-! ## Faults on other lines -/

/-- The same fault, where line `n` is line `number n`. -/
inductive Renumbered (number : Nat → Nat) : Fault → Fault → Prop where
  | declaration (line : Nat) (text reason : Text) :
      Renumbered number (.declaration line text reason) (.declaration (number line) text reason)
  | misread (line : Nat) (value target reason : Text) :
      Renumbered number (Draft.atLine line (.misread value target reason))
        (Draft.atLine (number line) (.misread value target reason))

inductive SameUpTo {α : Type} (number : Nat → Nat) : Except Fault α → Except Fault α → Prop where
  | ok (a : α) : SameUpTo number (.ok a) (.ok a)
  | error {fault fault' : Fault} (h : Renumbered number fault fault') :
      SameUpTo number (.error fault) (.error fault')

section Outcomes

variable {α β : Type} {number : Nat → Nat}

theorem sameUpTo_ok_iff {a : α} {result : Except Fault α} :
    SameUpTo number (.ok a) result ↔ result = .ok a := by
  constructor
  · rintro ⟨⟩
    rfl
  · rintro rfl
    exact .ok a

theorem sameUpTo_error_iff {fault : Fault} {result : Except Fault α} :
    SameUpTo number (.error fault) result ↔
      ∃ fault', result = .error fault' ∧ Renumbered number fault fault' := by
  constructor
  · rintro (_ | h)
    exact ⟨_, rfl, h⟩
  · rintro ⟨fault', rfl, h⟩
    exact .error h

theorem SameUpTo.bind {result result' : Except Fault α} {next next' : α → Except Fault β}
    (h : SameUpTo number result result') (hnext : ∀ a, SameUpTo number (next a) (next' a)) :
    SameUpTo number (result.bind next) (result'.bind next') := by
  cases h with
  | ok a => exact hnext a
  | error h => exact .error h

theorem sameUpTo_mapError (line : Nat) (text : Text) (result : Except Offence α) :
    SameUpTo number (result.mapError fun o => Fault.declaration line text o.reason)
      (result.mapError fun o => Fault.declaration (number line) text o.reason) := by
  cases result with
  | ok a => exact .ok a
  | error offence => exact .error (.declaration line text offence.reason)

end Outcomes

/-! ## Steps on other lines -/

theorem exists_misread_of_ofName {t : Text} {fault : Fault}
    (h : ValueType.ofName t = .error fault) :
    ∃ value target reason, fault = .misread value target reason := by
  simp only [ValueType.ofName] at h
  split at h
  · cases h
  · split at h
    · cases h
    · split at h
      · cases h
      · split at h
        · cases h
        · cases h
          exact ⟨_, _, _, rfl⟩

theorem exists_misread_of_read {type : ValueType} {t : Text} {fault : Fault}
    (h : type.read t = .error fault) :
    ∃ value target reason, fault = .misread value target reason := by
  unfold ValueType.read at h
  split at h
  · cases h
  · cases h
    exact ⟨_, _, _, rfl⟩

namespace Draft

variable {number : Nat → Nat}

theorem exists_misread_of_readSpec {spec : Option Text} {fault : Fault}
    (h : readSpec spec = .error fault) :
    ∃ value target reason, fault = .misread value target reason := by
  cases spec with
  | none => cases h
  | some spec =>
      unfold readSpec at h
      cases hcut : spec.cut? (· == ':') with
      | none =>
          cases hname : ValueType.ofName spec with
          | error other =>
              simp only [hcut, hname, Except.map, Except.error.injEq] at h
              exact h ▸ exists_misread_of_ofName hname
          | ok type => simp [hcut, hname, Except.map] at h
      | some cut =>
          cases hname : ValueType.ofName cut.1 with
          | error other =>
              simp only [hcut, hname, Except.error.injEq] at h
              exact h ▸ exists_misread_of_ofName hname
          | ok type =>
              cases hread : type.read cut.2 with
              | error other =>
                  simp only [hcut, hname, hread, Except.map, Except.error.injEq] at h
                  exact h ▸ exists_misread_of_read hread
              | ok value => simp [hcut, hname, hread, Except.map] at h

theorem step_sameUpTo (number : Nat → Nat) (d : Draft) (line : Nat) (text : Text) :
    SameUpTo number (d.step line text) (d.step (number line) text) := by
  unfold step
  cases Line.classify d.openSection.isSome text with
  | appName name => exact sameUpTo_mapError line text _
  | environment name => exact sameUpTo_mapError line text _
  | sectionHeader name => exact sameUpTo_mapError line text _
  | declaration ident spec description =>
      cases d.variableOffence? with
      | some offence => exact .error (.declaration line text offence.reason)
      | none =>
          cases hspec : readSpec spec with
          | error fault =>
              obtain ⟨value, target, reason, rfl⟩ := exists_misread_of_readSpec hspec
              simp only [hspec]
              exact .error (.misread line value target reason)
          | ok read =>
              simp only [hspec]
              exact sameUpTo_mapError line text _
  | malformed => exact .error (.declaration line text _)
  | continuation words => exact .ok _
  | prose => exact .ok d

theorem finish_sameUpTo (hmanual : number 0 = 0) (d : Draft) :
    SameUpTo number d.finish d.finish := by
  have hfault : Renumbered number (.declaration 0 [] Offence.noDefaultSection.reason)
      (.declaration (number 0) [] Offence.noDefaultSection.reason) := .declaration 0 [] _
  rw [hmanual] at hfault
  unfold finish
  split
  · split
    · exact .error hfault
    · exact .ok _
  · exact .error hfault

end Draft

/-! ## Prose -/

namespace Line

variable {line : Text}

/-- A line that names the application declares a variable where a section is open. -/
theorem exists_declaration?_of_appName? {name : Text} (h : appName? line = some name) :
    ∃ ident description, declaration? line = some (.declaration ident none description) := by
  unfold appName? at h
  split at h
  · rename_i hword
    have hident : ∀ c ∈ line.take 4, isWord c = true := by
      intro c hc
      have hmem : c.toLower ∈ Text.asciiLower (line.take 4) := List.mem_map_of_mem hc
      rw [hword] at hmem
      rw [← isWord_toLower]
      exact List.all_eq_true.mp (by decide : "name".toList.all isWord = true) c.toLower hmem
    have hne : line.take 4 ≠ [] := by
      intro hnil
      rw [hnil] at hword
      cases hword
    split at h
    · rename_i rest hrest
      -- The word ends where the white space or the colon begins.
      have hend : ∀ c, (line.drop 4).head? = some c → isWord c = false := by
        intro c hc
        cases hdrop : line.drop 4 with
        | nil => simp [hdrop] at hc
        | cons d ds =>
            obtain rfl : d = c := by simpa [hdrop] using hc
            by_cases hblank : isBlank d = true
            · rw [← Bool.not_eq_true]
              intro hword
              rw [isBlank_of_isWord hword] at hblank
              cases hblank
            · rw [hdrop, Text.trimStart, List.dropWhile_cons_of_neg hblank] at hrest
              obtain ⟨rfl, -⟩ := List.cons.inj hrest
              decide
      have hspan := Text.span_append (line.drop 4) hident hend
      rw [List.take_append_drop] at hspan
      refine ⟨line.take 4, Text.trim rest, ?_⟩
      simp [declaration?, hspan.1, hspan.2, hne, hrest]
    · cases h
  · cases h

theorem ofForm_ne_prose {name : Text} (h : appName? line = some name) : ofForm line ≠ .prose := by
  obtain ⟨ident, description, hfound⟩ := exists_declaration?_of_appName? h
  unfold ofForm
  rw [hfound]
  cases header? '\x7b' '\x7d' line with
  | some environment => simp
  | none => cases header? '[' ']' line <;> simp

/-- A line is prose whether or not a section is open. -/
theorem classify_eq_prose_iff (sectionOpen : Bool) :
    classify sectionOpen line = .prose ↔ classify true line = .prose := by
  cases sectionOpen with
  | true => rfl
  | false =>
      unfold classify
      split
      · rfl
      · cases hname : appName? line with
        | none => simp
        | some name => simpa using ofForm_ne_prose hname

end Line

/-- The same numbered lines under other numbers, with prose between them. -/
inductive Spaced (number : Nat → Nat) : List (Nat × Text) → List (Nat × Text) → Prop where
  | nil : Spaced number [] []
  | line {lines lines' : List (Nat × Text)} (n : Nat) (text : Text)
      (hlines : Spaced number lines lines') :
      Spaced number ((n, text) :: lines) ((number n, text) :: lines')
  | prose {lines lines' : List (Nat × Text)} (n : Nat) {text : Text}
      (hprose : Line.classify true text = .prose) (hlines : Spaced number lines lines') :
      Spaced number lines ((n, text) :: lines')

section Lines

variable {number : Nat → Nat} {lines lines' : List (Nat × Text)}

theorem Spaced.append {more more' : List (Nat × Text)} (h : Spaced number lines lines')
    (hmore : Spaced number more more') : Spaced number (lines ++ more) (lines' ++ more') := by
  induction h with
  | nil => exact hmore
  | line n text _ ih => exact .line n text ih
  | prose n hprose _ ih => exact .prose n hprose ih

theorem Draft.step_prose (d : Draft) (n : Nat) {text : Text}
    (hprose : Line.classify true text = .prose) : d.step n text = .ok d := by
  rw [step, (Line.classify_eq_prose_iff _).mpr hprose]

theorem Draft.ofLines_cons (d : Draft) (n : Nat) (text : Text) (lines : List (Nat × Text)) :
    d.ofLines ((n, text) :: lines) = (d.step n text).bind fun d' => d'.ofLines lines :=
  List.foldlM_cons ..

theorem Draft.ofLines_append (d : Draft) (front back : List (Nat × Text)) :
    d.ofLines (front ++ back) = (d.ofLines front).bind fun d' => d'.ofLines back :=
  List.foldlM_append ..

theorem Spaced.ofLines (h : Spaced number lines lines') (d : Draft) :
    SameUpTo number (d.ofLines lines) (d.ofLines lines') := by
  induction h generalizing d with
  | nil => exact .ok d
  | line n text _ ih =>
      rw [Draft.ofLines_cons, Draft.ofLines_cons]
      exact (d.step_sameUpTo number n text).bind ih
  | prose n hprose _ ih =>
      rw [Draft.ofLines_cons, d.step_prose n hprose]
      exact ih d

end Lines

/-! ## The lines of a manual -/

/-- The significant ones of the lines, which are numbered from `n`. -/
def significantFrom (n : Nat) (lines : List Text) : List (Nat × Text) :=
  ((lines.map Text.trim).zipIdx n).filterMap fun (line, number) =>
    if significant line then some (number, line) else none

section Significant

variable {number : Nat → Nat}

theorem significantFrom_cons (n : Nat) (line : Text) (lines : List Text) :
    significantFrom n (line :: lines) = if significant line.trim then
      (n, line.trim) :: significantFrom (n + 1) lines else significantFrom (n + 1) lines := by
  rw [significantFrom, List.map_cons, List.zipIdx_cons, List.filterMap_cons]
  cases hsignificant : significant line.trim <;> simp [hsignificant, significantFrom]

theorem significantFrom_append (n : Nat) (front back : List Text) :
    significantFrom n (front ++ back) =
      significantFrom n front ++ significantFrom (n + front.length) back := by
  simp [significantFrom, List.zipIdx_append, List.filterMap_append]

/-- The pieces of a manual between its newlines hold its significant lines. -/
theorem significantLines_eq (manual : Text) :
    significantLines manual = significantFrom 1 (manual.split '\n') := by
  obtain ⟨front, last, hsplit, hlines⟩ := Text.exists_pieces manual
  have hchomp : (front.map Text.chomp).map Text.trim = front.map Text.trim := by
    rw [List.map_map]
    exact List.map_congr_left fun line _ => Text.trim_chomp line
  have hfront : significantFrom 1 (front.map Text.chomp) = significantFrom 1 front := by
    rw [significantFrom, significantFrom, hchomp]
  change significantFrom 1 manual.lines = _
  rw [hsplit, hlines, significantFrom_append, significantFrom_append, hfront, List.length_map]
  congr 1
  by_cases hempty : last = []
  · subst hempty
    rfl
  · simp [hempty]

/-- Lines that come after a manual are numbered after its own. -/
theorem significantLines_append_cons (front back : Text) :
    significantLines (front ++ '\n' :: back) = significantLines front ++
      significantFrom (1 + (front.split '\n').length) (back.split '\n') := by
  rw [significantLines_eq, significantLines_eq, Text.split_append_cons, significantFrom_append]

theorem spaced_significantFrom (lines : List Text) {n m : Nat}
    (hnumber : Text.Consecutive number n m lines.length) :
    Spaced number (significantFrom n lines) (significantFrom m lines) := by
  induction lines generalizing n m with
  | nil => exact .nil
  | cons line rest ih =>
      obtain ⟨hfirst, hrest⟩ := Text.consecutive_succ.mp hnumber
      rw [significantFrom_cons, significantFrom_cons, ← hfirst]
      rw [← hfirst] at hrest
      split
      · exact .line n line.trim (ih hrest)
      · exact ih hrest

theorem spaced_prose {lines : List Text} (h : ∀ line ∈ lines,
    Text.BlankOrMarked ['#'] line ∨ Line.classify true line.trim = .prose) (n : Nat) :
    Spaced number [] (significantFrom n lines) := by
  induction lines generalizing n with
  | nil => exact .nil
  | cons line rest ih =>
      rw [List.forall_mem_cons] at h
      have hrest := ih h.2 (n + 1)
      rw [significantFrom_cons]
      split
      · rename_i hsignificant
        rcases h.1 with hskipped | hprose
        · rcases hskipped.trim with hempty | ⟨c, hmark, hhead⟩
          · simp [significant, hempty] at hsignificant
          · obtain rfl := List.mem_singleton.mp hmark
            simp [significant, hhead] at hsignificant
        · exact .prose n hprose hrest
      · exact hrest

end Significant

/-! ## Manuals that say the same -/

section Manuals

variable {manual manual' : Text}

theorem ofManual_inserted {n : Nat} {extra : List Text}
    (h : Text.Inserted n extra manual manual') (hextra : ∀ line ∈ extra,
      Text.BlankOrMarked ['#'] line ∨ Line.classify true line.trim = .prose) :
    SameUpTo (Text.numberAfter n extra.length) (Schema.ofManual manual)
      (Schema.ofManual manual') := by
  obtain ⟨front, back, hsplit, rfl, hsplit'⟩ := h
  have hspaced : Spaced (Text.numberAfter front.length extra.length) (significantLines manual)
      (significantLines manual') := by
    rw [significantLines_eq, significantLines_eq, hsplit, hsplit', List.append_assoc,
      significantFrom_append, significantFrom_append, significantFrom_append]
    exact (spaced_significantFrom front (Text.consecutive_numberAfter_front _ _)).append
      ((spaced_prose hextra _).append
        (spaced_significantFrom back (Text.consecutive_numberAfter_back _ _ _)))
  have hzero : Text.numberAfter front.length extra.length 0 = 0 := by
    rw [Text.numberAfter, if_pos (Nat.zero_le _)]
  exact (hspaced.ofLines .blank).bind fun d => d.finish_sameUpTo hzero

theorem ofManual_linewise (h : Text.Linewise (fun line line' => line'.trim = line.trim) manual
    manual') : Schema.ofManual manual' = Schema.ofManual manual := by
  have htrim : (manual'.split '\n').map Text.trim = (manual.split '\n').map Text.trim := by
    unfold Text.Linewise at h
    generalize manual.split '\n' = lines, manual'.split '\n' = lines' at h
    induction h with
    | nil => rfl
    | cons hline _ ih => rw [List.map_cons, List.map_cons, hline, ih]
  rw [Schema.ofManual, Schema.ofManual, significantLines_eq, significantLines_eq, significantFrom,
    significantFrom, htrim]

/-- Lines that are prose, comments or blank and white space around lines do not count, however
lines are ended. -/
theorem ofManual_layout (manual : Text) :
    (∀ line, Line.classify true line = .prose ↔ Line.classify false line = .prose) ∧
    (∀ n extra manual', Text.Inserted n extra manual manual' →
      (∀ line ∈ extra, Text.BlankOrMarked ['#'] line ∨
        ∃ sectionOpen, Line.classify sectionOpen line.trim = .prose) →
      SameUpTo (Text.numberAfter n extra.length) (Schema.ofManual manual)
        (Schema.ofManual manual')) ∧
    (∀ manual', Text.Linewise (fun line line' => line'.trim = line.trim) manual manual' →
      Schema.ofManual manual' = Schema.ofManual manual) ∧
    Schema.ofManual manual.withReturns = Schema.ofManual manual := by
  refine ⟨fun line => (Line.classify_eq_prose_iff false).symm, ?_, fun _ => ofManual_linewise, ?_⟩
  · intro n extra manual' h hextra
    refine ofManual_inserted h fun line hline => (hextra line hline).imp_right ?_
    rintro ⟨sectionOpen, hprose⟩
    exact (Line.classify_eq_prose_iff sectionOpen).mp hprose
  · exact ofManual_linewise ((Text.linewise_trimEnd_withReturns manual).imp
      fun _ _ => Text.trim_of_trimEnd_eq)

theorem ofManual_layout_continued :
    (∃ s, Schema.ofManual "name: app\n\x7bdefault\x7d\n[main]\nhost: h\n> more" = .ok s ∧
      Schema.ofManual
        "name: app\n\x7bdefault\x7d\n[main]\nhost: h\n\t\n # off\nSome words.\n> more" = .ok s ∧
      Schema.ofManual " name: app\r\n\x7bdefault\x7d \n[main]\r\n\thost: h\r\n> more" = .ok s) ∧
    ∃ fault fault', Schema.ofManual "name: app\n\x7bdefault\x7d\n[main]\nport (int:x): p" =
        .error fault ∧
      Schema.ofManual "name: app\n\x7bdefault\x7d\n[main]\nSome words.\nport (int:x): p" =
        .error fault' ∧
      Renumbered (Text.numberAfter 3 1) fault fault' := by
  have hwords : ∃ sectionOpen,
      Line.classify sectionOpen (Text.trim "Some words.") = .prose := ⟨true, by decide⟩
  constructor
  · obtain ⟨-, hextra, htrim, -⟩ :=
      ofManual_layout "name: app\n\x7bdefault\x7d\n[main]\nhost: h\n> more"
    obtain ⟨s, hs⟩ : ∃ s, Schema.ofManual
      "name: app\n\x7bdefault\x7d\n[main]\nhost: h\n> more" = .ok s := ⟨_, rfl⟩
    have hsame := hextra 4 ["\t", " # off", "Some words."]
      "name: app\n\x7bdefault\x7d\n[main]\nhost: h\n\t\n # off\nSome words.\n> more"
      ⟨["name: app", "\x7bdefault\x7d", "[main]", "host: h"], ["> more"], by decide +kernel, rfl,
        by decide +kernel⟩ (by
      intro line hline
      rcases List.mem_cons.mp hline with rfl | hline
      · left
        rintro c ⟨⟩
      · rcases List.mem_pair.mp hline with rfl | rfl
        · left
          rintro c ⟨⟩
          decide
        · exact .inr hwords)
    rw [hs, sameUpTo_ok_iff] at hsame
    exact ⟨s, hs, hsame, by rw [htrim _ (by unfold Text.Linewise; decide +kernel), hs]⟩
  · obtain ⟨-, hextra, -⟩ :=
      ofManual_layout "name: app\n\x7bdefault\x7d\n[main]\nport (int:x): p"
    obtain ⟨fault, hfault⟩ : ∃ fault, Schema.ofManual
      "name: app\n\x7bdefault\x7d\n[main]\nport (int:x): p" = .error fault := ⟨_, rfl⟩
    have hsame := hextra 3 ["Some words."]
      "name: app\n\x7bdefault\x7d\n[main]\nSome words.\nport (int:x): p"
      ⟨["name: app", "\x7bdefault\x7d", "[main]"], ["port (int:x): p"], by decide +kernel, rfl,
        by decide +kernel⟩
      (by
        intro line hline
        obtain rfl := List.mem_singleton.mp hline
        exact .inr hwords)
    rw [hfault, sameUpTo_error_iff] at hsame
    obtain ⟨fault', hfault', hrenumbered⟩ := hsame
    exact ⟨fault, fault', hfault, hfault', hrenumbered⟩

end Manuals

end IniSchema.Manual
