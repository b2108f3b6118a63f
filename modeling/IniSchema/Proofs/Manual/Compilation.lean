import IniSchema.Proofs.Manual.Steps

/-!
# Compilation of manuals

Whether a manual is compiled and into what is a matter of its lines alone.  The draft follows the
lines as long as they are ordered; the first line that is not ends the run with its fault.  At the
end only the section of the default environment is left to ask for.
-/

namespace IniSchema.Manual

/-! ## What a manual says -/

def linesAt (items : List (Nat × Text)) : List Line := linesOf (items.map Prod.snd)

def manualLines (manual : Text) : List Line := linesAt (significantLines manual)

theorem linesAt_concat (items : List (Nat × Text)) (number : Nat) (text : Text) :
    linesAt (items ++ [(number, text)]) =
      linesAt items ++ [Line.classify (sectionOpen (linesAt items)) text] := by
  rw [linesAt, List.map_append]
  exact linesOf_concat _ text

theorem Ordered.of_append {items : List (Nat × Text)} (rest : List (Nat × Text))
    (h : Ordered (linesAt (items ++ rest))) : Ordered (linesAt items) := by
  induction rest using List.reverseRecOn with
  | nil => simpa using h
  | append_singleton rest last ih =>
      obtain ⟨number, text⟩ := last
      rw [← List.append_assoc, linesAt_concat, ordered_concat] at h
      exact ih h.1

theorem named_of_defaultHasSection {lines : List Line} (h : Ordered lines)
    (hsection : DefaultHasSection lines) : named lines := by
  obtain ⟨block, hblock, -, -⟩ := hsection
  obtain ⟨line, hline, hname⟩ := exists_head_of_mem_blocks hblock
  obtain rfl := Line.environmentName?_eq_some.mp hname
  exact named_of_mem h hline rfl

/-- The first text that breaks a rule, and the fault that it is blamed for. -/
def FirstOffence (items : List (Nat × Text)) (fault : Fault) : Prop :=
  ∃ before number text after, items = before ++ (number, text) :: after ∧
    Ordered (linesAt before) ∧ ¬ Ordered (linesAt (before ++ [(number, text)])) ∧
    fault? (linesAt before) number text (Line.classify (sectionOpen (linesAt before)) text) =
      some fault

/-- The parts of a schema are those of the lines, in their order. -/
structure DeclaredBy (s : Schema) (lines : List Line) : Prop where
  appName : (lines.filterMap Line.applicationName?).head? = some s.appName
  environments : s.environments.Lists EnvironmentDeclaredBy Prod.fst (environmentBlocks lines)

/-! ## Runs of a draft -/

namespace Draft

private def Tracks (items : List (Nat × Text)) (d : Draft) : Prop :=
  Ordered (linesAt items) ∧ Follows d (linesAt items)

private theorem tracks_blank : Tracks [] blank := by
  refine ⟨?_, follows_blank⟩
  constructor <;> simp [linesAt, linesOf, environmentKeys, environmentBlocks, blocks]

private theorem Tracks.step {items : List (Nat × Text)} {d d' : Draft} {number : Nat}
    {text : Text} (h : Tracks items d) (hstep : d.step number text = .ok d') :
    Tracks (items ++ [(number, text)]) d' := by
  obtain ⟨hordered, hfollows⟩ := h
  obtain ⟨hfault, hnext⟩ := hfollows.step_spec number text
  unfold Tracks
  rw [linesAt_concat, ordered_concat]
  cases hline : fault? (linesAt items) number text
      (Line.classify (sectionOpen (linesAt items)) text) with
  | some fault =>
      rw [hfault fault hline] at hstep
      cases hstep
  | none =>
      obtain ⟨next, hok, hnextFollows⟩ := hnext hline
      rw [hok] at hstep
      cases hstep
      exact ⟨⟨hordered, (fault?_eq_none_iff hordered).mp hline⟩, hnextFollows⟩

private theorem Tracks.step_error {items : List (Nat × Text)} {d : Draft} {number : Nat}
    {text : Text} {fault : Fault} (h : Tracks items d)
    (hstep : d.step number text = .error fault) :
    ¬ Ordered (linesAt (items ++ [(number, text)])) ∧
      fault? (linesAt items) number text (Line.classify (sectionOpen (linesAt items)) text) =
        some fault := by
  obtain ⟨hordered, hfollows⟩ := h
  obtain ⟨hfault, hnext⟩ := hfollows.step_spec number text
  rw [linesAt_concat, ordered_concat]
  cases hline : fault? (linesAt items) number text
      (Line.classify (sectionOpen (linesAt items)) text) with
  | some other =>
      rw [hfault other hline] at hstep
      cases hstep
      refine ⟨?_, rfl⟩
      rintro ⟨-, hallowed⟩
      rw [(fault?_eq_none_iff hordered).mpr hallowed] at hline
      cases hline
  | none =>
      obtain ⟨next, hok, -⟩ := hnext hline
      rw [hok] at hstep
      cases hstep

theorem ofLines_ok {items : List (Nat × Text)} {d : Draft} (h : blank.ofLines items = .ok d) :
    Ordered (linesAt items) ∧ Follows d (linesAt items) :=
  Run.invariant_of_ok Tracks tracks_blank
    (fun _ _ _ _ _ _ hs hstep => hs.step hstep) h

theorem ofLines_error {items : List (Nat × Text)} {fault : Fault}
    (h : blank.ofLines items = .error fault) : FirstOffence items fault := by
  obtain ⟨before, ⟨number, text⟩, after, d, hitems, htracks, hstep⟩ :=
    Run.exists_of_error Tracks tracks_blank
      (fun _ _ _ _ _ _ hs hstep => hs.step hstep) h
  exact ⟨before, number, text, after, hitems, htracks.1, htracks.step_error hstep⟩

theorem exists_of_ordered {items : List (Nat × Text)} (h : Ordered (linesAt items)) :
    ∃ d, blank.ofLines items = .ok d ∧ Follows d (linesAt items) := by
  cases hrun : blank.ofLines items with
  | ok d => exact ⟨d, rfl, (ofLines_ok hrun).2⟩
  | error fault =>
      obtain ⟨before, number, text, after, rfl, -, hbroken, -⟩ := ofLines_error hrun
      -- The lines up to the offence are not ordered, which those of an ordered manual are.
      have hsplit : before ++ (number, text) :: after = (before ++ [(number, text)]) ++ after := by
        simp
      rw [hsplit] at h
      exact absurd h.of_append hbroken

theorem ofLines_of_firstOffence {items : List (Nat × Text)} {fault : Fault}
    (h : FirstOffence items fault) : blank.ofLines items = .error fault := by
  obtain ⟨before, number, text, after, rfl, hordered, -, hfault⟩ := h
  obtain ⟨d, hrun, hfollows⟩ := exists_of_ordered hordered
  have hstep := (hfollows.step_spec number text).1 fault hfault
  unfold ofLines at hrun ⊢
  rw [List.foldlM_append, hrun]
  change (d.step number text).bind _ = _
  rw [hstep]
  rfl

/-! ## The end of a run -/

variable {d : Draft} {lines : List Line}

private theorem isEmpty_iff {e : Environment} {block : Text × List Line}
    (h : EnvironmentDeclaredBy e block) : e.sections.isEmpty = true ↔ sectionKeys block.2 = [] := by
  rw [← keys_sections h.2, OrderedMap.isEmpty, OrderedMap.keys, List.isEmpty_iff,
    List.map_eq_nil_iff]

theorem finish_of_section (h : Follows d lines) (hsection : DefaultHasSection lines) :
    d.finish = .ok ⟨d.appName.getD [], d.environments⟩ := by
  obtain ⟨block, hblock, hkey, hne⟩ := hsection
  obtain ⟨e, he, hdeclared⟩ := h.environments.get?_of_mem hblock
  rw [hkey] at he
  simp [finish, he, mt (isEmpty_iff hdeclared).mp hne]

theorem finish_of_no_section (h : Follows d lines) (hsection : ¬ DefaultHasSection lines) :
    d.finish = .error (.declaration 0 [] Offence.noDefaultSection.reason) := by
  cases he : d.environments.get? Environment.defaultName with
  | none => simp [finish, he]
  | some e =>
      obtain ⟨block, hblock, hkey, hdeclared⟩ := h.environments.exists_of_get? he
      have hempty : sectionKeys block.2 = [] := by
        by_contra hne
        exact hsection ⟨block, hblock, hkey.symm, hne⟩
      simp [finish, he, (isEmpty_iff hdeclared).mpr hempty]

end Draft

/-! ## Schemas of manuals -/

private theorem ofManual_of_ordered {manual : Text} (h : Ordered (manualLines manual)) :
    ∃ d, Schema.ofManual manual = d.finish ∧ Follows d (manualLines manual) := by
  obtain ⟨d, hrun, hfollows⟩ := Draft.exists_of_ordered h
  refine ⟨d, ?_, hfollows⟩
  rw [Schema.ofManual, hrun]
  rfl

private theorem ofManual_of_firstOffence {manual : Text} {fault : Fault}
    (h : FirstOffence (significantLines manual) fault) : Schema.ofManual manual = .error fault := by
  rw [Schema.ofManual, Draft.ofLines_of_firstOffence h]
  rfl

private theorem ordered_or_firstOffence (manual : Text) :
    Ordered (manualLines manual) ∨ ∃ fault, FirstOffence (significantLines manual) fault := by
  cases hrun : Draft.blank.ofLines (significantLines manual) with
  | ok d => exact .inl (Draft.ofLines_ok hrun).1
  | error fault => exact .inr ⟨fault, Draft.ofLines_error hrun⟩

theorem ofManual_grammatical {manual : Text} (h : Grammatical (manualLines manual)) :
    ∃ s, Schema.ofManual manual = .ok s := by
  obtain ⟨d, hd, hfollows⟩ := ofManual_of_ordered h.toOrdered
  exact ⟨_, hd.trans (Draft.finish_of_section hfollows h.default_has_section)⟩

theorem of_ofManual_ok {manual : Text} {s : Schema} (h : Schema.ofManual manual = .ok s) :
    Grammatical (manualLines manual) ∧ DeclaredBy s (manualLines manual) := by
  rcases ordered_or_firstOffence manual with hordered | ⟨fault, hoffence⟩
  · obtain ⟨d, hd, hfollows⟩ := ofManual_of_ordered hordered
    rw [hd] at h
    by_cases hsection : DefaultHasSection (manualLines manual)
    · rw [Draft.finish_of_section hfollows hsection] at h
      cases h
      refine ⟨⟨hordered, hsection⟩, ?_, hfollows.environments⟩
      have hname := named_of_defaultHasSection hordered hsection
      rw [← hfollows.isSome_appName] at hname
      rw [← hfollows.appName]
      cases happ : d.appName with
      | none => simp [happ] at hname
      | some name => rfl
    · rw [Draft.finish_of_no_section hfollows hsection] at h
      cases h
  · rw [ofManual_of_firstOffence hoffence] at h
    cases h

/-- Manuals are compiled exactly if they are grammatical.  Any other is refused with the fault of
the first line that breaks a rule, or for the section that the default environment lacks. -/
theorem ofManual_iff_grammatical (manual : Text) :
    ((∃ s, Schema.ofManual manual = .ok s) ↔ Grammatical (manualLines manual)) ∧
    ∀ fault, Schema.ofManual manual = .error fault ↔
      FirstOffence (significantLines manual) fault ∨
        Ordered (manualLines manual) ∧ ¬ DefaultHasSection (manualLines manual) ∧
          fault = .declaration 0 [] Offence.noDefaultSection.reason := by
  constructor
  · constructor
    · rintro ⟨s, hs⟩
      exact (of_ofManual_ok hs).1
    · exact ofManual_grammatical
  · intro fault
    constructor
    · intro herror
      rcases ordered_or_firstOffence manual with hordered | ⟨other, hoffence⟩
      · right
        have hsection : ¬ DefaultHasSection (manualLines manual) := by
          intro hsection
          obtain ⟨s, hs⟩ := ofManual_grammatical ⟨hordered, hsection⟩
          rw [hs] at herror
          cases herror
        obtain ⟨d, hd, hfollows⟩ := ofManual_of_ordered hordered
        rw [hd, Draft.finish_of_no_section hfollows hsection] at herror
        cases herror
        exact ⟨hordered, hsection, rfl⟩
      · left
        rw [ofManual_of_firstOffence hoffence] at herror
        cases herror
        exact hoffence
    · rintro (hoffence | ⟨hordered, hsection, rfl⟩)
      · exact ofManual_of_firstOffence hoffence
      · obtain ⟨d, hd, hfollows⟩ := ofManual_of_ordered hordered
        exact hd.trans (Draft.finish_of_no_section hfollows hsection)

end IniSchema.Manual
