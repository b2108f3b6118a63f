import IniSchema.Proofs.Manual.Written

/-!
# What is open in a draft

A draft keeps the keys of the environment, the section and the variable that are open, and each
line looks them up again.  `Anchored` says that every key that is kept leads to something.  It is
what each accepted line keeps, so that no look-up of a run comes back with nothing, and what
continues a description reaches the variable that was declared last.
-/

namespace IniSchema.Manual.Draft

variable {d d' : Draft} {line : Line} {number : Nat} {text : Text}

/-! ## Look-ups by the keys that are kept -/

def openedEnvironment? (d : Draft) : Option Environment :=
  d.openEnvironment.bind d.environments.get?

def openedSection? (d : Draft) : Option Section :=
  d.openedEnvironment?.bind fun e => d.openSection.bind e.sections.get?

def openedVariable? (d : Draft) : Option Variable :=
  d.openedSection?.bind fun s => d.openVariable.bind s.declared.get?

theorem environment?_of_opened {e : Environment} (h : d.openedEnvironment? = some e) :
    d.environment? = some e := by
  obtain ⟨key, hkey, he⟩ := Option.bind_eq_some_iff.mp h
  rwa [environment?, environmentKey, hkey]

theorem section?_of_opened {s : Section} (h : d.openedSection? = some s) :
    d.section? = some s := by
  obtain ⟨e, he, hs⟩ := Option.bind_eq_some_iff.mp h
  obtain ⟨key, hkey, hs⟩ := Option.bind_eq_some_iff.mp hs
  rwa [section?, environment?_of_opened he, sectionKey, hkey]

theorem openedEnvironment?_modifySections (d : Draft)
    (f : OrderedMap Section → OrderedMap Section) :
    (d.modifySections f).openedEnvironment? =
      d.openedEnvironment?.map fun e => { e with sections := f e.sections } := by
  simp only [openedEnvironment?, modifySections]
  cases hkey : d.openEnvironment with
  | none => rfl
  | some key => simp [environmentKey, hkey, OrderedMap.get?_modify]

theorem openedSection?_modifyVariables (d : Draft)
    (f : OrderedMap Variable → OrderedMap Variable) :
    (d.modifyVariables f).openedSection? =
      d.openedSection?.map fun s => { s with declared := f s.declared } := by
  rw [openedSection?, modifyVariables, openedEnvironment?_modifySections, openedSection?]
  simp only [modifySections]
  cases hkey : d.openSection with
  | none => simp
  | some key =>
      cases d.openedEnvironment? with
      | none => rfl
      | some e => simp [sectionKey, hkey, OrderedMap.get?_modify]

theorem openedVariable?_added (d : Draft) (v : Variable) :
    (d.added v).openedVariable? = d.openedSection?.map fun _ => v := by
  have hsection : (d.added v).openedSection? =
      d.openedSection?.map fun s => { s with declared := s.declared.insert (Name.key v.ident) v } :=
    d.openedSection?_modifyVariables (·.insert (Name.key v.ident) v)
  rw [openedVariable?, hsection]
  cases d.openedSection? with
  | none => rfl
  | some s => simp [added, OrderedMap.get?_insert]

theorem openedVariable?_continueDescription (d : Draft) (text : Text) :
    (d.continueDescription text).openedVariable? =
      d.openedVariable?.map (extendDescription text) := by
  unfold continueDescription
  cases hkey : d.openVariable with
  | none => simp [openedVariable?, hkey]
  | some key =>
      have hkept (f : OrderedMap Variable → OrderedMap Variable) :
          (d.modifyVariables f).openVariable = some key := hkey
      simp only [openedVariable?, openedSection?_modifyVariables, hkept, hkey]
      cases d.openedSection? with
      | none => rfl
      | some s => simp [OrderedMap.get?_modify]

/-! ## Lines that are accepted -/

theorem isSome_openSection_of_place (h : d.variableOffence? = none) : d.openSection.isSome := by
  cases hopen : d.openSection with
  | some key => rfl
  | none =>
      unfold variableOffence? at h
      rw [hopen] at h
      split at h
      · cases h
      · split at h
        · cases h
        · cases h

/-- What a line makes of a draft that accepts it. -/
inductive Accepts (d : Draft) : Line → Draft → Prop where
  | appName {name : Text} (hnone : d.appName = none) :
      Accepts d (.appName name) { d with appName := some name }
  | environment {name : Text} (hname : d.appName.isSome)
      (hnew : Name.key name ∉ d.environments.keys) :
      Accepts d (.environment name)
        { d with
          environments := d.environments.insert (Name.key name) ⟨name, .empty⟩
          openEnvironment := some (Name.key name)
          openSection := none
          openVariable := none }
  | sectionHeader {name : Text} {e : Environment} (hname : d.appName.isSome)
      (hdefault : d.hasDefault) (he : d.environment? = some e)
      (hnew : Name.key name ∉ e.sections.keys) :
      Accepts d (.sectionHeader name)
        { d.modifySections (·.insert (Name.key name) ⟨name, .empty⟩) with
          openSection := some (Name.key name)
          openVariable := none }
  | declaration {ident description : Text} {spec : Option Text} {type : ValueType}
      {default : Option Value} {s : Section} (hplace : d.variableOffence? = none)
      (hspec : readSpec spec = .ok (type, default)) (hs : d.section? = some s)
      (hnew : Name.key ident ∉ s.declared.keys) :
      Accepts d (.declaration ident spec description)
        (d.added ⟨Name.canonical ident, ident, type, default, description⟩)
  | continuation (text : Text) : Accepts d (.continuation text) (d.continueDescription text)
  | prose : Accepts d .prose d

private theorem of_mapError_eq_ok {ε ε' α : Type} {f : ε → ε'} {result : Except ε α} {a : α}
    (h : result.mapError f = .ok a) : result = .ok a := by
  cases result with
  | error e => cases h
  | ok b =>
      cases h
      rfl

theorem accepts_of_declareName {name : Text} (h : d.declareName name = .ok d') :
    d.Accepts (.appName name) d' := by
  unfold declareName at h
  split at h
  · cases h
  · rename_i hname
    cases h
    exact .appName (by simpa using hname)

theorem accepts_of_declareEnvironment {name : Text} (h : d.declareEnvironment name = .ok d') :
    d.Accepts (.environment name) d' := by
  unfold declareEnvironment at h
  split at h
  · cases h
  · rename_i hname
    split at h
    · cases h
    · rename_i hnew
      cases h
      rw [OrderedMap.contains_iff] at hnew
      exact .environment (by simpa [Option.isSome_iff_ne_none] using hname) hnew

theorem accepts_of_declareSection {name : Text} (h : d.declareSection name = .ok d') :
    d.Accepts (.sectionHeader name) d' := by
  unfold declareSection at h
  split at h
  · cases h
  · rename_i hname
    split at h
    · cases h
    · rename_i hdefault
      cases he : d.environment? with
      | none => simp [he] at h
      | some e =>
          simp only [he] at h
          split at h
          · cases h
          · rename_i hnew
            cases h
            rw [OrderedMap.contains_iff] at hnew
            exact .sectionHeader (by simpa [Option.isSome_iff_ne_none] using hname)
              (by simpa using hdefault) he hnew

theorem accepts_of_declareVariable {ident description : Text} {spec : Option Text}
    {type : ValueType} {default : Option Value} (hplace : d.variableOffence? = none)
    (hspec : readSpec spec = .ok (type, default))
    (h : d.declareVariable ⟨Name.canonical ident, ident, type, default, description⟩ = .ok d') :
    d.Accepts (.declaration ident spec description) d' := by
  unfold declareVariable at h
  cases hs : d.section? with
  | none => simp [hs] at h
  | some s =>
      simp only [hs] at h
      split at h
      · cases h
      · rename_i hnew
        cases h
        rw [OrderedMap.contains_iff] at hnew
        exact .declaration hplace hspec hs hnew

theorem accepts_of_step (h : d.step number text = .ok d') :
    d.Accepts (Line.classify d.openSection.isSome text) d' := by
  unfold step at h
  cases hline : Line.classify d.openSection.isSome text with
  | appName name =>
      simp only [hline] at h
      exact accepts_of_declareName (of_mapError_eq_ok h)
  | environment name =>
      simp only [hline] at h
      exact accepts_of_declareEnvironment (of_mapError_eq_ok h)
  | sectionHeader name =>
      simp only [hline] at h
      exact accepts_of_declareSection (of_mapError_eq_ok h)
  | declaration ident spec description =>
      simp only [hline] at h
      cases hplace : d.variableOffence? with
      | some offence => simp [hplace] at h
      | none =>
          cases hspec : readSpec spec with
          | error fault => simp [hplace, hspec] at h
          | ok result =>
              simp only [hplace, hspec] at h
              exact accepts_of_declareVariable hplace hspec (of_mapError_eq_ok h)
  | malformed => simp [hline] at h
  | continuation words =>
      simp only [hline] at h
      cases h
      exact .continuation words
  | prose =>
      simp only [hline] at h
      cases h
      exact .prose

/-! ## What is open is there -/

/-- Every key that is kept leads to something.  An environment is open as soon as there is one,
which takes a name, and a section only where the default environment is declared. -/
structure Anchored (d : Draft) : Prop where
  environments_iff : d.environments.keys ≠ [] ↔ d.openEnvironment.isSome
  named : d.openEnvironment.isSome → d.appName.isSome
  environment_opened : d.openEnvironment.isSome → d.openedEnvironment?.isSome
  section_opened : d.openSection.isSome → d.hasDefault ∧ d.openedSection?.isSome
  variable_opened : d.openVariable.isSome → d.openedVariable?.isSome

theorem anchored_blank : blank.Anchored := by
  constructor <;> simp [blank, OrderedMap.keys, OrderedMap.empty]

namespace Anchored

theorem exists_openedEnvironment? (h : d.Anchored) (hdefault : d.hasDefault) :
    ∃ e, d.openedEnvironment? = some e := by
  have hkeys : d.environments.keys ≠ [] :=
    List.ne_nil_of_mem (OrderedMap.contains_iff.mp hdefault)
  exact Option.isSome_iff_exists.mp (h.environment_opened (h.environments_iff.mp hkeys))

theorem exists_openedSection? (h : d.Anchored) (hopen : d.openSection.isSome) :
    ∃ s, d.openedSection? = some s :=
  Option.isSome_iff_exists.mp (h.section_opened hopen).2

/-- A change of sections keeps the keys of the environments, so that what is left to see is the
section and the variable that are open after it. -/
theorem modifySections (h : d.Anchored) (f : OrderedMap Section → OrderedMap Section)
    (hname : d'.appName = d.appName) (hopen : d'.openEnvironment = d.openEnvironment)
    (henvironments : d'.environments = (d.modifySections f).environments)
    (hsection : d'.openSection.isSome → d.hasDefault ∧ d'.openedSection?.isSome)
    (hvariable : d'.openVariable.isSome → d'.openedVariable?.isSome) : d'.Anchored := by
  have hkeys : d'.environments.keys = d.environments.keys := by
    rw [henvironments]
    exact OrderedMap.keys_modify ..
  have hopened : d'.openedEnvironment? = (d.modifySections f).openedEnvironment? := by
    rw [openedEnvironment?, hopen, henvironments]
    rfl
  constructor
  · rw [hkeys, hopen]
    exact h.environments_iff
  · rw [hopen, hname]
    exact h.named
  · rw [hopen, hopened, openedEnvironment?_modifySections, Option.isSome_map]
    exact h.environment_opened
  · intro hset
    obtain ⟨hdefault, hthere⟩ := hsection hset
    refine ⟨?_, hthere⟩
    rwa [hasDefault, OrderedMap.contains_iff, hkeys, ← OrderedMap.contains_iff]
  · exact hvariable

theorem modifyVariables (h : d.Anchored) (f : OrderedMap Variable → OrderedMap Variable)
    (hname : d'.appName = d.appName) (hopen : d'.openEnvironment = d.openEnvironment)
    (hsame : d'.openSection = d.openSection)
    (henvironments : d'.environments = (d.modifyVariables f).environments)
    (hvariable : d'.openVariable.isSome → d'.openedVariable?.isSome) : d'.Anchored := by
  refine h.modifySections (·.modify d.sectionKey fun s => { s with declared := f s.declared })
    hname hopen henvironments ?_ hvariable
  intro hset
  rw [hsame] at hset
  obtain ⟨hdefault, hthere⟩ := h.section_opened hset
  refine ⟨hdefault, ?_⟩
  have hopened : d'.openedSection? = (d.modifyVariables f).openedSection? := by
    rw [openedSection?, openedEnvironment?, hopen, hsame, henvironments]
    rfl
  rwa [hopened, openedSection?_modifyVariables, Option.isSome_map]

/-- Every line that is accepted keeps what is open in place. -/
theorem accepts (h : d.Anchored) (hline : d.Accepts line d') : d'.Anchored := by
  cases hline with
  | appName hnone =>
      exact ⟨h.environments_iff, fun _ => rfl, h.environment_opened, h.section_opened,
        h.variable_opened⟩
  | @environment name hname hnew =>
      have hmem : Name.key name ∈ (d.environments.insert (Name.key name) ⟨name, .empty⟩).keys := by
        rw [OrderedMap.keys_insert, if_neg hnew]
        exact List.mem_concat_self
      constructor
      · simpa using List.ne_nil_of_mem hmem
      · exact fun _ => hname
      · simp [openedEnvironment?, OrderedMap.get?_insert]
      · simp
      · simp
  | @sectionHeader name e hname hdefault he hnew =>
      refine h.modifySections (·.insert (Name.key name) ⟨name, .empty⟩) rfl rfl rfl
        (fun _ => ⟨hdefault, ?_⟩) (by simp)
      -- The default environment is declared, so that some environment is open.
      obtain ⟨e', he'⟩ := h.exists_openedEnvironment? hdefault
      have hopened := d.openedEnvironment?_modifySections
        (·.insert (Name.key name) ⟨name, .empty⟩)
      rw [he'] at hopened
      change (Option.bind (d.modifySections (·.insert (Name.key name)
        ⟨name, .empty⟩)).openedEnvironment? _).isSome
      rw [hopened]
      simp [OrderedMap.get?_insert]
  | @declaration ident description spec type default s hplace hspec hs hnew =>
      obtain ⟨s', hs'⟩ := h.exists_openedSection? (isSome_openSection_of_place hplace)
      have hopened := d.openedVariable?_added
        ⟨Name.canonical ident, ident, type, default, description⟩
      rw [hs'] at hopened
      exact h.modifyVariables
        (·.insert (Name.key ident) ⟨Name.canonical ident, ident, type, default, description⟩)
        rfl rfl rfl rfl fun _ => Option.isSome_of_eq_some hopened
  | continuation words =>
      cases hkey : d.openVariable with
      | none =>
          have hsame : d.continueDescription words = d := by rw [continueDescription, hkey]
          rwa [hsame]
      | some key =>
          have hchange : d.continueDescription words =
              d.modifyVariables (·.modify key (extendDescription words)) := by
            rw [continueDescription, hkey]
          -- The variable that is changed is still under its key.
          have hopened := d.openedVariable?_continueDescription words
          rw [hchange] at hopened ⊢
          refine h.modifyVariables _ rfl rfl rfl rfl fun hset => ?_
          rw [hopened, Option.isSome_map]
          exact h.variable_opened hset
  | prose => exact h

theorem step (h : d.Anchored) (hstep : d.step number text = .ok d') : d'.Anchored :=
  h.accepts (accepts_of_step hstep)

theorem ofLines {items : List (Nat × Text)} (h : d.Anchored) (hrun : d.ofLines items = .ok d') :
    d'.Anchored :=
  Run.invariant_of_ok (fun _ => Anchored) h (fun _ _ _ _ _ _ hs hstep => hs.step hstep) hrun

theorem environment?_eq (h : d.Anchored) (hdefault : d.hasDefault) :
    d.environment? = d.openedEnvironment? := by
  obtain ⟨e, he⟩ := h.exists_openedEnvironment? hdefault
  rw [he, environment?_of_opened he]

theorem section?_eq (h : d.Anchored) (hopen : d.openSection.isSome) :
    d.section? = d.openedSection? := by
  obtain ⟨s, hs⟩ := h.exists_openedSection? hopen
  rw [hs, section?_of_opened hs]

end Anchored

/-! ## Runs in which no look-up fails -/

/-- The step, if what it takes to be there is there: the open environment for a header, the open
section for a variable and for what continues one. -/
def step? (d : Draft) (number : Nat) (text : Text) : Option (Except Fault Draft) :=
  match Line.classify d.openSection.isSome text with
  | .sectionHeader _ =>
      if d.appName.isSome && d.hasDefault then d.environment?.map fun _ => d.step number text
      else some (d.step number text)
  | .declaration _ spec _ =>
      match d.variableOffence?, readSpec spec with
      | none, .ok _ => d.section?.map fun _ => d.step number text
      | _, _ => some (d.step number text)
  | .continuation _ =>
      if d.openVariable.isSome then d.section?.map fun _ => d.step number text
      else some (d.step number text)
  | _ => some (d.step number text)

/-- The run, if each of its steps finds what it looks up. -/
def ofLines? (d : Draft) : List (Nat × Text) → Option (Except Fault Draft)
  | [] => some (.ok d)
  | (number, text) :: rest =>
      match d.step? number text with
      | some (.ok next) => next.ofLines? rest
      | stopped => stopped

namespace Anchored

theorem step?_eq (h : d.Anchored) (number : Nat) (text : Text) :
    d.step? number text = some (d.step number text) := by
  unfold step?
  cases Line.classify d.openSection.isSome text with
  | sectionHeader name =>
      dsimp only
      split
      · rename_i hplace
        obtain ⟨-, hdefault⟩ := Bool.and_eq_true_iff.mp hplace
        obtain ⟨e, he⟩ := h.exists_openedEnvironment? hdefault
        rw [environment?_of_opened he, Option.map_some]
      · rfl
  | declaration ident spec description =>
      dsimp only
      split
      · rename_i hplace hspec
        obtain ⟨s, hs⟩ := h.exists_openedSection? (isSome_openSection_of_place hplace)
        rw [section?_of_opened hs, Option.map_some]
      · rfl
  | continuation words =>
      dsimp only
      split
      · rename_i hopen
        obtain ⟨v, hv⟩ := Option.isSome_iff_exists.mp (h.variable_opened hopen)
        obtain ⟨s, hs, -⟩ := Option.bind_eq_some_iff.mp hv
        rw [section?_of_opened hs, Option.map_some]
      · rfl
  | appName name => rfl
  | environment name => rfl
  | malformed => rfl
  | prose => rfl

theorem ofLines?_eq (h : d.Anchored) (items : List (Nat × Text)) :
    d.ofLines? items = some (d.ofLines items) := by
  induction items generalizing d with
  | nil => rfl
  | cons item rest ih =>
      obtain ⟨number, text⟩ := item
      rw [ofLines?, h.step?_eq, ofLines_cons]
      cases hstep : d.step number text with
      | error fault => rfl
      | ok next => exact ih (h.step hstep)

end Anchored

/-- In every run each look-up of what is open finds it, under the key that is kept for it.  Words
that continue a description reach the variable that is open, which is the one that was declared
last. -/
theorem anchored_of_ofLines (items : List (Nat × Text)) :
    blank.ofLines? items = some (blank.ofLines items) ∧
    ∀ d, blank.ofLines items = .ok d →
      d.Anchored ∧
      (d.hasDefault → d.environment? = d.openedEnvironment?) ∧
      (d.openSection.isSome → d.section? = d.openedSection?) ∧
      (d.openVariable.isSome → ∀ words, ∃ v, d.openedVariable? = some v ∧
        (d.continueDescription words).openedVariable? = some (extendDescription words v)) ∧
      ∀ number text d' ident spec description,
        Line.classify d.openSection.isSome text = .declaration ident spec description →
        d.step number text = .ok d' → ∃ v, d'.openedVariable? = some v ∧
          d'.openVariable.isSome ∧ v.ident = ident ∧ v.description = description := by
  refine ⟨anchored_blank.ofLines?_eq items, ?_⟩
  intro d hrun
  have hanchored := anchored_blank.ofLines hrun
  refine ⟨hanchored, hanchored.environment?_eq, hanchored.section?_eq, ?_, ?_⟩
  · intro hopen words
    obtain ⟨v, hv⟩ := Option.isSome_iff_exists.mp (hanchored.variable_opened hopen)
    refine ⟨v, hv, ?_⟩
    rw [openedVariable?_continueDescription, hv, Option.map_some]
  · intro number text d' ident spec description hline hstep
    have haccepts := accepts_of_step hstep
    rw [hline] at haccepts
    cases haccepts with
    | declaration hplace hspec hs hnew =>
        obtain ⟨s, hs⟩ := hanchored.exists_openedSection? (isSome_openSection_of_place hplace)
        exact ⟨_, by rw [openedVariable?_added, hs, Option.map_some], rfl, rfl, rfl⟩

/-- The section has a blank for its name and nothing for its key. -/
theorem anchored_of_ofLines_blank :
    ∃ d v, blank.ofLines (significantLines "name: app\n\x7bdefault\x7d\n[ ]\nport: Where it") =
        .ok d ∧
      d.openSection = some [] ∧ d.section? = d.openedSection? ∧
      (d.continueDescription "listens").openedVariable? = some v ∧
      v.description = "Where it listens".toList := by
  obtain ⟨d, hd⟩ : ∃ d, blank.ofLines
      (significantLines "name: app\n\x7bdefault\x7d\n[ ]\nport: Where it") = .ok d := ⟨_, rfl⟩
  have hopen : d.openSection = some [] ∧ d.openVariable.isSome ∧
      d.openedVariable?.map Variable.description = some "Where it".toList := by
    cases hd
    exact ⟨rfl, rfl, rfl⟩
  obtain ⟨-, -, hsection, hcontinued, -⟩ := (anchored_of_ofLines _).2 d hd
  obtain ⟨v, hv, hextended⟩ := hcontinued hopen.2.1 "listens"
  have hdescription : v.description = "Where it".toList := by
    have hshown := hopen.2.2
    rw [hv] at hshown
    exact Option.some.inj hshown
  refine ⟨d, _, hd, hopen.1, hsection (by rw [hopen.1]; rfl), hextended, ?_⟩
  rw [extendDescription, hdescription]
  rfl

end IniSchema.Manual.Draft
