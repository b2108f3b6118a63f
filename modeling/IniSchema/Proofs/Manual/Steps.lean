import IniSchema.Proofs.Manual.Grammar

/-!
# Steps of a draft

Each step of a draft accepts a line exactly if the grammar allows it after the lines before, and
then the draft follows the lines with the new one.  A refused line gets the fault of the first
rule that it breaks.
-/

namespace IniSchema.Manual

/-! ## Faults of lines -/

/-- The first rule on the place of a variable that is broken. -/
def misplacement? (before : List Line) : Option Offence :=
  if !named before then some .variableBeforeName
  else if Environment.defaultName ∉ environmentKeys before then some .variableBeforeDefault
  else if !sectionOpen before then some .variableOutsideSection
  else none

/-- The first rule that a line breaks after the lines before it. -/
def fault? (before : List Line) (number : Nat) (text : Text) (line : Line) : Option Fault :=
  let blame (o : Offence) : Fault := .declaration number text o.reason
  match line with
  | .appName _ => if named before then some (blame .duplicateName) else none
  | .environment name =>
      if !named before then some (blame .environmentBeforeName)
      else if Name.key name ∈ environmentKeys before then
        some (blame (.duplicateEnvironment name))
      else none
  | .sectionHeader name =>
      if !named before then some (blame .sectionBeforeName)
      else if Environment.defaultName ∉ environmentKeys before then
        some (blame .sectionBeforeDefault)
      else (openEnvironment? before).bind fun block =>
        if Name.key name ∈ sectionKeys block.2 then
          some (blame (.duplicateSection name block.1))
        else none
  | .declaration ident spec _ =>
      match misplacement? before with
      | some offence => some (blame offence)
      | none =>
          match Draft.readSpec spec with
          | .error fault => some (Draft.atLine number fault)
          | .ok _ => (openSection? before).bind fun block =>
              if Name.key ident ∈ variableKeys block.2 then
                some (blame (.duplicateVariable (Name.canonical ident) block.1))
              else none
  | .malformed => some (blame ((misplacement? before).getD .malformedVariable))
  | .continuation _ => none
  | .prose => none

theorem readable_iff {spec : Text} :
    Readable spec ↔ ∃ type default, Draft.readSpec (some spec) = .ok (type, default) := by
  simp only [Readable, Draft.readSpec, Text.cut?, bne]
  cases hrest : spec.dropWhile fun c => !(c == ':') with
  | nil =>
      have hall : spec.takeWhile (fun c => !(c == ':')) = spec := by
        have happend := @List.takeWhile_append_dropWhile _ (fun c => !(c == ':')) spec
        rwa [hrest, List.append_nil] at happend
      rw [hall]
      cases htype : ValueType.ofName spec <;> simp [Except.map]
  | cons c rest =>
      have hcolon := List.head?_dropWhile_not (fun c => !(c == ':')) spec
      rw [hrest] at hcolon
      obtain rfl : c = ':' := by simpa using hcolon
      cases htype : ValueType.ofName (spec.takeWhile fun c => !(c == ':')) with
      | error fault => simp [htype]
      | ok type => cases hread : type.read rest <;> simp [htype, hread, Except.map]

theorem forall_readable_iff (spec : Option Text) :
    (∀ text, spec = some text → Readable text) ↔
      ∃ type default, Draft.readSpec spec = .ok (type, default) := by
  cases spec with
  | none => simp [Draft.readSpec]
  | some text => simpa using readable_iff

theorem misplacement?_eq_none_iff {before : List Line} :
    misplacement? before = none ↔ named before ∧
      Environment.defaultName ∈ environmentKeys before ∧ sectionOpen before := by
  unfold misplacement?
  split
  · simp_all
  · split
    · simp_all
    · split <;> simp_all

theorem named_of_mem {lines : List Line} {line : Line} (h : Ordered lines) (hmem : line ∈ lines)
    (hneeds : line.needsName) : named lines := by
  obtain ⟨front, back, rfl⟩ := List.append_of_mem hmem
  have hfront := h.named_first front line back rfl hneeds
  simp only [named, List.any_append] at hfront ⊢
  simp [hfront]

theorem named_of_sectionOpen {lines : List Line} (h : Ordered lines) (hopen : sectionOpen lines) :
    named lines := by
  obtain ⟨front, name, after, rfl, -⟩ := sectionOpen_iff.mp hopen
  exact named_of_mem h (List.mem_append_right _ List.mem_cons_self) rfl

theorem default_mem_of_sectionOpen {before : List Line} (h : Ordered before)
    (hopen : sectionOpen before) : Environment.defaultName ∈ environmentKeys before := by
  obtain ⟨front, name, after, rfl, -, title, htitle⟩ := sectionOpen_iff.mp hopen
  obtain ⟨middle, back, rfl⟩ := List.append_of_mem htitle
  have hlines : front ++ .environment name :: (middle ++ .sectionHeader title :: back) =
      (front ++ .environment name :: middle) ++ .sectionHeader title :: back := by
    simp
  rw [hlines] at h ⊢
  have hbefore := h.sections_after_default _ title back rfl
  unfold environmentKeys at hbefore ⊢
  rw [List.filterMap_append, List.map_append]
  exact List.mem_append_left _ hbefore

theorem fault?_eq_none_iff {before : List Line} {number : Nat} {text : Text} {line : Line}
    (h : Ordered before) : fault? before number text line = none ↔ Allowed before line := by
  rw [allowed_iff]
  cases line with
  | appName name => simp [fault?, Line.needsName]
  | environment name =>
      cases hname : named before <;> simp [fault?, Line.needsName, hname]
  | sectionHeader name =>
      cases hname : named before
      · simp [fault?, Line.needsName, hname]
      · by_cases hdefault : Environment.defaultName ∈ environmentKeys before
        · simp [fault?, Line.needsName, hname, hdefault]
        · simp [fault?, Line.needsName, hname, hdefault]
  | declaration ident spec text =>
      cases hplace : misplacement? before with
      | some offence =>
          -- A section is only open after the default environment, so that the grammar need not ask
          -- for it.
          have hne : ¬(named before ∧ sectionOpen before) := by
            rintro ⟨hname, hopen⟩
            have hnone := misplacement?_eq_none_iff.mpr
              ⟨hname, default_mem_of_sectionOpen h hopen, hopen⟩
            rw [hplace] at hnone
            cases hnone
          simp only [fault?, hplace]
          simp [Line.needsName]
          intro hname hopen
          exact absurd ⟨hname, hopen⟩ hne
      | none =>
          obtain ⟨hname, -, hopen⟩ := misplacement?_eq_none_iff.mp hplace
          have hspec := forall_readable_iff spec
          simp only [fault?, hplace]
          cases hread : Draft.readSpec spec with
          | error fault =>
              simp only [hread, reduceCtorEq, exists_false, iff_false] at hspec
              simp [Line.needsName, hname, hopen]
              grind
          | ok result =>
              have hall : ∀ text, spec = some text → Readable text :=
                hspec.mpr ⟨result.1, result.2, hread⟩
              simp [Line.needsName, hname, hopen]
              grind
  | malformed => simp [fault?]
  | continuation text => simp [fault?, Line.needsName]
  | prose => simp [fault?, Line.needsName]

/-! ## What a draft knows -/

theorem map_keys_blocks {α β : Type} {head? : α → Option β} (name : β → Text) (lines : List α) :
    ((blocks head? lines).map fun block => Name.key (name block.1)) =
      (lines.filterMap head?).map fun head => Name.key (name head) := by
  rw [← map_fst_blocks, List.map_map]
  rfl

theorem keys_sections {sections : OrderedMap Section} {body : List Line}
    (h : sections.Lists SectionDeclaredBy Prod.fst (sectionBlocks body)) :
    sections.keys = sectionKeys body :=
  h.keys_eq.trans (map_keys_blocks id body)

theorem keys_variables {declared : OrderedMap Variable} {body : List Line}
    (h : declared.Lists VariableDeclaredBy (fun b => b.1.ident) (variableBlocks body)) :
    declared.keys = variableKeys body :=
  h.keys_eq.trans (map_keys_blocks Declaration.ident body)

theorem EnvironmentDeclaredBy.contains_iff {e : Environment} {block : Text × List Line}
    (h : EnvironmentDeclaredBy e block) (key : Text) :
    e.sections.contains key = true ↔ key ∈ sectionKeys block.2 := by
  rw [OrderedMap.contains_iff, keys_sections h.2]

theorem SectionDeclaredBy.contains_iff {s : Section} {block : Text × List Line}
    (h : SectionDeclaredBy s block) (key : Text) :
    s.declared.contains key = true ↔ key ∈ variableKeys block.2 := by
  rw [OrderedMap.contains_iff, keys_variables h.2]

namespace Follows

variable {d : Draft} {lines : List Line}

theorem isSome_appName (h : Follows d lines) : d.appName.isSome = named lines := by
  rw [h.appName, named]
  clear h
  induction lines with
  | nil => rfl
  | cons line rest ih =>
      cases hline : line.applicationName? with
      | none =>
          simp only [List.filterMap_cons, hline, List.any_cons, Option.isSome_none, Bool.false_or]
          exact ih
      | some name => simp [hline]

theorem keys_environments (h : Follows d lines) : d.environments.keys = environmentKeys lines := by
  rw [h.environments.keys_eq]
  exact map_keys_blocks id lines

theorem hasDefault_iff (h : Follows d lines) :
    d.hasDefault = true ↔ Environment.defaultName ∈ environmentKeys lines := by
  rw [Draft.hasDefault, OrderedMap.contains_iff, h.keys_environments]

theorem isSome_openSection (h : Follows d lines) : d.openSection.isSome = sectionOpen lines := by
  simp [h.openSection, sectionOpen]

theorem variableOffence?_eq (h : Follows d lines) : d.variableOffence? = misplacement? lines := by
  unfold Draft.variableOffence? misplacement?
  have hname := h.isSome_appName
  have hdefault := h.hasDefault_iff
  have hsection := h.isSome_openSection
  rw [← Option.not_isSome, hname, ← Option.not_isSome, hsection]
  by_cases hkeys : Environment.defaultName ∈ environmentKeys lines
  · simp [hkeys, hdefault.mpr hkeys]
  · simp [hkeys, mt hdefault.mp hkeys]

theorem exists_openEnvironment? {key : Text} (hkey : key ∈ environmentKeys lines) :
    ∃ block, openEnvironment? lines = some block := by
  cases hopen : openEnvironment? lines with
  | some block => exact ⟨block, rfl⟩
  | none =>
      have hblocks : blocks Line.environmentName? lines = [] := List.getLast?_eq_none_iff.mp hopen
      have hnil : lines.filterMap Line.environmentName? = [] := by
        rw [← map_fst_blocks, hblocks, List.map_nil]
      simp [environmentKeys, hnil] at hkey

theorem environment?_eq (h : Follows d lines) {block : Text × List Line}
    (hopen : openEnvironment? lines = some block) :
    ∃ e, d.environment? = some e ∧ EnvironmentDeclaredBy e block := by
  rw [Draft.environment?, h.environmentKey_eq hopen]
  exact h.environments.get?_of_mem (List.mem_of_getLast? hopen)

theorem section?_eq (h : Follows d lines) {block : Text × List Line}
    (hopen : openSection? lines = some block) :
    ∃ s, d.section? = some s ∧ SectionDeclaredBy s block := by
  obtain ⟨outer, houter, hlast⟩ := Option.bind_eq_some_iff.mp hopen
  obtain ⟨e, he, -, hsections⟩ := h.environment?_eq houter
  rw [Draft.section?, he, h.sectionKey_eq hopen]
  exact hsections.get?_of_mem (List.mem_of_getLast? hlast)

/-! ## One line after the other -/

private theorem head?_concat_none {line : Line} (h : line.applicationName? = none) :
    ((lines ++ [line]).filterMap Line.applicationName?).head? =
      (lines.filterMap Line.applicationName?).head? := by
  simp only [List.filterMap_append, List.filterMap_cons, h, List.filterMap_nil, List.append_nil]

/-- A line that opens nothing leaves the cursors where they are. -/
private theorem plain_concat (h : Follows d lines) {line : Line} {d' : Draft}
    (henv : line.environmentName? = none) (hsec : line.sectionName? = none)
    (hvar : line.declared? = none)
    (hname : d'.appName = ((lines ++ [line]).filterMap Line.applicationName?).head?)
    (henvironments : d'.environments.Lists EnvironmentDeclaredBy Prod.fst
      (environmentBlocks (lines ++ [line])))
    (hcursors : d'.openEnvironment = d.openEnvironment ∧ d'.openSection = d.openSection ∧
      d'.openVariable = d.openVariable) : Follows d' (lines ++ [line]) where
  appName := hname
  environments := henvironments
  openEnvironment := by
    rw [openEnvironment?_concat lines henv, Option.map_map, hcursors.1]
    exact h.openEnvironment
  openSection := by
    rw [openSection?_concat lines henv hsec, Option.map_map, hcursors.2.1]
    exact h.openSection
  openVariable := by
    rw [openVariable?_concat lines henv hsec hvar, Option.map_map, hcursors.2.2]
    exact h.openVariable

theorem appName_concat (h : Follows d lines) (hname : named lines = false) (name : Text) :
    Follows { d with appName := some name } (lines ++ [.appName name]) := by
  refine h.plain_concat rfl rfl rfl ?_ (h.same rfl rfl rfl (.inl rfl)) ⟨rfl, rfl, rfl⟩
  have hnone : lines.filterMap Line.applicationName? = [] := by
    rw [List.filterMap_eq_nil_iff]
    intro line hline
    simpa using List.any_eq_false.mp hname line hline
  simp [hnone, Line.applicationName?]

theorem prose_concat (h : Follows d lines) : Follows d (lines ++ [.prose]) := by
  refine h.plain_concat rfl rfl rfl ?_ (h.same rfl rfl rfl (.inl rfl)) ⟨rfl, rfl, rfl⟩
  rw [head?_concat_none rfl]
  exact h.appName

theorem continuation_concat (h : Follows d lines) (text : Text) :
    Follows (d.continueDescription text) (lines ++ [.continuation text]) := by
  have hname : d.appName =
      ((lines ++ [Line.continuation text]).filterMap Line.applicationName?).head? := by
    rw [head?_concat_none rfl]
    exact h.appName
  cases hopen : openVariable? lines with
  | none =>
      have hsame : d.continueDescription text = d := by
        simp [Draft.continueDescription, h.openVariable, hopen]
      rw [hsame]
      exact h.plain_concat rfl rfl rfl hname (h.same rfl rfl rfl (.inr hopen)) ⟨rfl, rfl, rfl⟩
  | some block =>
      obtain ⟨outer, houter, hlast⟩ := Option.bind_eq_some_iff.mp hopen
      have hchange : d.continueDescription text =
          d.modifyVariables (·.modify (Name.key block.1.ident) (Draft.extendDescription text)) := by
        simp [Draft.continueDescription, h.openVariable, hopen]
      rw [hchange]
      refine h.plain_concat rfl rfl rfl hname ?_ ⟨rfl, rfl, rfl⟩
      apply h.modifyVariables houter rfl rfl
      intro declared hdeclared
      exact lists_modify Declaration.ident hdeclared rfl hlast
        fun v hv => hv.extend text

theorem environment_concat (h : Follows d lines) {name : Text}
    (hnew : Name.key name ∉ environmentKeys lines) :
    Follows { d with
        environments := d.environments.insert (Name.key name) ⟨name, .empty⟩
        openEnvironment := some (Name.key name)
        openSection := none
        openVariable := none }
      (lines ++ [.environment name]) where
  appName := by rw [head?_concat_none rfl]; exact h.appName
  environments := by
    rw [← h.keys_environments] at hnew
    exact lists_insert id name h.environments rfl hnew ⟨rfl, .empty⟩
  openEnvironment := by simp [openEnvironment?_environment]
  openSection := by simp [openSection?_environment]
  openVariable := by
    rw [openVariable?_of_openSection?_nil name (.inr (openSection?_environment lines name))]
    rfl

theorem sectionHeader_concat (h : Follows d lines) {name : Text} {block : Text × List Line}
    (hopen : openEnvironment? lines = some block)
    (hnew : Name.key name ∉ sectionKeys block.2) :
    Follows { d.modifySections (·.insert (Name.key name) ⟨name, .empty⟩) with
        openSection := some (Name.key name)
        openVariable := none }
      (lines ++ [.sectionHeader name]) where
  appName := by rw [head?_concat_none rfl]; exact h.appName
  environments := by
    dsimp only
    apply h.modifySections hopen rfl
    intro sections hsections
    exact lists_insert id name hsections rfl (keys_sections hsections ▸ hnew) ⟨rfl, .empty⟩
  openEnvironment := by
    rw [openEnvironment?_concat lines rfl, Option.map_map]
    exact h.openEnvironment
  openSection := by simp [openSection?_header, hopen]
  openVariable := by
    rw [openVariable?_of_openSection?_nil name]
    · rfl
    · left
      simp [openSection?_header, hopen]

theorem declaration_concat (h : Follows d lines) (v : Variable) {spec : Option Text}
    {block : Text × List Line} (hopen : openSection? lines = some block)
    (hname : v.name = Name.canonical v.ident)
    (hspec : Draft.readSpec spec = .ok (v.type, v.default))
    (hnew : Name.key v.ident ∉ variableKeys block.2) :
    Follows { d.modifyVariables (·.insert (Name.key v.ident) v) with
        openVariable := some (Name.key v.ident) }
      (lines ++ [.declaration v.ident spec v.description]) where
  appName := by rw [head?_concat_none rfl]; exact h.appName
  environments := by
    dsimp only
    apply h.modifyVariables hopen rfl rfl
    intro declared hdeclared
    refine lists_insert Declaration.ident (⟨v.ident, spec, v.description⟩ : Declaration)
      hdeclared rfl (keys_variables hdeclared ▸ hnew) ⟨hname, rfl, hspec, ?_⟩
    exact (Text.joinNonempty_singleton " " v.description).symm
  openEnvironment := by
    rw [openEnvironment?_concat lines rfl, Option.map_map]
    exact h.openEnvironment
  openSection := by
    rw [openSection?_concat lines rfl rfl, Option.map_map]
    exact h.openSection
  openVariable := by simp [openVariable?_declaration, hopen]

/-- A step fails with the fault of its line, or the draft follows the lines with the new one. -/
theorem step_spec (h : Follows d lines) (number : Nat) (text : Text) :
    (∀ fault, fault? lines number text (Line.classify (sectionOpen lines) text) = some fault →
      d.step number text = .error fault) ∧
    (fault? lines number text (Line.classify (sectionOpen lines) text) = none →
      ∃ d', d.step number text = .ok d' ∧
        Follows d' (lines ++ [Line.classify (sectionOpen lines) text])) := by
  unfold Draft.step
  rw [h.isSome_openSection]
  cases Line.classify (sectionOpen lines) text with
  | appName name =>
      simp only [fault?, Draft.declareName, h.isSome_appName]
      cases hname : named lines with
      | true => simp [Except.mapError]
      | false => simpa [Except.mapError] using h.appName_concat hname name
  | environment name =>
      simp only [fault?, Draft.declareEnvironment, ← Option.not_isSome, h.isSome_appName,
        OrderedMap.contains_iff, h.keys_environments]
      cases hname : named lines with
      | false => simp [Except.mapError]
      | true =>
          by_cases hnew : Name.key name ∈ environmentKeys lines
          · simp [hnew, Except.mapError]
          · simpa [hnew, Except.mapError] using h.environment_concat hnew
  | sectionHeader name =>
      simp only [fault?, Draft.declareSection, ← Option.not_isSome, h.isSome_appName]
      cases hname : named lines with
      | false => simp [Except.mapError]
      | true =>
          by_cases hdefault : Environment.defaultName ∈ environmentKeys lines
          · obtain ⟨block, hopen⟩ := exists_openEnvironment? hdefault
            obtain ⟨e, he, hdeclared⟩ := h.environment?_eq hopen
            have hcontains := hdeclared.contains_iff (Name.key name)
            by_cases hnew : Name.key name ∈ sectionKeys block.2
            · simp [hdefault, h.hasDefault_iff.mpr, hopen, he, hnew, hcontains.mpr, hdeclared.1,
                Except.mapError]
            · simpa [hdefault, h.hasDefault_iff.mpr, hopen, he, hnew, mt hcontains.mp,
                Except.mapError] using h.sectionHeader_concat hopen hnew
          · simp [hdefault, mt h.hasDefault_iff.mp, Except.mapError]
  | declaration ident spec description =>
      simp only [fault?, h.variableOffence?_eq]
      cases hplace : misplacement? lines with
      | some offence => simp
      | none =>
          cases hspec : Draft.readSpec spec with
          | error fault => simp
          | ok result =>
              obtain ⟨type, default⟩ := result
              obtain ⟨-, -, hsection⟩ := misplacement?_eq_none_iff.mp hplace
              obtain ⟨block, hopen⟩ := Option.isSome_iff_exists.mp hsection
              obtain ⟨sec, hsec, hdeclared⟩ := h.section?_eq hopen
              -- What is left to decide is whether the open section has the name, by draft and lines.
              have hcontains := hdeclared.contains_iff (Name.key ident)
              by_cases hnew : Name.key ident ∈ variableKeys block.2
              · simp [Draft.declareVariable, hopen, hsec, hnew, hcontains.mpr, hdeclared.1,
                  Except.mapError]
              · have hfollows := h.declaration_concat
                  ⟨Name.canonical ident, ident, type, default, description⟩ hopen rfl hspec hnew
                simpa [Draft.declareVariable, hopen, hsec, hnew, mt hcontains.mp,
                  Except.mapError] using hfollows
  | malformed =>
      simp only [fault?, h.variableOffence?_eq]
      simp
  | continuation text =>
      simp only [fault?]
      simpa using h.continuation_concat text
  | prose =>
      simp only [fault?]
      simpa using h.prose_concat

end Follows

end IniSchema.Manual
