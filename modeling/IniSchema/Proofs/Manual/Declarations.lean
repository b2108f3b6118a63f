import IniSchema.Proofs.Manual.Compilation

/-!
# Schemas as the outline of their manual

The outline of a manual has its environments in order, the sections of each environment, and the
variables of each section with the continuations after them.  A compiled schema has these parts
in this order and no others.  Prose is not in the outline, nor is a continuation with no variable
open.
-/

namespace IniSchema.Manual

/-! ## Outlines -/

/-- A declaration and the texts of the continuations after it. -/
structure VariableOutline where
  declaration : Declaration
  continuations : List Text

structure SectionOutline where
  name : Text
  declared : List VariableOutline

structure EnvironmentOutline where
  name : Text
  sections : List SectionOutline

def variableOutlines (lines : List Line) : List VariableOutline :=
  (variableBlocks lines).map fun block => ⟨block.1, block.2.filterMap Line.continuation?⟩

def sectionOutlines (lines : List Line) : List SectionOutline :=
  (sectionBlocks lines).map fun block => ⟨block.1, variableOutlines block.2⟩

def outline (lines : List Line) : List EnvironmentOutline :=
  (environmentBlocks lines).map fun block => ⟨block.1, sectionOutlines block.2⟩

/-- After the last section or environment there is no variable. -/
def NoVariableOpen (lines : List Line) : Prop :=
  ∀ before ident spec text after, lines = before ++ .declaration ident spec text :: after →
    ∃ name, .sectionHeader name ∈ after ∨ .environment name ∈ after

theorem outline_without {before after : List Line} {line : Line}
    (henv : line.environmentName? = none) (hsec : line.sectionName? = none)
    (hvar : line.declared? = none) (h : line.continuation? = none ∨ NoVariableOpen before) :
    outline (before ++ line :: after) = outline (before ++ after) := by
  apply map_blocks_without henv
  intro front opening name body hbefore _ hbody rest
  suffices sectionOutlines (body ++ line :: rest) = sectionOutlines (body ++ rest) by
    simp [this]
  apply map_blocks_without hsec
  intro front' opening' title inner hsplit _ hinner rest'
  suffices variableOutlines (inner ++ line :: rest') = variableOutlines (inner ++ rest') by
    simp [this]
  apply map_blocks_without hvar
  intro front'' opening'' d last hsplit' hdeclared _ rest''
  rcases h with hcontinuation | hclosed
  · simp [hcontinuation]
  · -- The variable that is open here would be open at the end of the lines before.
    obtain rfl := Line.declared?_eq_some.mp hdeclared
    obtain ⟨other, hheader | henvironment⟩ :=
      hclosed (front ++ opening :: front' ++ opening' :: front'') d.ident d.spec d.description last
        (by simp [hbefore, hsplit, hsplit'])
    · cases hinner (.sectionHeader other) (by simp [hsplit', hheader])
    · cases hbody (.environment other) (by simp [hsplit, hsplit', henvironment])

/-! ## Parts of a schema -/

/-- Without parentheses a variable is a string that is required.  In parentheses the word before
the first colon names the type, and all after it is read as the default. -/
inductive SpecGives : Option Text → ValueType → Option Value → Prop
  | none : SpecGives none .string none
  | typed {word : Text} {type : ValueType} (hword : ':' ∉ word)
      (htype : ValueType.ofName word = .ok type) : SpecGives (some word) type none
  | default {word text : Text} {type : ValueType} {value : Value} (hword : ':' ∉ word)
      (htype : ValueType.ofName word = .ok type) (hread : type.read text = .ok value) :
      SpecGives (some (word ++ ':' :: text)) type (some value)

theorem specGives_of_readSpec {spec : Option Text} {type : ValueType} {default : Option Value}
    (h : Draft.readSpec spec = .ok (type, default)) : SpecGives spec type default := by
  cases spec with
  | none =>
      cases h
      exact .none
  | some text =>
      simp only [Draft.readSpec] at h
      cases hcut : text.cut? (· == ':') with
      | none =>
          rw [hcut] at h
          obtain ⟨found, htype, heq⟩ := Run.map_eq_ok_iff.mp h
          cases heq
          have hword := Text.cut?_eq_none_iff.mp hcut
          exact .typed (fun hmem => by simpa using hword ':' hmem) htype
      | some cut =>
          obtain ⟨word, rest⟩ := cut
          obtain ⟨colon, rfl, hcolon, hword⟩ := Text.cut?_eq_some_iff.mp hcut
          obtain rfl := beq_iff_eq.mp hcolon
          simp only [hcut] at h
          cases htype : ValueType.ofName word with
          | error fault => simp [htype] at h
          | ok found =>
              rw [htype] at h
              obtain ⟨value, hread, heq⟩ := Run.map_eq_ok_iff.mp h
              cases heq
              exact .default (fun hmem => by simpa using hword ':' hmem) htype hread

def IsVariableOf (v : Variable) (o : VariableOutline) : Prop :=
  v.name = Name.canonical o.declaration.ident ∧ v.ident = o.declaration.ident ∧
    SpecGives o.declaration.spec v.type v.default ∧
    v.description = Text.joinNonempty " " (o.declaration.description :: o.continuations)

def IsSectionOf (s : Section) (o : SectionOutline) : Prop :=
  s.name = o.name ∧ List.Forall₂ IsVariableOf s.declared.values o.declared

def IsEnvironmentOf (e : Environment) (o : EnvironmentOutline) : Prop :=
  e.name = o.name ∧ List.Forall₂ IsSectionOf e.sections.values o.sections

theorem VariableDeclaredBy.isVariableOf {v : Variable} {block : Declaration × List Line}
    (h : VariableDeclaredBy v block) :
    IsVariableOf v ⟨block.1, block.2.filterMap Line.continuation?⟩ := by
  obtain ⟨hname, hident, hspec, hdescription⟩ := h
  exact ⟨hname, hident, specGives_of_readSpec hspec, hdescription⟩

theorem SectionDeclaredBy.isSectionOf {s : Section} {block : Text × List Line}
    (h : SectionDeclaredBy s block) : IsSectionOf s ⟨block.1, variableOutlines block.2⟩ := by
  refine ⟨h.1, ?_⟩
  rw [variableOutlines, List.forall₂_map_right_iff]
  exact h.2.forall₂_values.imp fun _ _ hv => hv.isVariableOf

theorem EnvironmentDeclaredBy.isEnvironmentOf {e : Environment} {block : Text × List Line}
    (h : EnvironmentDeclaredBy e block) :
    IsEnvironmentOf e ⟨block.1, sectionOutlines block.2⟩ := by
  refine ⟨h.1, ?_⟩
  rw [sectionOutlines, List.forall₂_map_right_iff]
  exact h.2.forall₂_values.imp fun _ _ hs => hs.isSectionOf

theorem DeclaredBy.forall₂_outline {s : Schema} {lines : List Line} (h : DeclaredBy s lines) :
    List.Forall₂ IsEnvironmentOf s.environments.values (outline lines) := by
  rw [outline, List.forall₂_map_right_iff]
  exact h.environments.forall₂_values.imp fun _ _ he => he.isEnvironmentOf

/-- A compiled schema is the outline of its manual: environments, sections and variables in their
order, with the types, defaults and descriptions that are written there. -/
theorem ofManual_outline {manual : Text} {s : Schema} (h : Schema.ofManual manual = .ok s) :
    List.Forall₂ IsEnvironmentOf s.environments.values (outline (manualLines manual)) ∧
    (∀ before after, manualLines manual = before ++ .prose :: after →
      outline (manualLines manual) = outline (before ++ after)) ∧
    ∀ before text after, manualLines manual = before ++ .continuation text :: after →
      NoVariableOpen before → outline (manualLines manual) = outline (before ++ after) := by
  refine ⟨(of_ofManual_ok h).2.forall₂_outline, ?_, ?_⟩
  · intro before after hlines
    rw [hlines]
    exact outline_without rfl rfl rfl (.inl rfl)
  · intro before text after hlines hclosed
    rw [hlines]
    exact outline_without rfl rfl rfl (.inr hclosed)

def continuedManual : Text :=
  "name: app\n\x7bdefault\x7d\n[main]\n> Unheard\nport (int:80): Port\n> of the\nOr so\n> server\n"

theorem ofManual_outline_continued :
    ∃ s, Schema.ofManual continuedManual = .ok s ∧
      List.Forall₂ IsEnvironmentOf s.environments.values
        [⟨"default", [⟨"main", [⟨⟨"port", some "int:80", "Port"⟩, ["of the", "server"]⟩]⟩]⟩] ∧
      outline (manualLines continuedManual) =
        outline ([.appName "app", .environment "default", .sectionHeader "main"] ++
          [.declaration "port" (some "int:80") "Port", .continuation "of the", .prose,
            .continuation "server"]) := by
  obtain ⟨s, hs⟩ : ∃ s, Schema.ofManual continuedManual = .ok s := ⟨_, rfl⟩
  obtain ⟨hparts, -, hunheard⟩ := ofManual_outline hs
  refine ⟨s, hs, hparts, hunheard _ "Unheard" _ rfl ?_⟩
  intro before ident spec text after hsplit
  have hmem : Line.declaration ident spec text ∈
      [Line.appName "app", .environment "default", .sectionHeader "main"] := by
    rw [hsplit]
    simp
  simp at hmem

end IniSchema.Manual
