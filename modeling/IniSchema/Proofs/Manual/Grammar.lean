import IniSchema.Proofs.Manual.Outline
import IniSchema.Proofs.Run
import Mathlib.Data.List.Nodup
import Mathlib.Tactic.MkIffOfInductiveProp

/-!
# The grammar of manuals

A manual is compiled exactly if its lines come in the right order, no name is declared twice where
it may be declared once, all types and defaults can be read and the default environment has a
section.  Otherwise the first line that breaks a rule is blamed, or the manual as a whole when only
the default environment's section is missing.
-/

namespace IniSchema.Manual

/-! ## Lines in their context -/

def sectionOpen (lines : List Line) : Bool := (openSection? lines).isSome

theorem sectionOpen_iff {lines : List Line} : sectionOpen lines ↔
    ∃ before name after, lines = before ++ .environment name :: after ∧
      (∀ other, .environment other ∉ after) ∧ ∃ title, .sectionHeader title ∈ after := by
  constructor
  · intro h
    obtain ⟨block, hblock⟩ := Option.isSome_iff_exists.mp h
    obtain ⟨outer, houter, hinner⟩ := Option.bind_eq_some_iff.mp hblock
    obtain ⟨before, line, hlines, hline, hafter⟩ := exists_of_getLast?_blocks houter
    obtain rfl := Line.environmentName?_eq_some.mp hline
    obtain ⟨header, hheader, hname⟩ := exists_head_of_mem_blocks (List.mem_of_getLast? hinner)
    obtain rfl := Line.sectionName?_eq_some.mp hname
    refine ⟨before, outer.1, outer.2, hlines, ?_, block.1, hheader⟩
    intro other hmem
    cases hafter _ hmem
  · rintro ⟨before, name, after, rfl, hnone, title, htitle⟩
    have hafter : ∀ line ∈ after, line.environmentName? = none := by
      intro line hline
      cases hname : line.environmentName? with
      | none => rfl
      | some other =>
          obtain rfl := Line.environmentName?_eq_some.mp hname
          exact absurd hline (hnone other)
    have hblocks : blocks Line.environmentName? (before ++ .environment name :: after) =
        blocks Line.environmentName? before ++ [(name, after)] :=
      blocks_append_cons before rfl hafter
    rcases forall_none_or_exists_last Line.sectionName? after with
      hall | ⟨front, line, last, body, rfl, hline, hbody⟩
    · cases hall _ htitle
    · rw [sectionOpen, openSection?, innerBlock?, hblocks]
      simp [blocks_append_cons front hline hbody]

/-- What each text says after the ones before it. -/
def linesOf (texts : List Text) : List Line :=
  texts.foldl (fun lines text => lines ++ [Line.classify (sectionOpen lines) text]) []

theorem linesOf_concat (texts : List Text) (text : Text) :
    linesOf (texts ++ [text]) =
      linesOf texts ++ [Line.classify (sectionOpen (linesOf texts)) text] := by
  simp [linesOf, List.foldl_append]

def named (lines : List Line) : Bool := lines.any (·.applicationName?.isSome)

def environmentKeys (lines : List Line) : List Text :=
  (lines.filterMap Line.environmentName?).map Name.key

def sectionKeys (lines : List Line) : List Text :=
  (lines.filterMap Line.sectionName?).map Name.key

def variableKeys (lines : List Line) : List Text :=
  (lines.filterMap Line.declared?).map fun v => Name.key v.ident

/-! ## Rules -/

/-- The word before the first colon names a type, and all after it is a value of the type. -/
def Readable (spec : Text) : Prop :=
  ∃ type, ValueType.ofName (spec.takeWhile (· != ':')) = .ok type ∧
    ∀ default, spec.dropWhile (· != ':') = ':' :: default → ∃ value, type.read default = .ok value

def Line.needsName : Line → Bool
  | .environment _ => true
  | .sectionHeader _ => true
  | .declaration .. => true
  | .malformed => true
  | _ => false

def VariablesDistinct (environment : List Line) : Prop :=
  ∀ block ∈ sectionBlocks environment, (variableKeys block.2).Nodup

structure Ordered (lines : List Line) : Prop where
  named_once : ∀ before name after, lines = before ++ .appName name :: after → ¬ named before
  named_first : ∀ before line after, lines = before ++ line :: after → line.needsName →
    named before
  environments_distinct : (environmentKeys lines).Nodup
  sections_after_default : ∀ before name after, lines = before ++ .sectionHeader name :: after →
    Environment.defaultName ∈ environmentKeys before
  sections_distinct : ∀ block ∈ environmentBlocks lines, (sectionKeys block.2).Nodup
  variables_in_section : ∀ before ident spec text after,
    lines = before ++ .declaration ident spec text :: after → sectionOpen before
  variables_distinct : ∀ block ∈ environmentBlocks lines, VariablesDistinct block.2
  specs_readable : ∀ ident spec text, .declaration ident (some spec) text ∈ lines → Readable spec
  none_malformed : .malformed ∉ lines

def DefaultHasSection (lines : List Line) : Prop :=
  ∃ block ∈ environmentBlocks lines,
    Name.key block.1 = Environment.defaultName ∧ sectionKeys block.2 ≠ []

/-- The lines of a manual that can be compiled. -/
structure Grammatical (lines : List Line) : Prop extends Ordered lines where
  default_has_section : DefaultHasSection lines

/-! ## One line -/

/-- What a line must meet after the lines before it. -/
@[mk_iff]
structure Allowed (before : List Line) (line : Line) : Prop where
  named_once : ∀ name, line = .appName name → ¬ named before
  named_first : line.needsName → named before
  environment_distinct : ∀ name, line = .environment name →
    Name.key name ∉ environmentKeys before
  section_after_default : ∀ name, line = .sectionHeader name →
    Environment.defaultName ∈ environmentKeys before
  section_distinct : ∀ name, line = .sectionHeader name →
    ∀ block, openEnvironment? before = some block → Name.key name ∉ sectionKeys block.2
  variable_in_section : ∀ ident spec text, line = .declaration ident spec text →
    sectionOpen before
  variable_distinct : ∀ ident spec text, line = .declaration ident spec text →
    ∀ block, openSection? before = some block → Name.key ident ∉ variableKeys block.2
  spec_readable : ∀ ident spec text, line = .declaration ident (some spec) text → Readable spec
  not_malformed : line ≠ .malformed

section Concat

variable {lines : List Line} {line : Line}

private theorem nodup_keys_concat {α : Type} {kind? : Line → Option α} {key : α → Text} :
    (((lines ++ [line]).filterMap kind?).map key).Nodup ↔
      ((lines.filterMap kind?).map key).Nodup ∧
        ∀ a, kind? line = some a → key a ∉ (lines.filterMap kind?).map key := by
  cases hkind : kind? line with
  | none => simp [hkind]
  | some a =>
      have hconcat : ((lines ++ [line]).filterMap kind?).map key =
          ((lines.filterMap kind?).map key).concat (key a) := by
        simp [hkind]
      rw [hconcat, List.nodup_concat, and_comm]
      simp

private theorem sections_distinct_concat :
    (∀ block ∈ environmentBlocks (lines ++ [line]), (sectionKeys block.2).Nodup) ↔
      (∀ block ∈ environmentBlocks lines, (sectionKeys block.2).Nodup) ∧
        ∀ name, line.sectionName? = some name → ∀ block, openEnvironment? lines = some block →
          Name.key name ∉ sectionKeys block.2 := by
  cases henv : line.environmentName? with
  | some name =>
      obtain rfl := Line.environmentName?_eq_some.mp henv
      simp [environmentBlocks, blocks_concat_head lines henv, or_imp, forall_and, sectionKeys,
        Line.sectionName?]
  | none =>
      rw [environmentBlocks, forall_blocks_concat (P := fun body => (sectionKeys body).Nodup) henv
        fun body => nodup_keys_concat]
      exact and_congr_right fun _ => ⟨fun h name hname block hblock => h block hblock name hname,
        fun h block hblock name hname => h name hname block hblock⟩

private theorem variables_distinct_concat :
    (∀ block ∈ environmentBlocks (lines ++ [line]), VariablesDistinct block.2) ↔
      (∀ block ∈ environmentBlocks lines, VariablesDistinct block.2) ∧
        ∀ v, line.declared? = some v → ∀ block, openSection? lines = some block →
          Name.key v.ident ∉ variableKeys block.2 := by
  cases henv : line.environmentName? with
  | some name =>
      obtain rfl := Line.environmentName?_eq_some.mp henv
      simp [environmentBlocks, blocks_concat_head lines henv, or_imp, forall_and,
        VariablesDistinct, sectionBlocks, blocks, Line.declared?]
  | none =>
      cases hsec : line.sectionName? with
      | some name =>
          obtain rfl := Line.sectionName?_eq_some.mp hsec
          have hinner : ∀ body, VariablesDistinct (body ++ [.sectionHeader name]) ↔
              VariablesDistinct body ∧ True := by
            intro body
            simp [VariablesDistinct, sectionBlocks, blocks_concat_head body hsec, or_imp,
              forall_and, variableKeys]
          rw [environmentBlocks, forall_blocks_concat henv hinner]
          simp [Line.declared?]
      | none =>
          have hinner : ∀ body, VariablesDistinct (body ++ [line]) ↔
              VariablesDistinct body ∧ ∀ block, (sectionBlocks body).getLast? = some block →
                ∀ v, line.declared? = some v → Name.key v.ident ∉ variableKeys block.2 :=
            fun body => forall_blocks_concat (P := fun body => (variableKeys body).Nodup) hsec
              fun inner => nodup_keys_concat
          rw [environmentBlocks, forall_blocks_concat henv hinner]
          apply and_congr_right
          intro _
          simp only [openSection?, innerBlock?, Option.bind_eq_some_iff]
          constructor
          · rintro h v hv block ⟨outer, houter, hblock⟩
            exact h outer houter block hblock v hv
          · intro h outer houter block hblock v hv
            exact h v hv block ⟨outer, houter, hblock⟩

theorem ordered_concat : Ordered (lines ++ [line]) ↔ Ordered lines ∧ Allowed lines line := by
  constructor
  · intro h
    have honce := (forall_split_concat Line.appName).mp h.named_once
    have hfirst := (forall_split_concat id).mp h.named_first
    have henvironments := nodup_keys_concat.mp h.environments_distinct
    have hdefault := (forall_split_concat Line.sectionHeader).mp h.sections_after_default
    have hsections := sections_distinct_concat.mp h.sections_distinct
    have hvariables := variables_distinct_concat.mp h.variables_distinct
    constructor
    · exact {
        named_once := honce.1
        named_first := hfirst.1
        environments_distinct := henvironments.1
        sections_after_default := hdefault.1
        sections_distinct := hsections.1
        variables_in_section := fun before ident spec text after hlines =>
          h.variables_in_section before ident spec text (after ++ [line]) (by simp [hlines])
        variables_distinct := hvariables.1
        specs_readable := fun ident spec text hmem =>
          h.specs_readable ident spec text (List.mem_append_left _ hmem)
        none_malformed := fun hmem => h.none_malformed (List.mem_append_left _ hmem) }
    · exact {
        named_once := honce.2
        named_first := hfirst.2 line rfl
        environment_distinct := fun name hline =>
          henvironments.2 name (Line.environmentName?_eq_some.mpr hline)
        section_after_default := hdefault.2
        section_distinct := fun name hline =>
          hsections.2 name (Line.sectionName?_eq_some.mpr hline)
        variable_in_section := fun ident spec text hline =>
          h.variables_in_section lines ident spec text [] (by rw [hline])
        variable_distinct := fun ident spec text hline =>
          hvariables.2 ⟨ident, spec, text⟩ (Line.declared?_eq_some.mpr hline)
        spec_readable := fun ident spec text hline =>
          h.specs_readable ident spec text (by simp [hline])
        not_malformed := fun hline => h.none_malformed (by simp [hline]) }
  · rintro ⟨h, hline⟩
    exact {
      named_once := (forall_split_concat Line.appName).mpr ⟨h.named_once, hline.named_once⟩
      named_first := (forall_split_concat id).mpr
        ⟨h.named_first, by rintro x rfl; exact hline.named_first⟩
      environments_distinct := nodup_keys_concat.mpr ⟨h.environments_distinct,
        fun name hname => hline.environment_distinct name (Line.environmentName?_eq_some.mp hname)⟩
      sections_after_default :=
        (forall_split_concat Line.sectionHeader).mpr
          ⟨h.sections_after_default, hline.section_after_default⟩
      sections_distinct := sections_distinct_concat.mpr ⟨h.sections_distinct,
        fun name hname => hline.section_distinct name (Line.sectionName?_eq_some.mp hname)⟩
      variables_in_section := by
        intro before ident spec text after hsplit
        rcases split_concat hsplit with ⟨rfl, hlast⟩ | ⟨rest, hrest⟩
        · exact hline.variable_in_section ident spec text hlast.symm
        · exact h.variables_in_section before ident spec text rest hrest
      variables_distinct := variables_distinct_concat.mpr ⟨h.variables_distinct, fun v hv =>
        hline.variable_distinct v.ident v.spec v.description (Line.declared?_eq_some.mp hv)⟩
      specs_readable := by
        intro ident spec text hmem
        rcases List.mem_append.mp hmem with hmem | hmem
        · exact h.specs_readable ident spec text hmem
        · exact hline.spec_readable ident spec text (List.mem_singleton.mp hmem).symm
      none_malformed := by
        intro hmem
        rcases List.mem_append.mp hmem with hmem | hmem
        · exact h.none_malformed hmem
        · exact hline.not_malformed (List.mem_singleton.mp hmem).symm }

end Concat

end IniSchema.Manual
