import IniSchema.Proofs.Sameness
import IniSchema.Proofs.Validation
import Mathlib.Data.List.Perm.Subperm
import Mathlib.Data.Option.Basic

/-!
# Environments are independent

A manual is a preamble and environments, each a line that opens it and the lines up to the next
such line.  What a line says depends on the lines of its own environment only, and so does whether
it is in order, once the application is named and the default environment is there.  Any of the
other environments may therefore be left out or moved, and the rest is declared as before.
-/

namespace IniSchema.Manual

/-! ## Environment lines -/

/-- The environment that a trimmed line opens. -/
def environmentLine? (line : Text) : Option Text := Line.header? '\x7b' '\x7d' line

private theorem exists_brace_of_environmentLine? {line name : Text}
    (h : environmentLine? line = some name) : ∃ rest, line = '\x7b' :: rest := by
  unfold environmentLine? Line.header? at h
  cases hbetween : line.between? '\x7b' '\x7d' with
  | none =>
      rw [hbetween] at h
      cases h
  | some inner => exact ⟨_, Text.between?_eq_some_iff.mp hbetween⟩

private theorem environmentName?_of_declaration? {line : Text} {found : Line}
    (h : Line.declaration? line = some found) : found.environmentName? = none := by
  unfold Line.declaration? at h
  simp only at h
  split at h
  · cases h
  · split at h
    · cases h
      rfl
    · split at h
      · split at h
        · cases h
          rfl
        · cases h
      · cases h
    · cases h

private theorem environmentName?_ofForm (line : Text) :
    (Line.ofForm line).environmentName? = environmentLine? line := by
  unfold Line.ofForm environmentLine?
  cases Line.header? '\x7b' '\x7d' line with
  | some name => rfl
  | none =>
      cases Line.header? '[' ']' line with
      | some name => rfl
      | none =>
          cases hdeclaration : Line.declaration? line with
          | some found => exact environmentName?_of_declaration? hdeclaration
          | none => cases Line.looksLikeDeclaration line <;> rfl

private theorem appName?_brace (rest : Text) : Line.appName? ('\x7b' :: rest) = none := by
  have hname : Text.asciiLower (('\x7b' :: rest).take 4) ≠ "name".toList := by
    intro h
    have hhead := congrArg List.head? h
    simp [Text.asciiLower] at hhead
  simp only [Line.appName?, hname, if_false]

/-- Whether a line opens an environment does not depend on what is open before it. -/
theorem environmentName?_classify (sectionOpen : Bool) (line : Text) :
    (Line.classify sectionOpen line).environmentName? = environmentLine? line := by
  cases hline : environmentLine? line with
  | some name =>
      obtain ⟨rest, rfl⟩ := exists_brace_of_environmentLine? hline
      rw [← hline, ← environmentName?_ofForm]
      unfold Line.classify
      cases sectionOpen <;> simp [appName?_brace]
  | none =>
      unfold Line.classify
      split
      · rfl
      · split
        · rfl
        · rw [environmentName?_ofForm, hline]

theorem classify_of_environmentLine? {line name : Text} (h : environmentLine? line = some name)
    (sectionOpen : Bool) : Line.classify sectionOpen line = .environment name := by
  rw [← Line.environmentName?_eq_some, environmentName?_classify, h]

theorem map_environmentName?_linesOf (texts : List Text) :
    (linesOf texts).map Line.environmentName? = texts.map environmentLine? := by
  induction texts using List.reverseRecOn with
  | nil => rfl
  | append_singleton texts text ih =>
      rw [linesOf_concat, List.map_append, List.map_append, ih, List.map_singleton,
        environmentName?_classify, List.map_singleton]

/-- Lines open no environment if the texts that they are read from open none. -/
theorem environmentName?_eq_none_of_map {lines : List Line} {texts : List Text}
    (hkinds : lines.map Line.environmentName? = texts.map environmentLine?)
    (h : ∀ text ∈ texts, environmentLine? text = none) :
    ∀ line ∈ lines, line.environmentName? = none := by
  intro line hline
  have hmem := List.mem_map_of_mem (f := Line.environmentName?) hline
  rw [hkinds] at hmem
  obtain ⟨text, htext, heq⟩ := List.mem_map.mp hmem
  rw [← heq, h text htext]

/-! ## What is open in an environment -/

section Open

variable {name : Text}

theorem openEnvironment?_append (before rest : List Line) :
    openEnvironment? (before ++ .environment name :: rest) =
      openEnvironment? (.environment name :: rest) := by
  have hhead : (Line.environment name).environmentName? = some name := rfl
  have hne : environmentBlocks (.environment name :: rest) ≠ [] := List.cons_ne_nil _ _
  rw [openEnvironment?, environmentBlocks, blocks_append_head before rest hhead,
    List.getLast?_append_of_ne_nil _ hne]
  rfl

theorem openSection?_append (before rest : List Line) :
    openSection? (before ++ .environment name :: rest) =
      openSection? (.environment name :: rest) := by
  have houter : (environmentBlocks (before ++ .environment name :: rest)).getLast? =
      (environmentBlocks (.environment name :: rest)).getLast? :=
    openEnvironment?_append before rest
  rw [openSection?, openSection?, innerBlock?, innerBlock?, houter]

theorem sectionOpen_append (before rest : List Line) :
    sectionOpen (before ++ .environment name :: rest) =
      sectionOpen (.environment name :: rest) := by
  rw [sectionOpen, sectionOpen, openSection?_append]

end Open

/-! ## Environments of a text -/

/-- A line that opens an environment and the lines up to the next one that does. -/
structure EnvironmentText where
  name : Text
  header : Text
  body : List Text
  opens : environmentLine? header = some name
  closed : ∀ line ∈ body, environmentLine? line = none

def trimmedLines (manual : Text) : List Text := manual.lines.map Text.trim

theorem map_snd_significantLines (manual : Text) :
    (significantLines manual).map Prod.snd = (trimmedLines manual).filter significant := by
  have hnumbered : ∀ (lines : List Text) (number : Nat),
      ((lines.zipIdx number).filterMap fun numbered =>
        if significant numbered.1 then some (numbered.2, numbered.1) else none).map Prod.snd =
          lines.filter significant := by
    intro lines
    induction lines with
    | nil => intro number; rfl
    | cons line rest ih =>
        intro number
        have hrest := ih (number + 1)
        by_cases hline : significant line = true
        · simpa [hline] using hrest
        · simpa [hline] using hrest
  exact hnumbered _ 1

namespace EnvironmentText

def texts (b : EnvironmentText) : List Text := b.header :: b.body

/-- What the environment's lines say. -/
def lines (b : EnvironmentText) : List Line := linesOf (b.texts.filter significant)

def declarations (b : EnvironmentText) : List Line := b.lines.tail

def block (b : EnvironmentText) : Text × List Line := (b.name, b.declarations)

variable (b : EnvironmentText)

theorem filter_texts :
    b.texts.filter significant = b.header :: b.body.filter significant := by
  obtain ⟨rest, hrest⟩ := exists_brace_of_environmentLine? b.opens
  have hheader : significant b.header = true := by
    rw [hrest]
    rfl
  rw [texts, List.filter_cons_of_pos hheader]

private theorem map_environmentName?_lines : b.lines.map Line.environmentName? =
    some b.name :: (b.body.filter significant).map environmentLine? := by
  rw [lines, map_environmentName?_linesOf, filter_texts, List.map_cons, b.opens]

theorem lines_eq : b.lines = .environment b.name :: b.declarations := by
  have hkinds := b.map_environmentName?_lines
  unfold declarations
  cases hlines : b.lines with
  | nil => simp [hlines] at hkinds
  | cons line rest =>
      rw [hlines, List.map_cons, List.cons.injEq] at hkinds
      rw [Line.environmentName?_eq_some.mp hkinds.1, List.tail_cons]

theorem environmentName?_of_mem_declarations :
    ∀ line ∈ b.declarations, line.environmentName? = none := by
  have hkinds := b.map_environmentName?_lines
  rw [lines_eq, List.map_cons, List.cons.injEq] at hkinds
  exact environmentName?_eq_none_of_map hkinds.2 fun text htext =>
    b.closed text (List.mem_filter.mp htext).1

end EnvironmentText

/-- Nothing before an environment changes what its lines say. -/
theorem linesOf_append_environment (before : List Text) {header name : Text}
    (h : environmentLine? header = some name) (body : List Text) :
    linesOf (before ++ header :: body) = linesOf before ++ linesOf (header :: body) := by
  induction body using List.reverseRecOn with
  | nil =>
      have hsingle : linesOf [header] = [.environment name] := by
        simp [linesOf, classify_of_environmentLine? h]
      rw [linesOf_concat, classify_of_environmentLine? h, hsingle]
  | append_singleton body text ih =>
      -- What a line says depends on the section that is open, and the header has closed any before.
      obtain ⟨rest, hrest⟩ : ∃ rest, linesOf (header :: body) = .environment name :: rest := by
        have hkinds := map_environmentName?_linesOf (header :: body)
        rw [List.map_cons, h] at hkinds
        obtain ⟨line, rest, hlines, hline, -⟩ := List.map_eq_cons_iff.mp hkinds
        rw [Line.environmentName?_eq_some.mp hline] at hlines
        exact ⟨rest, hlines⟩
      rw [← List.cons_append, ← List.append_assoc, linesOf_concat, linesOf_concat, ih, hrest,
        sectionOpen_append, List.append_assoc]

theorem linesOf_flatMap (before : List Text) (environments : List EnvironmentText) :
    linesOf (before ++ (environments.flatMap EnvironmentText.texts).filter significant) =
      linesOf before ++ environments.flatMap EnvironmentText.lines := by
  induction environments generalizing before with
  | nil => simp
  | cons b rest ih =>
      have hfirst : linesOf (before ++ b.texts.filter significant) = linesOf before ++ b.lines := by
        rw [EnvironmentText.lines, b.filter_texts]
        exact linesOf_append_environment before b.opens _
      rw [List.flatMap_cons, List.flatMap_cons, List.filter_append, ← List.append_assoc, ih, hfirst,
        List.append_assoc]

theorem manualLines_of_trimmedLines {manual : Text} {preamble : List Text}
    {environments : List EnvironmentText}
    (h : trimmedLines manual = preamble ++ environments.flatMap EnvironmentText.texts) :
    manualLines manual = linesOf (preamble.filter significant) ++
      environments.flatMap EnvironmentText.lines := by
  rw [manualLines, linesAt, map_snd_significantLines, h, List.filter_append, linesOf_flatMap]

/-! ## Blocks and keys -/

theorem environmentBlocks_flatMap (before : List Line) (environments : List EnvironmentText) :
    environmentBlocks (before ++ environments.flatMap EnvironmentText.lines) =
      environmentBlocks before ++ environments.map EnvironmentText.block := by
  unfold environmentBlocks
  induction environments using List.reverseRecOn with
  | nil => simp
  | append_singleton environments b ih =>
      have hhead : (Line.environment b.name).environmentName? = some b.name := rfl
      have hlast := blocks_append_cons (before ++ environments.flatMap EnvironmentText.lines) hhead
        b.environmentName?_of_mem_declarations
      rw [List.flatMap_append, List.flatMap_singleton, ← List.append_assoc, b.lines_eq, hlast, ih,
        List.map_append, List.append_assoc]
      rfl

theorem environmentKeys_eq (lines : List Line) :
    environmentKeys lines = (environmentBlocks lines).map fun block => Name.key block.1 :=
  (map_keys_blocks id lines).symm

theorem environmentKeys_append (before after : List Line) :
    environmentKeys (before ++ after) = environmentKeys before ++ environmentKeys after := by
  simp [environmentKeys]

theorem mem_environmentKeys_append {key : Text} {before : List Line}
    (h : key ∈ environmentKeys before) (after : List Line) :
    key ∈ environmentKeys (before ++ after) := by
  rw [environmentKeys_append]
  exact List.mem_append_left _ h

theorem key_notMem_environmentKeys {before body : List Line} {name : Text}
    (h : (environmentKeys (before ++ .environment name :: body)).Nodup) :
    Name.key name ∉ environmentKeys before := by
  rw [environmentKeys_append] at h
  have hkey : Name.key name ∈ environmentKeys (.environment name :: body) := by
    simp [environmentKeys, Line.environmentName?]
  exact fun hmem => List.disjoint_of_nodup_append h hmem hkey

theorem environmentKeys_flatMap (before : List Line) (environments : List EnvironmentText) :
    environmentKeys (before ++ environments.flatMap EnvironmentText.lines) =
      environmentKeys before ++ environments.map fun b => Name.key b.name := by
  rw [environmentKeys_eq, environmentBlocks_flatMap, List.map_append, ← environmentKeys_eq,
    List.map_map]
  rfl

theorem named_append {before : List Line} (h : named before) (after : List Line) :
    named (before ++ after) := by
  unfold named at h ⊢
  rw [List.any_append, h, Bool.true_or]

/-! ## Order -/

theorem Ordered.left {lines rest : List Line} (h : Ordered (lines ++ rest)) : Ordered lines := by
  induction rest using List.reverseRecOn with
  | nil => simpa using h
  | append_singleton rest last ih =>
      rw [← List.append_assoc, ordered_concat] at h
      exact ih h.1

section Transplant

variable {before before' body : List Line} {name : Text}

/-- What is allowed at the end of an environment is allowed there wherever the environment is. -/
theorem Allowed.transplant {line : Line}
    (h : Allowed (before ++ .environment name :: body) line) (hline : line.environmentName? = none)
    (hnamed : named before) (hnamed' : named before')
    (hdefault : Environment.defaultName ∈ environmentKeys before') :
    Allowed (before' ++ .environment name :: body) line where
  named_once := fun other hother => absurd (named_append hnamed _) (h.named_once other hother)
  named_first := fun _ => named_append hnamed' _
  environment_distinct := by
    rintro other rfl
    cases hline
  section_after_default := by
    intro _ _
    exact mem_environmentKeys_append hdefault _
  section_distinct := by
    have hdistinct := h.section_distinct
    rwa [openEnvironment?_append] at hdistinct ⊢
  variable_in_section := by
    have hsection := h.variable_in_section
    rwa [sectionOpen_append] at hsection ⊢
  variable_distinct := by
    have hdistinct := h.variable_distinct
    rwa [openSection?_append] at hdistinct ⊢
  spec_readable := h.spec_readable
  not_malformed := h.not_malformed

theorem Ordered.transplant (h : Ordered (before ++ .environment name :: body))
    (hbody : ∀ line ∈ body, line.environmentName? = none) (h' : Ordered before')
    (hnamed' : named before') (hdefault : Environment.defaultName ∈ environmentKeys before')
    (hnew : Name.key name ∉ environmentKeys before') :
    Ordered (before' ++ .environment name :: body) := by
  have hnamed : named before := h.named_first before _ body rfl rfl
  induction body using List.reverseRecOn with
  | nil =>
      refine ordered_concat.mpr ⟨h', ?_⟩
      constructor
      case named_first => exact fun _ => hnamed'
      case environment_distinct =>
        rintro other ⟨⟩
        exact hnew
      all_goals simp
  | append_singleton body line ih =>
      have hsplit : ∀ front : List Line, front ++ .environment name :: (body ++ [line]) =
          (front ++ .environment name :: body) ++ [line] := by simp
      rw [hsplit, ordered_concat] at h ⊢
      have hfront := ih h.1 fun x hx => hbody x (by simp [hx])
      exact ⟨hfront, h.2.transplant (hbody line (by simp)) hnamed hnamed' hdefault⟩

end Transplant

section Base

variable {base : List Line} {environments : List EnvironmentText}

/-- After the default environment, environments are in order if each would be on its own. -/
theorem ordered_flatMap_iff (hbase : Ordered base) (hnamed : named base)
    (hdefault : Environment.defaultName ∈ environmentKeys base) :
    Ordered (base ++ environments.flatMap EnvironmentText.lines) ↔
      (environmentKeys base ++ environments.map fun b => Name.key b.name).Nodup ∧
        ∀ b ∈ environments, Ordered (base ++ b.lines) := by
  rw [← environmentKeys_flatMap]
  constructor
  · intro h
    refine ⟨h.environments_distinct, ?_⟩
    intro b hb
    obtain ⟨front, back, rfl⟩ := List.append_of_mem hb
    rw [List.flatMap_append, List.flatMap_cons, ← List.append_assoc, ← List.append_assoc] at h
    have hb := h.left
    rw [b.lines_eq] at hb ⊢
    have hnew := key_notMem_environmentKeys hb.environments_distinct
    exact hb.transplant b.environmentName?_of_mem_declarations hbase hnamed hdefault
      fun hmem => hnew (mem_environmentKeys_append hmem _)
  · rintro ⟨hnodup, hall⟩
    -- The last environment is moved from next to the base to the end of the others.
    induction environments using List.reverseRecOn with
    | nil => simpa using hbase
    | append_singleton environments b ih =>
        rw [List.flatMap_append, List.flatMap_singleton, ← List.append_assoc] at hnodup ⊢
        have hfront := ih (List.nodup_append.mp (environmentKeys_append _ b.lines ▸ hnodup)).1
          fun c hc => hall c (by simp [hc])
        have hb := hall b (by simp)
        rw [b.lines_eq] at hb hnodup ⊢
        exact hb.transplant b.environmentName?_of_mem_declarations hfront
          (named_append hnamed _) (mem_environmentKeys_append hdefault _)
          (key_notMem_environmentKeys hnodup)

end Base

/-! ## What is declared -/

theorem VariableDeclaredBy.unique {v w : Variable} {block : Declaration × List Line}
    (hv : VariableDeclaredBy v block) (hw : VariableDeclaredBy w block) : v = w := by
  obtain ⟨hname, hident, hspec, hdescription⟩ := hv
  obtain ⟨hname', hident', hspec', hdescription'⟩ := hw
  rw [hspec, Except.ok.injEq, Prod.mk.injEq] at hspec'
  cases v
  cases w
  simp_all

theorem SectionDeclaredBy.unique {s t : Section} {block : Text × List Line}
    (hs : SectionDeclaredBy s block) (ht : SectionDeclaredBy t block) : s = t := by
  obtain ⟨name, declared⟩ := s
  obtain ⟨name', declared'⟩ := t
  obtain ⟨rfl, hdeclared⟩ := hs
  obtain ⟨rfl, hdeclared'⟩ := ht
  congr 1
  exact hdeclared.unique hdeclared' fun _ _ _ hv hw => hv.unique hw

theorem EnvironmentDeclaredBy.unique {e f : Environment} {block : Text × List Line}
    (he : EnvironmentDeclaredBy e block) (hf : EnvironmentDeclaredBy f block) : e = f := by
  obtain ⟨name, sections⟩ := e
  obtain ⟨name', sections'⟩ := f
  obtain ⟨rfl, hsections⟩ := he
  obtain ⟨rfl, hsections'⟩ := hf
  congr 1
  exact hsections.unique hsections' fun _ _ _ hs ht => hs.unique ht

section Declared

variable {preamble : List Line} {environments environments' : List EnvironmentText}
  {s s' : Schema}

theorem environmentBlocks_preamble (hpreamble : ∀ line ∈ preamble, line.environmentName? = none)
    (environments : List EnvironmentText) :
    environmentBlocks (preamble ++ environments.flatMap EnvironmentText.lines) =
      environments.map EnvironmentText.block := by
  have hnone : environmentBlocks preamble = [] := blocks_of_forall_none hpreamble
  rw [environmentBlocks_flatMap, hnone, List.nil_append]

/-- Each environment is declared by its own lines. -/
theorem DeclaredBy.lists (hpreamble : ∀ line ∈ preamble, line.environmentName? = none)
    (h : DeclaredBy s (preamble ++ environments.flatMap EnvironmentText.lines)) :
    s.environments.Lists EnvironmentDeclaredBy Prod.fst
      (environments.map EnvironmentText.block) := by
  rw [← environmentBlocks_preamble hpreamble]
  exact h.environments

theorem DeclaredBy.appName_eq (hnamed : named preamble) {rest rest' : List Line}
    (h : DeclaredBy s (preamble ++ rest)) (h' : DeclaredBy s' (preamble ++ rest')) :
    s'.appName = s.appName := by
  have hname := h.appName
  have hname' := h'.appName
  obtain ⟨line, hline, hsome⟩ := List.any_eq_true.mp hnamed
  obtain ⟨name, hlineName⟩ := Option.isSome_iff_exists.mp hsome
  have hne : preamble.filterMap Line.applicationName? ≠ [] :=
    List.ne_nil_of_mem (List.mem_filterMap.mpr ⟨line, hline, hlineName⟩)
  rw [List.filterMap_append, List.head?_append_of_ne_nil _ hne] at hname hname'
  rw [hname, Option.some.injEq] at hname'
  exact hname'.symm

theorem map_name_of_lists (h : s.environments.Lists EnvironmentDeclaredBy Prod.fst
    (environments.map EnvironmentText.block)) :
    s.environmentNames = environments.map EnvironmentText.name := by
  have hvalues := List.forall₂_map_right_iff.mp h.forall₂_values
  unfold Schema.environmentNames
  rw [← List.forall₂_eq_eq_eq, List.forall₂_map_left_iff, List.forall₂_map_right_iff]
  exact hvalues.imp fun _ _ he => he.1

theorem map_some_values_of_lists (h : s.environments.Lists EnvironmentDeclaredBy Prod.fst
    (environments.map EnvironmentText.block))
    (h' : s'.environments.Lists EnvironmentDeclaredBy Prod.fst
      (environments'.map EnvironmentText.block)) (hsubset : environments' ⊆ environments) :
    s'.environments.values.map some = environments'.map (s.environment? ·.name) := by
  have hvalues := List.forall₂_map_right_iff.mp h'.forall₂_values
  rw [← List.forall₂_eq_eq_eq, List.forall₂_map_left_iff, List.forall₂_map_right_iff]
  clear h'
  generalize s'.environments.values = values at hvalues
  induction hvalues with
  | nil => exact .nil
  | @cons e b values rest he _ ih =>
      obtain ⟨hb, hrest⟩ := List.cons_subset.mp hsubset
      obtain ⟨f, hf, hdeclared⟩ := h.get?_of_mem (List.mem_map_of_mem hb)
      refine .cons ?_ (ih hrest)
      rw [he.unique hdeclared]
      exact hf.symm

theorem validate_eq_of_lists (h : s.environments.Lists EnvironmentDeclaredBy Prod.fst
    (environments.map EnvironmentText.block))
    (h' : s'.environments.Lists EnvironmentDeclaredBy Prod.fst
      (environments'.map EnvironmentText.block)) {b : EnvironmentText} (hb : b ∈ environments)
    (hb' : b ∈ environments') {name : Text} (hname : Name.key name = Name.key b.name)
    (source : Source) (strict : Bool) :
    s'.validate name source strict = s.validate name source strict := by
  obtain ⟨e, he, hdeclared⟩ := h.get?_of_mem (List.mem_map_of_mem hb)
  obtain ⟨e', he', hdeclared'⟩ := h'.get?_of_mem (List.mem_map_of_mem hb')
  have hfound : s.environment? name = some e := by
    rw [Schema.environment?, hname]
    exact he
  have hfound' : s'.environment? name = some e := by
    rw [Schema.environment?, hname, hdeclared.unique hdeclared']
    exact he'
  simp only [Schema.validate, Schema.environment, hfound, hfound']

theorem validate_undefined_of_lists (hsound : s.Sound)
    (h : s.environments.Lists EnvironmentDeclaredBy Prod.fst
      (environments.map EnvironmentText.block)) {name : Text}
    (hname : ∀ b ∈ environments, Name.key name ≠ Name.key b.name) (source : Source)
    (strict : Bool) :
    s.validate name source strict = .error (.undefinedEnvironment name s.environmentNames) := by
  apply Schema.validate_of_key_ne hsound
  intro e he hkey
  have hmem : e.name ∈ s.environmentNames := List.mem_map_of_mem he
  rw [map_name_of_lists h] at hmem
  obtain ⟨b, hb, hbname⟩ := List.mem_map.mp hmem
  exact hname b hb (by rw [hbname, hkey])

end Declared

/-! ## Other environments -/

section Others

variable {preamble : List Line} {first : EnvironmentText}
  {environments environments' : List EnvironmentText}

theorem Ordered.named_preamble
    (h : Ordered (preamble ++ (first :: environments).flatMap EnvironmentText.lines)) :
    named preamble := by
  rw [List.flatMap_cons, first.lines_eq] at h
  exact h.named_first preamble _ _ rfl rfl

theorem ordered_of_subperm (hfirst : Name.key first.name = Environment.defaultName)
    (hsubperm : environments'.Subperm environments)
    (h : Ordered (preamble ++ (first :: environments).flatMap EnvironmentText.lines)) :
    Ordered (preamble ++ (first :: environments').flatMap EnvironmentText.lines) := by
  have hnamed := named_append h.named_preamble first.lines
  have hdefault : Environment.defaultName ∈ environmentKeys (preamble ++ first.lines) := by
    rw [environmentKeys_append, first.lines_eq]
    simp [environmentKeys, Line.environmentName?, hfirst]
  rw [List.flatMap_cons, ← List.append_assoc] at h ⊢
  have hbase := h.left
  rw [ordered_flatMap_iff hbase hnamed hdefault] at h ⊢
  obtain ⟨hnodup, hall⟩ := h
  obtain ⟨kept, hperm, hkept⟩ := hsubperm
  constructor
  · have hsublist := (hkept.map fun b => Name.key b.name).append_left
      (environmentKeys (preamble ++ first.lines))
    exact ((hperm.map _).append_left _).nodup_iff.mp (hnodup.sublist hsublist)
  · intro b hb
    exact hall b (hkept.subset (hperm.symm.subset hb))

theorem defaultHasSection_of_subperm
    (hpreamble : ∀ line ∈ preamble, line.environmentName? = none)
    (hfirst : Name.key first.name = Environment.defaultName)
    (h : Grammatical (preamble ++ (first :: environments).flatMap EnvironmentText.lines)) :
    DefaultHasSection (preamble ++ (first :: environments').flatMap EnvironmentText.lines) := by
  obtain ⟨block, hblock, hkey, hsections⟩ := h.default_has_section
  have hdistinct := h.environments_distinct
  rw [environmentKeys_eq] at hdistinct
  rw [environmentBlocks_preamble hpreamble] at hblock hdistinct
  have hfound : block = first.block := by
    rcases List.mem_cons.mp hblock with heq | hother
    · exact heq
    · -- The key of the default environment is taken by the first one.
      rw [List.map_cons, List.map_cons, List.nodup_cons] at hdistinct
      refine absurd (List.mem_map.mpr ⟨block, hother, ?_⟩) hdistinct.1
      exact hkey.trans hfirst.symm
  refine ⟨first.block, ?_, hfirst, hfound ▸ hsections⟩
  rw [environmentBlocks_preamble hpreamble]
  exact List.mem_cons_self

end Others

/-- Environments after the default one may be left out or moved.  The others are declared as before
and validate every source as before. -/
theorem ofManual_independent {manual manual' : Text} {preamble : List Text}
    {first : EnvironmentText} {environments environments' : List EnvironmentText} {s : Schema}
    (hpreamble : ∀ line ∈ preamble, environmentLine? line = none)
    (hfirst : Name.key first.name = Environment.defaultName)
    (hmanual : trimmedLines manual =
      preamble ++ (first :: environments).flatMap EnvironmentText.texts)
    (hmanual' : trimmedLines manual' =
      preamble ++ (first :: environments').flatMap EnvironmentText.texts)
    (hsubperm : environments'.Subperm environments) (hs : Schema.ofManual manual = .ok s) :
    ∃ s', Schema.ofManual manual' = .ok s' ∧ s'.appName = s.appName ∧
      s'.environmentNames = (first :: environments').map EnvironmentText.name ∧
      s'.environments.values.map some =
        (first :: environments').map (s.environment? ·.name) ∧
      (environments'.Perm environments →
        s'.environments.values.Perm s.environments.values ∧ s'.sameAs s = true) ∧
      (∀ b ∈ first :: environments', ∀ name, Name.key name = Name.key b.name →
        ∀ source strict, s'.validate name source strict = s.validate name source strict) ∧
      ∀ name, (∀ b ∈ first :: environments, Name.key name ≠ Name.key b.name) →
        ∀ source strict,
          s.validate name source strict =
            .error (.undefinedEnvironment name s.environmentNames) ∧
          s'.validate name source strict =
            .error (.undefinedEnvironment name s'.environmentNames) := by
  have hnone : ∀ line ∈ linesOf (preamble.filter significant), line.environmentName? = none :=
    environmentName?_eq_none_of_map (map_environmentName?_linesOf _) fun line hline =>
      hpreamble line (List.mem_filter.mp hline).1
  have hsound := Schema.sound_of_ofManual hs
  obtain ⟨hgrammatical, hdeclared⟩ := of_ofManual_ok hs
  rw [manualLines_of_trimmedLines hmanual] at hgrammatical hdeclared
  obtain ⟨s', hs'⟩ : ∃ s', Schema.ofManual manual' = .ok s' := by
    apply ofManual_grammatical
    rw [manualLines_of_trimmedLines hmanual']
    exact ⟨ordered_of_subperm hfirst hsubperm hgrammatical.toOrdered,
      defaultHasSection_of_subperm hnone hfirst hgrammatical⟩
  have hsound' := Schema.sound_of_ofManual hs'
  have hdeclared' := (of_ofManual_ok hs').2
  rw [manualLines_of_trimmedLines hmanual'] at hdeclared'
  have hlists := hdeclared.lists hnone
  have hlists' := hdeclared'.lists hnone
  have happName := hdeclared.appName_eq hgrammatical.named_preamble hdeclared'
  have hsubset : first :: environments' ⊆ first :: environments :=
    List.cons_subset_cons _ hsubperm.subset
  have hvalues := map_some_values_of_lists hlists hlists' hsubset
  refine ⟨s', hs', happName, map_name_of_lists hlists', hvalues, ?_, ?_, ?_⟩
  · intro hperm
    have hsome := map_some_values_of_lists hlists hlists (List.Subset.refl _)
    have hpermValues : s'.environments.values.Perm s.environments.values := by
      rw [← List.map_perm_map_iff (Option.some_injective _), hvalues, hsome]
      exact (hperm.cons first).map _
    exact ⟨hpermValues, hsound'.sameAs_of_perm hsound happName hpermValues⟩
  · intro b hb name hname source strict
    exact validate_eq_of_lists hlists hlists' (hsubset hb) hb hname source strict
  · intro name hname source strict
    have hname' : ∀ b ∈ first :: environments', Name.key name ≠ Name.key b.name :=
      fun b hb => hname b (hsubset hb)
    exact ⟨validate_undefined_of_lists hsound hlists hname source strict,
      validate_undefined_of_lists hsound' hlists' hname' source strict⟩

def stagingText : EnvironmentText where
  name := "staging"
  header := "\x7bstaging\x7d"
  body := ["[main]", "port (int:80): Port"]
  opens := rfl
  closed := by decide

def productionText : EnvironmentText where
  name := "Production"
  header := "\x7bProduction\x7d"
  body := ["[store]", "user: Who owns it", "> there"]
  opens := rfl
  closed := by decide

def defaultText : EnvironmentText where
  name := "default"
  header := "\x7bdefault\x7d"
  body := ["[main]", "host: Where it listens"]
  opens := rfl
  closed := by decide

def manualOf (environments : List EnvironmentText) : Text :=
  Text.unlines ("name: app".toList :: environments.flatMap EnvironmentText.texts)

theorem ofManual_independent_moved :
    ∃ s s', Schema.ofManual (manualOf [defaultText, stagingText, productionText]) = .ok s ∧
      Schema.ofManual (manualOf [defaultText, productionText, stagingText]) = .ok s' ∧
      s'.environmentNames = ["default".toList, "Production".toList, "staging".toList] ∧
      s'.sameAs s = true ∧
      s'.validate "production" (.blank none) true = s.validate "production" (.blank none) true := by
  obtain ⟨s, hs⟩ : ∃ s,
      Schema.ofManual (manualOf [defaultText, stagingText, productionText]) = .ok s := ⟨_, rfl⟩
  have hperm : [productionText, stagingText].Perm [stagingText, productionText] := .swap _ _ []
  have hpreamble : ∀ line ∈ ["name: app".toList], environmentLine? line = none := by decide
  have hfirst : Name.key defaultText.name = Environment.defaultName := by decide
  have hmoved : trimmedLines (manualOf [defaultText, productionText, stagingText]) =
      ["name: app".toList] ++
        [defaultText, productionText, stagingText].flatMap EnvironmentText.texts := rfl
  obtain ⟨s', hs', -, hnames, -, hsame, hvalidate, -⟩ :=
    ofManual_independent hpreamble hfirst rfl hmoved hperm.subperm hs
  have hkey : Name.key "production" = Name.key productionText.name := by decide
  exact ⟨s, s', hs, hs', hnames, (hsame hperm).2,
    hvalidate productionText (by simp) "production" hkey (.blank none) true⟩

end IniSchema.Manual
