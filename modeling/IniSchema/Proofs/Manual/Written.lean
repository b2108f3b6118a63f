import IniSchema.Proofs.Manual.Compilation
import IniSchema.Proofs.Manual.Layout
import IniSchema.Proofs.Reading
import Mathlib.Data.Bool.AllAny

/-!
# Written declarations

A variable that is written as a line of a manual, with its default in quotes if it is a string, is
declared as it was written, whatever its default and its description hold.
-/

namespace IniSchema

open Unicode

/-- The texts that a default is written as: a string between quotes of a kind that it does not hold,
and any other value as it is shown. -/
inductive Value.Written : Value → Text → Prop where
  | quoted {quote : Char} {s : Text} (hquote : Manual.Line.isQuote quote = true)
      (hs : quote ∉ s) : Written (.string s) (quote :: s ++ [quote])
  | shown {v : Value} (hv : ∀ s, v ≠ .string s) : Written v v.display

namespace Manual

/-- `ident (type:literal): description` -/
def declarationLine (ident : Text) (type : ValueType) (literal description : Text) : Text :=
  ident ++ " (" ++ type.name ++ ":" ++ literal ++ "):" ++ ' ' :: description

/-! ## What stands in parentheses -/

namespace Line

/-- No closing parenthesis in the text ends what stands in parentheses, and no quotes are left open
at its end. -/
def Enclosed (inner : Text) : Prop :=
  ∀ rest, splitParenthesis? none (inner ++ rest) =
    (splitParenthesis? none rest).map fun split => (inner ++ split.1, split.2)

variable {inner rest : Text}

theorem Enclosed.append {more : Text} (h : Enclosed inner) (hmore : Enclosed more) :
    Enclosed (inner ++ more) := by
  intro rest
  rw [List.append_assoc, h, hmore, Option.map_map]
  simp [Function.comp_def]

theorem Enclosed.splitParenthesis? (h : Enclosed inner) (rest : Text) :
    Line.splitParenthesis? none (inner ++ ')' :: rest) = some (inner, rest) := by
  rw [h]
  simp [Line.splitParenthesis?]

/-- Characters that are no quotes and no closing parentheses. -/
def Plain (c : Char) : Prop := c ≠ ')' ∧ isQuote c = false

instance : DecidablePred Plain := fun c =>
  inferInstanceAs (Decidable (c ≠ ')' ∧ isQuote c = false))

theorem enclosed_plain (h : ∀ c ∈ inner, Plain c) : Enclosed inner := by
  intro rest
  induction inner with
  | nil => simp
  | cons c inner ih =>
      rw [List.forall_mem_cons] at h
      obtain ⟨⟨hclosing, hquote⟩, hinner⟩ := h
      rw [List.cons_append, Line.splitParenthesis?, if_neg hclosing, hquote,
        if_neg Bool.false_ne_true, ih hinner, Option.map_map]
      rfl

theorem splitParenthesis?_within {quote : Char} {s : Text} (hs : quote ∉ s) (rest : Text) :
    Line.splitParenthesis? (some quote) (s ++ quote :: rest) =
      (Line.splitParenthesis? none rest).map fun split => (s ++ quote :: split.1, split.2) := by
  induction s with
  | nil => simp [Line.splitParenthesis?]
  | cons c s ih =>
      rw [List.mem_cons, not_or] at hs
      rw [List.cons_append, Line.splitParenthesis?, if_neg (Ne.symm hs.1), ih hs.2,
        Option.map_map]
      rfl

theorem enclosed_quoted {quote : Char} (hquote : isQuote quote = true) {s : Text}
    (hs : quote ∉ s) : Enclosed (quote :: s ++ [quote]) := by
  intro rest
  have hopening : quote ≠ ')' := by
    rintro rfl
    cases hquote
  have hline : (quote :: s ++ [quote]) ++ rest = quote :: (s ++ quote :: rest) := by simp
  rw [hline, Line.splitParenthesis?, if_neg hopening, if_pos hquote, splitParenthesis?_within hs,
    Option.map_map]
  simp [Function.comp_def]

theorem plain_of_isDigit {c : Char} (h : c.isDigit = true) : Plain c := by
  constructor
  · rintro rfl
    cases h
  · rw [← Bool.not_eq_true]
    intro hquote
    simp only [isQuote, Bool.or_eq_true, beq_iff_eq] at hquote
    rcases hquote with rfl | rfl
    · cases h
    · cases h

theorem plain_of_mem_display {v : Value} {type : ValueType} (h : v.hasType type)
    (hv : ∀ s, v ≠ .string s) : ∀ c ∈ v.display, Plain c := by
  intro c hc
  cases v with
  | string s => exact absurd rfl (hv s)
  | null => exact List.all_iff_forall_prop.mp (by decide) c hc
  | boolean b => exact List.all_iff_forall_prop.mp (by cases b <;> decide) c hc
  | integer i =>
      rcases Literal.char_of_mem_ofInt hc with hdigit | rfl
      · exact plain_of_isDigit hdigit
      · decide
  | float x =>
      rcases FloatStyle.char_of_mem_render (Value.isFinite_of_hasType h) hc with
        hdigit | rfl | rfl | rfl
      · exact plain_of_isDigit hdigit
      · decide
      · decide
      · decide

theorem enclosed_spec {v : Value} {type : ValueType} {literal : Text} (h : v.Written literal)
    (htype : v.hasType type) : Enclosed (type.name ++ ':' :: literal) := by
  have hname : Enclosed (type.name ++ [':']) :=
    enclosed_plain (List.all_iff_forall_prop.mp (by cases type <;> decide))
  have hliteral : Enclosed literal := by
    cases h with
    | quoted hquote hs => exact enclosed_quoted hquote hs
    | shown hv => exact enclosed_plain (plain_of_mem_display htype hv)
  rw [← List.singleton_append, ← List.append_assoc]
  exact hname.append hliteral

/-! ## The line of a declaration -/

section Declaration

variable {ident spec : Text}

theorem declaration?_enclosed (hne : ident ≠ []) (hident : ∀ c ∈ ident, isWord c = true)
    (hspec : Enclosed spec) (hspecne : spec ≠ []) (description : Text) :
    declaration? (ident ++ ' ' :: '(' :: (spec ++ ')' :: ':' :: description)) =
      some (.declaration ident (some spec) (Text.trim description)) := by
  have hspan := Text.span_append (' ' :: '(' :: (spec ++ ')' :: ':' :: description)) hident
    (by rintro c ⟨⟩; decide)
  have hopening : Text.trimStart (' ' :: '(' :: (spec ++ ')' :: ':' :: description)) =
      '(' :: (spec ++ ')' :: ':' :: description) := by
    have hspace : isBlank ' ' = true := by decide
    have hparenthesis : isBlank '(' = false := by decide
    simp [Text.trimStart, hspace, hparenthesis]
  have hcolon : Text.trimStart (':' :: description) = ':' :: description :=
    Text.trimStart_eq_self (by rintro c ⟨⟩; decide)
  have hsome : spec.isEmpty = false := by simpa using hspecne
  unfold declaration?
  simp only [hspan.1, hspan.2, hopening, hspec.splitParenthesis?, hcolon, List.isEmpty_iff, hne,
    hsome, if_false]

theorem classify_of_isWord {line : Text} {c : Char} (hhead : line.head? = some c)
    (hc : isWord c = true) {found : Line} (hfound : declaration? line = some found) :
    classify true line = found := by
  have hbetween : ∀ opening closing : Char, isWord opening = false →
      header? opening closing line = none := by
    intro opening closing hopening
    have hnone : line.between? opening closing = none := by
      rw [Option.eq_none_iff_forall_ne_some]
      intro inner hinner
      rw [Text.between?_eq_some_iff.mp hinner] at hhead
      cases hhead
      rw [hopening] at hc
      cases hc
    rw [header?, hnone]
  unfold classify
  split
  · cases hhead
    exact absurd hc (by decide)
  · rw [if_pos rfl, ofForm, hbetween '\x7b' '\x7d' (by decide), hbetween '[' ']' (by decide),
      hfound]

/-- The last colon of the line itself ends what is trimmed already. -/
theorem trim_declarationLine (hne : ident ≠ []) (hident : ∀ c ∈ ident, isWord c = true)
    (type : ValueType) (literal description : Text) :
    (declarationLine ident type literal description).trim =
      ident ++ ' ' :: '(' :: (type.name ++ ':' :: literal ++
        ')' :: ':' :: Text.trimEnd (' ' :: description)) := by
  have hfront : Text.trimStart (ident ++ ' ' :: '(' :: (type.name ++ ':' :: literal ++ [')'])) =
      ident ++ ' ' :: '(' :: (type.name ++ ':' :: literal ++ [')']) := by
    apply Text.trimStart_eq_self
    intro c hc
    rw [List.head?_append_of_ne_nil _ hne] at hc
    exact isBlank_of_isWord (hident c (List.mem_of_mem_head? hc))
  have hsplit : declarationLine ident type literal description =
      ident ++ ' ' :: '(' :: (type.name ++ ':' :: literal ++ [')']) ++
        ':' :: ' ' :: description := by
    simp [declarationLine]
  rw [hsplit, Text.trim_append_cons (by decide), hfront]
  simp

theorem exists_head?_declarationLine (hne : ident ≠ []) (hident : ∀ c ∈ ident, isWord c = true)
    (type : ValueType) (literal description : Text) :
    ∃ c, (declarationLine ident type literal description).trim.head? = some c ∧
      isWord c = true := by
  obtain ⟨first, hfirst⟩ := Option.isSome_iff_exists.mp (List.isSome_head?.mpr hne)
  refine ⟨first, ?_, hident first (List.mem_of_mem_head? hfirst)⟩
  rw [trim_declarationLine hne hident, List.head?_append_of_ne_nil _ hne, hfirst]

/-- The line of a declaration says what was written. -/
theorem classify_declarationLine {v : Value} {type : ValueType} {literal : Text}
    (hne : ident ≠ []) (hident : ∀ c ∈ ident, isWord c = true) (hliteral : v.Written literal)
    (htype : v.hasType type) (description : Text) :
    classify true (declarationLine ident type literal description).trim =
      .declaration ident (some (type.name ++ ':' :: literal)) description.trim := by
  obtain ⟨first, hfirst, hword⟩ :=
    exists_head?_declarationLine hne hident type literal description
  have hfound := declaration?_enclosed hne hident (enclosed_spec hliteral htype) (by simp)
    (Text.trimEnd (' ' :: description))
  have hdescription : Text.trim (Text.trimEnd (' ' :: description)) = description.trim := by
    have hspace : ∀ c ∈ [' '], isBlank c = true := List.forall_mem_singleton.mpr (by decide)
    have hpadded := Text.trim_padded description hspace (List.forall_mem_nil _)
    rw [List.append_nil] at hpadded
    rw [Text.trim_trimEnd]
    exact hpadded
  rw [← trim_declarationLine hne hident, hdescription] at hfound
  exact classify_of_isWord hfirst hword hfound

theorem significant_declarationLine (hne : ident ≠ []) (hident : ∀ c ∈ ident, isWord c = true)
    (type : ValueType) (literal description : Text) :
    significant (declarationLine ident type literal description).trim = true := by
  obtain ⟨first, hfirst, hword⟩ :=
    exists_head?_declarationLine hne hident type literal description
  have hcomment : first ≠ '#' := by
    rintro rfl
    exact absurd hword (by decide)
  obtain ⟨rest, hrest⟩ := List.head?_eq_some_iff.mp hfirst
  simp [significant, hrest, hcomment]

end Declaration

end Line

namespace Draft

theorem read_written {v : Value} {type : ValueType} {literal : Text} (h : v.Written literal)
    (htype : v.hasType type) : type.read literal = .ok v := by
  cases h with
  | shown hv => exact Value.read_display htype
  | @quoted quote s hquote hs =>
      have hquote' : quote = Value.doubleQuote ∨ quote = Value.singleQuote := by
        simpa [Line.isQuote, Value.doubleQuote, Value.singleQuote] using hquote
      obtain rfl : type = .string := by
        cases type <;> simp [Value.hasType] at htype ⊢
      have htrimmed : Text.trim (quote :: s ++ [quote]) = quote :: s ++ [quote] := by
        apply Text.trim_eq_self_iff.mpr
        rcases hquote' with rfl | rfl
        · exact Text.isTrimmed_between s (by decide) (by decide)
        · exact Text.isTrimmed_between s (by decide) (by decide)
      rw [ValueType.read, htrimmed, Value.readTrimmed_quoted hquote']

theorem readSpec_written {v : Value} {type : ValueType} {literal : Text} (h : v.Written literal)
    (htype : v.hasType type) :
    readSpec (some (type.name ++ ':' :: literal)) = .ok (type, some v) := by
  have hcut : Text.cut? (· == ':') (type.name ++ ':' :: literal) = some (type.name, literal) := by
    refine Text.cut?_eq_some_iff.mpr ⟨':', rfl, by decide, ?_⟩
    exact List.all_iff_forall_prop.mp (by cases type <;> decide)
  have hname : ValueType.ofName type.name = .ok type := by cases type <;> rfl
  unfold readSpec
  simp only [hcut, hname, read_written h htype, Except.map]

end Draft

/-! ## One more variable -/

/-- The section under a key in the environment under a key. -/
def sectionAt? (environments : OrderedMap Environment) (environmentKey sectionKey : Text) :
    Option Section :=
  (environments.get? environmentKey).bind fun e => e.sections.get? sectionKey

/-- One section has the variable after those that it had, and nothing else is changed. -/
structure Adds (environmentKey sectionKey : Text) (v : Variable)
    (before after : OrderedMap Environment) : Prop where
  keys : after.keys = before.keys
  environments : ∀ key, (after.get? key).map (fun e => (e.name, e.sections.keys)) =
    (before.get? key).map fun e => (e.name, e.sections.keys)
  extended : ∃ s s', sectionAt? before environmentKey sectionKey = some s ∧
    sectionAt? after environmentKey sectionKey = some s' ∧ s'.name = s.name ∧
      s'.declared.entries = s.declared.entries ++ [(Name.key v.ident, v)]
  others : ∀ environment sec, environment ≠ environmentKey ∨ sec ≠ sectionKey →
    sectionAt? after environment sec = sectionAt? before environment sec

namespace Draft

/-- The draft with the variable in the section that is open. -/
def added (d : Draft) (v : Variable) : Draft :=
  { d.modifyVariables (·.insert (Name.key v.ident) v) with openVariable := some (Name.key v.ident) }

variable {d : Draft}

theorem sectionAt?_modifyVariables (f : OrderedMap Variable → OrderedMap Variable)
    (environmentKey sectionKey : Text) :
    sectionAt? (d.modifyVariables f).environments environmentKey sectionKey =
      if environmentKey = d.environmentKey ∧ sectionKey = d.sectionKey then
        d.section?.map fun s => { s with declared := f s.declared }
      else sectionAt? d.environments environmentKey sectionKey := by
  simp only [sectionAt?, modifyVariables, modifySections, OrderedMap.get?_modify, section?,
    environment?]
  by_cases henvironment : environmentKey = d.environmentKey
  · subst henvironment
    cases d.environments.get? d.environmentKey with
    | none => simp
    | some e =>
        by_cases hsection : sectionKey = d.sectionKey <;>
          simp [OrderedMap.get?_modify, hsection]
  · simp [henvironment]

theorem adds_added {s : Section} (hs : d.section? = some s) (v : Variable)
    (hnew : Name.key v.ident ∉ s.declared.keys) :
    Adds d.environmentKey d.sectionKey v d.environments (d.added v).environments where
  keys := by rw [added, modifyVariables, modifySections, OrderedMap.keys_modify]
  environments := by
    intro key
    simp only [added, modifyVariables, modifySections, OrderedMap.get?_modify]
    by_cases hkey : key = d.environmentKey
    · simp [hkey, Function.comp_def, OrderedMap.keys_modify]
    · simp [hkey]
  extended := by
    refine ⟨s, { s with declared := s.declared.insert (Name.key v.ident) v }, hs, ?_, rfl,
      OrderedMap.entries_insert_of_notMem hnew⟩
    rw [added, sectionAt?_modifyVariables, if_pos ⟨rfl, rfl⟩, hs]
    rfl
  others := by
    intro environment sec hother
    rw [added, sectionAt?_modifyVariables, if_neg]
    rintro ⟨rfl, rfl⟩
    simp at hother

theorem variableOffence?_of_sectionOpen {items : List (Nat × Text)}
    (h : blank.ofLines items = .ok d) (hopen : d.openSection.isSome) :
    d.variableOffence? = none := by
  obtain ⟨hordered, hfollows⟩ := ofLines_ok h
  rw [hfollows.isSome_openSection] at hopen
  rw [hfollows.variableOffence?_eq, misplacement?_eq_none_iff]
  exact ⟨named_of_sectionOpen hordered hopen, default_mem_of_sectionOpen hordered hopen, hopen⟩

theorem exists_section?_of_sectionOpen {items : List (Nat × Text)}
    (h : blank.ofLines items = .ok d) (hopen : d.openSection.isSome) :
    ∃ s, d.section? = some s := by
  obtain ⟨-, hfollows⟩ := ofLines_ok h
  rw [hfollows.isSome_openSection] at hopen
  obtain ⟨block, hblock⟩ := Option.isSome_iff_exists.mp hopen
  obtain ⟨s, hs, -⟩ := hfollows.section?_eq hblock
  exact ⟨s, hs⟩

theorem finish_of_adds {d' : Draft} {environmentKey sectionKey : Text} {v : Variable}
    (h : Adds environmentKey sectionKey v d.environments d'.environments)
    (happ : d'.appName = d.appName) {schema : Schema} (hfinish : d.finish = .ok schema) :
    schema.environments = d.environments ∧
      d'.finish = .ok { schema with environments := d'.environments } := by
  have hdefault := h.environments Environment.defaultName
  unfold finish at hfinish ⊢
  cases he : d.environments.get? Environment.defaultName with
  | none => simp [he] at hfinish
  | some e =>
      cases he' : d'.environments.get? Environment.defaultName with
      | none => simp [he, he'] at hdefault
      | some e' =>
          simp only [he, he', Option.map_some, Option.some.injEq, Prod.mk.injEq] at hdefault
          have hempty : e'.sections.isEmpty = e.sections.isEmpty := by
            have hkeys := congrArg List.isEmpty hdefault.2
            simpa [OrderedMap.keys, OrderedMap.isEmpty] using hkeys
          simp only [he] at hfinish
          simp only [hempty, happ]
          cases hsections : e.sections.isEmpty with
          | true => simp [hsections] at hfinish
          | false =>
              simp only [hsections, Bool.false_eq_true, if_false, Except.ok.injEq] at hfinish
              subst hfinish
              exact ⟨rfl, rfl⟩

end Draft

/-! ## Manuals with one more line -/

section Manuals

variable {manual ident literal description : Text} {d : Draft} {type : ValueType} {v : Value}

theorem newline_notMem_declarationLine (hident : ∀ c ∈ ident, isWord c = true)
    (htype : v.hasType type) (hliteral : v.Written literal)
    (hstring : ∀ s, v = .string s → '\n' ∉ s) (hdescription : '\n' ∉ description) :
    '\n' ∉ declarationLine ident type literal description := by
  have hword : '\n' ∉ ident := fun hmem => absurd (hident '\n' hmem) (by decide)
  have hname : '\n' ∉ type.name := by cases type <;> decide
  have hwritten : '\n' ∉ literal := by
    cases hliteral with
    | shown hv => exact Value.newline_notMem_display htype hstring
    | @quoted quote s hquote hs =>
        have hother : '\n' ≠ quote := by
          rintro rfl
          cases hquote
        simp [hstring s rfl, hother]
  simp [declarationLine, hword, hname, hwritten, hdescription]

theorem Draft.step_declarationLine (hplace : d.variableOffence? = none)
    (hopen : d.openSection.isSome) {s : Section} (hs : d.section? = some s)
    (hnew : Name.key ident ∉ s.declared.keys) (hne : ident ≠ [])
    (hident : ∀ c ∈ ident, isWord c = true) (htype : v.hasType type) (hliteral : v.Written literal)
    (description : Text) (number : Nat) :
    d.step number (declarationLine ident type literal description).trim =
      .ok (d.added ⟨Name.canonical ident, ident, type, some v, description.trim⟩) := by
  have hcontains : s.declared.contains (Name.key ident) = false := by
    rw [← Bool.not_eq_true, OrderedMap.contains_iff]
    exact hnew
  unfold step
  rw [hopen, Line.classify_declarationLine hne hident hliteral htype]
  simp only [hplace, readSpec_written hliteral htype, declareVariable, hs, hcontains]
  rfl

/-- A variable that is written in an open section is declared there as it was written, and the lines
after it are read from there on. -/
theorem ofLines_declarationLine (hmanual : Draft.blank.ofLines (significantLines manual) = .ok d)
    (hopen : d.openSection.isSome) (hne : ident ≠ []) (hident : ∀ c ∈ ident, isWord c = true)
    (hnew : ∀ s, d.section? = some s → Name.key ident ∉ s.declared.keys)
    (htype : v.hasType type) (hliteral : v.Written literal)
    (hstring : ∀ s, v = .string s → '\n' ∉ s) (hdescription : '\n' ∉ description) :
    ∃ d', Draft.blank.ofLines (significantLines
        (manual ++ '\n' :: declarationLine ident type literal description)) = .ok d' ∧
      d'.appName = d.appName ∧ d'.openEnvironment = d.openEnvironment ∧
      d'.openSection = d.openSection ∧ d'.openVariable = some (Name.key ident) ∧
      Adds d.environmentKey d.sectionKey
        ⟨Name.canonical ident, ident, type, some v, description.trim⟩
        d.environments d'.environments ∧
      (∀ schema, Schema.ofManual manual = .ok schema → schema.environments = d.environments ∧
        Schema.ofManual (manual ++ '\n' :: declarationLine ident type literal description) =
          .ok { schema with environments := d'.environments }) ∧
      ∀ rest : Text, Draft.blank.ofLines (significantLines
          (manual ++ '\n' :: declarationLine ident type literal description ++ '\n' :: rest)) =
        d'.ofLines (significantFrom ((manual.split '\n').length + 2) (rest.split '\n')) := by
  obtain ⟨s, hs⟩ := Draft.exists_section?_of_sectionOpen hmanual hopen
  have hnewline := newline_notMem_declarationLine hident htype hliteral hstring hdescription
  have hlines : significantLines
      (manual ++ '\n' :: declarationLine ident type literal description) =
        significantLines manual ++ [(1 + (manual.split '\n').length,
          (declarationLine ident type literal description).trim)] := by
    rw [significantLines_append_cons, Text.split_of_notMem hnewline, significantFrom_cons,
      if_pos (Line.significant_declarationLine hne hident type literal description)]
    rfl
  have hstep := Draft.step_declarationLine (Draft.variableOffence?_of_sectionOpen hmanual hopen)
    hopen hs (hnew s hs) hne hident htype hliteral description (1 + (manual.split '\n').length)
  have hadds := Draft.adds_added hs
    ⟨Name.canonical ident, ident, type, some v, description.trim⟩ (hnew s hs)
  have hrun : Draft.blank.ofLines (significantLines
      (manual ++ '\n' :: declarationLine ident type literal description)) =
        .ok (d.added ⟨Name.canonical ident, ident, type, some v, description.trim⟩) := by
    rw [hlines, Draft.ofLines_append, hmanual, Except.bind, Draft.ofLines_cons, hstep]
    rfl
  refine ⟨_, hrun, rfl, rfl, rfl, rfl, hadds, ?_, ?_⟩
  · intro schema hschema
    rw [Schema.ofManual, hmanual] at hschema
    obtain ⟨hsame, hfinish⟩ := Draft.finish_of_adds hadds rfl hschema
    refine ⟨hsame, ?_⟩
    rw [Schema.ofManual, hrun]
    exact hfinish
  · intro rest
    rw [significantLines_append_cons, Draft.ofLines_append, hrun, Text.split_append_cons,
      Text.split_of_notMem hnewline, List.length_append, List.length_singleton, Nat.add_comm]
    rfl

theorem ofLines_declarationLine_quoted :
    ∃ d d', Draft.blank.ofLines (significantLines "name: app\n\x7bdefault\x7d\n[main]\nport: p") =
        .ok d ∧
      Draft.blank.ofLines (significantLines ("name: app\n\x7bdefault\x7d\n[main]\nport: p".toList ++
        '\n' :: "Url_1 (str:'a) \x22b\x22: #>'):  it's (c): \x22d\x22\t")) = .ok d' ∧
      Adds "default" "main" ⟨"URL_1", "Url_1", .string, some (.string "a) \x22b\x22: #>"),
        "it's (c): \x22d\x22"⟩ d.environments d'.environments := by
  obtain ⟨d, hd⟩ : ∃ d, Draft.blank.ofLines
      (significantLines "name: app\n\x7bdefault\x7d\n[main]\nport: p") = .ok d := ⟨_, rfl⟩
  have hopen : d.openSection.isSome ∧ d.environmentKey = "default".toList ∧
      d.sectionKey = "main".toList ∧
      ∀ s, d.section? = some s → Name.key "Url_1" ∉ s.declared.keys := by
    cases hd
    refine ⟨rfl, by decide, rfl, ?_⟩
    rintro s ⟨⟩
    decide +kernel
  have hident : ∀ c ∈ "Url_1".toList, isWord c = true := List.all_eq_true.mp (by decide)
  have hliteral : (Value.string "a) \x22b\x22: #>").Written "'a) \x22b\x22: #>'" :=
    .quoted (rfl : Line.isQuote '\'' = true) (by decide)
  have hdescription : '\n' ∉ " it's (c): \x22d\x22\t".toList := by decide
  obtain ⟨d', hd', -, -, -, -, hadds, -⟩ := ofLines_declarationLine hd hopen.1 (by decide) hident
    hopen.2.2.2 (rfl : Value.hasType _ .string = true) hliteral (by rintro s ⟨⟩; decide)
    hdescription
  have hname : Name.canonical "Url_1" = "URL_1".toList := by decide +kernel
  have htrim : Text.trim " it's (c): \x22d\x22\t" = "it's (c): \x22d\x22".toList := by decide
  rw [hopen.2.1, hopen.2.2.1, hname, htrim] at hadds
  exact ⟨d, d', hd, hd', hadds⟩

end Manuals

end Manual

end IniSchema
