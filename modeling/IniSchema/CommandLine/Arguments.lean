import IniSchema.Text

/-!
# Command lines

A command has options, positional arguments and subcommands. Arguments are read from the left: each
level of subcommands collects its own values, and a value is settled only when the next argument is
understood. Every command also has the options `-h` and `--help`, and a command with subcommands has
one named `help`.
-/

namespace IniSchema.CommandLine

/-- An option, with the name of its long form. A flag takes no value. -/
structure OptionSpec where
  name : Text
  short : Option Char
  takesValue : Bool
  allowsEmpty : Bool
  deriving DecidableEq, Repr

structure PositionalSpec where
  name : Text
  required : Bool
  allowsEmpty : Bool
  deriving DecidableEq, Repr

structure Command where
  name : Text
  options : List OptionSpec
  positionals : List PositionalSpec
  subcommands : List Command
  needsSubcommand : Bool

namespace Command

def subcommand? (c : Command) (name : Text) : Option Command :=
  c.subcommands.find? (·.name == name)

def hasSubcommand (c : Command) (name : Text) : Bool :=
  (c.subcommand? name).isSome || (name == "help" && !c.subcommands.isEmpty)

def long? (c : Command) (name : Text) : Option OptionSpec := c.options.find? (·.name == name)

def short? (c : Command) (mark : Char) : Option OptionSpec :=
  c.options.find? (·.short == some mark)

end Command

inductive UsageError where
  | unknownArgument
  | invalidSubcommand
  | invalidValue
  | missingRequiredArgument
  | missingSubcommand
  | argumentConflict
  | tooManyValues
  /-- Help was asked for. -/
  | help
  deriving DecidableEq, Repr

/-- An option or a positional argument whose value is not settled, with the value if it has come. -/
structure Pending where
  name : Text
  allowsEmpty : Bool
  value : Option Text
  deriving DecidableEq, Repr

/-- What one level of the command line has given so far. A flag that is set has the empty value. -/
structure Level where
  values : List (Text × Text)
  pending : Option Pending
  positional : Nat
  /-- After `--` there are no more options. -/
  onlyValues : Bool
  deriving DecidableEq, Repr

namespace Level

def blank : Level := ⟨[], none, 0, false⟩

def has (l : Level) (name : Text) : Bool := l.values.any (·.1 == name)

/-- A name can be given once at a level. -/
def record (l : Level) (name : Text) (allowsEmpty : Bool) (value : Text) :
    Except UsageError Level :=
  if l.has name then .error .argumentConflict
  else if value.isEmpty && !allowsEmpty then .error .invalidValue
  else .ok { l with values := l.values ++ [(name, value)] }

def settle (l : Level) : Except UsageError Level :=
  match l.pending with
  | none => .ok l
  | some ⟨_, _, none⟩ => .error .invalidValue
  | some ⟨name, allowsEmpty, some value⟩ =>
      { l with pending := none }.record name allowsEmpty value

def awaitsValue (l : Level) : Bool :=
  match l.pending with
  | some ⟨_, _, none⟩ => true
  | _ => false

def await (l : Level) (spec : OptionSpec) : Except UsageError Level :=
  l.settle.map fun l => { l with pending := some ⟨spec.name, spec.allowsEmpty, none⟩ }

def giveValue (l : Level) (value : Text) : Level :=
  { l with pending := l.pending.map fun p => { p with value := some value } }

def recordOption (l : Level) (spec : OptionSpec) (value : Text) : Except UsageError Level :=
  l.settle.bind fun l => l.record spec.name (spec.allowsEmpty || !spec.takesValue) value

def askHelp (l : Level) : Except UsageError Level := l.settle.bind fun _ => .error .help

/-! ## Single arguments -/

def long (l : Level) (c : Command) (body : Text) : Except UsageError Level :=
  let (name, value) :=
    match body.cut? (· == '=') with
    | some (name, value) => (name, some value)
    | none => (body, none)
  match c.long? name, value with
  | some spec, some value =>
      if spec.takesValue then l.recordOption spec value else .error .tooManyValues
  | some spec, none => if spec.takesValue then l.await spec else l.recordOption spec []
  | none, value =>
      if name = "help" then if value.isSome then .error .tooManyValues else l.askHelp
      else .error .unknownArgument

def short (c : Command) : Level → Text → Except UsageError Level
  | l, [] => .ok l
  | l, mark :: rest =>
      match c.short? mark with
      | some spec =>
          if spec.takesValue then
            match rest with
            | [] => l.await spec
            | '=' :: value => l.recordOption spec value
            | value => l.recordOption spec value
          else (l.recordOption spec []).bind fun l => short c l rest
      | none => if mark = 'h' then l.askHelp else .error .unknownArgument

def value (l : Level) (c : Command) (arg : Text) : Except UsageError Level :=
  match c.positionals[l.positional]? with
  | some spec =>
      l.settle.map fun l =>
        { l with
          positional := l.positional + 1
          pending := some ⟨spec.name, spec.allowsEmpty, some arg⟩ }
  | none =>
      if c.subcommands.isEmpty || (l.onlyValues && c.hasSubcommand arg) then
        .error .unknownArgument
      else .error .invalidSubcommand

def read (l : Level) (c : Command) (arg : Text) : Except UsageError Level :=
  if l.onlyValues then l.value c arg
  else
    match arg with
    | ['-', '-'] => .ok { l with onlyValues := true }
    | '-' :: '-' :: body => l.long c body
    | '-' :: mark :: rest => short c l (mark :: rest)
    | _ => if l.awaitsValue then .ok (l.giveValue arg) else l.value c arg

def finish (l : Level) (c : Command) : Except UsageError Level :=
  l.settle.bind fun l =>
    if c.positionals.any fun spec => spec.required && !l.has spec.name then
      .error .missingRequiredArgument
    else .ok l

/-- Whether an argument in this place may be a subcommand. -/
def mayDescend (l : Level) : Bool := !l.onlyValues && !l.awaitsValue

end Level

/-- The levels that were gone through, with the name of the command of each. -/
abbrev Parsed := List (Text × Level)

/-- The answer to the words after the subcommand `help`. -/
def helpAbout (c : Command) : List Text → UsageError
  | [] => .help
  | word :: rest =>
      match c.subcommand? word with
      | some sub => helpAbout sub rest
      | none =>
          if word = "help" ∧ !c.subcommands.isEmpty ∧ rest.isEmpty then .help
          else .invalidSubcommand

def parseFrom (c : Command) (l : Level) : List Text → Except UsageError Parsed
  | [] =>
      (l.finish c).bind fun l =>
        if c.needsSubcommand then .error .missingSubcommand else .ok [(c.name, l)]
  | arg :: rest =>
      match (if l.mayDescend then c.subcommand? arg else none) with
      | some sub =>
          (parseFrom sub .blank rest).bind fun inner =>
            (l.finish c).map fun l => (c.name, l) :: inner
      | none =>
          if l.mayDescend && arg == "help" && !c.subcommands.isEmpty then
            .error (helpAbout c rest)
          else (l.read c arg).bind fun l => parseFrom c l rest

def parse (c : Command) (args : List Text) : Except UsageError Parsed := parseFrom c .blank args

namespace Parsed

/-- The value of an option or a positional argument. The deepest level counts. -/
def value? (p : Parsed) (name : Text) : Option Text :=
  p.reverse.findSome? fun (_, l) => (l.values.find? (·.1 == name)).map Prod.snd

def has (p : Parsed) (name : Text) : Bool := (p.value? name).isSome

def command? (p : Parsed) (depth : Nat) : Option Text := (p[depth]?).map Prod.fst

end Parsed

end IniSchema.CommandLine
