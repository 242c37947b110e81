import Furigana.Config.Settings

/-!
# Command line arguments

A command line names a command first; what follows are flags, parameters with their values, and the input.
Arguments are read from left to right, and the first one that is wrong, or that asks for help, decides.

* `Arguments` — what the arguments of a command say;
* `Reading.step` — one argument read;
* `Arguments.parse` — all of them;
* `Invocation.parse` — a whole command line.
-/

namespace Furigana.CommandLine

/-- What can be done with a document. -/
inductive Command where
  /-- Convert plain text. -/
  | render
  /-- Render markdown as HTML, with its text converted. -/
  | markdown
deriving DecidableEq, Repr

/-- The word that asks for a command. -/
def Command.name : Command → Text
  | .render => "render".toList
  | .markdown => "markdown".toList

/-- The command that a word asks for. -/
def Command.ofName? (t : Text) : Option Command :=
  [Command.render, Command.markdown].find? fun c => c.name = t

/-- An argument that has no value. -/
inductive Flag where
  | strict
  | noPatternMatching
  | disable
  /-- Asks for more reports; the answer is the same. -/
  | verbose
deriving DecidableEq, Repr

/-- An argument that has a value. -/
inductive Parameter where
  | output
  | config
  | forms
  | fallbackBrackets
  | autoBracketSets
deriving DecidableEq, Repr

/-- An argument with a name. -/
inductive Named where
  | flag (f : Flag)
  | parameter (p : Parameter)
  | help
deriving DecidableEq, Repr

/-- The arguments with a name: a long one, and a letter for some. -/
def named : List (Text × Option Char × Named) :=
  [("output".toList, some 'o', .parameter .output),
    ("config".toList, some 'c', .parameter .config),
    ("forms".toList, none, .parameter .forms),
    ("fallback-brackets".toList, none, .parameter .fallbackBrackets),
    ("auto-bracket-sets".toList, none, .parameter .autoBracketSets),
    ("strict".toList, none, .flag .strict),
    ("no-pattern-matching".toList, none, .flag .noPatternMatching),
    ("disable".toList, none, .flag .disable),
    ("verbose".toList, some 'v', .flag .verbose),
    ("help".toList, some 'h', .help)]

/-- The argument with a long name. -/
def ofLongName? (name : Text) : Option Named :=
  (named.find? fun (long, _, _) => long = name).map fun (_, _, n) => n

/-- The argument with a letter. -/
def ofLetter? (c : Char) : Option Named :=
  (named.find? fun (_, letter, _) => letter = some c).map fun (_, _, n) => n

/-- The long name of an argument. -/
def Named.name (n : Named) : Text :=
  ((named.find? fun (_, _, m) => m = n).map fun (long, _, _) => long).getD []

/-- Why a command line is refused. -/
inductive Refusal where
  | noCommand
  | unknownCommand (word : Text)
  | unknownArgument (argument : Text)
  | repeated (name : Text)
  | missingValue (p : Parameter)
  | unexpectedValue (name : Text)
  /-- A path cannot be empty. -/
  | emptyPath
  | surplus (argument : Text)
deriving DecidableEq, Repr

/-- The sentence that reports a refusal. -/
def Refusal.message : Refusal → Text
  | .noCommand => "no command is given".toList
  | .unknownCommand word => "there is no command ".toList ++ word
  | .unknownArgument argument => "there is no argument ".toList ++ argument
  | .repeated name => "given more than once: --".toList ++ name
  | .missingValue p => "a value is missing for --".toList ++ (Named.parameter p).name
  | .unexpectedValue name => "no value is expected for --".toList ++ name
  | .emptyPath => "a path is empty".toList
  | .surplus argument => "one argument too many: ".toList ++ argument

/-- Why arguments are not read to their end. -/
inductive Stop where
  | help
  | refused (cause : Refusal)
deriving DecidableEq, Repr

/-! ## The arguments of a command -/

/-- What the arguments of a command say. -/
structure Arguments where
  input : Option Text
  values : List (Parameter × Text)
  flags : List Flag
deriving DecidableEq, Repr

namespace Arguments

/-- No arguments at all. -/
def empty : Arguments := ⟨none, [], []⟩

/-- The value of a parameter. -/
def value? (a : Arguments) (p : Parameter) : Option Text := a.values.lookup p

/-- Gives a parameter its value.  It may have only one, and the value of a path may not be empty. -/
def give (a : Arguments) (p : Parameter) (value : Text) : Except Stop Arguments :=
  if (a.value? p).isSome then .error (.refused (.repeated (Named.parameter p).name))
  else if (p = .output ∨ p = .config) ∧ value = [] then .error (.refused .emptyPath)
  else .ok { a with values := (p, value) :: a.values }

/-- Raises a flag.  It may be raised only once. -/
def raise (a : Arguments) (f : Flag) : Except Stop Arguments :=
  if f ∈ a.flags then .error (.refused (.repeated (Named.flag f).name))
  else .ok { a with flags := f :: a.flags }

/-- Takes an argument without a name, which is the input. -/
def take (a : Arguments) (t : Text) : Except Stop Arguments :=
  if a.input.isSome then .error (.refused (.surplus t))
  else if t = [] then .error (.refused .emptyPath)
  else .ok { a with input := some t }

/-- The options that the arguments ask for; a flag that is not raised leaves its option open. -/
def settings (a : Arguments) : Settings where
  enabled := if Flag.disable ∈ a.flags then some false else none
  forms := a.value? .forms
  fallbackBrackets := a.value? .fallbackBrackets
  strictMode := if Flag.strict ∈ a.flags then some true else none
  autoBracketSets := a.value? .autoBracketSets
  patternMatching := if Flag.noPatternMatching ∈ a.flags then some false else none

end Arguments

/-! ## Reading arguments -/

/-- Arguments in the making. -/
structure Reading where
  arguments : Arguments
  /-- The parameter whose value is to come next. -/
  pending : Option Parameter
  /-- Whether all further arguments are without a name. -/
  ended : Bool

namespace Reading

/-- Nothing read yet. -/
def start : Reading := ⟨.empty, none, false⟩

/-- Reads `name` or `name=value` behind two dashes. -/
def long (r : Reading) (t : Text) : Except Stop Reading :=
  let name := t.takeWhile (· != '=')
  let value := t.drop name.length
  match ofLongName? name with
  | none => .error (.refused (.unknownArgument ("--".toList ++ t)))
  | some (.parameter p) =>
    match value with
    | [] => .ok { r with pending := some p }
    | _ :: value => (r.arguments.give p value).map fun a => { r with arguments := a }
  | some named =>
    if value ≠ [] then .error (.refused (.unexpectedValue name))
    else
      match named with
      | .flag f => (r.arguments.raise f).map fun a => { r with arguments := a }
      | _ => .error .help

/-- Reads the letters behind one dash.  What follows the letter of a parameter is its value, behind an
equals sign or not. -/
def letters (r : Reading) : Text → Except Stop Reading
  | [] => .ok r
  | c :: t =>
    match ofLetter? c with
    | none => .error (.refused (.unknownArgument ['-', c]))
    | some .help => .error .help
    | some (.flag f) =>
      match r.arguments.raise f with
      | .error stop => .error stop
      | .ok a => letters { r with arguments := a } t
    | some (.parameter p) =>
      match t with
      | [] => .ok { r with pending := some p }
      | '=' :: value => (r.arguments.give p value).map fun a => { r with arguments := a }
      | value => (r.arguments.give p value).map fun a => { r with arguments := a }

/-- Reads an argument.  A value may not begin with a dash, unless it is a dash. -/
def step (r : Reading) (t : Text) : Except Stop Reading :=
  match r.pending, r.ended, t with
  | some p, _, '-' :: _ :: _ => .error (.refused (.missingValue p))
  | some p, _, value => (r.arguments.give p value).map fun a => { r with arguments := a, pending := none }
  | none, false, ['-', '-'] => .ok { r with ended := true }
  | none, false, '-' :: '-' :: t => r.long t
  | none, false, '-' :: c :: t => r.letters (c :: t)
  | none, _, t => (r.arguments.take t).map fun a => { r with arguments := a }

end Reading

/-- What the arguments of a command say. -/
def Arguments.parse (args : List Text) : Except Stop Arguments := do
  let r ← args.foldlM Reading.step Reading.start
  match r.pending with
  | some p => .error (.refused (.missingValue p))
  | none => .ok r.arguments

/-! ## Command lines -/

/-- What a command line asks for. -/
inductive Invocation where
  | run (command : Command) (arguments : Arguments)
  /-- Help on a command, or on all of them. -/
  | help (topic : Option Command)
  | version
  | refused (cause : Refusal)
deriving DecidableEq, Repr

namespace Invocation

/-- What the words behind `help` ask for. -/
def ofTopics : List Text → Invocation
  | [] => .help none
  | [topic] =>
    match Command.ofName? topic with
    | some c => .help (some c)
    | none => if topic = "help".toList then .help none else .refused (.unknownCommand topic)
  | _ :: topic :: _ => .refused (.unknownCommand topic)

/-- What a command line asks for. -/
def parse : List Text → Invocation
  | [] => .refused .noCommand
  | word :: args =>
    match Command.ofName? word with
    | some c =>
      match Arguments.parse args with
      | .ok a => .run c a
      | .error .help => .help (some c)
      | .error (.refused cause) => .refused cause
    | none =>
      if word = "help".toList then ofTopics args
      else if word = "--help".toList then .help none
      else if word = "--version".toList then .version
      else
        match word with
        | '-' :: 'h' :: _ => .help none
        | '-' :: 'V' :: _ => .version
        | '-' :: _ :: _ => .refused (.unknownArgument word)
        | _ => .refused (.unknownCommand word)

end Invocation

end Furigana.CommandLine
