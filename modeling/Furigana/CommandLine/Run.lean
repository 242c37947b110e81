import Furigana.CommandLine.Arguments
import Furigana.Config.Loading
import Furigana.Markdown.Document

/-!
# Runs

What a command line does, given the files, the working directory and the standard input it finds.  A run
loads its configuration, reads its input, renders it and delivers the result; the first of these that
fails ends the run, and until the delivery nothing has been written.

* `render` — the rendering that a command asks for, or why there is none;
* `run` — the whole of a run, with the files after it.
-/

namespace Furigana.CommandLine

/-- What a run finds. -/
structure Surroundings where
  files : FileTree
  /-- The working directory. -/
  cwd : Path
  /-- The standard input. -/
  input : ByteArray

/-- Why a run fails. -/
inductive Failure where
  | config (cause : Config.LoadError)
  | input (cause : FileError)
  | read (path : Text) (cause : FileError)
  | write (path : Text) (cause : FileError)
deriving DecidableEq, Repr

/-- The sentence that reports a failure. -/
def Failure.message : Failure → Text
  | .config cause => cause.message
  | .input cause => cause.message
  | .read path cause => "Failed to read ".toList ++ path ++ ": ".toList ++ cause.message
  | .write path cause => "Failed to write ".toList ++ path ++ ": ".toList ++ cause.message

/-- Whether a path is the dash that stands for the standard input. -/
def isDash (t : Text) : Bool :=
  match FileTree.names t with
  | ['-'] :: rest => rest.all fun name => name = [] || name = ['.']
  | _ => false

/-- The document that the arguments name. -/
def readInput (s : Surroundings) (a : Arguments) : Except Failure Text :=
  match a.input.filter fun t => !isDash t with
  | none => (FileTree.decode s.input).mapError .input
  | some t => (s.files.readText s.cwd t).mapError (.read t)

/-- A document converted by a command. -/
def Command.convert (c : Command) (o : Options) (t : Text) : Text :=
  match c with
  | .render => (Engine.fresh.render o t).1
  | .markdown => (Markdown.renderHtml .fresh o t).1

/-- The rendering that a command asks for. -/
def render (s : Surroundings) (c : Command) (a : Arguments) : Except Failure Text := do
  let config ← (Config.load s.files s.cwd (a.value? .config) a.settings).mapError .config
  let t ← readInput s a
  return c.convert config.options t

/-- How a run ends. -/
inductive Outcome where
  | shown (text : Text)
  | refused (cause : Refusal)
  | failed (cause : Failure)
  /-- The rendering has been printed. -/
  | printed (content : Text)
  /-- The rendering has been written to the file at a path. -/
  | wrote (path content : Text)
deriving DecidableEq, Repr

namespace Outcome

/-- The exit code. -/
def exitCode : Outcome → Nat
  | .refused _ => 2
  | .failed _ => 1
  | _ => 0

/-- What is printed on standard output. -/
def stdout : Outcome → Text
  | .shown t => t
  | .printed t => t
  | _ => []

/-- The line that reports a failure or a written file. -/
def report? : Outcome → Option Text
  | .failed cause => some ("Error: ".toList ++ cause.message)
  | .wrote path _ => some ("Wrote ".toList ++ path)
  | _ => none

end Outcome

/-- The version and its name. -/
def version : Text := "rw 0.1.0\n".toList

/-- What is said about a command, or about all of them. -/
def helpText : Option Command → Text
  | none => "Usage: rw (render | markdown | help) [ARGUMENTS]\n".toList
  | some c =>
    "Usage: rw ".toList ++ c.name ++ " [INPUT]".toList
      ++ named.flatMap (fun (long, _, n) =>
        match n with
        | .parameter _ => " [--".toList ++ long ++ " VALUE]".toList
        | _ => " [--".toList ++ long ++ "]".toList)
      ++ ['\n']

/-- Delivers a rendering to the file that the arguments name, or prints it. -/
def deliver (s : Surroundings) (a : Arguments) (content : Text) : Outcome × FileTree :=
  match a.value? .output with
  | none => (.printed content, s.files)
  | some path =>
    match s.files.write s.cwd path content with
    | .error cause => (.failed (.write path cause), s.files)
    | .ok files => (.wrote path content, files)

/-- What a command line does, and the files after it. -/
def run (s : Surroundings) (args : List Text) : Outcome × FileTree :=
  match Invocation.parse args with
  | .refused cause => (.refused cause, s.files)
  | .help topic => (.shown (helpText topic), s.files)
  | .version => (.shown version, s.files)
  | .run c a =>
    match render s c a with
    | .error cause => (.failed cause, s.files)
    | .ok content => deliver s a content

end Furigana.CommandLine
