import Furigana.Config.Settings
import Furigana.Config.Validation
import Furigana.FileTree

/-!
# Loading a configuration

A configuration comes from the file that is asked for, or else from the nearest `rw.toml` above the
working directory, or else from the defaults.

* `Config.discover?` — the nearest `rw.toml`;
* `Config.parse` — the options that the text of a configuration file gives;
* `Config.load` — the whole way, with the settings of a command line put on top.

What is found is used or refused: a file that cannot be read, is no TOML or holds malformed options is an
error, and nothing else takes its place.
-/

namespace Furigana

/-- Options, and the text of the path of the file that they come from, if any. -/
structure Config where
  options : Options
  path : Option Text
deriving DecidableEq, Repr

namespace Config

/-- Why a configuration cannot be loaded. -/
inductive LoadError where
  | notFound (path : Text)
  | unreadable (cause : FileError)
  | malformed
  | invalid (part : Invalid)
deriving DecidableEq, Repr

/-- The sentence that reports an error. -/
def LoadError.message : LoadError → Text
  | .notFound path => "Configuration file not found: ".toList ++ path
  | .unreadable cause => "I/O error: ".toList ++ cause.message
  | .malformed => "TOML parse error".toList
  | .invalid part => "Configuration error: ".toList ++ part.message

/-- The name of the file that is looked for. -/
def fileName : Text := "rw.toml".toList

/-- The directories from one up to the root, nearest first. -/
def above (directory : Path) : List Path :=
  ((List.range (directory.length + 1)).map directory.take).reverse

/-- The path of the nearest `rw.toml` in a directory or above it. -/
def discover? (tree : FileTree) (directory : Path) : Option Path :=
  ((above directory).map (· ++ [fileName])).find? fun path => (tree.get? path).isSome

/-- The options that the text of a configuration file gives. -/
def parse (t : Text) : Except LoadError Options :=
  match (Toml.parse? t).bind Settings.ofDocument? with
  | none => .error .malformed
  | some settings =>
    let options := Options.standard.override settings
    match options.invalid? with
    | some part => .error (.invalid part)
    | none => .ok options

/-- The options that the content of a configuration file gives. -/
def ofContent (content : Except FileError ByteArray) : Except LoadError Options :=
  match content.bind FileTree.decode with
  | .error cause => .error (.unreadable cause)
  | .ok t => parse t

/-- The configuration before any settings of a command line. -/
def loadFile (tree : FileTree) (cwd : Path) : Option Text → Except LoadError Config
  | some t =>
    match tree.find cwd t with
    | .error _ => .error (.notFound t)
    | .ok path => (ofContent (tree.read path)).map fun options => ⟨options, some t⟩
  | none =>
    match discover? tree cwd with
    | none => .ok ⟨Options.standard, none⟩
    | some path => (ofContent (tree.read path)).map fun options => ⟨options, some path.toText⟩

/-- The configuration, with the settings of a command line on top.  Those are not checked. -/
def load (tree : FileTree) (cwd : Path) (file : Option Text) (settings : Settings) :
    Except LoadError Config :=
  (loadFile tree cwd file).map fun config =>
    { config with options := config.options.override settings }

end Config

end Furigana
