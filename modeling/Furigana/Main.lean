import Furigana.CommandLine.Run

/-!
# The program

The files that a command line can touch are looked up first, and nothing else is; `CommandLine.run` then
decides what happens, and its answer is printed or written.
-/

namespace Furigana.Program

open Furigana.CommandLine

/-- What stands at a path.  The content of a file is left out unless it is asked for. -/
def look (wantsContent : Bool) (path : Path) : IO (Option Entry) := do
  let name := String.ofList path.toText
  match ← (IO.FS.Handle.mk name .read).toBaseIO with
  | .error (.noFileOrDirectory ..) | .error (.inappropriateType ..) => return none
  | .error e => throw e
  | .ok handle =>
    let content ←
      if wantsContent then handle.readBinToEnd.toBaseIO
      else ((IO.FS.Handle.mk name .append).toBaseIO).map fun opened =>
        opened.map fun _ => ByteArray.empty
    match content with
    | .ok bytes => return some (.file bytes)
    | .error (.inappropriateType ..) => return some .directory
    | .error e => if wantsContent then throw e else return some (.file .empty)

/-- The files with everything that a row of names leads past. -/
def follow (wantsContent : Bool) (files : FileTree) (here : Path) : List Text → IO FileTree
  | [] => return files
  | name :: rest => do
    if name = [] ∨ name = ['.'] then follow wantsContent files here rest
    else if name = ['.', '.'] then follow wantsContent files here.dropLast rest
    else
      let path := here ++ [name]
      match ← look wantsContent path with
      | none => return files
      | some entry => follow wantsContent (files.put path entry) path rest

/-- The files with everything that a text leads past. -/
def followText (wantsContent : Bool) (cwd : Path) (files : FileTree) (t : Text) : IO FileTree :=
  follow wantsContent files (FileTree.origin cwd t) (FileTree.names t)

/-- What the arguments of a command can touch. -/
def surroundings (cwd : Path) (a : Arguments) : IO Surroundings := do
  let files := (⟨[]⟩ : FileTree).putDirectories cwd
  let files ← match a.value? .config with
    | some t => followText true cwd files t
    | none => (Config.above cwd).foldlM (fun files d => follow true files d [Config.fileName]) files
  -- without a configuration nothing is read, so that nobody waits for an input in vain
  unless (Config.load files cwd (a.value? .config) a.settings).isOk do
    return ⟨files, cwd, .empty⟩
  let (files, input) ← match a.input.filter fun t => !isDash t with
    | some t => pure (← followText true cwd files t, ByteArray.empty)
    | none => pure (files, ← (← IO.getStdin).readBinToEnd)
  let files ← match a.value? .output with
    | some t => if files.find cwd t |>.isOk then pure files else followText false cwd files t
    | none => pure files
  return ⟨files, cwd, input⟩

/-- Prints a line on standard error. -/
def report (t : Text) : IO Unit := do (← IO.getStderr).putStrLn (String.ofList t)

/-- Does what a run has come to, and gives the exit code. -/
def perform (outcome : Outcome) : IO UInt32 := do
  match outcome with
  | .wrote path content =>
    match ← (IO.FS.writeFile (String.ofList path) (String.ofList content)).toBaseIO with
    | .ok _ => pure ()
    | .error e =>
      report ("Error: Failed to write ".toList ++ path ++ ": ".toList ++ (toString e).toList)
      return 1
  | .refused cause => report ("error: ".toList ++ cause.message)
  | _ => pure ()
  (← IO.getStdout).putStr (String.ofList outcome.stdout)
  if let some line := outcome.report? then report line
  return UInt32.ofNat outcome.exitCode

end Furigana.Program

open Furigana Furigana.CommandLine in
/-- Runs a command line. -/
def main (args : List String) : IO UInt32 := do
  let args := args.map String.toList
  let cwd := (FileTree.names (← IO.currentDir).toString.toList).filter (· ≠ [])
  let s ← match Invocation.parse args with
    | .run _ a => Program.surroundings cwd a
    | _ => pure ⟨⟨[]⟩, cwd, ByteArray.empty⟩
  Program.perform (run s args).1
