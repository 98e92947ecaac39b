import ApiGraph.Command.Run

namespace ApiGraph.Program

def reason : IO.Error → FileError
  | .noFileOrDirectory .. => .notFound
  | .alreadyExists .. => .alreadyExists
  | .inappropriateType _ code _ => if code = 20 then .notAFolder else .isAFolder
  | e => .other (toString e)

def attempt {α : Type} (action : IO α) : IO (Except FileError α) := do
  match ← action.toBaseIO with
  | .ok a => return .ok a
  | .error e => return .error (reason e)

def opens (path : String) : IO Bool := do
  return (← attempt (IO.FS.Handle.mk path .read)).isOk

instance : Storage IO where
  isPresent := opens
  isFolder path := opens (path ++ "/.")
  read path := attempt do return (← IO.FS.readBinFile path).toList
  write path content := attempt (IO.FS.writeBinFile path ⟨content.toArray⟩)
  makeFolder path := attempt (IO.FS.createDir path)

def variableNames : List String := ["ROUTIFY_PROJECT", "ROUTIFY_OUTPUT"]

def environment : IO Command.Environment := do
  let values ← variableNames.mapM fun name => return (name, ← IO.getEnv name)
  return values.filterMap fun v => v.2.map fun s => (v.1, s)

/-- Carries out a command line and answers with its exit code. -/
def run (words : List String) : IO UInt32 := do
  let start ← IO.monoMsNow
  let elapsed : IO String := do return toString ((← IO.monoMsNow) - start)
  let outcome ← Command.runWords elapsed (← environment) words
  IO.print outcome.output
  for w in outcome.warnings do
    IO.eprintln s!"{w.code}: {w.message}"
  if let some failure := outcome.failure then
    IO.eprintln s!"Error: {failure.message}"
    if let some help := failure.help then
      IO.eprintln s!"help: {help}"
  return UInt32.ofNat outcome.exitCode

end ApiGraph.Program

def main (words : List String) : IO UInt32 := ApiGraph.Program.run words
