import ScriptLint.CommandLine.Run

namespace ScriptLint.CommandLine

/-! The program: gathers what a request needs from the files around it, and prints and
writes what the request leaves behind. -/

def fileText? (path : String) : IO (Option (List Char)) := do
  try
    let text ← IO.FS.readFile path
    return some text.toList
  catch _ => return none

/-- What a path to a folder for a configuration leads to. -/
def placeOf (path : String) : IO Place := do
  try
    let full ← IO.FS.realPath path
    if ← full.isDir then
      let target := full / "nodelint.toml"
      return .folder full.toString (← target.pathExists) !(← target.isDir)
    else if ← full.pathExists then return .file full.toString
    else return .missing
  catch _ => return .missing

def gather (r : Request) : IO Surroundings := do
  let texts ← r.files.mapM fun path => do return (path, ← fileText? path)
  let places ← match r with
    | .run _ (.init path _) => do pure [(path, ← placeOf path)]
    | _ => pure []
  return ⟨fun path => (texts.lookup path).join,
    fun path => (places.lookup path).getD .missing⟩

def writeFile (o : Outcome) : IO Outcome := do
  match o.written with
  | none => return o
  | some (path, text) =>
      try
        IO.FS.writeFile path text
        return o
      catch _ => return .ofError ("Failed to write " ++ path)

end ScriptLint.CommandLine

open ScriptLint.CommandLine

def main (arguments : List String) : IO UInt32 := do
  let surroundings ← match Request.ofArguments? arguments with
    | some r => gather r
    | none => pure default
  let o ← writeFile (run surroundings arguments)
  (← IO.getStdout).putStr o.output
  (← IO.getStderr).putStr (if o.status = 2 then helpText else o.messages)
  return o.status.toUInt32
