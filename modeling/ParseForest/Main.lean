import ParseForest.Command.Run

/-!
# The program

Everything that needs the outside world: the files that a request may look at,
what comes in, and where output goes.
-/

namespace ParseForest
namespace Program

/-- Where a name leads in the file system. -/
def lookUp (name : Text) : IO Command.Entry := do
  match name.toString? with
  | none => return .unavailable Command.Folder.absent
  | some path =>
    try
      let bytes ← IO.FS.readBinFile path
      return .file bytes.data.toList
    catch
      | .noFileOrDirectory .. => return .unavailable Command.Folder.absent
      | .inappropriateType .. => return .folder
      | e => return .unavailable (Text.ofString (toString e))

/-- Everything up to the end of a stream, behind what was read before. -/
partial def readToEnd (stream : IO.FS.Stream) (before : ByteArray) : IO ByteArray := do
  let bytes ← stream.read 65536
  if bytes.isEmpty then return before
  readToEnd stream (before ++ bytes)

/-- What comes in, or why it cannot be read. -/
def readInput : IO (Except Text Text) := do
  try
    let bytes ← readToEnd (← IO.getStdin) ByteArray.empty
    return .ok bytes.data.toList
  catch e => return .error (Text.ofString (toString e))

/-- What a request finds around it. -/
def surroundings (request : Command.Request) : IO Command.Surroundings := do
  let found ← request.files.mapM fun name => do return (name, ← lookUp name)
  let input ← if request.readsInput then readInput else pure (.ok [])
  return {
    entry := fun name => (found.lookup name).getD (.unavailable Command.Folder.absent)
    input := input }

def outcome (arguments : List Text) : IO Command.Outcome := do
  match Command.Request.read arguments with
  | .error e => return e.outcome .sound
  | .ok request => return request.run (← surroundings request)

end Program
end ParseForest

open ParseForest in
def main (arguments : List String) : IO UInt32 := do
  let ending ← Program.outcome (arguments.map Text.ofString)
  let output ← IO.getStdout
  output.write ⟨ending.output.text.toArray⟩
  output.flush
  (← IO.getStderr).write ⟨ending.diagnostics.toArray⟩
  return ending.status.toUInt32
