import CardLink.Simulator

open CardLink

/-- Where the settings are kept if the command line does not say. -/
def CardLink.Simulator.standardPath : IO String := do
  let directory ← IO.getEnv "TMPDIR"
  return directory.getD "/tmp" ++ "/card-link.cfg"

def CardLink.Simulator.readContent (path : String) : IO Simulator.Content := do
  try
    let bytes ← IO.FS.readBinFile path
    return .bytes bytes.toList
  catch
    | .noFileOrDirectory .. => return .missing
    | _ => return .unreadable

/-- Stores the settings back, if they are valid; false if that fails. -/
def CardLink.Simulator.writeBack (path : String) (content : Simulator.Content) : IO Bool := do
  match Simulator.load content >>= Simulator.toStore with
  | .error _ => return false
  | .ok bytes =>
    try
      IO.FS.writeBinFile path (ByteArray.mk bytes.toArray)
      return true
    catch _ => return false

def main (arguments : List String) : IO UInt32 := do
  let path ← match arguments with
    | path :: _ => pure path
    | [] => Simulator.standardPath
  let content ← Simulator.readContent path
  let writable ← Simulator.writeBack path content
  let outcome := Simulator.run path content writable
  for line in outcome.log ++ outcome.trace do
    IO.eprintln line
  return outcome.exitCode
