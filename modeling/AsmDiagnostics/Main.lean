import AsmDiagnostics.Program

/-!
# The command line

The program as it runs: it takes the places for its files from the environment, passes what comes in
on to a server, and writes what the server has to say. Builds run on a machine with nothing but its
own programs.
-/

namespace AsmDiagnostics.Program

/-- What stands at a path outside; a file that cannot be read counts as none. -/
def entryOutside (path : Path) : IO (Option Machine.Entry) := do
  try
    let content ← IO.FS.readBinFile path.display
    return some (.file content.toList false)
  catch _ => return none

def environmentOutside : IO Environment := do
  let get := fun name : String => do return (← IO.getEnv name).map Path.ofString
  return ⟨← get "RGBDS_LSP_CONFIG", ← get "XDG_CONFIG_HOME", ← get "XDG_DATA_HOME", ← get "HOME"⟩

/-- Serves the editor until the session is over; `since` is the time up to which the server has been
told that time has passed. -/
partial def serveInput (outside : Outside Machine.Files) (input output : IO.FS.Stream)
    (since : Nat) (server : Server Machine.Files) : IO Nat := do
  let (messages, server) := server.collectAll
  output.write (ByteArray.mk (framesOf messages).toArray)
  output.flush
  if server.hasEnded then return exitStatus server.ending?
  let chunk ← input.read 65536
  let now ← IO.monoMsNow
  let server := server.advance outside (now - since)
  if chunk.isEmpty then serveInput outside input output now (server.endInput outside)
  else serveInput outside input output now (server.receive outside chunk.toList)

end AsmDiagnostics.Program

open AsmDiagnostics in
def main : IO UInt32 := do
  let environment ← Program.environmentOutside
  let standing? ←
    match Config.path? environment with
    | some path => Program.entryOutside path
    | none => pure none
  let settings := Config.settingsFor environment fun _ => standing?
  let outside := Machine.outside settings.timeLimitSeconds
  let status ← Program.serveInput outside (← IO.getStdin) (← IO.getStdout) (← IO.monoMsNow)
    (Server.start settings Machine.bareFiles)
  return UInt32.ofNat status
