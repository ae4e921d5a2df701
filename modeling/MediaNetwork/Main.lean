/-
  The command line: reads the arguments, carries them out, and shows what is to be seen.

  The journal and failures go to the standard error, the answer to the standard output.
-/
import MediaNetwork.Command.Ending

namespace MediaNetwork

/-- The fault the system's number stands for; a number not listed keeps the system's words. -/
def numberedFault (fault : IO.Error) (code : UInt32) : FileFault :=
  (FileFault.codes.lookup code.toNat).getD (.other (toString fault))

/-- What is wrong with a file. -/
def fileFault (fault : IO.Error) : FileFault :=
  match fault with
  | .noFileOrDirectory _ code _ | .permissionDenied _ code _ | .inappropriateType _ code _
  | .invalidArgument _ code _ => numberedFault fault code
  | .userError _ => .notText
  | _ => .other (toString fault)

/-- The files of the system. -/
def systemFiles : FileAccess IO where
  read path := do return (← (IO.FS.readFile path).toBaseIO).mapError fileFault
  write path text := do return (← (IO.FS.writeFile path text).toBaseIO).mapError fileFault

/-- Shows an ending and gives its exit code. -/
def showEnding (e : Ending) : IO UInt32 := do
  for remark in e.remarks do
    IO.eprintln remark
  if let some answer := e.answer then
    IO.println answer
  return UInt32.ofNat e.code

end MediaNetwork

/-- Does what the arguments ask for, or tells what can be asked for. -/
def main (args : List String) : IO UInt32 := do
  match MediaNetwork.Invocation.read? args with
  | some i =>
    MediaNetwork.showEnding (← i.run MediaNetwork.systemFiles (← IO.getEnv "RUST_LOG"))
  | none =>
    IO.eprintln "usage: compile --config FILE [-o FILE] [-v]"
    IO.eprintln "       print --config FILE [-o FILE] [-v]"
    IO.eprintln "       script --script FILE [-o FILE] [-v]"
    return UInt32.ofNat MediaNetwork.exitUsage
