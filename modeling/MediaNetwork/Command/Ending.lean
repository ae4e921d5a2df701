/-
  Endings: how an invocation is carried out, and what is to be seen of it.

  1. `Invocation.respond` does the task on the text of the input file.  It gives the journal and
     either the text to put out or the failure to report.
  2. `Invocation.run` reads the input file, does the task and puts the answer where it was asked
     for.  It works with any way to reach files (`FileAccess`) and touches nothing else, so what
     is to be seen of it is its value (`Ending`).
  3. `Failure.lines` is how a failure is shown: what was being done, then its cause, indented, if
     it has one.
-/
import MediaNetwork.Command.Filter
import MediaNetwork.Command.Invocation
import MediaNetwork.Export
import MediaNetwork.Print

namespace MediaNetwork

/-! ## Files -/

/-- Why a file cannot be read or written. -/
inductive FileFault
  | notFound
  | denied
  | notDirectory
  | isDirectory
  | nameTooLong
  /-- The bytes of the file are not the bytes of a text. -/
  | notText
  /-- A fault of another kind, in the words of the system. -/
  | other (message : String)
  deriving DecidableEq, Repr

namespace FileFault

/-- The numbers the system has for faults. -/
def codes : List (Nat × FileFault) :=
  [(2, .notFound), (13, .denied), (20, .notDirectory), (21, .isDirectory), (36, .nameTooLong)]

/-- The wording of a fault. -/
def wording : FileFault → String
  | notFound => "No such file or directory"
  | denied => "Permission denied"
  | notDirectory => "Not a directory"
  | isDirectory => "Is a directory"
  | nameTooLong => "File name too long"
  | notText => "stream did not contain valid UTF-8"
  | other message => message

/-- The wording of a fault with its number, if it has one. -/
def message (fault : FileFault) : String :=
  match codes.find? fun entry => entry.2 == fault with
  | some (code, _) => s!"{fault.wording} (os error {Text.decimal code})"
  | none => fault.wording

example : message .notFound = "No such file or directory (os error 2)" := by decide

end FileFault

/-- A way to reach files. -/
structure FileAccess (m : Type → Type) where
  read : (path : String) → m (Except FileFault String)
  write : (path text : String) → m (Except FileFault Unit)

/-! ## Failures -/

/-- Why the program ends without a result. -/
structure Failure where
  /-- What was being done, or what went wrong by itself. -/
  summary : String
  cause : Option String
  deriving DecidableEq, Repr

/-- The lines a failure is shown as; a summary that names a file may have several. -/
def Failure.lines (f : Failure) : List String :=
  s!"Error: {f.summary}".splitOn "\n" ++
    match f.cause with
    | none => []
    | some cause => ["", "Caused by:"] ++ (cause.splitOn "\n").map fun l => s!"    {l}"

namespace Invocation

/-- The failure to read the input file. -/
def readFailure (i : Invocation) (fault : FileFault) : Failure :=
  ⟨s!"reading {i.input}", some fault.message⟩

/-- The failure to compile what the input file holds. -/
def compileFailure (i : Invocation) (fault : CompileError) : Failure :=
  ⟨s!"compiling {i.input}", some fault.message⟩

end Invocation

/-- The failure to print what was compiled. -/
def printFailure (fault : CompileError) : Failure := ⟨fault.message, none⟩

/-- The failure to write an output file. -/
def writeFailure (path : String) (fault : FileFault) : Failure :=
  ⟨s!"writing {path}", some fault.message⟩

/-- What is said when an output file is written. -/
def writtenNotice (path : String) : String := s!"Wrote {path}"

/-! ## Endings -/

/-- The exit code of a task that succeeded. -/
def exitSuccess : Nat := 0

/-- The exit code of a task that failed. -/
def exitFailure : Nat := 1

/-- The exit code of a usage error. -/
def exitUsage : Nat := 2

/-- What is to be seen when the program ends. -/
structure Ending where
  code : Nat
  /-- What is put out: nothing, the answer, or the notice of a file written. -/
  answer : Option String
  /-- The journal as far as the filter shows it, and the failure. -/
  remarks : List String
  deriving DecidableEq, Repr

namespace Ending

/-- The ending with an answer. -/
def success (journal : List String) (answer : String) : Ending :=
  ⟨exitSuccess, some answer, journal⟩

/-- The ending with a failure. -/
def failure (journal : List String) (f : Failure) : Ending :=
  ⟨exitFailure, none, journal ++ f.lines⟩

end Ending

namespace Invocation

/-- Does the task on the text of the input file. -/
def respond (i : Invocation) (text : String) : List LogEvent × Except Failure String :=
  match i.task with
  | .compile =>
    let (events, result) := Journal.compile text
    (events, (result.map Configuration.exportText).mapError i.compileFailure)
  | .print =>
    let (events, result) := Journal.compile text
    (events, (result.mapError i.compileFailure).bind fun c => c.print.mapError printFailure)
  | .script =>
    let (events, result) := Journal.compileScript text
    (events, (result.map Script.exportText).mapError i.compileFailure)

/-- Carries an invocation out; `environment` is the filter the environment gives. -/
def run {m : Type → Type} [Monad m] (files : FileAccess m) (environment : Option String)
    (i : Invocation) : m Ending := do
  let filter := LogFilter.choose environment i.verbosity
  match ← files.read i.input with
  | .error fault => return .failure [] (i.readFailure fault)
  | .ok text =>
    let (events, result) := i.respond text
    let journal := (events.filter filter.shows).map LogEvent.line
    match result, i.output with
    | .error failure, _ => return .failure journal failure
    | .ok answer, none => return .success journal answer
    | .ok answer, some path =>
      match ← files.write path answer with
      | .ok () => return .success journal (writtenNotice path)
      | .error fault => return .failure journal (writeFailure path fault)

end Invocation

end MediaNetwork
