/-
  Invocations: what a command line asks for.

  The arguments name a task, the file it works on, and options in any order
  (`Invocation.read?`).  Arguments that ask for nothing are a usage error, and that is all there
  is to know about them.
-/
import MediaNetwork.Literal

namespace MediaNetwork

/-! ## Tasks and options -/

/-- What the program can be told to do. -/
inductive Task
  /-- Compile a configuration and export it. -/
  | compile
  /-- Compile a configuration and print it as a document. -/
  | print
  /-- Compile a script and export it. -/
  | script
  deriving DecidableEq, Repr

namespace Task

/-- The word that asks for each task. -/
def names : Keywords Task := [("compile", .compile), ("print", .print), ("script", .script)]

/-- The option that names the file a task works on. -/
def inputOption : Task → String
  | compile | print => "--config"
  | script => "--script"

end Task

/-- The options behind a task. -/
structure Options where
  /-- How often the verbosity flag stands there. -/
  verbosity : Nat
  input : Option String
  output : Option String
  deriving DecidableEq, Repr

namespace Options

/-- No option at all. -/
def unset : Options := ⟨0, none, none⟩

/-- Sets the input file, which must not be set yet. -/
def setInput (o : Options) (path : String) : Option Options :=
  if o.input.isSome || path.isEmpty then none else some { o with input := some path }

/-- Sets the output file, which must not be set yet. -/
def setOutput (o : Options) (path : String) : Option Options :=
  if o.output.isSome || path.isEmpty then none else some { o with output := some path }

/-- Counts further verbosity flags. -/
def addVerbosity (o : Options) (n : Nat) : Options := { o with verbosity := o.verbosity + n }

end Options

/-- What one argument is by itself. -/
inductive Argument
  /-- The verbosity flag, so many times. -/
  | verbose (times : Nat)
  /-- The input option, with its value or waiting for it. -/
  | input (value : Option String)
  /-- The output option, with its value or waiting for it, behind so many verbosity flags. -/
  | output (times : Nat) (value : Option String)
  /-- The end of the options. -/
  | stop
  /-- Anything else that begins with a dash. -/
  | unknown
  /-- A value. -/
  | plain (text : String)
  deriving DecidableEq, Repr

namespace Argument

/-- The short flags behind a dash. -/
def ofShort (times : Nat) : List Char → Argument
  | [] => verbose times
  | 'v' :: cs => ofShort (times + 1) cs
  | ['o'] => output times none
  | 'o' :: '=' :: value => output times (some (String.ofList value))
  | 'o' :: value => output times (some (String.ofList value))
  | _ => unknown

/-- A long option with the value behind its equals sign, if it has one. -/
def ofLong (task : Task) (name : String) (value : Option String) : Argument :=
  if name = "--verbose" then (if value.isSome then unknown else verbose 1)
  else if name = task.inputOption then input value
  else if name = "--out" then output 0 value
  else unknown

/-- What an argument is behind a task. -/
def classify (task : Task) (text : String) : Argument :=
  match text.toList with
  | ['-', '-'] => stop
  | '-' :: '-' :: cs =>
    let name := String.ofList ('-' :: '-' :: cs.takeWhile (· != '='))
    match cs.dropWhile (· != '=') with
    | [] => ofLong task name none
    | _ :: value => ofLong task name (some (String.ofList value))
  | '-' :: c :: cs => ofShort 0 (c :: cs)
  | _ => plain text

end Argument

/-- Reads the options behind a task. -/
def Options.read? (task : Task) (o : Options) : List String → Option Options
  | [] => some o
  | arg :: rest =>
    match Argument.classify task arg, rest with
    | .verbose times, rest => read? task (o.addVerbosity times) rest
    | .input (some path), rest => do
      let o ← o.setInput path
      read? task o rest
    | .output times (some path), rest => do
      let o ← (o.addVerbosity times).setOutput path
      read? task o rest
    | .input none, value :: rest =>
      match Argument.classify task value with
      | .plain path => do
        let o ← o.setInput path
        read? task o rest
      | _ => none
    | .output times none, value :: rest =>
      match Argument.classify task value with
      | .plain path => do
        let o ← (o.addVerbosity times).setOutput path
        read? task o rest
      | _ => none
    | .stop, [] => some o
    | _, _ => none

/-! ## Invocations -/

/-- A command line that can be carried out. -/
structure Invocation where
  task : Task
  input : String
  output : Option String
  verbosity : Nat
  deriving DecidableEq, Repr

namespace Invocation

/-- Reads arguments; `verbosity` counts the flags before the task.  Flags behind the task count
    instead of these, if there are any. -/
def readFrom? (verbosity : Nat) : List String → Option Invocation
  | [] => none
  | arg :: rest =>
    match Task.names.value? arg with
    | some task => do
      let o ← Options.unset.read? task rest
      let input ← o.input
      return ⟨task, input, o.output, if o.verbosity = 0 then verbosity else o.verbosity⟩
    | none =>
      match Argument.classify .compile arg with
      | .verbose times => readFrom? (verbosity + times) rest
      | _ => none

/-- What the arguments ask for, or `none` for a usage error. -/
def read? (args : List String) : Option Invocation := readFrom? 0 args

end Invocation

end MediaNetwork
