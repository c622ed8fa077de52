import TypedTables.Config.Settings
import TypedTables.Document.Decode
import TypedTables.Json.Reader

/-!
# Compiling generated code

An external compiler turns a source file into a library.  It is called with a fixed list of
arguments and the references of the settings, and reports diagnostics as JSON, one to a line.
-/

namespace TypedTables.Generate

open TypedTables.Document TypedTables.Text
open TypedTables.Config (Code)

/-- How a compiler is called. -/
structure CompilerCall where
  program : String
  arguments : List String
  source : ByteArray

/-- What a compiler did. -/
structure CompilerRun where
  succeeded : Bool
  report : String
  /-- What it wrote to the output file, if it did. -/
  library : Option ByteArray

/-- What a compiler does with a call; none if it cannot be run at all. -/
abbrev Compiler := CompilerCall → Option CompilerRun

/-- The arguments that a source file is compiled with into an output file. -/
def compilerArguments (code : Code) (source crateName output : String) : List String :=
  ["--crate-type", "rlib", "--edition", code.edition, "--crate-name", crateName,
    "--error-format=json", "--cap-lints", "warn", "-o", output] ++ code.references ++ [source]

/-- How bad a diagnostic is. -/
inductive Severity
  | error
  | warning
  deriving Repr, DecidableEq

/-- The severity of a level of diagnostics; other levels are not reported. -/
def Severity.ofLevel? (level : String) : Option Severity :=
  if level == "error" || level == "error: internal compiler error" then some .error
  else if level == "warning" then some .warning
  else none

/-- A message of a compiler. -/
structure Diagnostic where
  severity : Severity
  text : String
  deriving Repr, DecidableEq

/-- Reads the message type, level, message and rendered text of a diagnostic. -/
def readDiagnosticParts (document : Document) :
    Option (Option String × String × String × Option String) := do
  let fields ← fields? ["$message_type", "level", "message", "rendered"] document
  return (← fields.optional "$message_type" Reader.text, ← fields.required "level" Reader.text,
    ← fields.required "message" Reader.text, ← fields.optional "rendered" Reader.text)

/-- Reads a diagnostic from a line, if the line is one that is reported. -/
def Diagnostic.ofLine? (line : String) : Option Diagnostic := do
  if !line.startsWith "\x7b" then failure
  let (messageType, level, message, rendered) ← readDiagnosticParts (← Json.read? line)
  if messageType.any (· != "diagnostic") then failure
  let severity ← Severity.ofLevel? level
  return ⟨severity, trimEnd (rendered.getD message)⟩

/-- The diagnostics of a compiler's report, in order. -/
def diagnosticsOf (report : String) : List Diagnostic :=
  (lines report).filterMap Diagnostic.ofLine?

/-- The texts of the diagnostics of a severity. -/
def textsOf (severity : Severity) (diagnostics : List Diagnostic) : List String :=
  (diagnostics.filter (·.severity == severity)).map (·.text)

/-- What a compilation made of a source file: the library, if one was written. -/
def compiled (source : String) (program : String) (run : Option CompilerRun) :
    Outcome (Option ByteArray) :=
  match run with
  | none => .error (.compilerNotRun program)
  | some run =>
    let errors := textsOf .error (diagnosticsOf run.report)
    if errors.isEmpty && run.succeeded then .ok run.library
    else
      .error (.compilationFailed source (if errors.isEmpty then [trim run.report] else errors))

end TypedTables.Generate
