import TypedTables.Build

/-!
# Command lines

`tablegen [--code] [--data] [--config <path>] [-v|--verbose] [-q|--quiet]`, where build scripts may
also write `-code`, `-data` and `-config=<path>`.  Arguments are read from left to right, and the
first one that does not fit ends the reading.  No option is given twice.
-/

namespace TypedTables.CommandLine

/-- Why arguments are not a command; asking for help or the version is no command either. -/
inductive Refusal
  | unknownArgument
  | argumentConflict
  | invalidValue
  | tooManyValues
  | displayHelp
  | displayVersion
  deriving Repr, DecidableEq

def Refusal.name : Refusal → String
  | unknownArgument => "UnknownArgument"
  | argumentConflict => "ArgumentConflict"
  | invalidValue => "InvalidValue"
  | tooManyValues => "TooManyValues"
  | displayHelp => "DisplayHelp"
  | displayVersion => "DisplayVersion"

def usage : String :=
  "Usage: tablegen [--code] [--data] [--config <path>] [-v|--verbose] [-q|--quiet]"

/-- What is printed when the version is asked for. -/
def version : String := "tablegen 0.1.0"

/-- What a command asks for. -/
structure Command where
  options : BuildOptions := {}
  config : String := Config.defaultFile
  isVerbose : Bool := false
  isQuiet : Bool := false
  deriving Repr, DecidableEq

def Command.logLevel (command : Command) : String :=
  if command.isQuiet then "error" else if command.isVerbose then "debug" else "info"

/-- An option. -/
inductive Switch
  | code
  | data
  | config
  | verbose
  | quiet
  | help
  | version
  deriving Repr, DecidableEq

def longNames : List (String × Switch) := [
  ("code", .code), ("data", .data), ("config", .config), ("verbose", .verbose),
  ("quiet", .quiet), ("help", .help), ("version", .version)]

def letters : List (Char × Switch) := [
  ('c', .config), ('v', .verbose), ('q', .quiet), ('h', .help), ('V', .version)]

def normalize (argument : String) : String :=
  let mark := "-config="
  if argument == "-code" then "--code"
  else if argument == "-data" then "--data"
  else if argument == "-config" then "--config"
  else if argument.startsWith mark then
    "--config=" ++ String.ofList (argument.toList.drop mark.length)
  else argument

/-- What has been read of a command. -/
structure Reading where
  command : Command := {}
  given : List Switch := []
  /-- Whether an option waits for its value. -/
  isPending : Bool := false

/-- The outcome of reading arguments. -/
abbrev Attempt (α : Type) := Except Refusal α

namespace Reading

/-- Notes that an option is given, if it was not given before. -/
def note (reading : Reading) (option : Switch) : Attempt Reading :=
  if reading.given.contains option then .error .argumentConflict
  else .ok { reading with given := option :: reading.given, isPending := false }

def change (change : Command → Command) (reading : Reading) : Reading :=
  { reading with command := change reading.command }

/-- Gives the configuration file; its path is not empty. -/
def giveConfig (reading : Reading) (path : String) : Attempt Reading := do
  let noted ← reading.note .config
  if path.isEmpty then throw .invalidValue
  return noted.change ({ · with config := path })

/-- Reads an option that has no value; an option that waits for its value gets none. -/
def giveFlag (reading : Reading) (option : Switch) : Attempt Reading := do
  if reading.isPending then throw .invalidValue
  match option with
  | .help => throw .displayHelp
  | .version => throw .displayVersion
  | .config => return { reading with isPending := true }
  | .code => return (← reading.note option).change fun command =>
      { command with options := { command.options with code := true } }
  | .data => return (← reading.note option).change fun command =>
      { command with options := { command.options with data := true } }
  | .verbose => return (← reading.note option).change ({ · with isVerbose := true })
  | .quiet => return (← reading.note option).change ({ · with isQuiet := true })

/-- Reads a long option, with a value behind an equality sign or without. -/
def addLong (reading : Reading) (name : String) (value : Option String) : Attempt Reading :=
  match longNames.lookup name, value with
  | none, _ => .error .unknownArgument
  | some .config, some path =>
    if reading.isPending then .error .invalidValue else reading.giveConfig path
  | some _, some _ => .error .tooManyValues
  | some option, none => reading.giveFlag option

/-- Reads a cluster of letters; what follows the letter of an option with a value is its value. -/
def addLetters (reading : Reading) : List Char → Attempt Reading
  | [] => .ok reading
  | letter :: rest =>
    match letters.lookup letter with
    | none => .error .unknownArgument
    | some .config =>
      if reading.isPending then .error .invalidValue
      else
        match rest with
        | [] => .ok { reading with isPending := true }
        | '=' :: path => reading.giveConfig (String.ofList path)
        | path => reading.giveConfig (String.ofList path)
    | some option => do (← reading.giveFlag option).addLetters rest

/-- Reads a word that is no option: it is the value that an option waits for, if one does. -/
def addWord (reading : Reading) (word : String) : Attempt Reading :=
  if reading.isPending then reading.giveConfig word else .error .unknownArgument

def add (reading : Reading) (argument : String) : Attempt Reading :=
  match argument.toList with
  | '-' :: '-' :: rest =>
    match rest.dropWhile (· != '=') with
    | _ :: value =>
      reading.addLong (String.ofList (rest.takeWhile (· != '='))) (some (String.ofList value))
    | [] => reading.addLong (String.ofList rest) none
  | '-' :: letter :: rest => reading.addLetters (letter :: rest)
  | _ => reading.addWord argument

/-- The command that was read: no option waits, and verbose and quiet exclude each other. -/
def finish (reading : Reading) : Attempt Command :=
  if reading.isPending then .error .invalidValue
  else if reading.command.isVerbose && reading.command.isQuiet then .error .argumentConflict
  else .ok reading.command

end Reading

/-- Reads arguments; nothing may follow two dashes alone. -/
def readAll (reading : Reading) : List String → Attempt Command
  | [] => reading.finish
  | ["--"] => reading.finish
  | "--" :: _ => .error .unknownArgument
  | argument :: rest => do readAll (← reading.add argument) rest

/-- Reads a command line, whose first argument is the name of the program. -/
def read (arguments : List String) : Attempt Command :=
  readAll {} ((arguments.map normalize).drop 1)

def run (compiler : Generate.Compiler) (value? : String → Option String)
    (command : Command) : Files.Update BuildReport :=
  buildByFile compiler value? command.config command.options

end TypedTables.CommandLine
