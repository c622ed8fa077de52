import TypedTables.Config.Load
import TypedTables.Data.Artifact
import TypedTables.Discover.Files

/-!
# Builds

A build discovers the tables of a source, then generates their code if it is asked to, and then
writes their data if it is asked to.
-/

namespace TypedTables

open TypedTables.Config TypedTables.Discover TypedTables.Files TypedTables.Generate

/-- What a build is asked for besides the discovery of tables. -/
structure BuildOptions where
  code : Bool := false
  data : Bool := false
  deriving Repr, DecidableEq

/-- A part of a build. -/
inductive Phase
  | discovery
  | generation
  | writing
  deriving Repr, DecidableEq

def Phase.name : Phase → String
  | discovery => "schema discovery"
  | generation => "code generation"
  | writing => "data writing"

/-- What a build did. -/
structure BuildReport where
  /-- The names of the tables, in the order of their discovery. -/
  tables : List String
  generated : Option Generated := none
  written : List String := []
  deriving Repr

/-- The parts that a build with some options has. -/
def phases (options : BuildOptions) : List Phase :=
  [.discovery] ++ (if options.code then [.generation] else []) ++
    (if options.data then [.writing] else [])

/-- The parameters of a run: the name of the module and its namespace. -/
def runParameters (code : Code) : Naming.Scope :=
  (Naming.Scope.empty.set "AssemblyName" code.moduleName).set "Namespace" (code.space.getD "")

/-- Generates code, reading the templates first. -/
def generateCode (compiler : Compiler) (code : Code) (source : Source) : Update Generated := do
  let templates ← Update.ofOutcome (loadTemplates (← get) code)
  generate compiler code templates source

/-- Writes the data of a source's tables, bound to the types of this run if there are any. -/
def writeData (settings : Settings) (source : Source) (generated : Option Generated) :
    Update (List String) := do
  let catalog ← Data.prepare settings source (generated.map (·.model))
  let (paths, _) ← Data.writeAll settings source catalog .standard
  return paths

/-- Builds what the options ask for from an open source. -/
def buildFrom (compiler : Compiler) (settings : Settings) (options : BuildOptions)
    (source : Source) : Update BuildReport := do
  let tables := source.tables.tables.map (·.name)
  let generated ←
    if options.code then some <$> generateCode compiler settings.code source else pure none
  let written ← if options.data then writeData settings source generated else pure []
  return { tables, generated, written }

/-- Builds what the options ask for from the sheets of a provider. -/
def buildWith (compiler : Compiler) (settings : Settings) (run : Naming.Scope)
    (options : BuildOptions) (provider : SheetProvider) : Update BuildReport := do
  let source ← Update.ofOutcome (Source.ofProvider settings run provider)
  buildFrom compiler settings options source

/-- Builds what the options ask for from the input files of settings. -/
def build (compiler : Compiler) (settings : Settings) (run : Naming.Scope)
    (options : BuildOptions) : Update BuildReport := do
  buildWith compiler settings run options (sheetsOf (← get) settings.input)

def buildByFile (compiler : Compiler) (value? : String → Option String) (path : String)
    (options : BuildOptions) : Update BuildReport := do
  let store ← get
  let settings ← Update.ofOutcome (Config.load value? path (store.text? path))
  build compiler settings (runParameters settings.code) options

end TypedTables
