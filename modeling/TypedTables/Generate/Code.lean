import TypedTables.Files.Update
import TypedTables.Generate.Compiler
import TypedTables.Generate.Plan
import TypedTables.Generate.Templates
import TypedTables.Manifest.Codec

/-!
# Generated code

The declarations of a plan are written in one of three layouts, next to the manifest.  Files are
only written when their content changes, and sources and libraries of earlier runs that this one
does not make are taken away.
-/

namespace TypedTables.Generate

open TypedTables.Manifest TypedTables.Discover TypedTables.Files
open TypedTables.Config (Code Layout)

/-- What stands in front of every type in a file of its own. -/
def fileHeader : String :=
  "// @generated by tablegen. Do not edit.\n\n#[allow(unused_imports)]\nuse super::*;\n\n"

/-- What was made of a source's tables. -/
structure Generated where
  model : Model
  /-- The files that were made, changed or not. -/
  files : List String := []
  written : List String := []
  removed : List String := []
  artifact : Option String := none
  deriving Repr

/-- The name of the generated module as an identifier. -/
def crateName (code : Code) : String :=
  Naming.withoutRawMark (Naming.snakeCase code.moduleName)

/-- The name of the file of a type, without its ending. -/
def fileStem (typeName : String) : String :=
  Naming.withoutRawMark (Naming.snakeCase typeName)

/-- Reads the templates, those of files included. -/
def loadTemplates (store : Store) (code : Code) : Outcome Templates := do
  let type ← code.templatePath.mapM (textAt store)
  let index ← code.indexTemplatePath.mapM (textAt store)
  Templates.ofTexts type index
where
  textAt (store : Store) (path : String) : Outcome String :=
    match store.text? path with
    | some text => .ok text
    | none => .error (.unreadableTemplate path)

/-- The namespaces around the declarations, the outermost first. -/
def spacesOf (code : Code) : Outcome (List String) :=
  match code.space.filter (!·.isEmpty) with
  | none => .ok []
  | some path =>
    let spaces := Text.split "::" path
    match spaces.find? (!Naming.isIdentifier ·) with
    | some space => .error (.invalidNamespace space)
    | none => .ok spaces

/-- Notes a file that was made, and whether it changed. -/
def Generated.note (generated : Generated) (path : String) (changed : Bool) : Generated :=
  { generated with
    files := generated.files ++ [path]
    written := if changed then generated.written ++ [path] else generated.written }

def emit (path text : String) (generated : Generated) : Update (Generated × Bool) := do
  let changed ← writeIfChanged path text.toUTF8
  return (generated.note path changed, changed)

/-- Compiles a source file into a library in a scratch folder, and puts the library in place;
whether the library changed. -/
def compileInto (compiler : Compiler) (code : Code) (source artifact : String) : Update Bool := do
  let name := crateName code
  let scratch := join code.scratchDirectory name
  inScratch scratch do
    let store ← get
    let output := join scratch (libraryName name)
    let call : CompilerCall := {
      program := code.compiler
      arguments := compilerArguments code source name output
      source := (store.content? (store.locate source)).getD .empty }
    match ← Update.ofOutcome (compiled source code.compiler (compiler call)) with
    | some library => writeIfChanged artifact library
    | none => throw .inputOutput
where
  libraryName (name : String) : String := "lib" ++ name ++ ".rlib"

/-- Makes all declarations in one file, and a library of it if there is a compiler.  The library is
made anew when the file changed or there is no library. -/
def writeBundle (compiler : Compiler) (code : Code) (templates : Templates) (plan : Plan)
    (generated : Generated) : Update Generated := do
  let spaces ← Update.ofOutcome (spacesOf code)
  let sources ← Update.ofOutcome (plan.declarations.mapM templates.renderType)
  let text ← Update.ofOutcome (templates.renderIndex
    { moduleName := code.moduleName, isBundle := true, spaces, sources })
  let source := join code.outputDirectory (crateName code ++ ".rs")
  let (generated, changed) ← emit source text generated
  if Text.isBlankText code.compiler then return generated
  else
    let artifact := join code.outputDirectory ("lib" ++ crateName code ++ ".rlib")
    let store ← get
    let location := store.locate artifact
    if changed || !(store.hasFile location || store.hasFolder location) then
      let isNew ← compileInto compiler code source artifact
      return { generated with
        written := if isNew then generated.written ++ [artifact] else generated.written
        artifact := some artifact }
    else return { generated with artifact := some artifact }

/-- Checks that the types have files of their own, none of them the index. -/
def checkFiles : (seen : List (String × String)) → List Declaration → Outcome Unit
  | _, [] => .ok ()
  | seen, declaration :: rest =>
    let file := fileStem declaration.name
    if file == "mod" then .error (.overwritesModuleIndex declaration.name)
    else
      match seen.lookup file with
      | some other => .error (.fileCollision other declaration.name file)
      | none => checkFiles ((file, declaration.name) :: seen) rest

def writeTypes (code : Code) (templates : Templates) (generated : Generated) :
    List Declaration → Update Generated
  | [] => return generated
  | declaration :: rest => do
    let text ← Update.ofOutcome (templates.renderType declaration)
    let path := join code.outputDirectory (fileStem declaration.name ++ ".rs")
    let (noted, _) ← emit path (fileHeader ++ text) generated
    writeTypes code templates noted rest

/-- Makes a file for every type and the index, and a package manifest if it is wanted and there is
none. -/
def writePerType (code : Code) (templates : Templates) (plan : Plan) (generated : Generated) :
    Update Generated := do
  Update.ofOutcome (checkFiles [] plan.declarations)
  let generated ← writeTypes code templates generated plan.declarations
  let text ← Update.ofOutcome (templates.renderIndex {
    moduleName := code.moduleName
    isBundle := false
    files := plan.declarations.map fun declaration => Naming.snakeCase declaration.name })
  let (generated, _) ← emit (join code.outputDirectory "mod.rs") text generated
  if code.layout == .perTypeWithManifest then
    let manifest ← Update.ofOutcome (templates.renderPackage (crateName code) code.edition)
    let path := join code.outputDirectory "Cargo.toml"
    let isNew ← writeIfAbsent path manifest.toUTF8
    return { generated with
      written := if isNew then generated.written ++ [path] else generated.written }
  else return generated

/-- What the names of generated sources and libraries end in. -/
def generatedEndings : List String := [".rs", ".rlib"]

def manifestPath (code : Code) : String :=
  join code.outputDirectory (Model.fileName code.moduleName)

def generate (compiler : Compiler) (code : Code) (templates : Templates) (source : Source) :
    Update Generated := do
  let plan ← Update.ofOutcome (Plan.ofSource source code)
  makeFolder code.outputDirectory
  let start : Generated := { model := plan.model }
  let made ← match code.layout with
    | .bundle => writeBundle compiler code templates plan start
    | .perType | .perTypeWithManifest => writePerType code templates plan start
  let (made, _) ← emit (manifestPath code) plan.model.toText made
  let removed ← removeStale code.outputDirectory generatedEndings
    (made.files ++ made.artifact.toList)
  return { made with removed }

end TypedTables.Generate
