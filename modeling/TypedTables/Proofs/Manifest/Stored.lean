import TypedTables.Build
import TypedTables.Proofs.Convert.Prepared
import TypedTables.Proofs.Files.Updates
import TypedTables.Proofs.Generate.Artifacts
import TypedTables.Proofs.Generate.Sparing
import TypedTables.Proofs.Manifest.Codec

/-!
# Data bound to a stored manifest

Generating code leaves the text of its model in the manifest.  Data that is written against the
manifest is what is written against the model, as long as the manifest can be read back.
-/

namespace TypedTables

open TypedTables.Schema TypedTables.Manifest TypedTables.Discover TypedTables.Files
open TypedTables.Generate
open TypedTables.Config (Code Settings)
open TypedTables.Convert (pairSource pairPlan)

/-! ## Updates that keep the model -/

/-- An update gives what was generated for a model. -/
abbrev Models {α : Type} (model : Model) (update : Update α) (made : α → Generated) : Prop :=
  Update.Meets update (fun _ => True) (fun result _ => (made result).model = model) fun _ => True

/-- Nothing is asked of what an update does. -/
theorem meets_true {α : Type} {before : Store → Prop} (update : Update α) :
    Update.Meets update before (fun _ _ => True) fun _ => True := by
  intro store _
  rcases update.run.run store with ⟨outcome, later⟩
  cases outcome <;> trivial

variable {model : Model} {code : Code} {templates : Templates} {generated : Generated}

theorem models_emit (same : generated.model = model) (path text : String) :
    Models model (emit path text generated) (·.1) := by
  unfold emit
  exact (meets_true _).bind fun changed => .pure fun _ _ => same

theorem models_writeBundle
    (same : generated.model = model) (compiler : Compiler) (plan : Plan) :
    Models model (writeBundle compiler code templates plan generated) id := by
  unfold writeBundle
  refine (meets_true _).bind fun spaces => (meets_true _).bind fun sources =>
    (meets_true _).bind fun text => ?_
  refine (models_emit same _ text).bind ?_
  rintro ⟨noted, changed⟩
  dsimp only
  refine .of_each fun store kept => ?_
  split
  · exact .pure fun _ _ => kept
  · refine .get_bind fun current _ => ?_
    split
    · exact (meets_true _).bind fun isNew => .pure fun _ _ => kept
    · exact .pure fun _ _ => kept

theorem models_writeTypes
    (same : generated.model = model) (declarations : List Declaration) :
    Models model (writeTypes code templates generated declarations) id := by
  induction declarations generalizing generated with
  | nil => exact .pure fun _ _ => same
  | cons declaration rest inductionHypothesis =>
      unfold writeTypes
      refine (meets_true _).bind fun text => (models_emit same _ _).bind ?_
      rintro ⟨noted, changed⟩
      exact .of_each fun store kept => (inductionHypothesis kept).strengthen fun _ _ => trivial

theorem models_writePerType (same : generated.model = model) (plan : Plan) :
    Models model (writePerType code templates plan generated) id := by
  unfold writePerType
  refine (meets_true _).bind fun _ => (models_writeTypes same plan.declarations).bind ?_
  intro written
  refine .of_each fun store kept => ?_
  refine (meets_true _).bind fun text => ?_
  refine ((models_emit kept _ text).strengthen fun _ _ => trivial).bind ?_
  rintro ⟨noted, changed⟩
  refine .of_each fun store keptNoted => ?_
  dsimp only
  split
  · refine (meets_true _).bind fun manifest => (meets_true _).bind fun isNew => ?_
    exact .pure fun _ _ => keptNoted
  · exact .pure fun _ _ => keptNoted

theorem models_writeSources (compiler : Compiler) (plan : Plan) :
    Models plan.model (writeSources compiler code templates plan) id := by
  unfold writeSources
  split
  · exact models_writeBundle rfl compiler plan
  all_goals exact models_writePerType rfl plan

/-! ## What generation stores -/

theorem fromUTF8?_toUTF8 (text : String) : String.fromUTF8? text.toUTF8 = some text :=
  dif_pos text.isValidUTF8

theorem writeIfChanged_stores (path : String) (content : ByteArray) :
    Update.Meets (writeIfChanged path content) (fun _ => True)
      (fun _ later => later.content? (later.locate path) = some content) fun _ => True := by
  refine .of_each fun store _ => ?_
  refine ((writeIfChanged_held path content).starting rfl).weaken ?_ fun _ => id
  intro _ later kept
  rw [kept.locate, kept.content]

/-- Taking stale files away keeps the manifest, which was noted when it was written. -/
theorem finish_stores
    {before : Store → Prop} (same : generated.model = model) :
    Update.Meets (finish code model generated) before
      (fun made later => later.text? (manifestPath code) = some made.model.toText)
      fun _ => True := by
  have wrote : Update.Meets (emit (manifestPath code) model.toText generated) before
      (fun result later => manifestPath code ∈ result.1.files ∧ result.1.model = model ∧
        later.content? (later.locate (manifestPath code)) = some model.toText.toUTF8)
      fun _ => True := by
    unfold emit
    have stored := (writeIfChanged_stores (manifestPath code) model.toText.toUTF8).strengthen
      fun store (_ : before store) => trivial
    refine stored.bind fun changed => .pure fun later holds => ?_
    exact ⟨List.mem_append_right _ List.mem_cons_self, same, holds⟩
  refine wrote.bind ?_
  rintro ⟨made, changed⟩
  refine .of_each ?_
  rintro store ⟨listed, sameModel, holds⟩
  dsimp only at listed sameModel ⊢
  have swept : Update.Meets
      (removeStale code.outputDirectory generatedEndings (made.files ++ made.artifact.toList))
      (· = store) (fun _ later => later.text? (manifestPath code) = some model.toText)
      fun _ => True := by
    refine .removeStale ?_
    intro current later _ reached thinned
    subst reached
    have kept : current.locate (manifestPath code) ∈
        (made.files ++ made.artifact.toList).map current.locate :=
      List.mem_map_of_mem (List.mem_append_left _ listed)
    rw [Store.text?, Store.locate_congr thinned.working, thinned.content_of_mem kept, holds]
    exact fromUTF8?_toUTF8 _
  refine swept.bind fun removed => .pure fun later holds => ?_
  rw [sameModel]
  exact holds

/-- Where code is generated, the manifest holds the text of the model. -/
theorem generate_stores
    (compiler : Compiler) (code : Code) (templates : Templates) (source : Source) :
    Update.Meets (generate compiler code templates source) (fun _ => True)
      (fun made later => later.text? (manifestPath code) = some made.model.toText)
      fun _ => True := by
  rw [generate_eq]
  refine (meets_true _).bind fun plan => (meets_true _).bind fun _ => ?_
  refine (models_writeSources compiler plan).bind fun made => .of_each fun _ kept => ?_
  exact finish_stores kept

/-! ## Data bound to the manifest -/

variable {settings : Settings} {source : Source} {store : Store}

/-- A stored manifest is read as its text is. -/
theorem storedModel_of_text
    {text : String} (stored : store.text? (manifestPath code) = some text) (tables : TableSet) :
    Data.storedModel store code tables =
      match Model.ofText? text with
      | some read => .ok read
      | none => .error (.invalidManifest (manifestPath code)) := by
  have present : store.hasFile (store.locate (manifestPath code)) = true := by
    obtain ⟨content, found, _⟩ := Option.bind_eq_some_iff.mp stored
    exact Store.hasFile_iff.mpr ⟨content, found⟩
  unfold Data.storedModel
  dsimp only
  rw [present, stored]
  rfl

/-- Data is bound to the stored model as to the same model at hand. -/
theorem run_writeData_of_stored
    {made : Generated}
    (stored : Data.storedModel store settings.code source.tables = .ok made.model) :
    (writeData settings source none).run.run store =
      (writeData settings source (some made)).run.run store := by
  have prepared : (Data.prepare settings source none).run.run store =
      (Data.prepare settings source (some made.model)).run.run store := by
    have current : (get : Update Store).run.run store = (.ok store, store) := rfl
    unfold Data.prepare
    rw [Outcome.run_bind, Outcome.run_bind, current]
    dsimp only
    rw [stored]
    rfl
  unfold writeData
  rw [Outcome.run_bind, Outcome.run_bind]
  rw [Option.map_none, Option.map_some, prepared]

/-- Without a model to bind to, nothing is written. -/
theorem run_writeData_of_error
    {failure : Failure}
    (refused : Data.storedModel store settings.code source.tables = .error failure) :
    (writeData settings source none).run.run store = (.error failure, store) := by
  have prepared :
      (Data.prepare settings source none).run.run store = (.error failure, store) := by
    have current : (get : Update Store).run.run store = (.ok store, store) := rfl
    unfold Data.prepare
    rw [Outcome.run_bind, current]
    dsimp only
    rw [refused]
    rfl
  unfold writeData
  rw [Outcome.run_bind]
  simp only [Option.map_none, prepared]

/-- A model whose numbers fit 64 bits is read back from its text exactly when no member's type is an
array nested too deeply, and else the text is refused.  So data that is bound to the manifest of a
generation is that of the generation's model at hand, or it is refused. -/
theorem manifest_read_back
    {model : Model} (storable : model.Storable) (compiler : Compiler) (settings : Settings)
    (templates : Templates) (source other : Source) (store : Store) :
    (model.Shallow → Model.ofText? model.toText = some model) ∧
      (¬ model.Shallow → Model.ofText? model.toText = none) ∧
      ∀ (made : Generated) (later : Store), made.model = model →
        (generate compiler settings.code templates source).run.run store = (.ok made, later) →
        (model.Shallow →
          (writeData settings other none).run.run later =
            (writeData settings other (some made)).run.run later) ∧
        (¬ model.Shallow →
          (writeData settings other none).run.run later =
            (.error (.invalidManifest (manifestPath settings.code)), later)) := by
  obtain ⟨readBack, refused⟩ := ofText?_toText storable
  refine ⟨readBack, refused, ?_⟩
  rintro made later rfl ran
  have stored := generate_stores compiler settings.code templates source store trivial
  rw [ran] at stored
  have bound := storedModel_of_text stored other.tables
  constructor
  · intro shallow
    rw [readBack shallow] at bound
    exact run_writeData_of_stored bound
  · intro deep
    rw [refused deep] at bound
    exact run_writeData_of_error bound

/-! ## A manifest that is read back, and one that is not -/

/-- The generation of the code of two columns, in an empty store. -/
def pairRun : Outcome Generated × Store :=
  (generate copyCompiler {} plainTemplates pairSource).run.run {}

theorem manifest_read_back_pairs :
    Model.ofText? pairPlan.model.toText = some pairPlan.model ∧
      ∃ made, pairRun = (.ok made, pairRun.2) ∧ made.model = pairPlan.model ∧
        ((writeData {} pairSource none).run.run pairRun.2).1 = .ok ["./Pair.json"] ∧
          (writeData {} pairSource none).run.run pairRun.2 =
            (writeData {} pairSource (some made)).run.run pairRun.2 := by
  have finished : pairRun.1.toOption.map (·.model) = some pairPlan.model := by
    simp only [pairRun, generate, removeStale, removeFiles, Store.listing?,
      Store.fileNames_eq_insertionSort]
    decide +kernel
  obtain ⟨made, given, same⟩ := Option.map_eq_some_iff.mp finished
  have ran : pairRun = (.ok made, pairRun.2) := Prod.ext (Outcome.eq_ok_of_toOption given) rfl
  have storable : pairPlan.model.Storable := by
    constructor <;> decide +kernel
  have shallow : pairPlan.model.Shallow := by
    unfold Model.Shallow
    decide +kernel
  have written :
      ((writeData {} pairSource (some made)).run.run pairRun.2).1 = .ok ["./Pair.json"] := by
    apply Outcome.eq_ok_of_toOption
    simp only [writeData, Data.prepare, Option.map_some, same, pairRun, generate, removeStale,
      removeFiles, Store.listing?, Store.fileNames_eq_insertionSort]
    decide +kernel
  obtain ⟨read, -, bound⟩ :=
    manifest_read_back storable copyCompiler {} plainTemplates pairSource pairSource {}
  have agree := (bound made pairRun.2 same ran).1 shallow
  exact ⟨read shallow, made, ran, same, (congrArg Prod.fst agree).trans written, agree⟩

/-- The type of a member with some arrays around an integer. -/
def nestedArrays (depth : Nat) : TypeRef :=
  Nat.repeat .array depth (.primitive .int32)

def nestedModel (depth : Nat) : Model where
  moduleName := "tables"
  types := [{
    name := "Item"
    table := "Item"
    kind := .reference
    members := [{ name := "cells", type := nestedArrays depth }] }]

/-- A model that its own text does not give back. -/
theorem nestedModel_refused :
    Model.ofText? (nestedModel 122).toText ≠ some (nestedModel 122) := by
  have storable : (nestedModel 122).Storable := by
    constructor <;> decide +kernel
  have deep : ¬ (nestedModel 122).Shallow := by
    unfold Model.Shallow
    decide +kernel
  rw [(ofText?_toText storable).2 deep]
  exact nofun

end TypedTables
