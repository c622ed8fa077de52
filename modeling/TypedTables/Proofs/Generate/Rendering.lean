import TypedTables.Generate.Templates
import TypedTables.Proofs.Outcome

/-!
# Rendered declarations

What the built-in template makes of the declaration of a record, written out as a text: its
comments, its members with their attributes, and its look-up.
-/

namespace TypedTables.Template

/-! ## Frames -/

/-- Paths start from a value, and no block gives a name to any. -/
structure Frames.At (frames : Frames) (value : Document) : Prop where
  value : (frames.frame 0).value = value
  unnamed : ∀ name, frames.named? name = none

variable {frames : Frames} {value : Document} {entries : List (String × Document)}
  {key : String}

theorem at_root (value : Document) : Frames.At { root := value } value :=
  ⟨rfl, fun _ => rfl⟩

theorem Frames.At.turn
    (here : frames.At value) (count index : Nat) (key item : Document) (isKeyed : Bool) :
    (frames.enter (turnFrame [] count index key item isKeyed)).At item := by
  refine ⟨rfl, fun name => ?_⟩
  have further := here.unnamed name
  unfold Frames.named? at further ⊢
  rw [Frames.enter, List.findSome?_cons]
  exact further

theorem find_key (here : frames.At (.mapping entries)) (key : String) :
    frames.find { keys := [key] } = some ((entries.lookup key).getD .null) := by
  unfold Frames.find
  simp only [here.unnamed, here.value]
  rfl

/-! ## Nodes -/

theorem renderNodes_cons
    {node : Node} {rest : List Node} {text others : String}
    (first : renderNode frames node = some text) (later : renderNodes frames rest = some others) :
    renderNodes frames (node :: rest) = some (text ++ others) := by
  rw [renderNodes, first, later]
  rfl

end TypedTables.Template

namespace TypedTables.Generate

open TypedTables.Template

variable {frames : Frames} {value : Document} {entries : List (String × Document)}
  {key : String}

theorem renderNode_slot
    (here : frames.At (.mapping entries)) {key : String} (free : isHelper key = false)
    {text : String} (found : entries.lookup key = some (.text text)) :
    renderNode frames (slot key) = some text := by
  have notHelper : Option.filter isHelper (some key) = none := by
    rw [Option.filter_some, free]
    rfl
  rw [slot, renderNode, insertion]
  simp only [Place.name?, notHelper, find_key here, found, Option.getD_some, Option.map_some,
    written]

theorem renderNode_itself (here : frames.At value) :
    renderNode frames itself = some (written value) := by
  rw [itself, renderNode, insertion]
  simp [Place.name?, Frames.find, here.value]

theorem mapM_eq_some {α β : Type} {step : α → Option β} {items : List α} {results : List β}
    (each : List.Forall₂ (fun item result => step item = some result) items results) :
    items.mapM step = some results := by
  induction each with
  | nil => rfl
  | cons here there inductionHypothesis =>
      rw [List.mapM_cons, here, inductionHypothesis]
      rfl

/-- A loop renders its body once for each item. -/
theorem renderNode_forEach
    (here : frames.At (.mapping entries)) {α : Type} {items : List α} {document : α → Document}
    (found : entries.lookup key = some (.list (items.map document))) {body : List Node}
    {shown : α → String}
    (each : ∀ inside : Frames, ∀ item ∈ items, inside.At (document item) →
      renderNodes inside body = some (shown item)) :
    renderNode frames (forEach key body) = some (String.join (items.map shown)) := by
  let turns := (items.map document).mapIdx fun index item =>
    turnFrame [] (items.map document).length index (.integer index) item false
  have values : evaluateAll frames [.place { keys := [key] }] =
      some [.list (items.map document)] := by
    simp [evaluateAll, evaluate, find_key here, found]
  have runs : course frames { name := "each", arguments := [.place { keys := [key] }] } false =
      some (.body (turns.map frames.enter)) := by
    unfold course
    simp only [values]
    simp [turns, turns?]
  have rendered : (turns.map frames.enter).mapM (fun inside => renderNodes inside body) =
      some (items.map shown) := by
    apply mapM_eq_some
    refine List.forall₂_iff_get.mpr ⟨by simp [turns], ?_⟩
    intro index _ inside
    rw [List.length_map] at inside
    simp only [turns, List.get_eq_getElem, List.getElem_map, List.getElem_mapIdx]
    exact each _ items[index] (List.getElem_mem inside) (here.turn _ _ _ _ _)
  rw [forEach, renderNode]
  simp only [Option.isSome_none, runs]
  simp [rendered]

theorem course_if
    (here : frames.At (.mapping entries)) (key : String) (hasOtherwise : Bool) :
    course frames { name := "if", arguments := [.place { keys := [key] }] } hasOtherwise =
      some (if isTrue false ((entries.lookup key).getD .null) then .body [frames]
        else .otherwise) := by
  have values : evaluateAll frames [.place { keys := [key] }] =
      some [(entries.lookup key).getD .null] := by
    simp [evaluateAll, evaluate, find_key here]
  unfold course
  simp only [values]
  rfl

/-- A body that is rendered once is rendered in the frames around it. -/
theorem join_mapM_singleton (body : List Node) :
    ([frames].mapM fun inside => renderNodes inside body).map String.join =
      renderNodes frames body := by
  cases rendered : renderNodes frames body <;> simp [rendered, String.join]

theorem renderNode_choose
    (here : frames.At (.mapping entries)) (key : String) (body otherwise : List Node) :
    renderNode frames (choose key body otherwise) =
      renderNodes frames
        (if isTrue false ((entries.lookup key).getD .null) then body else otherwise) := by
  rw [choose, renderNode, course_if here]
  by_cases holds : isTrue false ((entries.lookup key).getD .null) = true
  · rw [if_pos holds, if_pos holds, ← join_mapM_singleton body, Option.map_eq_bind]
    rfl
  · rw [if_neg holds, if_neg holds]
    rfl

theorem renderNode_onlyIf
    (here : frames.At (.mapping entries)) (key : String) (body : List Node) :
    renderNode frames (onlyIf key body) =
      if isTrue false ((entries.lookup key).getD .null) then renderNodes frames body
      else some "" := by
  rw [onlyIf, renderNode, course_if here]
  by_cases holds : isTrue false ((entries.lookup key).getD .null) = true
  · rw [if_pos holds, if_pos holds, ← join_mapM_singleton body, Option.map_eq_bind]
    rfl
  · rw [if_neg holds, if_neg holds]
    rfl

/-! ## Texts -/

/-- Lines of comments in front of a declaration. -/
def docText (margin : String) (lines : List String) : String :=
  String.join (lines.map fun line => margin ++ "/// " ++ line ++ "\n")

theorem renderNode_docComments
    (here : frames.At (.mapping entries)) {lines : List String}
    (found : entries.lookup "doc" = some (textsDocument lines)) (margin : String) :
    renderNode frames (docComments margin) = some (docText margin lines) := by
  refine renderNode_forEach here found fun inside line _ atLine => ?_
  rw [renderNodes_cons rfl (renderNodes_cons (renderNode_itself atLine)
    (renderNodes_cons rfl rfl))]
  simp [written, String.append_assoc]

/-- What stands in front of a column's name in the attribute of its member. -/
def renameMark : String :=
  "    #[cfg_attr(feature = \"serde\", serde(rename = \""

/-- What stands behind the quote that closes a column's name. -/
def memberEnd (member : MemberDeclaration) : String :=
  "))]\n    pub " ++ member.name ++ ": " ++ member.type ++ ",\n"

def memberLines (member : MemberDeclaration) : String :=
  docText "    " member.doc ++ renameMark ++ member.column ++ "\"" ++ memberEnd member

def lookUpText (name : String) (index : IndexDeclaration) : String :=
  "\nimpl " ++ name ++ " \x7b\n    /// Rows keyed by `" ++ index.column ++ "`\n    pub fn " ++
    index.method ++ "(rows: &[Self]) -> std::collections::HashMap<" ++ index.type ++
    ", &Self> \x7b\n        rows.iter().map(|row| (row." ++ index.member ++
    ".clone(), row)).collect()\n    \x7d\n\x7d\n"

/-- What stands in front of the members of a record. -/
def recordHead (declaration : Declaration) : String :=
  docText "" declaration.doc ++ "#[derive(Debug, Clone, PartialEq, Default)]\n" ++
    serializedAttribute ++ "#[cfg_attr(feature = \"serde\", serde(default))]\npub struct " ++
    declaration.name ++ " \x7b\n"

/-- What stands behind the members of a record. -/
def recordEnd (declaration : Declaration) : String :=
  "\x7d\n" ++ (declaration.index.map (lookUpText declaration.name)).getD ""

def recordText (declaration : Declaration) : String :=
  recordHead declaration ++ String.join (declaration.members.map memberLines) ++
    recordEnd declaration

/-! ## Records -/

theorem renderNodes_member {member : MemberDeclaration} (here : frames.At member.document) :
    renderNodes frames [
      docComments "    ",
      .text "    #[cfg_attr(feature = \"serde\", serde(rename = \"", slot "rename",
      .text "\"))]\n    pub ", slot "ident", .text ": ", slot "rust_type", .text ",\n"] =
        some (memberLines member) := by
  have rename : renderNode frames (slot "rename") = some member.column :=
    renderNode_slot here (by decide) rfl
  have ident : renderNode frames (slot "ident") = some member.name :=
    renderNode_slot here (by decide) rfl
  have type : renderNode frames (slot "rust_type") = some member.type :=
    renderNode_slot here (by decide) rfl
  have closing : "\"))]\n    pub " = "\"" ++ "))]\n    pub " := rfl
  rw [renderNodes_cons (renderNode_docComments here rfl "    ")
    (renderNodes_cons rfl (renderNodes_cons rename (renderNodes_cons rfl (renderNodes_cons ident
      (renderNodes_cons rfl (renderNodes_cons type (renderNodes_cons rfl rfl)))))))]
  -- Equations for texts of this length are slow to make, so the texts are opened without them.
  delta memberLines memberEnd renameMark
  simp only [closing, String.append_assoc, String.append_empty]

theorem renderNode_indexSlot
    (here : frames.At (.mapping entries)) {index : IndexDeclaration}
    (found : entries.lookup "index" = some index.document) {key text : String}
    (filled : step key index.document = some (.text text)) :
    renderNode frames (indexSlot key) = some text := by
  rw [indexSlot, renderNode, insertion]
  have reached : frames.find { keys := ["index", key] } = some (.text text) := by
    unfold Frames.find
    simp only [here.unnamed, here.value]
    simp [follow, step, found, ← filled]
  simp only [Place.name?, reached]
  rfl

theorem renderNodes_index
    (here : frames.At (.mapping entries)) {name : String} {index : IndexDeclaration}
    (named : entries.lookup "name" = some (.text name))
    (found : entries.lookup "index" = some index.document) :
    renderNodes frames indexParts = some (lookUpText name index) := by
  have ofName : renderNode frames (slot "name") = some name :=
    renderNode_slot here (by decide) named
  have column : renderNode frames (indexSlot "column") = some index.column :=
    renderNode_indexSlot here found rfl
  have method : renderNode frames (indexSlot "method") = some index.method :=
    renderNode_indexSlot here found rfl
  have type : renderNode frames (indexSlot "key_type") = some index.type :=
    renderNode_indexSlot here found rfl
  have member : renderNode frames (indexSlot "ident") = some index.member :=
    renderNode_indexSlot here found rfl
  rw [indexParts, renderNodes_cons rfl (renderNodes_cons ofName (renderNodes_cons rfl
    (renderNodes_cons column (renderNodes_cons rfl (renderNodes_cons method (renderNodes_cons rfl
      (renderNodes_cons type (renderNodes_cons rfl (renderNodes_cons member
        (renderNodes_cons rfl rfl))))))))))]
  delta lookUpText
  simp only [String.append_assoc, String.append_empty]

theorem renderNode_members {declaration : Declaration} (here : frames.At declaration.document) :
    renderNode frames (forEach "members" [
      docComments "    ",
      .text "    #[cfg_attr(feature = \"serde\", serde(rename = \"", slot "rename",
      .text "\"))]\n    pub ", slot "ident", .text ": ", slot "rust_type", .text ",\n"]) =
        some (String.join (declaration.members.map memberLines)) :=
  renderNode_forEach here rfl fun _ _ _ atMember => renderNodes_member atMember

theorem renderNode_index {declaration : Declaration} (here : frames.At declaration.document) :
    renderNode frames (onlyIf "index" indexParts) =
      some ((declaration.index.map (lookUpText declaration.name)).getD "") := by
  rw [renderNode_onlyIf here]
  obtain ⟨name, table, isEnum, doc, members, variants, index, isFirst, moduleName, space⟩ :=
    declaration
  cases index with
  | none => rfl
  | some index =>
      have given : isTrue false index.document = true := rfl
      exact (if_pos given).trans (renderNodes_index here rfl rfl)

/-- The built-in template makes its text of every record. -/
theorem render?_record {declaration : Declaration} (record : declaration.isEnum = false) :
    render? typeParts declaration.document = some (recordText declaration) := by
  have here : Frames.At { root := declaration.document } declaration.document :=
    at_root declaration.document
  have name : renderNode { root := declaration.document } (slot "name") =
      some declaration.name := renderNode_slot here (by decide) rfl
  have parts : renderNode { root := declaration.document }
      (choose "is_enum" enumerationParts recordParts) =
        renderNodes { root := declaration.document } recordParts := by
    have isRecord : isTrue false (.bool declaration.isEnum) ≠ true := by
      simp [Template.isTrue, record]
    rw [renderNode_choose here]
    exact congrArg _ (if_neg isRecord)
  have body : renderNodes { root := declaration.document } recordParts = _ :=
    renderNodes_cons rfl (renderNodes_cons name (renderNodes_cons rfl
      (renderNodes_cons (renderNode_members here) (renderNodes_cons rfl
        (renderNodes_cons (renderNode_index here) rfl)))))
  rw [render?, typeParts, renderNodes_cons (renderNode_docComments here rfl "")
    (renderNodes_cons (parts.trans body) rfl)]
  delta recordText recordHead recordEnd
  simp only [String.append_assoc, String.append_empty]

theorem renderType_record
    {templates : Templates} {index : Option String} {declaration : Declaration}
    (builtIn : Templates.ofTexts none index = .ok templates)
    (record : declaration.isEnum = false) :
    templates.renderType declaration = .ok (recordText declaration) := by
  obtain ⟨type, isBuiltIn, rest⟩ := Outcome.bind_eq_ok_iff.mp builtIn
  obtain ⟨_, _, made⟩ := Outcome.bind_eq_ok_iff.mp rest
  cases isBuiltIn
  cases made
  unfold Templates.renderType NamedTemplate.render
  dsimp only
  rw [render?_record record]

end TypedTables.Generate
