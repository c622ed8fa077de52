import TypedTables.Keyword.Effect
import TypedTables.Proofs.Outcome

/-!
# Changes made by keywords

A word is about one attribute of the table or of the field, or about none.  What it writes there
depends on no attribute that words are about, so the words of a cell make a list of changes, and the
cell fails exactly if one of the changes cannot be told.
-/

namespace TypedTables.Keyword

open TypedTables.Schema TypedTables.Text

/-! ## Attributes and changes -/

/-- A mark of a table. -/
inductive Mark
  | enumeration
  | reference
  | inPlace
  | noData
  deriving DecidableEq

def Mark.set : Mark → TableFlags → TableFlags
  | enumeration, flags => { flags with isEnum := true }
  | reference, flags => { flags with isClass := true }
  | inPlace, flags => { flags with isStruct := true }
  | noData, flags => { flags with noData := true }

/-- What a word is about; each tag is something of its own. -/
inductive Aim
  | mark (which : Mark)
  | key
  | exclusion
  | arraySeparators
  | objectSeparators
  | index
  | tag (text : String)
  | default
  deriving DecidableEq

/-- The tag that a parameter names, unless it is blank. -/
def tagAim? (parameter : String) : Option Aim :=
  let tag := lowercase (trim parameter)
  if tag.isEmpty then none else some (.tag tag)

/-- What a token is about, if anything. -/
def aim? (token : Token) : Option Aim :=
  match token.word with
  | "enum" => some (.mark .enumeration)
  | "class" => some (.mark .reference)
  | "struct" => some (.mark .inPlace)
  | "nodata" => some (.mark .noData)
  | "key" => some .key
  | "exclude" => some .exclusion
  | "arr_sep" => some .arraySeparators
  | "obj_sep" => some .objectSeparators
  | "index" => some .index
  | "client" => some (.tag "client")
  | "server" => some (.tag "server")
  | "tag" => tagAim? (token.parameter.getD "")
  | "default" => some .default
  | _ => none

inductive Change
  | nothing
  | mark (which : Mark)
  | key
  | exclusion
  | arraySeparators (separators : List String)
  | objectSeparators (separators : List String)
  | index (number : Nat)
  | tag (text : String)
  | default (value : Value)

namespace Change

def aim? : Change → Option Aim
  | .nothing => none
  | .mark which => some (.mark which)
  | .key => some .key
  | .exclusion => some .exclusion
  | .arraySeparators _ => some .arraySeparators
  | .objectSeparators _ => some .objectSeparators
  | .index _ => some .index
  | .tag text => some (.tag text)
  | .default _ => some .default

def apply (subject : Subject) : Change → Subject
  | .nothing => subject
  | .mark which => subject.mark which.set
  | .key => subject.edit fun field => { field with isKey := true }
  | .exclusion => subject.edit fun field => { field with isExcluded := true }
  | .arraySeparators separators =>
    subject.edit fun field => { field with arraySeparators := separators }
  | .objectSeparators separators =>
    subject.edit fun field => { field with objectSeparators := separators }
  | .index number => subject.edit fun field => { field with index := number }
  | .tag text => subject.edit fun field => field.addTag text
  | .default value => subject.edit fun field => { field with default := some value }

end Change

/-- The change that a parameter writes at what a word is about. -/
def Aim.change (subject : Subject) (parameter : String) : Aim → Outcome Change
  | .mark which => .ok (.mark which)
  | .key => .ok .key
  | .exclusion => .ok .exclusion
  | .arraySeparators => .ok (.arraySeparators (words parameter))
  | .objectSeparators => .ok (.objectSeparators (words parameter))
  | .index => Change.index <$> indexValue subject parameter
  | .tag text => .ok (.tag text)
  | .default => Change.default <$> defaultValue subject.field parameter

/-- The change that a token makes. -/
def changeOf (subject : Subject) (token : Token) : Outcome Change :=
  match aim? token with
  | none => .ok .nothing
  | some aim => aim.change subject (token.parameter.getD "")

/-! ## One token -/

theorem applyToken_eq (subject : Subject) (token : Token) :
    applyToken subject token = (Change.apply subject ·) <$> changeOf subject token := by
  unfold applyToken changeOf aim?
  dsimp only
  generalize token.word = word
  split
  -- The index may be no number, the tag may be blank, and the default may not suit the field.
  case h_9 =>
    unfold Aim.change
    cases indexValue subject (token.parameter.getD "") <;> rfl
  case h_12 =>
    unfold tagAim?
    dsimp only
    split <;> rfl
  case h_13 =>
    unfold Aim.change
    cases defaultValue subject.field (token.parameter.getD "") <;> rfl
  case h_14 =>
    simp only [*]
    rfl
  all_goals rfl

theorem aim?_of_changeOf {subject : Subject} {token : Token} {change : Change}
    (given : changeOf subject token = .ok change) : change.aim? = aim? token := by
  unfold changeOf at given
  split at given
  · next aimless =>
      cases given
      exact aimless.symm
  · next aim aimed =>
      rw [aimed]
      cases aim with
      | index =>
          obtain ⟨number, -, rfl⟩ := Outcome.map_eq_ok_iff.mp given
          rfl
      | default =>
          obtain ⟨value, -, rfl⟩ := Outcome.map_eq_ok_iff.mp given
          rfl
      | mark | key | exclusion | arraySeparators | objectSeparators | tag =>
          cases given
          rfl

/-- Nothing decides on a change but the names and the type of the field. -/
theorem changeOf_congr
    {subject other : Subject} (sameTable : subject.table.name = other.table.name)
    (sameName : subject.field.name = other.field.name)
    (sameType : subject.field.type = other.field.type) (token : Token) :
    changeOf subject token = changeOf other token := by
  unfold changeOf
  cases aim? token with
  | none => rfl
  | some aim =>
      cases aim with
      | index =>
          unfold Aim.change indexValue
          rw [sameTable, sameName]
      | default =>
          unfold Aim.change defaultValue primitive?
          rw [sameName, sameType]
      | _ => rfl

/-- Words are about none of these, so no change moves another. -/
theorem changeOf_apply (change : Change) (subject : Subject) (token : Token) :
    changeOf (change.apply subject) token = changeOf subject token := by
  cases change <;> refine changeOf_congr ?_ ?_ ?_ token <;> rfl

/-! ## Lists of changes -/

def applyAll (subject : Subject) (changes : List Change) : Subject :=
  changes.foldl Change.apply subject

/-- A cell succeeds exactly if the change of every token can be told, and then makes them all. -/
theorem applyTokens_eq_iff {subject after : Subject} {tokens : List Token} :
    applyTokens subject tokens = (after, none) ↔
      ∃ changes, tokens.mapM (changeOf subject) = .ok changes ∧
        applyAll subject changes = after := by
  induction tokens generalizing subject with
  | nil =>
      constructor
      · intro same
        cases same
        exact ⟨[], rfl, rfl⟩
      · rintro ⟨changes, ran, rfl⟩
        cases ran
        rfl
  | cons token rest inductionHypothesis =>
      rw [applyTokens, applyToken_eq, List.mapM_cons]
      cases changeOf subject token with
      | error failure =>
          constructor
          · rintro ⟨⟩
          · rintro ⟨changes, ⟨⟩, -⟩
      | ok change =>
          have unmoved : changeOf (change.apply subject) = changeOf subject :=
            funext (changeOf_apply change subject)
          have later : applyTokens (change.apply subject) rest = (after, none) ↔ _ :=
            inductionHypothesis
          rw [unmoved] at later
          refine later.trans ⟨?_, ?_⟩
          · rintro ⟨changes, ran, same⟩
            exact ⟨change :: changes, by rw [ran]; rfl, same⟩
          · rintro ⟨_, ran, same⟩
            obtain ⟨changes, restRan, rfl⟩ := Outcome.map_eq_ok_iff.mp ran
            exact ⟨changes, restRan, same⟩

/-- The change of a token of a cell is one of the changes that the cell makes. -/
theorem exists_of_mapM_changeOf
    {subject : Subject} {tokens : List Token} {changes : List Change}
    (ran : tokens.mapM (changeOf subject) = .ok changes) :
    (∀ token ∈ tokens, ∃ change ∈ changes, changeOf subject token = .ok change) ∧
      ∀ change ∈ changes, ∃ token ∈ tokens, changeOf subject token = .ok change :=
  Outcome.exists_of_forall₂ (Outcome.mapM_eq_ok_iff.mp ran)

/-! ## Tags -/

section Tags

variable {text other : String} {tags : List String}

theorem mem_insertAscending : other ∈ insertAscending text tags ↔ other = text ∨ other ∈ tags := by
  induction tags with
  | nil => simp [insertAscending]
  | cons tag rest inductionHypothesis => grind [insertAscending]

theorem insertAscending_self :
    insertAscending text (insertAscending text tags) = insertAscending text tags := by
  induction tags with
  | nil => simp [insertAscending]
  | cons tag rest inductionHypothesis => grind [insertAscending]

theorem insertAscending_comm :
    insertAscending text (insertAscending other tags) =
      insertAscending other (insertAscending text tags) := by
  by_cases same : text = other
  · rw [same]
  · have ordered : text < other ∨ other < text := by
      by_cases below : text < other
      · exact Or.inl below
      · refine Or.inr (Classical.byContradiction fun notAbove => same ?_)
        exact String.le_antisymm (String.not_lt.mp notAbove) (String.not_lt.mp below)
    induction tags with
    | nil => grind [insertAscending, String.lt_asymm]
    | cons tag rest inductionHypothesis =>
        grind [insertAscending, String.lt_trans, String.lt_asymm]

end Tags

/-! ## Pairs of changes -/

namespace Change

theorem apply_comm {left right : Change} (apart : left.aim? ≠ right.aim?) (subject : Subject) :
    right.apply (left.apply subject) = left.apply (right.apply subject) := by
  cases left with
  | nothing => rfl
  | mark which =>
      cases right with
      | mark other => cases which <;> cases other <;> rfl
      | _ => rfl
  | key | exclusion => cases right <;> rfl
  | arraySeparators separators =>
      cases right with
      | arraySeparators others => exact absurd rfl apart
      | _ => rfl
  | objectSeparators separators =>
      cases right with
      | objectSeparators others => exact absurd rfl apart
      | _ => rfl
  | index number =>
      cases right with
      | index other => exact absurd rfl apart
      | _ => rfl
  | tag text =>
      cases right with
      | tag other =>
          exact congrArg (fun tags => subject.edit fun field => { field with tags })
            insertAscending_comm
      | _ => rfl
  | default value =>
      cases right with
      | default other => exact absurd rfl apart
      | _ => rfl

/-- The later of two changes of one attribute is as if it were alone. -/
theorem apply_apply {left right : Change} (same : left.aim? = right.aim?) (subject : Subject) :
    right.apply (left.apply subject) = right.apply subject := by
  cases left <;> cases right <;> cases same
  case mark.mark.refl which => cases which <;> rfl
  case tag.tag.refl text =>
    exact congrArg (fun tags => subject.edit fun field => { field with tags }) insertAscending_self
  all_goals rfl

end Change

/-- The word that overwrites an attribute, where there is one; it is the only one about it. -/
def Aim.overwriter? : Aim → Option String
  | .arraySeparators => some "arr_sep"
  | .objectSeparators => some "obj_sep"
  | .index => some "index"
  | .default => some "default"
  | .mark _ | .key | .exclusion | .tag _ => none

theorem word_of_overwriter?
    {token : Token} {aim : Aim} {word : String} (aimed : aim? token = some aim)
    (overwritten : aim.overwriter? = some word) : token.word = word := by
  unfold aim? at aimed
  split at aimed
  case h_7 | h_8 | h_9 | h_13 =>
    cases aimed
    cases overwritten
    assumption
  case h_12 =>
    unfold tagAim? at aimed
    dsimp only at aimed
    split at aimed
    · cases aimed
    · cases aimed
      cases overwritten
  case h_14 => cases aimed
  all_goals
    cases aimed
    cases overwritten

/-- What is not overwritten can be changed in one way only. -/
theorem Change.eq_of_aim?
    {left right : Change} (same : left.aim? = right.aim?)
    (kept : ∀ aim, left.aim? = some aim → aim.overwriter? = none) : left = right := by
  cases left <;> cases right <;> cases same
  case arraySeparators.arraySeparators => cases kept .arraySeparators rfl
  case objectSeparators.objectSeparators => cases kept .objectSeparators rfl
  case index.index => cases kept .index rfl
  case default.default => cases kept .default rfl
  all_goals rfl

end TypedTables.Keyword
