import Mathlib.Data.Set.Finite.Basic
import TypedTables.Proofs.Keyword.Changes
import TypedTables.Proofs.Keyword.Reading

/-!
# Parameters and their parentheses

The parameter of a word ends at the parenthesis that closes it, and what it says is for that word
alone, as long as it stands on one line.  A parameter with a line feed is none: what it says is read
as further words, and these may be about anything.
-/

namespace TypedTables.Keyword

open TypedTables.Schema TypedTables.Text

/-! ## What a word may change -/

/-- The words that mark the table or the field, move the field, or add a tag of their own. -/
def markingWords : List String := [
  "enum", "class", "struct", "nodata", "key", "exclude", "index", "client", "server"]

/-- Nothing has changed but the one attribute of the field that the word is about. -/
def Confined (word : String) (before after : Subject) : Prop :=
  after.table = before.table ∧
    match word with
    | "arr_sep" => ∃ separators, after.field = { before.field with arraySeparators := separators }
    | "obj_sep" => ∃ separators, after.field = { before.field with objectSeparators := separators }
    | "tag" => after.field = before.field ∨ ∃ tag, after.field = before.field.addTag tag
    | "default" => ∃ value, after.field = { before.field with default := value }
    | _ => after.field = before.field

variable {word : String} {before after : Subject}

/-- A word that marks nothing is one of four, or it is about nothing. -/
theorem unmarking_cases (unmarking : word ∉ markingWords) :
    word = "arr_sep" ∨ word = "obj_sep" ∨ word = "tag" ∨ word = "default" ∨
      (∀ parameter, aim? ⟨word, parameter⟩ = none) ∧
        ∀ {before after}, Confined word before after → after = before := by
  by_cases four : word = "arr_sep" ∨ word = "obj_sep" ∨ word = "tag" ∨ word = "default"
  · rcases four with arrays | objects | tag | default
    · exact Or.inl arrays
    · exact Or.inr (Or.inl objects)
    · exact Or.inr (Or.inr (Or.inl tag))
    · exact Or.inr (Or.inr (Or.inr (Or.inl default)))
  · simp only [not_or] at four
    obtain ⟨notArrays, notObjects, notTag, notDefault⟩ := four
    refine Or.inr (Or.inr (Or.inr (Or.inr ⟨?_, ?_⟩)))
    · intro parameter
      unfold aim?
      dsimp only
      split
      case h_7 | h_8 | h_12 | h_13 => contradiction
      case h_14 => rfl
      all_goals exact absurd (by decide) unmarking
    · rintro before after ⟨sameTable, sameField⟩
      split at sameField
      · exact absurd rfl notArrays
      · exact absurd rfl notObjects
      · exact absurd rfl notTag
      · exact absurd rfl notDefault
      · exact congr (congrArg Subject.mk sameTable) sameField

/-- The word can be about this, with one parameter or another. -/
def About (word : String) (aim : Option Aim) : Prop :=
  ∃ parameter, aim? ⟨word, parameter⟩ = aim

theorem about_tag {aim : Option Aim} (about : About "tag" aim) :
    aim = none ∨ ∃ tag, aim = some (.tag tag) := by
  obtain ⟨parameter, rfl⟩ := about
  have read : aim? ⟨"tag", parameter⟩ = tagAim? (parameter.getD "") := rfl
  rw [read, tagAim?]
  split
  · exact Or.inl rfl
  · exact Or.inr ⟨_, rfl⟩

theorem confined_refl : Confined word before before := by
  refine ⟨rfl, ?_⟩
  split
  · exact ⟨_, rfl⟩
  · exact ⟨_, rfl⟩
  · exact Or.inl rfl
  · exact ⟨_, rfl⟩
  · rfl

theorem Change.eq_nothing {change : Change} (aimless : change.aim? = none) :
    change = .nothing := by
  cases change <;> cases aimless
  rfl

theorem confined_apply
    {change : Change} (unmarking : word ∉ markingWords) (about : About word change.aim?) :
    Confined word before (change.apply before) := by
  by_cases aimless : change.aim? = none
  · rw [Change.eq_nothing aimless]
    exact confined_refl
  · rcases unmarking_cases unmarking with rfl | rfl | rfl | rfl | ⟨aboutNothing, -⟩
    · obtain ⟨_, aimed⟩ := about
      cases change <;> cases aimed
      exact ⟨rfl, _, rfl⟩
    · obtain ⟨_, aimed⟩ := about
      cases change <;> cases aimed
      exact ⟨rfl, _, rfl⟩
    · obtain ⟨tag, aimed⟩ := (about_tag about).resolve_left aimless
      cases change <;> cases aimed
      exact ⟨rfl, Or.inr ⟨_, rfl⟩⟩
    · obtain ⟨_, aimed⟩ := about
      cases change <;> cases aimed
      exact ⟨rfl, _, rfl⟩
    · obtain ⟨parameter, aimed⟩ := about
      exact absurd (aimed.symm.trans (aboutNothing parameter)) aimless

/-- Changes of one attribute come to one of them, or to none. -/
theorem applyAll_of_aim?
    {aim : Option Aim} {changes : List Change}
    (same : ∀ change ∈ changes, change.aim? = none ∨ change.aim? = aim) :
    applyAll before changes = before ∨
      ∃ change : Change, change.aim? = aim ∧ applyAll before changes = change.apply before := by
  have collected : ∀ subject, (subject = before ∨ ∃ change : Change, change.aim? = aim ∧
        subject = change.apply before) →
      applyAll subject changes = before ∨
        ∃ change : Change, change.aim? = aim ∧ applyAll subject changes = change.apply before := by
    induction changes with
    | nil => exact fun subject reached => reached
    | cons change rest inductionHypothesis =>
        intro subject reached
        apply inductionHypothesis fun other member => same other (List.mem_cons_of_mem _ member)
        rcases same change List.mem_cons_self with aimless | aimed
        · rw [Change.eq_nothing aimless]
          exact reached
        · right
          rcases reached with rfl | ⟨earlier, earlierAimed, rfl⟩
          · exact ⟨change, aimed, rfl⟩
          · exact ⟨change, aimed, Change.apply_apply (earlierAimed.trans aimed.symm) before⟩
  exact collected before (Or.inl rfl)

theorem confined_applyAll
    {aim : Option Aim} {changes : List Change} (unmarking : word ∉ markingWords)
    (about : About word aim)
    (same : ∀ change ∈ changes, change.aim? = none ∨ change.aim? = aim) :
    Confined word before (applyAll before changes) := by
  rcases applyAll_of_aim? same with unchanged | ⟨change, aimed, changed⟩
  · rw [unchanged]
    exact confined_refl
  · rw [changed]
    exact confined_apply unmarking (aimed ▸ about)

/-! ## What cells show -/

def Mark.isSet : Mark → TableFlags → Bool
  | .enumeration, flags => flags.isEnum
  | .reference, flags => flags.isClass
  | .inPlace, flags => flags.isStruct
  | .noData, flags => flags.noData

/-- A field that has none of what words can give it, with separators and an index of its own. -/
def plainSubject (separators : List String) (index : Nat) : Subject :=
  ⟨.named "T" .empty,
    { name := "F", column := 1, index, arraySeparators := separators,
      objectSeparators := separators }⟩

/-- The attribute is not as it is in a plain subject. -/
def Shows (separators : List String) (index : Nat) (subject : Subject) : Aim → Prop
  | .mark which => which.isSet subject.table.flags = true
  | .key => subject.field.isKey = true
  | .exclusion => subject.field.isExcluded = true
  | .arraySeparators => subject.field.arraySeparators ≠ separators
  | .objectSeparators => subject.field.objectSeparators ≠ separators
  | .index => subject.field.index ≠ index
  | .tag tag => tag ∈ subject.field.tags
  | .default => subject.field.default ≠ none

/-- A change that writes neither these separators nor this index. -/
def Fresh (separators : List String) (index : Nat) : Change → Prop
  | .arraySeparators written => written ≠ separators
  | .objectSeparators written => written ≠ separators
  | .index number => number ≠ index
  | _ => True

section Visible

variable {separators : List String} {index : Nat} {subject : Subject} {change : Change} {aim : Aim}

theorem shows_apply (fresh : Fresh separators index change) (aimed : change.aim? = some aim) :
    Shows separators index (change.apply subject) aim := by
  cases change <;> cases aimed
  case mark.refl which => cases which <;> rfl
  case key.refl | exclusion.refl => rfl
  case tag.refl text => exact mem_insertAscending.mpr (Or.inl rfl)
  case default.refl value => exact Option.some_ne_none value
  all_goals exact fresh

theorem shows_apply_of_shows (fresh : Fresh separators index change)
    (shown : Shows separators index subject aim) :
    Shows separators index (change.apply subject) aim := by
  by_cases aimed : change.aim? = some aim
  · exact shows_apply fresh aimed
  · cases change <;> cases aim
    case mark.mark which other =>
      cases which <;> cases other <;> first | exact shown | rfl
    case tag.tag text other => exact mem_insertAscending.mpr (Or.inr shown)
    case key.key | exclusion.exclusion | index.index | default.default |
        arraySeparators.arraySeparators | objectSeparators.objectSeparators =>
      exact absurd rfl aimed
    all_goals exact shown

/-- What one of the changes of a cell is about can be seen behind all of them. -/
theorem shows_applyAll
    {changes : List Change} (fresh : ∀ change ∈ changes, Fresh separators index change)
    (touched : Shows separators index subject aim ∨ ∃ change ∈ changes, change.aim? = some aim) :
    Shows separators index (applyAll subject changes) aim := by
  induction changes generalizing subject with
  | nil =>
      rcases touched with shown | ⟨_, ⟨⟩, _⟩
      exact shown
  | cons change rest inductionHypothesis =>
      have here := fresh change List.mem_cons_self
      apply inductionHypothesis fun other member => fresh other (List.mem_cons_of_mem _ member)
      rcases touched with shown | ⟨other, member, aimed⟩
      · exact Or.inl (shows_apply_of_shows here shown)
      · rcases List.mem_cons.mp member with rfl | later
        · exact Or.inl (shows_apply here aimed)
        · exact Or.inr ⟨other, later, aimed⟩

theorem not_shows_plainSubject (separators : List String) (index : Nat) (aim : Aim) :
    ¬ Shows separators index (plainSubject separators index) aim := by
  cases aim with
  | mark which => cases which <;> exact Bool.false_ne_true
  | key | exclusion => exact Bool.false_ne_true
  | tag tag => exact List.not_mem_nil
  | arraySeparators | objectSeparators | index | default => exact fun shown => shown rfl

/-- Any changes leave some separators and some index unwritten. -/
theorem exists_fresh (changes : List Change) :
    ∃ separators index, ∀ change ∈ changes, Fresh separators index change := by
  have finite : Set.Finite {change | change ∈ changes} := List.finite_toSet changes
  have arrays := finite.preimage (f := Change.arraySeparators)
    fun _ _ _ _ same => Change.arraySeparators.inj same
  have objects := finite.preimage (f := Change.objectSeparators)
    fun _ _ _ _ same => Change.objectSeparators.inj same
  obtain ⟨separators, unwritten⟩ := (arrays.union objects).exists_notMem
  obtain ⟨index, unnumbered⟩ := (finite.preimage (f := Change.index)
    fun _ _ _ _ same => Change.index.inj same).exists_notMem
  refine ⟨separators, index, fun change member => ?_⟩
  cases change with
  | arraySeparators written => exact fun same => unwritten (Or.inl (same ▸ member))
  | objectSeparators written => exact fun same => unwritten (Or.inr (same ▸ member))
  | index number => exact fun same => unnumbered (same ▸ member)
  | _ => trivial

theorem aim?_tag_bare : aim? ⟨"tag", none⟩ = none := by
  decide +kernel

theorem about_tag_of_aim? {token : Token} {tag : String} (aimed : aim? token = some (.tag tag)) :
    About "tag" (some (.tag tag)) := by
  unfold aim? at aimed
  split at aimed
  case h_10 =>
    cases aimed
    exact ⟨some "client", by decide +kernel⟩
  case h_11 =>
    cases aimed
    exact ⟨some "server", by decide +kernel⟩
  case h_12 => exact ⟨token.parameter, aimed⟩
  all_goals cases aimed

/-- Of what tokens can be about, no more can be seen than one attribute that the word can be about
too. -/
def OnlyShows (word : String) (separators : List String) (index : Nat) (after : Subject) : Prop :=
  ∃ aim, About word aim ∧ ∀ token seen, aim? token = some seen →
    Shows separators index after seen → aim = some seen

theorem onlyShows_of_elsewhere
    (about : About word (some aim))
    (elsewhere : ∀ seen, seen ≠ aim → Shows separators index after seen →
      Shows separators index (plainSubject separators index) seen) :
    OnlyShows word separators index after := by
  refine ⟨some aim, about, fun _ seen _ shown => congrArg some ?_⟩
  by_contra apart
  exact not_shows_plainSubject separators index seen (elsewhere seen (Ne.symm apart) shown)

theorem onlyShows_plainSubject (about : About word none) :
    OnlyShows word separators index (plainSubject separators index) :=
  ⟨none, about, fun _ seen _ shown => absurd shown (not_shows_plainSubject separators index seen)⟩

theorem onlyShows_of_confined
    (unmarking : word ∉ markingWords)
    (confined : Confined word (plainSubject separators index) after) :
    OnlyShows word separators index after := by
  rcases unmarking_cases unmarking with rfl | rfl | rfl | rfl | ⟨aboutNothing, unchanged⟩
  · obtain ⟨sameTable, written, changed⟩ := confined
    obtain rfl : after = ⟨_, _⟩ := congr (congrArg Subject.mk sameTable) changed
    refine onlyShows_of_elsewhere ⟨none, rfl⟩ fun seen apart shown => ?_
    cases seen <;> first | exact absurd rfl apart | exact shown
  · obtain ⟨sameTable, written, changed⟩ := confined
    obtain rfl : after = ⟨_, _⟩ := congr (congrArg Subject.mk sameTable) changed
    refine onlyShows_of_elsewhere ⟨none, rfl⟩ fun seen apart shown => ?_
    cases seen <;> first | exact absurd rfl apart | exact shown
  · obtain ⟨sameTable, sameField | ⟨tag, added⟩⟩ := confined
    · obtain rfl : after = ⟨_, _⟩ := congr (congrArg Subject.mk sameTable) sameField
      exact onlyShows_plainSubject ⟨none, aim?_tag_bare⟩
    · obtain rfl : after = ⟨_, _⟩ := congr (congrArg Subject.mk sameTable) added
      have elsewhere : ∀ seen, seen ≠ .tag tag →
          Shows separators index ((Change.tag tag).apply (plainSubject separators index)) seen →
          Shows separators index (plainSubject separators index) seen := by
        intro seen apart shown
        cases seen with
        | tag other => exact absurd (congrArg Aim.tag (List.mem_singleton.mp shown)) apart
        | _ => exact shown
      -- A tag that no parameter can name is not what any token is about.
      by_cases about : About "tag" (some (.tag tag))
      · exact onlyShows_of_elsewhere about elsewhere
      · refine ⟨none, ⟨none, aim?_tag_bare⟩, fun token seen aimed shown => ?_⟩
        have apart : seen ≠ .tag tag := fun same => about (about_tag_of_aim? (same ▸ aimed))
        exact absurd (elsewhere seen apart shown) (not_shows_plainSubject separators index seen)
  · obtain ⟨sameTable, written, changed⟩ := confined
    obtain rfl : after = ⟨_, _⟩ := congr (congrArg Subject.mk sameTable) changed
    refine onlyShows_of_elsewhere ⟨none, rfl⟩ fun seen apart shown => ?_
    cases seen <;> first | exact absurd rfl apart | exact shown
  · obtain rfl := unchanged confined
    exact onlyShows_plainSubject ⟨none, aboutNothing none⟩

end Visible

/-! ## Text between parentheses -/

section Cells

variable {parameter : String}

theorem tokens_enclosed
    (isWord : IsWord word.toList) (unclosed : ')' ∉ parameter.toList)
    (oneLine : '\n' ∉ parameter.toList) :
    tokens (word ++ "(" ++ parameter ++ ")") = [⟨leadingWord word.toList, some parameter⟩] := by
  have shape : (word ++ "(" ++ parameter ++ ")").toList =
      word.toList ++ '(' :: (parameter.toList ++ [')']) := by
    simp
  rw [tokens_eq, shape, tokensIn_enclosed isWord unclosed oneLine, String.ofList_toList]
  rfl

theorem tokens_broken
    (isWord : IsWord word.toList) (unclosed : ')' ∉ parameter.toList)
    (broken : '\n' ∈ parameter.toList) :
    tokens (word ++ "(" ++ parameter ++ ")") =
      ⟨leadingWord word.toList, none⟩ :: tokens (parameter ++ ")") := by
  have shape : (word ++ "(" ++ parameter ++ ")").toList =
      word.toList ++ '(' :: (parameter.toList ++ [')']) := by
    simp
  rw [tokens_eq, tokens_eq, shape, tokensIn_broken isWord unclosed broken, String.toList_append]
  rfl

/-- What a word without a parameter is about is nothing, or all that it can be about. -/
theorem aim?_bare {aim : Option Aim} (unmarking : word ∉ markingWords) (about : About word aim) :
    aim? ⟨word, none⟩ = none ∨ aim? ⟨word, none⟩ = aim := by
  rcases unmarking_cases unmarking with rfl | rfl | rfl | rfl | ⟨aboutNothing, -⟩
  · obtain ⟨_, rfl⟩ := about
    exact Or.inr rfl
  · obtain ⟨_, rfl⟩ := about
    exact Or.inr rfl
  · exact Or.inl aim?_tag_bare
  · obtain ⟨_, rfl⟩ := about
    exact Or.inr rfl
  · exact Or.inl (aboutNothing none)

/-- A token that fails wherever it stands. -/
def Unusable (token : Token) : Prop :=
  ∀ subject, ∃ failure, applyToken subject token = .error failure

/-- A field without a type takes any default, so a token that fails there is an index that is no
number. -/
theorem unusable_of_untyped
    {subject : Subject} {token : Token} {failure : Failure} (untyped : subject.field.type = none)
    (failed : changeOf subject token = .error failure) : Unusable token := by
  have failsEverywhere : ∀ other, ∃ failure, changeOf other token = .error failure := by
    intro other
    unfold changeOf at failed ⊢
    cases aimed : aim? token with
    | none =>
        rw [aimed] at failed
        cases failed
    | some aim =>
        rw [aimed] at failed
        cases aim with
        | index =>
            unfold Aim.change indexValue at failed ⊢
            cases read : Number.readNatBelow? (Number.powerOfTwo 64)
                (trim (token.parameter.getD "")) with
            | none => exact ⟨_, rfl⟩
            | some number =>
                rw [read] at failed
                cases failed
        | default =>
            simp only [Aim.change, defaultValue, primitive?, untyped] at failed
            split at failed <;> cases failed
        | _ => cases failed
  intro other
  obtain ⟨failure, failedThere⟩ := failsEverywhere other
  exact ⟨failure, by rw [applyToken_eq, failedThere]; rfl⟩

theorem usable_bare (unmarking : word ∉ markingWords) : ¬ Unusable ⟨word, none⟩ := by
  intro unusable
  obtain ⟨failure, failed⟩ := unusable (plainSubject [] 0)
  rcases unmarking_cases unmarking with rfl | rfl | rfl | rfl | ⟨aboutNothing, -⟩
  · cases failed
  · cases failed
  · cases failed
  · cases failed
  · rw [applyToken_eq, changeOf, aboutNothing none] at failed
    cases failed

/-- Usable tokens succeed together on some plain subject, and all they are about can be seen
there. -/
theorem exists_revealing {tokens : List Token} (usable : ∀ token ∈ tokens, ¬ Unusable token) :
    ∃ separators index after, applyTokens (plainSubject separators index) tokens = (after, none) ∧
      ∀ token ∈ tokens, ∀ aim, aim? token = some aim → Shows separators index after aim := by
  have unfailing : Outcome.FailsOnly (fun _ => False)
      (tokens.mapM (changeOf (plainSubject [] 0))) :=
    Outcome.failsOnly_mapM fun token member failure failed =>
      usable token member (unusable_of_untyped rfl failed)
  obtain ⟨changes, ran⟩ : ∃ changes, tokens.mapM (changeOf (plainSubject [] 0)) = .ok changes := by
    cases ran : tokens.mapM (changeOf (plainSubject [] 0)) with
    | ok changes => exact ⟨changes, rfl⟩
    | error failure => exact (unfailing failure ran).elim
  obtain ⟨separators, index, fresh⟩ := exists_fresh changes
  have sameChanges : changeOf (plainSubject separators index) = changeOf (plainSubject [] 0) := by
    funext token
    refine changeOf_congr ?_ ?_ ?_ token <;> rfl
  rw [← sameChanges] at ran
  refine ⟨separators, index, applyAll (plainSubject separators index) changes,
    applyTokens_eq_iff.mpr ⟨changes, ran, rfl⟩, fun token member aim aimed => ?_⟩
  obtain ⟨change, inChanges, given⟩ := (exists_of_mapM_changeOf ran).1 token member
  exact shows_applyAll fresh (Or.inr ⟨change, inChanges, aim?_of_changeOf given ▸ aimed⟩)

/-- Tokens about one attribute that a word can be about stay within what is the word's. -/
theorem confined_applyTokens
    {tokens : List Token} {aim : Option Aim} (unmarking : word ∉ markingWords)
    (about : About word aim) (same : ∀ token ∈ tokens, aim? token = none ∨ aim? token = aim)
    (applied : applyTokens before tokens = (after, none)) : Confined word before after := by
  obtain ⟨changes, ran, rfl⟩ := applyTokens_eq_iff.mp applied
  refine confined_applyAll unmarking about fun change inChanges => ?_
  obtain ⟨token, member, given⟩ := (exists_of_mapM_changeOf ran).2 change inChanges
  rw [aim?_of_changeOf given]
  exact same token member

theorem usable_of_applyTokens
    {tokens : List Token} (applied : applyTokens before tokens = (after, none)) :
    ∀ token ∈ tokens, ¬ Unusable token := by
  obtain ⟨changes, ran, -⟩ := applyTokens_eq_iff.mp applied
  intro token member unusable
  obtain ⟨change, -, given⟩ := (exists_of_mapM_changeOf ran).1 token member
  obtain ⟨failure, failed⟩ := unusable before
  rw [applyToken_eq, given] at failed
  cases failed

/-- What a parameter says stays within its parentheses exactly if it is on one line, or what is read
from its lines always fails or is about nothing else than the word. -/
theorem parameter_confined_iff
    (isWord : IsWord word.toList) (unmarking : leadingWord word.toList ∉ markingWords)
    (unclosed : ')' ∉ parameter.toList) :
    (∀ before after, applyCell before (word ++ "(" ++ parameter ++ ")") = (after, none) →
        Confined (leadingWord word.toList) before after) ↔
      '\n' ∉ parameter.toList ∨
        (∃ token ∈ tokens (parameter ++ ")"), Unusable token) ∨
        ∃ aim, About (leadingWord word.toList) aim ∧
          ∀ token ∈ tokens (parameter ++ ")"), aim? token = none ∨ aim? token = aim := by
  constructor
  · intro confined
    by_cases oneLine : '\n' ∉ parameter.toList
    · exact Or.inl oneLine
    · have read := tokens_broken isWord unclosed (not_not.mp oneLine)
      by_cases unusable : ∃ token ∈ tokens (parameter ++ ")"), Unusable token
      · exact Or.inr (Or.inl unusable)
      · have usable : ∀ token ∈ tokens (word ++ "(" ++ parameter ++ ")"), ¬ Unusable token := by
          rw [read, List.forall_mem_cons]
          exact ⟨usable_bare unmarking, fun token member fails => unusable ⟨token, member, fails⟩⟩
        obtain ⟨separators, index, after, applied, shown⟩ := exists_revealing usable
        obtain ⟨aim, about, known⟩ := onlyShows_of_confined unmarking (confined _ after applied)
        refine Or.inr (Or.inr ⟨aim, about, fun token member => ?_⟩)
        cases aimed : aim? token with
        | none => exact Or.inl rfl
        | some seen =>
            have inCell : token ∈ tokens (word ++ "(" ++ parameter ++ ")") :=
              read ▸ List.mem_cons_of_mem _ member
            exact Or.inr (known token seen aimed (shown token inCell seen aimed)).symm
  · intro condition before after applied
    by_cases oneLine : '\n' ∉ parameter.toList
    · rw [applyCell, tokens_enclosed isWord unclosed oneLine] at applied
      refine confined_applyTokens unmarking ⟨some parameter, rfl⟩ (fun token member => ?_) applied
      rw [List.mem_singleton.mp member]
      exact Or.inr rfl
    · rw [applyCell, tokens_broken isWord unclosed (not_not.mp oneLine)] at applied
      rcases condition.resolve_left oneLine with ⟨token, member, unusable⟩ | ⟨aim, about, same⟩
      · exact absurd unusable (usable_of_applyTokens applied token (List.mem_cons_of_mem _ member))
      · refine confined_applyTokens unmarking about ?_ applied
        rw [List.forall_mem_cons]
        exact ⟨aim?_bare unmarking about, same⟩

theorem parameter_confined_iff_sword :
    '\n' ∈ "iron\nsword".toList ∧
      ∀ before after, applyCell before ("$Default" ++ "(" ++ "iron\nsword" ++ ")") = (after, none) →
        Confined "default" before after := by
  have isWord : IsWord "$Default".toList :=
    ⟨by decide, List.all_eq_true.mp (by decide)⟩
  have named : leadingWord "$Default".toList = "default" := by decide +kernel
  have unmarking : leadingWord "$Default".toList ∉ markingWords := by
    rw [named]
    decide
  have unclosed : ')' ∉ "iron\nsword".toList := by decide
  refine ⟨by decide, ?_⟩
  have confined := (parameter_confined_iff isWord unmarking unclosed).mpr
    (.inr (.inr ⟨some .default, ⟨none, by decide +kernel⟩, by decide +kernel⟩))
  rwa [named] at confined

/-- The text of a default that takes two lines makes the field a key. -/
theorem key_set_within_default :
    ∃ after, applyCell (plainSubject [] 0) ("default" ++ "(" ++ "iron\nkey sword" ++ ")") =
        (after, none) ∧
      (plainSubject [] 0).field.isKey = false ∧ after.field.isKey = true ∧
      ¬ Confined "default" (plainSubject [] 0) after := by
  have shown : ((applyCell (plainSubject [] 0) ("default" ++ "(" ++ "iron\nkey sword" ++ ")")).2,
      (applyCell (plainSubject [] 0)
        ("default" ++ "(" ++ "iron\nkey sword" ++ ")")).1.field.isKey) = (none, true) := by
    decide +kernel
  generalize applyCell (plainSubject [] 0) ("default" ++ "(" ++ "iron\nkey sword" ++ ")") =
    ended at shown ⊢
  obtain ⟨after, failure⟩ := ended
  obtain ⟨rfl, keyed⟩ := Prod.mk.inj shown
  refine ⟨after, rfl, rfl, keyed, ?_⟩
  rintro ⟨-, value, changed⟩
  rw [changed] at keyed
  exact Bool.false_ne_true keyed

end Cells

end TypedTables.Keyword
