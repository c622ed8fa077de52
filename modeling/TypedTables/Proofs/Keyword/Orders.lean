import TypedTables.Proofs.Keyword.Changes
import TypedTables.Proofs.Keyword.Printing

/-!
# Orders of keywords

The order of the words in a cell does not matter, unless one of them overwrites what another of the
same kind has written.
-/

namespace TypedTables.Keyword

open TypedTables.Text

/-- The words that overwrite what was there. -/
def overwritingWords : List String := ["index", "default", "arr_sep", "obj_sep"]

/-- Tokens of which no two overwrite the same. -/
def WritesOnce (tokens : List Token) : Prop :=
  ∀ word ∈ overwritingWords, tokens.countP (fun token => lowercase token.word == word) ≤ 1

theorem eq_of_countP
    {α : Type} {holds : α → Bool} {items : List α} (once : items.countP holds ≤ 1) {item other : α}
    (member : item ∈ items) (otherMember : other ∈ items) (itemHolds : holds item = true)
    (otherHolds : holds other = true) : item = other := by
  rw [List.countP_eq_length_filter] at once
  have kept : item ∈ items.filter holds := List.mem_filter.mpr ⟨member, itemHolds⟩
  have otherKept : other ∈ items.filter holds := List.mem_filter.mpr ⟨otherMember, otherHolds⟩
  rcases shape : items.filter holds with _ | ⟨only, _ | ⟨second, rest⟩⟩
  · rw [shape] at kept
    cases kept
  · rw [shape, List.mem_singleton] at kept otherKept
    rw [kept, otherKept]
  · rw [shape, List.length_cons, List.length_cons] at once
    omega

theorem mem_overwritingWords
    {aim : Aim} {word : String} (overwritten : aim.overwriter? = some word) :
    word ∈ overwritingWords := by
  cases aim <;> cases overwritten <;> decide

/-- Two tokens that change the same attribute make the same change, unless they overwrite it. -/
theorem eq_of_changeOf
    {tokens : List Token}
    (once : ∀ word ∈ overwritingWords, tokens.countP (fun token => token.word == word) ≤ 1)
    {subject : Subject} {token other : Token} (member : token ∈ tokens)
    (otherMember : other ∈ tokens) {change otherChange : Change}
    (given : changeOf subject token = .ok change)
    (otherGiven : changeOf subject other = .ok otherChange)
    (same : change.aim? = otherChange.aim?) : change = otherChange := by
  by_cases overwritten : ∃ aim word, change.aim? = some aim ∧ aim.overwriter? = some word
  · obtain ⟨aim, word, aimed, overwritten⟩ := overwritten
    have named : token.word = word :=
      word_of_overwriter? (aim?_of_changeOf given ▸ aimed) overwritten
    have otherNamed : other.word = word :=
      word_of_overwriter? (aim?_of_changeOf otherGiven ▸ same ▸ aimed) overwritten
    have sameToken : token = other :=
      eq_of_countP (once word (mem_overwritingWords overwritten)) member otherMember
        (beq_of_eq named) (beq_of_eq otherNamed)
    rw [sameToken, otherGiven] at given
    cases given
    rfl
  · refine Change.eq_of_aim? same fun aim aimed => ?_
    rw [Option.eq_none_iff_forall_ne_some]
    exact fun word named => overwritten ⟨aim, word, aimed, named⟩

theorem applyTokens_of_perm
    {left right : List Token} (permuted : left.Perm right)
    (once : ∀ word ∈ overwritingWords, left.countP (fun token => token.word == word) ≤ 1)
    {subject after : Subject} (applied : applyTokens subject left = (after, none)) :
    applyTokens subject right = (after, none) := by
  obtain ⟨changes, ran, rfl⟩ := applyTokens_eq_iff.mp applied
  obtain ⟨others, otherRan, rearranged⟩ :=
    List.perm_comp_forall₂ permuted.symm (Outcome.mapM_eq_ok_iff.mp ran)
  refine applyTokens_eq_iff.mpr ⟨others, Outcome.mapM_eq_ok_iff.mpr otherRan, ?_⟩
  have known := (exists_of_mapM_changeOf ran).2
  have commute : ∀ change ∈ changes, ∀ other ∈ changes, ∀ state : Subject,
      other.apply (change.apply state) = change.apply (other.apply state) := by
    intro change inChanges other otherInChanges state
    by_cases apart : change.aim? = other.aim?
    · obtain ⟨token, member, given⟩ := known change inChanges
      obtain ⟨otherToken, otherMember, otherGiven⟩ := known other otherInChanges
      rw [eq_of_changeOf once member otherMember given otherGiven apart]
    · exact Change.apply_comm apart state
  exact (rearranged.symm.foldl_eq' commute subject).symm

/-- The order in which tokens are printed does not matter: both cells fail, or both come to the
same table and field. -/
theorem applyCell_of_perm
    {left right : List Token} {leftCell rightCell : String}
    (legible : ∀ token ∈ left, Legible token) (once : WritesOnce left)
    (permuted : left.Perm right) (leftPrinted : Prints left leftCell)
    (rightPrinted : Prints right rightCell) (subject : Subject) :
    (∃ after, applyCell subject leftCell = (after, none) ∧
        applyCell subject rightCell = (after, none)) ∨
      ((applyCell subject leftCell).2 ≠ none ∧ (applyCell subject rightCell).2 ≠ none) := by
  have rightLegible : ∀ token ∈ right, Legible token :=
    fun token member => legible token (permuted.mem_iff.mpr member)
  have readPermuted : (tokens leftCell).Perm (tokens rightCell) := by
    rw [tokens_of_prints legible leftPrinted, tokens_of_prints rightLegible rightPrinted]
    exact permuted.map lowered
  have readOnce : ∀ word ∈ overwritingWords,
      (tokens leftCell).countP (fun token => token.word == word) ≤ 1 := by
    intro word member
    rw [tokens_of_prints legible leftPrinted, List.countP_map]
    exact once word member
  have readOnceRight : ∀ word ∈ overwritingWords,
      (tokens rightCell).countP (fun token => token.word == word) ≤ 1 := by
    intro word member
    rw [← readPermuted.countP_eq]
    exact readOnce word member
  cases leftEnd : applyCell subject leftCell with
  | mk after failure =>
      cases failure with
      | none => exact Or.inl ⟨after, rfl, applyTokens_of_perm readPermuted readOnce leftEnd⟩
      | some failure =>
          refine Or.inr ⟨by simp, fun succeeded => ?_⟩
          have rightEnd : applyCell subject rightCell = (_, none) := Prod.ext rfl succeeded
          have leftSucceeded : applyCell subject leftCell = (_, none) :=
            applyTokens_of_perm readPermuted.symm readOnceRight rightEnd
          rw [leftEnd] at leftSucceeded
          cases leftSucceeded

/-- A table and a field of a primitive type. -/
def speedSubject : Subject :=
  ⟨.named "Unit" .empty, { name := "Speed", type := some (.primitive .int32), column := 2 }⟩

def speedTokens : List Token := [
  ⟨"tag", some "Fast"⟩, ⟨"nodata", none⟩, ⟨"default", some "7"⟩, ⟨"index", some " 2 "⟩,
  ⟨"tag", some "air"⟩]

theorem applyCell_of_perm_speed :
    ∃ after, applyCell speedSubject "tag(Fast) nodata $Default(7)\nindex( 2 ) tag(air)" =
        (after, none) ∧
      applyCell speedSubject "$TAG(air)\tINDEX( 2 )  default(7)\u2003nodata $tag(Fast)" =
        (after, none) ∧
      after.field.index = 2 ∧ after.field.tags = ["air", "fast"] := by
  have legible : ∀ token ∈ speedTokens, Legible token := by
    intro token member
    simp only [speedTokens, List.mem_cons, List.not_mem_nil, or_false] at member
    rcases member with rfl | rfl | rfl | rfl | rfl <;>
      exact ⟨by decide, by decide, by decide, by decide, by simp⟩
  have once : WritesOnce speedTokens := by
    unfold WritesOnce
    decide +kernel
  have printed : Prints speedTokens ("tag(Fast)" ++ " " ++ ("nodata" ++ " " ++
      ("$Default(7)" ++ "\n" ++ ("index( 2 )" ++ " " ++ "tag(air)")))) :=
    .cons ⟨"", "tag", by simp, rfl, rfl⟩ (by decide) (by decide) <|
      .cons ⟨"", "nodata", by simp, rfl, rfl⟩ (by decide) (by decide) <|
      .cons ⟨"$", "Default", by simp, by decide +kernel, rfl⟩ (by decide) (by decide) <|
      .cons ⟨"", "index", by simp, rfl, rfl⟩ (by decide) (by decide) <|
      .last ⟨"", "tag", by simp, rfl, rfl⟩
  have reversed : Prints speedTokens.reverse ("$TAG(air)" ++ "\t" ++ ("INDEX( 2 )" ++ "  " ++
      ("default(7)" ++ "\u2003" ++ ("nodata" ++ " " ++ "$tag(Fast)")))) :=
    .cons ⟨"$", "TAG", by simp, by decide +kernel, rfl⟩ (by decide) (by decide) <|
      .cons ⟨"", "INDEX", by simp, by decide +kernel, rfl⟩ (by decide) (by decide) <|
      .cons ⟨"", "default", by simp, rfl, rfl⟩ (by decide) (by decide) <|
      .cons ⟨"", "nodata", by simp, rfl, rfl⟩ (by decide) (by decide) <|
      .last ⟨"$", "tag", by simp, rfl, rfl⟩
  have shown : ((applyCell speedSubject "tag(Fast) nodata $Default(7)\nindex( 2 ) tag(air)").2,
      (applyCell speedSubject "tag(Fast) nodata $Default(7)\nindex( 2 ) tag(air)").1.field.index,
      (applyCell speedSubject "tag(Fast) nodata $Default(7)\nindex( 2 ) tag(air)").1.field.tags) =
        (none, 2, ["air", "fast"]) := by
    decide +kernel
  obtain ⟨succeeded, others⟩ := Prod.mk.inj shown
  obtain ⟨index, tags⟩ := Prod.mk.inj others
  rcases applyCell_of_perm legible once speedTokens.reverse_perm.symm printed reversed
    speedSubject with ⟨after, left, right⟩ | ⟨failed, -⟩
  · refine ⟨after, left, right, ?_⟩
    have same : (applyCell speedSubject
        "tag(Fast) nodata $Default(7)\nindex( 2 ) tag(air)").1 = after :=
      congrArg Prod.fst left
    rw [same] at index tags
    exact ⟨index, tags⟩
  · exact absurd succeeded failed

end TypedTables.Keyword
