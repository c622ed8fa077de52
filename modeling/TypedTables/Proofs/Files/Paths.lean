import TypedTables.Files.Update
import TypedTables.Proofs.Text.Pieces

/-!
# Where paths lead

A name inside a directory leads one step on from where the directory is, and its parent leads back
to the directory, whether or not the directory's path ends with a slash.
-/

namespace TypedTables.Files

open TypedTables.Text

/-- A name that leads one step on. -/
structure LeadsOn (name : String) : Prop where
  nonempty : name ≠ ""
  moves : name ≠ "."
  forward : name ≠ ".."

/-- A name of one file or folder. -/
structure IsName (name : String) : Prop extends LeadsOn name where
  whole : '/' ∉ name.toList

theorem slash_toList : "/".toList = ['/'] := by
  decide

/-- A name that is longer than two characters leads on. -/
theorem leadsOn_of_long {name : String} (long : 2 < name.length) : LeadsOn name where
  nonempty := by
    rintro rfl
    simp at long
  moves := by
    rintro rfl
    revert long
    decide
  forward := by
    rintro rfl
    revert long
    decide

theorem isName_append
    {front ending : String} (whole : '/' ∉ front.toList) (endingWhole : '/' ∉ ending.toList)
    (long : 2 < ending.length) : IsName (front ++ ending) where
  toLeadsOn := by
    apply leadsOn_of_long
    rw [String.length_append]
    omega
  whole := by
    rw [String.toList_append, List.mem_append, not_or]
    exact ⟨whole, endingWhole⟩

theorem startsWith_of_isName {name : String} (isName : IsName name) :
    name.startsWith "/" = false := by
  rw [Bool.eq_false_iff, ne_eq, String.startsWith_string_iff, slash_toList]
  rintro ⟨rest, shape⟩
  exact isName.whole (shape ▸ by simp)

theorem filter_leadsOn {name : String} (leadsOn : LeadsOn name) :
    [name].filter (fun name => !name.isEmpty && name != ".") = [name] := by
  simp [leadsOn.nonempty, leadsOn.moves]

theorem advance_leadsOn {name : String} (leadsOn : LeadsOn name) (location : Location) :
    advance location name = location ++ [name] := by
  have different : (name == "..") = false := by simpa using leadsOn.forward
  rw [advance, different]
  rfl

section Locations

variable {store : Store} {directory front name : String}

/-! ## Components -/

theorem components_append (front last : String) :
    components (front ++ "/" ++ last) = components front ++ components last := by
  unfold components
  rw [split_append slash_toList, List.filter_append]

theorem components_slash (front : String) : components (front ++ "/") = components front := by
  have bare := components_append front ""
  rw [String.append_empty] at bare
  rw [bare]
  simp [components, split, piecesAt]

theorem components_name (isName : IsName name) : components name = [name] := by
  unfold components
  rw [split_of_not_mem slash_toList isName.whole, filter_leadsOn isName.toLeadsOn]

/-! ## Locations -/

theorem startsWith_slash_append (front last : String) :
    (front ++ "/" ++ last).startsWith "/" = (front ++ "/").startsWith "/" := by
  rw [Bool.eq_iff_iff, String.startsWith_string_iff, String.startsWith_string_iff]
  cases shape : front.toList <;> simp [shape, slash_toList]

theorem locate_slash_name (isName : IsName name) :
    store.locate (front ++ "/" ++ name) = store.locate (front ++ "/") ++ [name] := by
  unfold Store.locate
  rw [startsWith_slash_append, components_append, components_name isName, components_slash,
    List.foldl_append, List.foldl_cons, List.foldl_nil, advance_leadsOn isName.toLeadsOn]

theorem locate_slash (nonempty : front ≠ "") :
    store.locate (front ++ "/") = store.locate front := by
  have sameStart : (front ++ "/").startsWith "/" = front.startsWith "/" := by
    rw [Bool.eq_iff_iff, String.startsWith_string_iff, String.startsWith_string_iff]
    cases shape : front.toList with
    | nil => exact absurd (String.toList_eq_nil_iff.mp shape) nonempty
    | cons c rest => simp [shape, slash_toList]
  unfold Store.locate
  rw [components_slash, sameStart]

/-! ## Names inside directories -/

/-- A name inside a directory stands behind a slash, unless the directory is the working folder. -/
theorem join_cases (isName : IsName name) (directory : String) :
    directory = "" ∧ join directory name = name ∨
      ∃ front, join directory name = front ++ "/" ++ name ∧
        ∀ store : Store, store.locate (front ++ "/") = store.locate directory := by
  unfold join
  rw [startsWith_of_isName isName, Bool.false_or]
  by_cases empty : directory = ""
  · left
    rw [empty]
    exact ⟨rfl, rfl⟩
  · right
    rw [if_neg (by simpa using empty)]
    by_cases ends : directory.endsWith "/" = true
    · have suffix : ['/'] <:+ directory.toList := by
        rw [String.endsWith_eq_endsWith_toSlice, String.Slice.endsWith_string_iff] at ends
        simpa [slash_toList] using ends
      obtain ⟨front, shape⟩ := suffix
      have written : directory = String.ofList front ++ "/" := by
        apply String.toList_injective
        rw [String.toList_append, String.toList_ofList, slash_toList, shape]
      rw [if_pos ends]
      exact ⟨String.ofList front, by rw [← written], fun _ => by rw [← written]⟩
    · rw [if_neg ends]
      exact ⟨directory, rfl, fun _ => locate_slash empty⟩

theorem locate_empty : store.locate "" = store.working := by
  have start : "".startsWith "/" = false := by
    rw [Bool.eq_false_iff, ne_eq, String.startsWith_string_iff, slash_toList]
    simp
  have none : components "" = [] := by
    simp [components, split, piecesAt]
  rw [Store.locate, start, none]
  rfl

theorem locate_join (isName : IsName name) :
    store.locate (join directory name) = store.locate directory ++ [name] := by
  rcases join_cases isName directory with ⟨rfl, same⟩ | ⟨front, shape, leads⟩
  · rw [same, locate_empty, Store.locate, startsWith_of_isName isName, components_name isName,
      List.foldl_cons, List.foldl_nil, advance_leadsOn isName.toLeadsOn]
    rfl
  · rw [shape, locate_slash_name isName, leads]

theorem locate_parent_join (isName : IsName name) :
    store.locate (parent (join directory name)) = store.locate directory := by
  rcases join_cases isName directory with ⟨rfl, same⟩ | ⟨front, shape, leads⟩
  · have bare : parent name = "" := by
      unfold parent
      rw [split_of_not_mem slash_toList isName.whole]
      rfl
    rw [same, bare]
  · rw [shape, ← leads]
    unfold parent
    rw [split_append slash_toList, split_of_not_mem slash_toList isName.whole, List.dropLast_concat]
    by_cases top : front = ""
    · have alone : (split "/" front == [""]) = true := by
        rw [top]
        simp [split, piecesAt]
      rw [if_pos alone, top]
      rfl
    · have further : ¬ (split "/" front == [""]) = true := by
        intro alone
        have joined := intercalate_split slash_toList front
        rw [eq_of_beq alone, String.intercalate_singleton] at joined
        exact top joined.symm
      rw [if_neg further, intercalate_split slash_toList, locate_slash top]

/-- A path with an ending leads to a name with the ending. -/
theorem locate_append
    {ending : String} (whole : '/' ∉ ending.toList) (long : 2 < ending.length) (store : Store)
    (path : String) :
    ∃ folder stem, store.locate (path ++ ending) = folder ++ [stem ++ ending] := by
  obtain ⟨initial, stem, shape⟩ := split_append_of_not_mem slash_toList whole path
  have leadsOn : LeadsOn (stem ++ ending) := by
    apply leadsOn_of_long
    rw [String.length_append]
    omega
  unfold Store.locate components
  rw [shape, List.filter_append, filter_leadsOn leadsOn, List.foldl_append, List.foldl_cons,
    List.foldl_nil, advance_leadsOn leadsOn]
  exact ⟨_, stem, rfl⟩

end Locations

end TypedTables.Files
