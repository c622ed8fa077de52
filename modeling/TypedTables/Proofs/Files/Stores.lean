import Mathlib.Data.List.Sort
import Mathlib.Data.String.Basic
import TypedTables.Files.Store

/-!
# What stores hold after a change

For every change of a store: which content and which folders there are after it, and when it can
be made.
-/

namespace TypedTables.Files

/-! ## Entries -/

instance lawfulBEqByteArray : LawfulBEq ByteArray where
  eq_of_beq same := ByteArray.ext (eq_of_beq same)
  rfl := beq_self_eq_true (ByteArray.data _)

theorem lookup_entry_cons
    (entry : Location × ByteArray) (rest : List (Location × ByteArray)) (other : Location) :
    (entry :: rest).lookup other = if other = entry.1 then some entry.2 else rest.lookup other := by
  obtain ⟨here, content⟩ := entry
  rw [List.lookup_cons]
  by_cases asked : other = here
  · rw [beq_iff_eq.mpr asked, if_pos asked]
  · rw [beq_false_of_ne asked, if_neg asked]

theorem lookup_putContent
    (location other : Location) (content : ByteArray) (files : List (Location × ByteArray)) :
    (putContent location content files).lookup other =
      if other = location then some content else files.lookup other := by
  induction files with
  | nil => rw [putContent, lookup_entry_cons]
  | cons entry rest inductionHypothesis =>
      obtain ⟨here, old⟩ := entry
      by_cases same : here = location
      · rw [putContent, if_pos (by simpa using same), lookup_entry_cons, lookup_entry_cons, same]
        by_cases asked : other = location <;> simp [asked]
      · rw [putContent, if_neg (by simpa using same), lookup_entry_cons, lookup_entry_cons,
          inductionHypothesis]
        by_cases asked : other = location
        · simp [asked, Ne.symm same]
        · simp [asked]

theorem lookup_filter_location
    (keeps : Location → Bool) (other : Location) (files : List (Location × ByteArray)) :
    (files.filter fun entry => keeps entry.1).lookup other =
      if keeps other then files.lookup other else none := by
  induction files with
  | nil => simp
  | cons entry rest inductionHypothesis =>
      rw [List.filter_cons, lookup_entry_cons]
      by_cases kept : keeps entry.1 = true
      · rw [if_pos kept, lookup_entry_cons, inductionHypothesis]
        by_cases asked : other = entry.1 <;> simp [asked, kept]
      · rw [if_neg kept, inductionHypothesis]
        by_cases asked : other = entry.1 <;> simp [asked, kept]

theorem mem_foldersTo {location other : Location} :
    other ∈ foldersTo location ↔ other ≠ [] ∧ other <+: location := by
  unfold foldersTo
  rw [List.mem_map]
  constructor
  · rintro ⟨count, inside, rfl⟩
    rw [List.mem_range] at inside
    refine ⟨?_, List.take_prefix (count + 1) location⟩
    intro empty
    have counted := congrArg List.length empty
    rw [List.length_take, List.length_nil] at counted
    omega
  · rintro ⟨nonempty, isPrefix⟩
    have positive : 0 < other.length := List.length_pos_iff.mpr nonempty
    have bounded : other.length ≤ location.length := isPrefix.length_le
    refine ⟨other.length - 1, List.mem_range.mpr (by omega), ?_⟩
    rw [Nat.sub_add_cancel positive]
    exact (List.prefix_iff_eq_take.mp isPrefix).symm

namespace Store

variable {store later : Store} {location other : Location} {content : ByteArray}

theorem locate_congr (same : later.working = store.working) : later.locate = store.locate := by
  funext path
  rw [locate, locate, same]

/-- No file stands on the way to a location. -/
def Clear (store : Store) (location : Location) : Prop :=
  ∀ folder ∈ foldersTo location, store.content? folder = none

/-- Neither files nor folders are in a folder. -/
def IsEmptyAt (store : Store) (folder : Location) : Prop :=
  ∀ location, folder <+: location → location ≠ folder →
    store.content? location = none ∧ store.hasFolder location = false

theorem hasFile_iff :
    store.hasFile location = true ↔ ∃ content, store.content? location = some content := by
  rw [hasFile, Option.isSome_iff_exists]

/-! ## Files -/

theorem put?_eq_some_iff :
    store.put? location content = some later ↔
      store.hasFolder location = false ∧ store.hasFolder location.dropLast = true ∧
        later = { store with files := putContent location content store.files } := by
  unfold put?
  by_cases free : store.hasFolder location = false <;>
    by_cases inside : store.hasFolder location.dropLast = true <;> simp [free, inside, eq_comm]

theorem put?_eq_none_iff :
    store.put? location content = none ↔
      store.hasFolder location = true ∨ store.hasFolder location.dropLast = false := by
  unfold put?
  by_cases free : store.hasFolder location = false <;>
    by_cases inside : store.hasFolder location.dropLast = true <;> simp [free, inside]

theorem content?_putContent :
    ({ store with files := putContent location content store.files } : Store).content? other =
      if other = location then some content else store.content? other :=
  lookup_putContent location other content store.files

/-! ## Folders -/

theorem makeFolder?_isSome_iff :
    (store.makeFolder? location).isSome ↔ store.Clear location := by
  unfold makeFolder? Clear
  dsimp only
  split
  · next blocked =>
      obtain ⟨folder, needed, isFile⟩ := List.any_eq_true.mp blocked
      simp only [Option.isSome_none, Bool.false_eq_true, false_iff, not_forall]
      refine ⟨folder, needed, ?_⟩
      intro none
      rw [hasFile, none] at isFile
      cases isFile
  · next free =>
      simp only [Option.isSome_some, true_iff]
      intro folder needed
      have noFile : ¬ store.hasFile folder = true :=
        fun isFile => free (List.any_eq_true.mpr ⟨folder, needed, isFile⟩)
      simpa [hasFile] using noFile

theorem working_makeFolder? (made : store.makeFolder? location = some later) :
    later.working = store.working := by
  unfold makeFolder? at made
  dsimp only at made
  split at made
  · cases made
  · cases made
    rfl

theorem content?_makeFolder? (made : store.makeFolder? location = some later) :
    later.content? other = store.content? other := by
  unfold makeFolder? at made
  dsimp only at made
  split at made
  · cases made
  · cases made
    rfl

theorem hasFolder_makeFolder? (made : store.makeFolder? location = some later) :
    later.hasFolder other = true ↔ store.hasFolder other = true ∨ other <+: location := by
  unfold makeFolder? at made
  dsimp only at made
  split at made
  · cases made
  · cases made
    by_cases top : other = []
    · subst top
      simp [hasFolder]
    · have needed : other ∈ foldersTo location ↔ other <+: location := by
        rw [mem_foldersTo]
        exact and_iff_right top
      have shown : other.isEmpty = false := by simpa using top
      simp only [hasFolder, shown, Bool.false_or, List.contains_eq_mem, decide_eq_true_eq,
        List.mem_append, List.mem_filter, needed, Bool.not_eq_true', decide_eq_false_iff_not]
      constructor
      · rintro (old | ⟨new, _⟩)
        · exact Or.inl old
        · exact Or.inr new
      · intro either
        by_cases old : other ∈ store.folders
        · exact Or.inl old
        · exact Or.inr ⟨either.resolve_left old, old⟩

theorem content?_removeFolder :
    (store.removeFolder location).content? other =
      if location <+: other then none else store.content? other := by
  rw [content?, removeFolder, lookup_filter_location (!location.isPrefixOf ·)]
  by_cases inside : location <+: other
  · rw [if_pos inside, List.isPrefixOf_iff_prefix.mpr inside]
    rfl
  · have outside : location.isPrefixOf other = false := by
      rwa [Bool.eq_false_iff, ne_eq, List.isPrefixOf_iff_prefix]
    rw [if_neg inside, outside]
    rfl

/-- Whether the way to a folder is clear does not depend on what is in the folder. -/
theorem clear_removeFolder_iff (free : store.content? location = none) :
    (store.removeFolder location).Clear location ↔ store.Clear location := by
  have same : ∀ folder ∈ foldersTo location,
      (store.removeFolder location).content? folder = store.content? folder := by
    intro folder needed
    rw [content?_removeFolder]
    split
    · next inside =>
        have equal : folder = location :=
          (mem_foldersTo.mp needed).2.eq_of_length_le inside.length_le
        rw [equal, free]
    · rfl
  constructor
  · intro clear folder needed
    rw [← same folder needed]
    exact clear folder needed
  · intro clear folder needed
    rw [same folder needed]
    exact clear folder needed

theorem hasFolder_removeFolder_of_not_prefix (outside : ¬ location <+: other) :
    (store.removeFolder location).hasFolder other = store.hasFolder other := by
  have kept : location.isPrefixOf other = false := by
    rwa [Bool.eq_false_iff, ne_eq, List.isPrefixOf_iff_prefix]
  simp [hasFolder, removeFolder, kept, List.mem_filter]

/-! ## Files of a folder -/

theorem foldl_remove (names : List String) (folder : Location) (store : Store) :
    names.foldl (fun (left : Store) name => left.remove (folder ++ [name])) store =
      { store with
        files := store.files.filter fun entry =>
          !(names.map (folder ++ [·])).contains entry.1 } := by
  induction names generalizing store with
  | nil => simp
  | cons name rest inductionHypothesis =>
      rw [List.foldl_cons, inductionHypothesis, remove]
      dsimp only
      rw [List.filter_filter]
      congr 2
      funext entry
      rw [List.map_cons, List.contains_cons, Bool.not_or, Bool.and_comm]
      rfl

theorem content?_without (locations : List Location) :
    ({ store with
      files := store.files.filter fun entry => !locations.contains entry.1 } : Store).content?
        other = if other ∈ locations then none else store.content? other := by
  rw [content?, lookup_filter_location (!locations.contains ·)]
  by_cases removed : other ∈ locations <;> simp [removed, content?]

theorem mem_fileNames {folder : Location} {name : String} :
    name ∈ store.fileNames folder ↔ store.hasFile (folder ++ [name]) = true := by
  have named : ∀ entry : Location × ByteArray,
      (if entry.1.dropLast == folder then entry.1.getLast? else none) = some name ↔
        entry.1 = folder ++ [name] := by
    intro entry
    constructor
    · intro shape
      split at shape
      · next inside =>
          obtain ⟨front, same⟩ := List.getLast?_eq_some_iff.mp shape
          rw [same, List.dropLast_concat] at inside
          rw [same, eq_of_beq inside]
      · cases shape
    · intro same
      rw [same, List.dropLast_concat, beq_self_eq_true, if_pos rfl, List.getLast?_concat]
  unfold fileNames
  simp only [List.mem_mergeSort, List.mem_filterMap, named]
  rw [hasFile, content?, List.lookup_isSome_iff]
  simp only [beq_iff_eq, @eq_comm _ (folder ++ [name])]

theorem fileNames_eq_insertionSort (store : Store) (folder : Location) :
    store.fileNames folder =
      (store.files.filterMap fun entry =>
        if entry.1.dropLast == folder then entry.1.getLast? else none).insertionSort (· ≤ ·) := by
  have ascending : (fun left right : String => !decide (right < left)) =
      fun left right => decide (left ≤ right) := by
    funext left right
    rw [← decide_not]
    exact decide_eq_decide.mpr not_lt
  unfold fileNames
  dsimp only
  rw [ascending, List.mergeSort_eq_insertionSort]

end Store

end TypedTables.Files
