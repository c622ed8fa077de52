import Mathlib.Data.Finset.Card
import TypedTables.Proofs.Binding.Catalogs

/-!
# Kept members

The members of a type are collected when they are first asked for and kept under its full name.
Where a full name stands for one type, every answer is what collecting anew would give.
-/

namespace TypedTables.Binding

open TypedTables.Schema TypedTables.Manifest TypedTables.Convert

variable {providers : List Provider} {descriptor : Descriptor} {members : Members}

/-! ## Collecting anew -/

/-- A member that a column can be written to: it is declared, it is public or has a name of its
own, and it can be both read and written. -/
def Eligible (member : Member) : Prop :=
  member.synthesized = false ∧ (member.isPrivate = true → member.rename.isSome = true) ∧
    ∀ readable writable, member.access = .property readable writable →
      readable = true ∧ writable = true

theorem isReachable_iff {member : Member} : isReachable member = true ↔ Eligible member := by
  unfold isReachable Eligible
  cases member.access <;> cases member.rename <;> simp [and_assoc]

instance : DecidablePred Eligible := fun _ => decidable_of_iff _ isReachable_iff

/-- The members of a type that columns can be written to, in order of declaration. -/
def eligibleMembers (descriptor : Descriptor) : List Member :=
  descriptor.members.filter (Eligible ·)

/-- Eligible members by the name that a column has for them. -/
structure Declares (descriptor : Descriptor) (declared : Members) : Prop where
  /-- Each name is once there, at the place of its first member. -/
  names : entryKeys declared = ((eligibleMembers descriptor).map (·.bindingName)).eraseDups
  /-- Each name stands for its last member. -/
  lasts : ∀ name, entryValue? name declared =
    ((eligibleMembers descriptor).filter (·.bindingName = name)).getLast?.map bind

/-- The eligible members of a type, changed by the providers one after another. -/
def CollectedAnew (providers : List Provider) (descriptor : Descriptor) (members : Members) :
    Prop :=
  ∃ declared, Declares descriptor declared ∧
    members = providers.foldl (fun changed provide => provide descriptor changed) declared

theorem declares_declaredMembers (descriptor : Descriptor) :
    Declares descriptor (declaredMembers descriptor) := by
  have eligible : descriptor.members.filter isReachable = eligibleMembers descriptor :=
    List.filter_congr fun member _ => by simp [← isReachable_iff]
  unfold declaredMembers
  rw [eligible]
  exact ⟨entryKeys_foldl_setEntry_nil _, entryValue?_foldl_setEntry_nil _⟩

theorem Declares.unique
    {declared other : Members} (left : Declares descriptor declared)
    (right : Declares descriptor other) : declared = other := by
  refine entries_ext (left.names.trans right.names.symm) ?_ ?_
  · rw [left.names]
    exact nodup_eraseDups _
  · intro name _
    exact (left.lasts name).trans (right.lasts name).symm

theorem collectedAnew_iff :
    CollectedAnew providers descriptor members ↔ membersOf providers descriptor = members := by
  constructor
  · rintro ⟨declared, declares, rfl⟩
    rw [declares.unique (declares_declaredMembers descriptor)]
    rfl
  · rintro rfl
    exact ⟨_, declares_declaredMembers descriptor, rfl⟩

/-! ## What is kept -/

variable {asked : List Descriptor} {cache : MemberCache}

/-- What is kept after types were asked for: under each of their full names, in the order in which
the names came up, the members of the first type that has the name. -/
structure Keeps (providers : List Provider) (asked : List Descriptor) (cache : MemberCache) :
    Prop where
  names : entryKeys cache = (asked.map (·.fullName)).eraseDups
  firsts : ∀ name, entryValue? name cache =
    (asked.find? (·.fullName = name)).map (membersOf providers)

namespace Keeps

theorem nil : Keeps providers [] [] where
  names := rfl
  firsts _ := rfl

theorem mem_names (keeps : Keeps providers asked cache) {name : String} :
    name ∈ entryKeys cache ↔ name ∈ asked.map (·.fullName) := by
  rw [keeps.names, List.mem_eraseDups]

/-- Asking for one more type adds the members of a type whose full name is new, and nothing else. -/
theorem ask (keeps : Keeps providers asked cache) (descriptor : Descriptor) :
    Keeps providers (asked ++ [descriptor]) (cachedMembers providers descriptor cache).2 := by
  cases found : entryValue? descriptor.fullName cache with
  | some members =>
      have known : descriptor.fullName ∈ asked.map (·.fullName) :=
        keeps.mem_names.mp (entryValue?_isSome_iff.mp (by rw [found]; rfl))
      rw [cachedMembers_of_kept found]
      constructor
      · rw [keeps.names, List.map_append, List.map_singleton, eraseDups_concat, if_pos known]
      · intro name
        rw [keeps.firsts, List.find?_append]
        by_cases same : descriptor.fullName = name
        · have before := (keeps.firsts descriptor.fullName).symm.trans found
          obtain ⟨first, isFirst, _⟩ := Option.map_eq_some_iff.mp before
          rw [← same, isFirst]
          rfl
        · simp [same]
  | none =>
      have unknown : descriptor.fullName ∉ entryKeys cache := entryValue?_eq_none_iff.mp found
      rw [cachedMembers_of_new found]
      constructor
      · rw [entryKeys_setEntry, if_neg unknown, keeps.names, List.map_append, List.map_singleton,
          eraseDups_concat, if_neg (mt keeps.mem_names.mpr unknown)]
      · intro name
        rw [List.find?_append]
        by_cases same : descriptor.fullName = name
        · have before := (keeps.firsts descriptor.fullName).symm.trans found
          rw [← same, entryValue?_setEntry_self, Option.map_eq_none_iff.mp before]
          simp
        · rw [entryValue?_setEntry_of_ne same, keeps.firsts]
          simp [same]

theorem length (keeps : Keeps providers asked cache) :
    cache.length = (asked.map (·.fullName)).toFinset.card := by
  have sameNames : (asked.map (·.fullName)).toFinset = (entryKeys cache).toFinset := by
    ext name
    rw [List.mem_toFinset, List.mem_toFinset, keeps.mem_names]
  have once : (entryKeys cache).Nodup := by
    rw [keeps.names]
    exact nodup_eraseDups _
  rw [sameNames, List.toFinset_card_of_nodup once, entryKeys, List.length_map]

end Keeps

theorem collected_concat (asked : List Descriptor) (descriptor : Descriptor) :
    collected providers (asked ++ [descriptor]) =
      (cachedMembers providers descriptor (collected providers asked)).2 := by
  simp [collected]

theorem keeps_collected (providers : List Provider) (asked : List Descriptor) :
    Keeps providers asked (collected providers asked) := by
  induction asked using List.reverseRecOn with
  | nil => exact Keeps.nil
  | append_singleton asked descriptor inductionHypothesis =>
      rw [collected_concat]
      exact inductionHypothesis.ask descriptor

/-- An answer is kept under the full name of the type. -/
theorem entryValue?_cachedMembers (descriptor : Descriptor) (cache : MemberCache) :
    entryValue? descriptor.fullName (cachedMembers providers descriptor cache).2 =
      some (cachedMembers providers descriptor cache).1 := by
  cases found : entryValue? descriptor.fullName cache with
  | some members =>
      rw [cachedMembers_of_kept found]
      exact found
  | none =>
      rw [cachedMembers_of_new found]
      exact entryValue?_setEntry_self _ _ _

/-- Whoever asks gets the members of the first type that was asked for under the full name. -/
theorem exists_first
    (providers : List Provider) (asked : List Descriptor) (descriptor : Descriptor) :
    ∃ first ∈ asked ++ [descriptor], first.fullName = descriptor.fullName ∧
      (cachedMembers providers descriptor (collected providers asked)).1 =
        membersOf providers first := by
  have kept := (keeps_collected providers asked).ask descriptor
  have answered := (kept.firsts descriptor.fullName).symm.trans (entryValue?_cachedMembers _ _)
  obtain ⟨first, found, same⟩ := Option.map_eq_some_iff.mp answered
  exact ⟨first, List.mem_of_find?_eq_some found, by simpa using List.find?_some found, same.symm⟩

/-! ## Transparency -/

/-- Where full names determine the types that are asked for, each answer is the one list of members
that collecting anew gives, and as many types are kept as different full names have come up. -/
theorem cache_transparent
    (providers : List Provider) {descriptors : List Descriptor}
    (determined : ∀ left ∈ descriptors, ∀ right ∈ descriptors,
      left.fullName = right.fullName → left = right)
    {before after : List Descriptor} {descriptor : Descriptor}
    (call : descriptors = before ++ descriptor :: after) :
    let answer := cachedMembers providers descriptor (collected providers before)
    (∀ members, CollectedAnew providers descriptor members ↔ answer.1 = members) ∧
      answer.2.length = ((before ++ [descriptor]).map (·.fullName)).toFinset.card := by
  intro answer
  obtain ⟨first, isAsked, sameName, given⟩ := exists_first providers before descriptor
  have sofar : before ++ [descriptor] ⊆ descriptors := by
    rw [call]
    simp
  have same : first = descriptor :=
    determined first (sofar isAsked) descriptor (sofar (by simp)) sameName
  constructor
  · intro members
    rw [collectedAnew_iff, given, same]
  · exact ((keeps_collected providers before).ask descriptor).length

/-- A type with two members for one name and a member that cannot be reached. -/
def heroType : Descriptor where
  name := "Hero"
  space := some "game"
  table := "Hero"
  kind := .reference
  members := [
    { name := "id", rename := some "Id", type := .primitive .int32 },
    { name := "cache", isPrivate := true, type := .primitive .int32 },
    { name := "title", rename := some "Title", type := .primitive .string },
    { name := "code", rename := some "Id", type := .primitive .string, index := 1 }]

def monsterType : Descriptor where
  name := "Monster"
  space := some "game"
  table := "Monster"
  kind := .reference

/-- Numbers the rows in the place of their titles. -/
def rowNumbers : Provider := fun _ members =>
  setEntry "Row" ⟨"Row", "row", .primitive .uint32, 99⟩ (members.filter (·.1 ≠ "Title"))

/-- Asked for again after another type, a type has its members, the later one of two with one name,
as the provider changes them, and two types are kept. -/
theorem cache_transparent_heroes :
    let descriptors := [heroType, monsterType, heroType]
    let answer :=
      cachedMembers [rowNumbers] heroType (collected [rowNumbers] [heroType, monsterType])
    (∀ left ∈ descriptors, ∀ right ∈ descriptors, left.fullName = right.fullName → left = right) ∧
      descriptors = [heroType, monsterType] ++ heroType :: [] ∧
      CollectedAnew [rowNumbers] heroType answer.1 ∧
      answer.1 = [
        ("Id", ⟨"Id", "code", .primitive .string, 1⟩),
        ("Row", ⟨"Row", "row", .primitive .uint32, 99⟩)] ∧
      answer.2.length = 2 := by
  intro descriptors answer
  have determined : ∀ left ∈ descriptors, ∀ right ∈ descriptors,
      left.fullName = right.fullName → left = right := by decide
  have call : descriptors = [heroType, monsterType] ++ heroType :: [] := rfl
  obtain ⟨transparent, counted⟩ := cache_transparent [rowNumbers] determined call
  exact ⟨determined, call, (transparent _).mpr rfl, by decide, counted.trans (by decide)⟩

end TypedTables.Binding
