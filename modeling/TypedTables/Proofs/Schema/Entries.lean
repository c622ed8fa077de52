import Mathlib.Data.List.Induction
import Mathlib.Data.List.Nodup
import TypedTables.Schema.Value

/-!
# Ordered entries

Members of a record, bindings of a scope and positions of a catalog are lists of keys with values.
Setting an entry keeps the order in which the keys were first set, so two lists with the same keys
in the same order agree once they agree at every key.
-/

namespace TypedTables.Schema

variable {α : Type}

/-- The keys of entries, in order. -/
def entryKeys (entries : List (String × α)) : List String :=
  entries.map (·.1)

@[simp]
theorem entryKeys_nil : entryKeys ([] : List (String × α)) = [] := rfl

@[simp]
theorem entryKeys_cons (entry : String × α) (entries : List (String × α)) :
    entryKeys (entry :: entries) = entry.1 :: entryKeys entries := rfl

@[simp]
theorem entryKeys_append (left right : List (String × α)) :
    entryKeys (left ++ right) = entryKeys left ++ entryKeys right := by
  simp [entryKeys]

@[simp]
theorem entryValue?_nil (key : String) :
    entryValue? key ([] : List (String × α)) = none := rfl

theorem entryValue?_cons
    (key : String) (entry : String × α) (entries : List (String × α)) :
    entryValue? key (entry :: entries) =
      if entry.1 = key then some entry.2 else entryValue? key entries := by
  by_cases same : entry.1 = key
  · simp [entryValue?, same]
  · simp [entryValue?, same]

/-- A key has a value exactly when it is among the keys. -/
theorem entryValue?_isSome_iff {key : String} {entries : List (String × α)} :
    (entryValue? key entries).isSome ↔ key ∈ entryKeys entries := by
  induction entries with
  | nil => simp
  | cons entry rest inductionHypothesis =>
      rw [entryValue?_cons]
      by_cases same : entry.1 = key
      · simp [same]
      · simp [same, Ne.symm same, inductionHypothesis]

theorem entryValue?_eq_none_iff {key : String} {entries : List (String × α)} :
    entryValue? key entries = none ↔ key ∉ entryKeys entries := by
  rw [← entryValue?_isSome_iff]
  simp

/-- The value of a key stands beside it in the list. -/
theorem mem_of_entryValue? {key : String} {value : α} {entries : List (String × α)}
    (found : entryValue? key entries = some value) :
    (key, value) ∈ entries := by
  induction entries with
  | nil => simp at found
  | cons entry rest inductionHypothesis =>
      rw [entryValue?_cons] at found
      by_cases same : entry.1 = key
      · rw [if_pos same, Option.some.injEq] at found
        subst same found
        exact List.mem_cons_self
      · rw [if_neg same] at found
        exact List.mem_cons_of_mem entry (inductionHypothesis found)

/-- Where no key is repeated, every entry is found under its key. -/
theorem entryValue?_of_mem {key : String} {value : α} {entries : List (String × α)}
    (distinct : (entryKeys entries).Nodup) (member : (key, value) ∈ entries) :
    entryValue? key entries = some value := by
  induction entries with
  | nil => simp at member
  | cons entry rest inductionHypothesis =>
      rw [entryKeys_cons, List.nodup_cons] at distinct
      rw [entryValue?_cons]
      rcases List.mem_cons.mp member with atHead | inRest
      · subst atHead
        simp
      · have keyInRest : key ∈ entryKeys rest :=
          List.mem_map.mpr ⟨(key, value), inRest, rfl⟩
        have different : entry.1 ≠ key := by
          intro same
          exact distinct.1 (same ▸ keyInRest)
        rw [if_neg different]
        exact inductionHypothesis distinct.2 inRest

/-! ## Setting an entry -/

@[simp]
theorem entryValue?_setEntry_self
    (key : String) (value : α) (entries : List (String × α)) :
    entryValue? key (setEntry key value entries) = some value := by
  induction entries with
  | nil => simp [setEntry, entryValue?_cons]
  | cons entry rest inductionHypothesis =>
      obtain ⟨other, old⟩ := entry
      by_cases same : other = key
      · simp [setEntry, entryValue?_cons, same]
      · simp [setEntry, entryValue?_cons, same, inductionHypothesis]

theorem entryValue?_setEntry_of_ne
    {key wanted : String} (different : key ≠ wanted)
    (value : α) (entries : List (String × α)) :
    entryValue? wanted (setEntry key value entries) = entryValue? wanted entries := by
  induction entries with
  | nil => simp [setEntry, entryValue?_cons, different]
  | cons entry rest inductionHypothesis =>
      obtain ⟨other, old⟩ := entry
      by_cases same : other = key
      · subst same
        simp [setEntry, entryValue?_cons, different]
      · simp [setEntry, entryValue?_cons, same, inductionHypothesis]

/-- A key that is present keeps its place. -/
theorem entryKeys_setEntry_of_mem
    {key : String} {entries : List (String × α)}
    (present : key ∈ entryKeys entries) (value : α) :
    entryKeys (setEntry key value entries) = entryKeys entries := by
  induction entries with
  | nil => simp at present
  | cons entry rest inductionHypothesis =>
      obtain ⟨other, old⟩ := entry
      by_cases same : other = key
      · simp [setEntry, same]
      · have inRest : key ∈ entryKeys rest := by
          simpa [Ne.symm same] using present
        simp [setEntry, same, inductionHypothesis inRest]

/-- A key that is absent is set at the end. -/
theorem setEntry_of_not_mem
    {key : String} {entries : List (String × α)}
    (absent : key ∉ entryKeys entries) (value : α) :
    setEntry key value entries = entries ++ [(key, value)] := by
  induction entries with
  | nil => rfl
  | cons entry rest inductionHypothesis =>
      obtain ⟨other, old⟩ := entry
      rw [entryKeys_cons, List.mem_cons, not_or] at absent
      simp [setEntry, Ne.symm absent.1, inductionHypothesis absent.2]

theorem entryKeys_setEntry (key : String) (value : α) (entries : List (String × α)) :
    entryKeys (setEntry key value entries) =
      if key ∈ entryKeys entries then entryKeys entries else entryKeys entries ++ [key] := by
  by_cases present : key ∈ entryKeys entries
  · rw [entryKeys_setEntry_of_mem present, if_pos present]
  · rw [setEntry_of_not_mem present, if_neg present, entryKeys_append]
    rfl

/-- Setting an entry keeps every other entry. -/
theorem mem_setEntry
    {key : String} {value : α} {entries : List (String × α)} {entry : String × α}
    (member : entry ∈ setEntry key value entries) :
    entry = (key, value) ∨ entry ∈ entries := by
  induction entries with
  | nil => simpa [setEntry] using member
  | cons first rest inductionHypothesis =>
      obtain ⟨other, old⟩ := first
      by_cases same : other = key
      · have split : entry = (key, value) ∨ entry ∈ rest := by
          simpa [setEntry, same] using member
        exact split.imp_right (List.mem_cons_of_mem _)
      · have split : entry = (other, old) ∨ entry ∈ setEntry key value rest := by
          simpa [setEntry, same] using member
        rcases split with atHead | inRest
        · exact Or.inr (atHead ▸ List.mem_cons_self)
        · exact (inductionHypothesis inRest).imp_right (List.mem_cons_of_mem _)

/-- Setting entries with keys of their own puts them behind those there in their order. -/
theorem foldl_setEntry_of_nodup
    {β : Type} {key : β → String} {value : β → α} {items : List β} {entries : List (String × α)}
    (distinct : (entryKeys entries ++ items.map key).Nodup) :
    items.foldl (fun entries item => setEntry (key item) (value item) entries) entries =
      entries ++ items.map fun item => (key item, value item) := by
  induction items generalizing entries with
  | nil => simp
  | cons item rest inductionHypothesis =>
      have absent : key item ∉ entryKeys entries := by
        intro present
        have apart := (List.nodup_append.mp distinct).2.2
        exact apart (key item) present (key item) (by simp) rfl
      rw [List.foldl_cons, setEntry_of_not_mem absent, inductionHypothesis]
      · simp
      · simpa using distinct

/-! ## Names without repetition -/

theorem eraseDups_concat (names : List String) (name : String) :
    (names ++ [name]).eraseDups =
      if name ∈ names then names.eraseDups else names.eraseDups ++ [name] := by
  rw [List.eraseDups_append]
  by_cases present : name ∈ names
  · have nothing : [name].removeAll names = [] := by simp [List.removeAll, present]
    rw [nothing, if_pos present, List.eraseDups_nil, List.append_nil]
  · have kept : [name].removeAll names = [name] := by simp [List.removeAll, present]
    rw [kept, if_neg present]
    rfl

theorem nodup_eraseDups (names : List String) : names.eraseDups.Nodup := by
  induction names using List.reverseRecOn with
  | nil => exact List.nodup_nil
  | append_singleton names name inductionHypothesis =>
      rw [eraseDups_concat]
      by_cases present : name ∈ names
      · rw [if_pos present]
        exact inductionHypothesis
      · rw [if_neg present, ← List.concat_eq_append]
        exact List.Nodup.concat (mt List.mem_eraseDups.mp present) inductionHypothesis

/-! ## Setting entries one after another -/

section Folding

variable {β : Type} {key : β → String} {value : β → α}

/-- Setting entries whose keys are there keeps the keys. -/
theorem entryKeys_foldl_setEntry
    {items : List β} {entries : List (String × α)}
    (present : ∀ item ∈ items, key item ∈ entryKeys entries) :
    entryKeys (items.foldl (fun entries item => setEntry (key item) (value item) entries) entries) =
      entryKeys entries := by
  induction items generalizing entries with
  | nil => rfl
  | cons item rest inductionHypothesis =>
      have kept := entryKeys_setEntry_of_mem (present item List.mem_cons_self) (value item)
      rw [List.foldl_cons, inductionHypothesis, kept]
      intro other member
      rw [kept]
      exact present other (List.mem_cons_of_mem item member)

theorem entryValue?_foldl_setEntry_of_not_mem
    {items : List β} {wanted : String} (absent : wanted ∉ items.map key)
    (entries : List (String × α)) :
    entryValue? wanted
        (items.foldl (fun entries item => setEntry (key item) (value item) entries) entries) =
      entryValue? wanted entries := by
  induction items generalizing entries with
  | nil => rfl
  | cons item rest inductionHypothesis =>
      rw [List.map_cons, List.mem_cons, not_or] at absent
      rw [List.foldl_cons, inductionHypothesis absent.2,
        entryValue?_setEntry_of_ne (Ne.symm absent.1)]

/-- Of entries set under keys of their own, each has the value that it was set to. -/
theorem entryValue?_foldl_setEntry
    {items : List β} (distinct : (items.map key).Nodup) {item : β} (member : item ∈ items)
    (entries : List (String × α)) :
    entryValue? (key item)
        (items.foldl (fun entries item => setEntry (key item) (value item) entries) entries) =
      some (value item) := by
  induction items generalizing entries with
  | nil => cases member
  | cons first rest inductionHypothesis =>
      rw [List.map_cons, List.nodup_cons] at distinct
      rw [List.foldl_cons]
      rcases List.mem_cons.mp member with atHead | inRest
      · rw [atHead, entryValue?_foldl_setEntry_of_not_mem distinct.1, entryValue?_setEntry_self]
      · exact inductionHypothesis distinct.2 inRest _

/-- Entries set one after another stand at the places of the first items under their keys. -/
theorem entryKeys_foldl_setEntry_nil (items : List β) :
    entryKeys (items.foldl (fun entries item => setEntry (key item) (value item) entries) []) =
      (items.map key).eraseDups := by
  induction items using List.reverseRecOn with
  | nil => rfl
  | append_singleton items item inductionHypothesis =>
      rw [List.foldl_append, List.foldl_cons, List.foldl_nil, entryKeys_setEntry,
        inductionHypothesis, List.map_append, List.map_singleton, eraseDups_concat]
      simp only [List.mem_eraseDups]

/-- Of entries set one after another, each key has the value of the last item under it. -/
theorem entryValue?_foldl_setEntry_nil (items : List β) (wanted : String) :
    entryValue? wanted
        (items.foldl (fun entries item => setEntry (key item) (value item) entries) []) =
      (items.filter (key · = wanted)).getLast?.map value := by
  induction items using List.reverseRecOn with
  | nil => rfl
  | append_singleton items item inductionHypothesis =>
      rw [List.foldl_append, List.foldl_cons, List.foldl_nil, List.filter_append]
      by_cases same : key item = wanted
      · rw [← same, entryValue?_setEntry_self]
        simp
      · rw [entryValue?_setEntry_of_ne same, inductionHypothesis]
        simp [same]

end Folding

/-- Entries with the same keys and the same value at every key are equal. -/
theorem entries_ext
    {left right : List (String × α)}
    (sameKeys : entryKeys left = entryKeys right)
    (distinct : (entryKeys left).Nodup)
    (sameValues : ∀ key ∈ entryKeys left, entryValue? key left = entryValue? key right) :
    left = right := by
  induction left generalizing right with
  | nil =>
      have empty : entryKeys right = [] := sameKeys.symm
      exact (List.map_eq_nil_iff.mp empty).symm
  | cons entry rest inductionHypothesis =>
      cases right with
      | nil => simp at sameKeys
      | cons other others =>
          rw [entryKeys_cons, entryKeys_cons, List.cons.injEq] at sameKeys
          rw [entryKeys_cons, List.nodup_cons] at distinct
          have sameHead : entry = other := by
            have atHead := sameValues entry.1 (by simp)
            rw [entryValue?_cons, entryValue?_cons, if_pos rfl, if_pos sameKeys.1.symm,
              Option.some.injEq] at atHead
            exact Prod.ext sameKeys.1 atHead
          have sameRest : rest = others := by
            apply inductionHypothesis sameKeys.2 distinct.2
            intro key member
            have different : entry.1 ≠ key := by
              intro same
              exact distinct.1 (same ▸ member)
            have atKey := sameValues key (by simp [member])
            rw [entryValue?_cons, entryValue?_cons, if_neg different,
              if_neg (sameHead ▸ different)] at atKey
            exact atKey
          rw [sameHead, sameRest]

end TypedTables.Schema
