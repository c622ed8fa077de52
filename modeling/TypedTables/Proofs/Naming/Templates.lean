import TypedTables.Proofs.Outcome
import TypedTables.Proofs.Text.Ascii
import TypedTables.Naming.Scope

/-!
# Templates put together from parts

A template can be written down part by part: literal texts with their braces doubled, and names
between braces.  Filling it in puts the texts and the values one behind the other, whatever braces
they have.
-/

namespace TypedTables.Naming

open TypedTables.Schema (entryValue?)

/-! ## Bindings -/

namespace Scope

/-- The innermost scope that binds the name binds it to the value. -/
def Binds (scope : Scope) (name value : String) : Prop :=
  ∃ inner level outer, scope.bindings :: scope.outer = inner ++ level :: outer ∧
    entryValue? name level = some value ∧ ∀ closer ∈ inner, entryValue? name closer = none

theorem get?_eq_some_iff {scope : Scope} {name value : String} :
    scope.get? name = some value ↔ scope.Binds name value :=
  List.findSome?_eq_some_iff

theorem get?_eq_none_of_not_binds
    {scope : Scope} {name : String} (unbound : ∀ value, ¬ scope.Binds name value) :
    scope.get? name = none := by
  rw [Option.eq_none_iff_forall_ne_some]
  intro value found
  exact unbound value (get?_eq_some_iff.mp found)

end Scope

/-! ## Written parts -/

/-- A part of a template: a text to be taken as it is, or the name of a parameter. -/
inductive Part
  | literal (text : String)
  | parameter (name : String)

def isBrace (c : Char) : Bool :=
  c == '\x7b' || c == '\x7d'

/-- A literal character as templates write it. -/
def doubled (c : Char) : List Char :=
  if isBrace c then [c, c] else [c]

namespace Part

def written : Part → List Char
  | literal text => text.toList.flatMap doubled
  | parameter name => '\x7b' :: name.toList ++ ['\x7d']

/-- What reading the written part gives. -/
def segments : Part → List Segment
  | literal text => text.toList.map .literal
  | parameter name => [.parameter name]

end Part

def template (parts : List Part) : String :=
  String.ofList (parts.flatMap Part.written)

/-- Parts whose parameters have identifiers as names. -/
def WellNamed (parts : List Part) : Prop :=
  ∀ name, .parameter name ∈ parts → isIdentifier name = true

/-! ## Reading written parts -/

theorem segments_cons {c : Char} (plain : isBrace c = false) (rest : List Char) :
    segments (c :: rest) = .literal c :: segments rest := by
  unfold isBrace at plain
  obtain ⟨notOpening, notClosing⟩ := Bool.or_eq_false_iff.mp plain
  cases rest with
  | nil => rw [segments, segments]
  | cons d rest =>
      rw [segments, notOpening, notClosing]
      simp

theorem segments_doubled (c : Char) (rest : List Char) :
    segments (doubled c ++ rest) = .literal c :: segments rest := by
  unfold doubled
  by_cases brace : isBrace c = true
  · rw [if_pos brace, List.cons_append, List.singleton_append, segments]
    rcases Bool.or_eq_true_iff.mp brace with opening | closing
    · rw [opening]
      simp
    · rw [eq_of_beq closing]
      simp
  · rw [if_neg brace, List.singleton_append, segments_cons (by simpa using brace)]

theorem readParameter?_name
    {name : String} (identifier : isIdentifier name = true) (rest : List Char) :
    readParameter? (name.toList ++ '\x7d' :: rest) = some (name.toList, rest) := by
  have all : ∀ c ∈ name.toList, isIdentifierChar c = true :=
    fun c member => Text.isIdentifierChar_of_mem identifier member
  have stop : isIdentifierChar '\x7d' = false := by decide
  unfold readParameter?
  rw [List.takeWhile_append_of_pos all, List.dropWhile_append_of_pos all,
    List.takeWhile_cons_of_neg (by simp [stop]), List.dropWhile_cons_of_neg (by simp [stop]),
    List.append_nil]
  unfold isIdentifier at identifier
  split at identifier
  · cases identifier
  · next first others shape =>
      rw [shape]
      exact if_pos (Bool.and_eq_true_iff.mp identifier).1

theorem isBrace_of_isIdentifierChar {c : Char} (allowed : isIdentifierChar c = true) :
    isBrace c = false := by
  rw [Bool.eq_false_iff]
  intro brace
  rcases Bool.or_eq_true_iff.mp brace with opening | closing
  · rw [eq_of_beq opening] at allowed
    exact absurd allowed (by decide)
  · rw [eq_of_beq closing] at allowed
    exact absurd allowed (by decide)

theorem segments_parameter
    {name : String} (identifier : isIdentifier name = true) (rest : List Char) :
    segments ('\x7b' :: (name.toList ++ '\x7d' :: rest)) = .parameter name :: segments rest := by
  have read := readParameter?_name identifier rest
  cases shape : name.toList with
  | nil =>
      unfold isIdentifier at identifier
      rw [shape] at identifier
      cases identifier
  | cons first others =>
      have allowed : isIdentifierChar first = true :=
        Text.isIdentifierChar_of_mem identifier (shape ▸ List.mem_cons_self)
      have notOpening : (first == '\x7b') = false :=
        (Bool.or_eq_false_iff.mp (isBrace_of_isIdentifierChar allowed)).1
      rw [shape, List.cons_append] at read
      rw [List.cons_append, segments, notOpening, Bool.and_false, if_neg Bool.false_ne_true,
        if_neg (by simp), if_pos (beq_self_eq_true _)]
      split
      · next found =>
          rw [read] at found
          cases found
          rw [← shape, String.ofList_toList]
      · next missing =>
          rw [read] at missing
          cases missing

/-- A written part is read without regard to what follows it. -/
theorem segments_written
    {part : Part} (named : WellNamed [part]) (rest : List Char) :
    segments (part.written ++ rest) = part.segments ++ segments rest := by
  cases part with
  | literal text =>
      rw [Part.written, Part.segments]
      induction text.toList with
      | nil => rfl
      | cons c others inductionHypothesis =>
          rw [List.flatMap_cons, List.append_assoc, segments_doubled, inductionHypothesis]
          rfl
  | parameter name =>
      have identifier : isIdentifier name = true := named name List.mem_cons_self
      rw [Part.written, Part.segments, List.append_assoc, List.singleton_append, List.cons_append,
        segments_parameter identifier rest]
      rfl

theorem segments_template {parts : List Part} (named : WellNamed parts) :
    segments (template parts).toList = parts.flatMap Part.segments := by
  unfold template
  rw [String.toList_ofList]
  induction parts with
  | nil => rw [List.flatMap_nil, segments, List.flatMap_nil]
  | cons part others inductionHypothesis =>
      have here : WellNamed [part] := by
        intro name member
        rw [List.mem_singleton] at member
        exact named name (member ▸ List.mem_cons_self)
      have later : WellNamed others := fun name member =>
        named name (List.mem_cons_of_mem part member)
      rw [List.flatMap_cons, segments_written here, inductionHypothesis later, List.flatMap_cons]

/-! ## Filling in -/

/-- What stands in the place of a part: its text, or the value of the innermost binding. -/
inductive Fills (scope : Scope) : Part → String → Prop
  | literal {text : String} : Fills scope (.literal text) text
  | parameter {name value : String} (bound : scope.Binds name value) :
      Fills scope (.parameter name) value

variable {scope : Scope}

theorem fills_literal_iff {text value : String} :
    Fills scope (.literal text) value ↔ text = value := by
  constructor
  · intro fills
    cases fills with
    | literal => rfl
  · rintro rfl
    exact .literal

theorem fills_parameter_iff {name value : String} :
    Fills scope (.parameter name) value ↔ scope.get? name = some value := by
  rw [Scope.get?_eq_some_iff]
  constructor
  · intro fills
    cases fills with
    | parameter bound => exact bound
  · exact .parameter

theorem expand_segments_of_fills
    {part : Part} {value : String} (fills : Fills scope part value) (whole : String) :
    ∃ pieces, part.segments.mapM (scope.expand whole) = .ok pieces ∧
      pieces.flatten = value.toList := by
  cases fills with
  | literal =>
      refine ⟨value.toList.map fun c => [c], ?_, ?_⟩
      · rw [Part.segments]
        induction value.toList with
        | nil => rfl
        | cons c others inductionHypothesis =>
            rw [List.map_cons, List.mapM_cons, inductionHypothesis]
            rfl
      · rw [← List.flatMap_def, List.flatMap_singleton']
  | @parameter name _ bound =>
      have found : scope.get? name = some value := Scope.get?_eq_some_iff.mpr bound
      refine ⟨[value.toList], ?_, by simp⟩
      rw [Part.segments, List.mapM_cons, Scope.expand, found]
      rfl

theorem expand_of_fills
    {parts : List Part} {values : List String} (filled : List.Forall₂ (Fills scope) parts values)
    (whole : String) :
    ∃ pieces, (parts.flatMap Part.segments).mapM (scope.expand whole) = .ok pieces ∧
      String.ofList pieces.flatten = String.join values := by
  induction filled with
  | nil => exact ⟨[], rfl, rfl⟩
  | @cons part value parts values fills _ inductionHypothesis =>
      obtain ⟨first, expanded, joined⟩ := expand_segments_of_fills fills whole
      obtain ⟨others, othersExpanded, othersJoined⟩ := inductionHypothesis
      refine ⟨first ++ others, ?_, ?_⟩
      · rw [List.flatMap_cons, List.mapM_append, expanded, othersExpanded]
        rfl
      · rw [List.flatten_append, joined, String.ofList_append, othersJoined, String.ofList_toList,
          String.join_cons]

/-- Either every part can be filled in, or there is a first name without a binding. -/
theorem fills_or_unbound (scope : Scope) (parts : List Part) :
    (∃ values, List.Forall₂ (Fills scope) parts values) ∨
      ∃ before name after, parts = before ++ .parameter name :: after ∧
        (∃ values, List.Forall₂ (Fills scope) before values) ∧
        ∀ value, ¬ scope.Binds name value := by
  induction parts with
  | nil => exact Or.inl ⟨[], .nil⟩
  | cons part others inductionHypothesis =>
      by_cases fillable : ∃ value, Fills scope part value
      · obtain ⟨value, fills⟩ := fillable
        rcases inductionHypothesis with
          ⟨values, filled⟩ | ⟨before, name, after, split, filled, unbound⟩
        · exact Or.inl ⟨value :: values, .cons fills filled⟩
        · obtain ⟨values, filled⟩ := filled
          exact Or.inr ⟨part :: before, name, after, by rw [split]; rfl,
            ⟨value :: values, .cons fills filled⟩, unbound⟩
      · cases part with
        | literal text => exact absurd ⟨text, Fills.literal⟩ fillable
        | parameter name =>
            exact Or.inr ⟨[], name, others, rfl, ⟨[], .nil⟩, fun value bound =>
              fillable ⟨value, .parameter bound⟩⟩

theorem format_of_fills
    {parts : List Part} (named : WellNamed parts) {values : List String}
    (filled : List.Forall₂ (Fills scope) parts values) :
    scope.format (template parts) = .ok (String.join values) := by
  obtain ⟨pieces, expanded, joined⟩ := expand_of_fills filled (template parts)
  unfold Scope.format
  rw [segments_template named, expanded, ← joined]
  rfl

theorem format_of_unbound
    {before after : List Part} {name : String}
    (named : WellNamed (before ++ .parameter name :: after))
    {values : List String} (filled : List.Forall₂ (Fills scope) before values)
    (unbound : ∀ value, ¬ scope.Binds name value) :
    scope.format (template (before ++ .parameter name :: after)) =
      .error (.unknownParameter name (template (before ++ .parameter name :: after))) := by
  obtain ⟨pieces, expanded, -⟩ :=
    expand_of_fills filled (template (before ++ .parameter name :: after))
  unfold Scope.format
  rw [segments_template named, List.flatMap_append, List.mapM_append, expanded, List.flatMap_cons,
    Part.segments, List.singleton_append, List.mapM_cons, Scope.expand,
    Scope.get?_eq_none_of_not_binds unbound]
  rfl

theorem binds_of_fills
    {parts : List Part} {values : List String} (filled : List.Forall₂ (Fills scope) parts values)
    {name : String} (member : .parameter name ∈ parts) : ∃ value, scope.Binds name value := by
  obtain ⟨value, -, fills⟩ := (Outcome.exists_of_forall₂ filled).1 _ member
  cases fills with
  | parameter bound => exact ⟨value, bound⟩

/-- A template that is put together from parts is filled in part by part, and the first name that no
scope binds is the failure. -/
theorem format_template {parts : List Part} (named : WellNamed parts) (scope : Scope) :
    ((∀ name, .parameter name ∈ parts → ∃ value, scope.Binds name value) →
      ∃ values, List.Forall₂ (Fills scope) parts values ∧
        scope.format (template parts) = .ok (String.join values)) ∧
    ((∃ name, .parameter name ∈ parts ∧ ∀ value, ¬ scope.Binds name value) →
      ∃ before name after, parts = before ++ .parameter name :: after ∧
        (∀ other, .parameter other ∈ before → ∃ value, scope.Binds other value) ∧
        (∀ value, ¬ scope.Binds name value) ∧
        scope.format (template parts) = .error (.unknownParameter name (template parts)) ∧
        (Failure.unknownParameter name (template parts)).kind = .configuration) := by
  constructor
  · intro bound
    rcases fills_or_unbound scope parts with ⟨values, filled⟩ | ⟨_, name, _, rfl, -, unbound⟩
    · exact ⟨values, filled, format_of_fills named filled⟩
    · obtain ⟨value, binds⟩ := bound name (by simp)
      exact absurd binds (unbound value)
  · rintro ⟨name, member, unbound⟩
    rcases fills_or_unbound scope parts with
      ⟨values, filled⟩ | ⟨before, first, after, rfl, ⟨values, filled⟩, firstUnbound⟩
    · obtain ⟨value, binds⟩ := binds_of_fills filled member
      exact absurd binds (unbound value)
    · exact ⟨before, first, after, rfl, fun _ => binds_of_fills filled, firstUnbound,
        format_of_unbound named filled firstUnbound, rfl⟩

/-- A scope in which a value has the form of a parameter. -/
def itemScope : Scope :=
  (Scope.empty.set "Namespace" "game").child.set "TableName" "\x7bNamespace\x7d"

/-- Parts with braces at every border. -/
def bracedParts : List Part := [
  .literal "\x7d\x7b", .parameter "TableName", .literal "\x7d", .parameter "Namespace",
  .literal "\x7b"]

theorem format_template_braces :
    template bracedParts =
        "\x7d\x7d\x7b\x7b\x7bTableName\x7d\x7d\x7d\x7bNamespace\x7d\x7b\x7b" ∧
      itemScope.format (template bracedParts) =
        .ok "\x7d\x7b\x7bNamespace\x7d\x7dgame\x7b" ∧
      Scope.empty.format (template bracedParts) =
        .error (.unknownParameter "TableName" (template bracedParts)) := by
  have named : WellNamed bracedParts := by
    intro name member
    simp only [bracedParts, List.mem_cons, Part.parameter.injEq, reduceCtorEq, List.not_mem_nil,
      or_false, false_or] at member
    rcases member with rfl | rfl <;> decide
  have table : itemScope.get? "TableName" = some "\x7bNamespace\x7d" := by decide +kernel
  have space : itemScope.get? "Namespace" = some "game" := by decide +kernel
  refine ⟨by decide +kernel, ?_, ?_⟩
  · have bound : ∀ name, .parameter name ∈ bracedParts → ∃ value, itemScope.Binds name value := by
      intro name member
      simp only [bracedParts, List.mem_cons, Part.parameter.injEq, reduceCtorEq, List.not_mem_nil,
        or_false, false_or] at member
      rcases member with rfl | rfl
      · exact ⟨_, Scope.get?_eq_some_iff.mp table⟩
      · exact ⟨_, Scope.get?_eq_some_iff.mp space⟩
    obtain ⟨values, filled, formatted⟩ := (format_template named itemScope).1 bound
    simp only [bracedParts, List.forall₂_cons_left_iff, List.forall₂_nil_left_iff,
      fills_literal_iff, fills_parameter_iff, table, space, Option.some.injEq] at filled
    obtain ⟨_, _, rfl, ⟨_, _, rfl, ⟨_, _, rfl, ⟨_, _, rfl, ⟨_, _, rfl, rfl, rfl⟩, rfl⟩, rfl⟩, rfl⟩,
      rfl⟩ := filled
    rw [formatted]
    decide +kernel
  · have unbound : ∀ name value, ¬ Scope.empty.Binds name value := by
      intro name value bound
      rw [← Scope.get?_eq_some_iff] at bound
      cases bound
    have missing := (format_template named Scope.empty).2
      ⟨"TableName", by simp [bracedParts], unbound "TableName"⟩
    obtain ⟨before, name, after, split, earlier, -, formatted, -⟩ := missing
    have noneEarlier : ∀ other, .parameter other ∉ before := by
      intro other member
      obtain ⟨value, bound⟩ := earlier other member
      exact unbound other value bound
    rcases before with _ | ⟨_, _ | ⟨second, others⟩⟩
    · cases split
    · cases split
      exact formatted
    · have second : Part.parameter "TableName" = second :=
        (List.cons.inj (List.cons.inj split).2).1
      exact absurd (by simp [second]) (noneEarlier "TableName")

end TypedTables.Naming
