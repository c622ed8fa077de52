import TypedTables.Json.Reader
import TypedTables.Proofs.Json.Lexing

/-!
# Reading written JSON

The tokens of a document are read back into the document, unless more lists and mappings are open
at once than the reader keeps.
-/

namespace TypedTables.Json

mutual

/-- The number of lists and mappings that are open at once inside a document. -/
def nesting : Document → Nat
  | .list items => itemsNesting items + 1
  | .mapping entries => entriesNesting entries + 1
  | _ => 0

def itemsNesting : List Document → Nat
  | [] => 0
  | item :: items => max (nesting item) (itemsNesting items)

def entriesNesting : List (String × Document) → Nat
  | [] => 0
  | (_, value) :: entries => max (nesting value) (entriesNesting entries)

end

namespace Machine

theorem run_cons (machine : Machine) (token : Token) (tokens : List Token) :
    machine.run (token :: tokens) = (machine.step token).bind fun next => next.run tokens :=
  List.foldlM_cons

/-- Only a closing bracket tells the first item of a list from another value. -/
theorem step_item
    {frames : List Frame} {token : Token} (other : token ≠ .closeList) :
    step ⟨frames, .item, none⟩ token = step ⟨frames, .value, none⟩ token := by
  change (if token = .closeList then _ else _) = _
  rw [if_neg other]
  cases token <;> rfl

theorem run_item
    (frames : List Frame) (document : Document) (rest : List Token) :
    run ⟨frames, .item, none⟩ (tokensOf document ++ rest) =
      run ⟨frames, .value, none⟩ (tokensOf document ++ rest) := by
  cases document
  all_goals
    simp only [tokensOf, List.cons_append, run_cons]
    rw [step_item (by simp)]

theorem run_items
    (frames : List Frame) {items : List Document} (nonempty : items ≠ []) (rest : List Token) :
    run ⟨frames, .item, none⟩ (itemTokens items ++ rest) =
      run ⟨frames, .value, none⟩ (itemTokens items ++ rest) := by
  match items with
  | [] => exact absurd rfl nonempty
  | [item] => exact run_item frames item rest
  | item :: other :: items =>
      rw [itemTokens, List.append_assoc]
      · exact run_item frames item _
      · simp

theorem run_entries
    (frames : List Frame) {entries : List (String × Document)} (nonempty : entries ≠ [])
    (rest : List Token) :
    run ⟨frames, .firstKey, none⟩ (entryTokens entries ++ rest) =
      run ⟨frames, .key, none⟩ (entryTokens entries ++ rest) := by
  match entries with
  | [] => exact absurd rfl nonempty
  | [(key, value)] => rfl
  | (key, value) :: other :: entries => rfl

/-- A list or mapping is opened where there is room for it. -/
theorem run_open
    {frames : List Frame} {token : Token} {frame : Frame} {inside : Expecting}
    (opens : step ⟨frames, .value, none⟩ token =
      openFrame ⟨frames, .value, none⟩ frame inside)
    (rest : List Token) :
    run ⟨frames, .value, none⟩ (token :: rest) =
      if frames.length < nestingLimit then run ⟨frame :: frames, inside, none⟩ rest else none := by
  rw [run_cons, opens, openFrame]
  by_cases room : frames.length < nestingLimit
  · rw [if_pos room, if_pos room]
    rfl
  · rw [if_neg room, if_neg room]
    rfl

theorem run_scalar
    {frames : List Frame} {token : Token} {document : Document}
    (delivers : step ⟨frames, .value, none⟩ token = some (deliver frames document))
    (flat : nesting document = 0) (room : frames.length ≤ nestingLimit) (rest : List Token) :
    run ⟨frames, .value, none⟩ (token :: rest) =
      if frames.length + nesting document ≤ nestingLimit then (deliver frames document).run rest
      else none := by
  rw [run_cons, delivers, flat, Nat.add_zero, if_pos room]
  rfl

/-- What is read between two brackets is read if there is room for the brackets. -/
theorem run_bracketed
    {frames : List Frame} {token : Token} {frame : Frame} {inside : Expecting}
    {document : Document} {tokens rest : List Token} {deepest : Nat}
    (opens : step ⟨frames, .value, none⟩ token = openFrame ⟨frames, .value, none⟩ frame inside)
    (depth : nesting document = deepest + 1)
    (read : frames.length + 1 ≤ nestingLimit →
      run ⟨frame :: frames, inside, none⟩ tokens =
        if frames.length + 1 + deepest ≤ nestingLimit then (deliver frames document).run rest
        else none) :
    run ⟨frames, .value, none⟩ (token :: tokens) =
      if frames.length + nesting document ≤ nestingLimit then (deliver frames document).run rest
      else none := by
  rw [run_open opens, depth]
  by_cases room : frames.length < nestingLimit
  · have same : frames.length + (deepest + 1) = frames.length + 1 + deepest := by omega
    rw [if_pos room, read room, same]
  · have full : ¬ frames.length + (deepest + 1) ≤ nestingLimit := by omega
    rw [if_neg room, if_neg full]

/-- A first part and the parts behind it are read if there is room for the deepest of them. -/
theorem if_max
    {α : Type} (outer first second : Nat) (value : Option α) :
    (if outer + first ≤ nestingLimit then
        (if outer + second ≤ nestingLimit then value else none)
      else none) =
      if outer + max first second ≤ nestingLimit then value else none := by
  by_cases firstRoom : outer + first ≤ nestingLimit
  · rw [if_pos firstRoom]
    congr 1
    simp only [eq_iff_iff]
    omega
  · have full : ¬ outer + max first second ≤ nestingLimit := by omega
    rw [if_neg firstRoom, if_neg full]

theorem run_key
    (done : List (String × Document)) (last key : String) (frames : List Frame)
    (rest : List Token) :
    run ⟨.mapping done last :: frames, .key, none⟩ (.text key :: .colon :: rest) =
      run ⟨.mapping done key :: frames, .value, none⟩ rest :=
  rfl

mutual

/-- Reading the tokens of a document delivers it, if there is room for what is open inside it. -/
theorem run_tokensOf
    (frames : List Frame) (room : frames.length ≤ nestingLimit) (document : Document)
    (exact : Exact document) (rest : List Token) :
    run ⟨frames, .value, none⟩ (tokensOf document ++ rest) =
      if frames.length + nesting document ≤ nestingLimit then (deliver frames document).run rest
      else none := by
  match document with
  | .null => exact run_scalar rfl rfl room rest
  | .bool value => exact run_scalar rfl rfl room rest
  | .integer value => exact run_scalar rfl rfl room rest
  | .text value => exact run_scalar rfl rfl room rest
  | .list [] =>
      apply run_bracketed rfl rfl
      intro room
      rw [itemsNesting, Nat.add_zero, if_pos room]
      rfl
  | .list (item :: items) =>
      rw [tokensOf, List.cons_append, List.append_assoc, List.singleton_append]
      apply run_bracketed rfl rfl
      intro room
      rw [run_items _ (List.cons_ne_nil _ _)]
      exact run_itemTokens [] frames room (item :: items) (List.cons_ne_nil _ _) exact rest
  | .mapping [] =>
      apply run_bracketed rfl rfl
      intro room
      rw [entriesNesting, Nat.add_zero, if_pos room]
      rfl
  | .mapping (entry :: entries) =>
      rw [tokensOf, List.cons_append, List.append_assoc, List.singleton_append]
      apply run_bracketed rfl rfl
      intro room
      rw [run_entries _ (List.cons_ne_nil _ _)]
      exact run_entryTokens [] "" frames room (entry :: entries) (List.cons_ne_nil _ _) exact rest

theorem run_itemTokens
    (done : List Document) (frames : List Frame) (room : frames.length + 1 ≤ nestingLimit)
    (items : List Document) (nonempty : items ≠ []) (exact : ExactItems items)
    (rest : List Token) :
    run ⟨.list done :: frames, .value, none⟩ (itemTokens items ++ .closeList :: rest) =
      if frames.length + 1 + itemsNesting items ≤ nestingLimit then
        (deliver frames (.list (done.reverse ++ items))).run rest
      else none := by
  match items with
  | [] => exact absurd rfl nonempty
  | [item] =>
      have only := run_tokensOf (.list done :: frames) room item exact.1 (.closeList :: rest)
      have closed :
          (deliver (.list done :: frames) item).run (.closeList :: rest) =
            (deliver frames (.list (done.reverse ++ [item]))).run rest := by
        rw [← List.reverse_cons]
        rfl
      rw [itemTokens, only, closed, List.length_cons, itemsNesting, itemsNesting, Nat.max_zero]
  | item :: other :: items =>
      have first := run_tokensOf (.list done :: frames) room item exact.1
        (.comma :: (itemTokens (other :: items) ++ .closeList :: rest))
      have others := run_itemTokens (item :: done) frames room (other :: items)
        (List.cons_ne_nil _ _) exact.2 rest
      have separated :
          (deliver (.list done :: frames) item).run
              (.comma :: (itemTokens (other :: items) ++ .closeList :: rest)) =
            run ⟨.list (item :: done) :: frames, .value, none⟩
              (itemTokens (other :: items) ++ .closeList :: rest) := rfl
      rw [itemTokens, List.append_assoc, List.cons_append, first, separated, others,
        List.length_cons, if_max, List.reverse_cons, List.append_assoc, List.singleton_append]
      · rfl
      · simp

theorem run_entryTokens
    (done : List (String × Document)) (last : String) (frames : List Frame)
    (room : frames.length + 1 ≤ nestingLimit) (entries : List (String × Document))
    (nonempty : entries ≠ []) (exact : ExactEntries entries) (rest : List Token) :
    run ⟨.mapping done last :: frames, .key, none⟩ (entryTokens entries ++ .closeMapping :: rest) =
      if frames.length + 1 + entriesNesting entries ≤ nestingLimit then
        (deliver frames (.mapping (done.reverse ++ entries))).run rest
      else none := by
  match entries with
  | [] => exact absurd rfl nonempty
  | [(key, value)] =>
      have only := run_tokensOf (.mapping done key :: frames) room value exact.1
        (.closeMapping :: rest)
      have closed :
          (deliver (.mapping done key :: frames) value).run (.closeMapping :: rest) =
            (deliver frames (.mapping (done.reverse ++ [(key, value)]))).run rest := by
        rw [← List.reverse_cons]
        rfl
      rw [entryTokens, List.cons_append, List.cons_append, run_key, only, closed,
        List.length_cons, entriesNesting, entriesNesting, Nat.max_zero]
  | (key, value) :: other :: entries =>
      have first := run_tokensOf (.mapping done key :: frames) room value exact.1
        (.comma :: (entryTokens (other :: entries) ++ .closeMapping :: rest))
      have others := run_entryTokens ((key, value) :: done) key frames room (other :: entries)
        (List.cons_ne_nil _ _) exact.2 rest
      have separated :
          (deliver (.mapping done key :: frames) value).run
              (.comma :: (entryTokens (other :: entries) ++ .closeMapping :: rest)) =
            run ⟨.mapping ((key, value) :: done) key :: frames, .key, none⟩
              (entryTokens (other :: entries) ++ .closeMapping :: rest) := rfl
      rw [entryTokens, List.cons_append, List.cons_append, List.append_assoc, List.cons_append,
        run_key, first, separated, others, List.length_cons, if_max, List.reverse_cons,
        List.append_assoc, List.singleton_append]
      · rfl
      · simp

end

end Machine

/-- A written document is read back, unless it nests deeper than the reader goes. -/
theorem read?_pretty {document : Document} (exact : Exact document) :
    read? (pretty document ++ "\n") =
      if nesting document ≤ nestingLimit then some document else none := by
  have ran := Machine.run_tokensOf [] (Nat.zero_le _) document exact []
  rw [List.append_nil, List.length_nil, Nat.zero_add] at ran
  unfold read?
  rw [tokens?_pretty exact]
  change (Machine.run ⟨[], .value, none⟩ (tokensOf document)).bind (·.result) = _
  rw [ran]
  split <;> rfl

end TypedTables.Json
