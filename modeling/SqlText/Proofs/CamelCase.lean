import SqlText.Proofs.OptionNames

/-!
# Camel case — the second spelling of an option

    camelCase "on_duplicate_update_fields"  =  "onDuplicateUpdateFields"

The name of an option is words with a low line between them. Its second spelling is the same
words without the low lines, each but the first with a capital at its front, and an initialism in
capitals throughout. An option of one word has no other spelling.

A name stands for the option whose second spelling it is, or else for itself. This is said of the
names of the options alone, and the table by which a mapping of options is read agrees with it for
every name.

* **`camelCase`**, **`optionOf`**: the second spelling, and what a name stands for.
* **`respelled_camelCase`**: the table knows the second spelling of every option.
* **`respelled_eq_optionOf`**: the table knows no others.
-/

namespace SqlText

namespace Statement

/-! ## Spellings -/

/-- The words that stand in capitals where they are not the first: the last one of
`recursive_cte` is an initialism. -/
def initialisms : List (List Char) := ["cte".toList]

/-- A word that is not the first of a name. -/
def capitalized : List Char → List Char
  | []      => []
  | c :: cs => if c :: cs ∈ initialisms then (c :: cs).map Char.toUpper else c.toUpper :: cs

/-- The second spelling of a name. -/
def camelCase (name : String) : String :=
  match name.toList.splitOn '_' with
  | []            => ""
  | first :: rest => String.ofList (first ++ rest.flatMap capitalized)

/-- The options of all statements. -/
def allOptions : List String := Verb.all.flatMap Verb.optionNames

/-- The option that a name stands for: the one whose second spelling it is, or itself. -/
def optionOf (name : String) : String :=
  (allOptions.find? (camelCase · = name)).getD name

/-! ## The table -/

/-- The table knows the second spelling of every option. -/
theorem respelled_camelCase : ∀ option ∈ allOptions, respelled (camelCase option) = option := by
  decide

example : (allOptions.map camelCase).filter (· ∉ allOptions) =
    ["subQueries", "groupBy", "limitSkip", "recursiveCTE", "insertData", "dateFields",
      "uniqueColumn", "onDuplicateUpdateFields", "updateData", "nullValues", "defaultValues",
      "fromSubQuery", "setCalculations"] := by decide

/-- What the table changes is the second spelling of the option that it gives. -/
theorem respelled_cases (name : String) :
    respelled name = name ∨
      respelled name ∈ allOptions ∧ camelCase (respelled name) = name := by
  fun_cases respelled name
  -- the last case is that of a name which is not in the table
  case case14 => exact .inl rfl
  all_goals exact .inr (by decide)

/-- The table gives for every name the option that it stands for. -/
theorem respelled_eq_optionOf (name : String) : respelled name = optionOf name := by
  rw [optionOf]
  cases hfind : allOptions.find? (camelCase · = name) with
  | none =>
      refine (respelled_cases name).resolve_right fun ⟨hmem, hname⟩ => ?_
      exact List.find?_eq_none.mp hfind _ hmem (by simpa using hname)
  | some option =>
      have hname : camelCase option = name := by simpa using List.find?_some hfind
      rw [← hname]
      exact respelled_camelCase option (List.mem_of_find?_eq_some hfind)

/-! ## What a name stands for -/

theorem optionOf_camelCase {option : String} (h : option ∈ allOptions) :
    optionOf (camelCase option) = option := by
  rw [← respelled_eq_optionOf]
  exact respelled_camelCase option h

/-- An option stands for itself. -/
theorem optionOf_of_mem {option : String} (h : option ∈ allOptions) :
    optionOf option = option := by
  have hself : ∀ option ∈ allOptions, respelled option = option := by decide
  rw [← respelled_eq_optionOf]
  exact hself option h

/-- A name stands for itself, or it is the second spelling of the option that it stands for. -/
theorem optionOf_cases (name : String) :
    optionOf name = name ∨ optionOf name ∈ allOptions ∧ camelCase (optionOf name) = name := by
  rw [← respelled_eq_optionOf]
  exact respelled_cases name

theorem optionOf_optionOf (name : String) : optionOf (optionOf name) = optionOf name := by
  rcases optionOf_cases name with hself | ⟨hmem, -⟩
  · rw [hself, hself]
  · exact optionOf_of_mem hmem

theorem optionOf_ne_kind {name : String} (h : name ≠ "kind") : optionOf name ≠ "kind" := by
  rcases optionOf_cases name with hself | ⟨hmem, -⟩
  · rwa [hself]
  · intro hkind
    rw [hkind] at hmem
    exact absurd hmem (by decide)

end Statement

end SqlText
