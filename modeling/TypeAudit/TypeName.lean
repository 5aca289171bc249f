/-! # Type names

A class is referred to by its name, fully qualified with leading backslashes or not: `\Foo`
and `Foo` are one type, whose *bare* name is `Foo`.  The *builtin* names are the scalar and
pseudo types of the language and never name a class; letter case does not matter for them.
The builtin test looks at a name as it is written, so `\int` is not builtin. -/

namespace TypeAudit.TypeName

/-- The characters after all leading backslashes. -/
def bareChars (cs : List Char) : List Char := cs.dropWhile (· = '\\')

/-- The name without its leading backslashes. -/
def bare (name : String) : String := String.ofList (bareChars name.toList)

/-- No backslash is left in front. -/
theorem head?_bare (name : String) : (bare name).toList.head? ≠ some '\\' := by
  have h := List.head?_dropWhile_not (· = '\\') name.toList
  intro hhead
  rw [bare, String.toList_ofList, bareChars] at hhead
  rw [hhead] at h
  simp at h

/-- The bare names are those that do not start with a backslash. -/
theorem bare_eq_self_iff (name : String) :
    bare name = name ↔ name.toList.head? ≠ some '\\' := by
  constructor
  · intro h
    rw [← h]
    exact head?_bare name
  · intro h
    have hchars : bareChars name.toList = name.toList := by
      unfold bareChars
      cases hcs : name.toList with
      | nil => rfl
      | cons c cs =>
          rw [hcs] at h
          exact List.dropWhile_cons_of_neg (by simpa using h)
    rw [bare, hchars, String.ofList_toList]

/-- A bare name is its own bare name. -/
@[simp] theorem bare_bare (name : String) : bare (bare name) = bare name :=
  (bare_eq_self_iff _).mpr (head?_bare name)

/-- Backslashes in front of a name do not change its bare name. -/
theorem bare_replicate_append (k : Nat) (name : String) :
    bare (String.ofList (List.replicate k '\\') ++ name) = bare name := by
  unfold bare bareChars
  rw [String.toList_append, String.toList_ofList, List.dropWhile_append_of_pos]
  intro c hc
  simp [List.eq_of_mem_replicate hc]

/-- The types that never name a class, in lower case. -/
def builtins : List String :=
  ["string", "int", "float", "bool", "array", "object", "callable", "iterable", "mixed", "void",
   "null", "false", "true", "never", "self", "parent", "static"]

def lowerCase (name : String) : String := String.ofList (name.toList.map Char.toLower)

/-- The name is builtin in some spelling of its letters. -/
def isBuiltin (name : String) : Bool := builtins.contains (lowerCase name)

end TypeAudit.TypeName
