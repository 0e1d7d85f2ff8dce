import Pseudocode.Value

/-!
Scopes: the variables of a run and their values.
-/

namespace Pseudocode

abbrev Scope := List (String × Value)

namespace Scope

def get? : Scope → String → Option Value
  | [], _ => none
  | (key, value) :: rest, name => if key = name then some value else get? rest name

def set : Scope → String → Value → Scope
  | [], name, value => [(name, value)]
  | (other, old) :: rest, name, value =>
    if other = name then (name, value) :: rest else (other, old) :: set rest name value

@[simp] theorem get?_nil (name : String) : get? [] name = none := rfl

@[simp] theorem get?_set (scope : Scope) (name other : String) (value : Value) :
    (scope.set name value).get? other = if name = other then some value else scope.get? other := by
  induction scope with
  | nil => rfl
  | cons entry rest ih =>
    obtain ⟨key, old⟩ := entry
    by_cases hk : key = name
    · by_cases ho : name = other <;> simp_all [set, get?]
    · by_cases ho : key = other
      · subst ho
        simp [set, get?, hk, Ne.symm hk]
      · simp_all [set, get?]

end Scope

end Pseudocode
