namespace TouchScript

/-- A finite map from names to values, in the order in which the names were first given. A name that
is written again keeps its place, so each name stands at most once. -/
abbrev Bindings (α : Type) := List (String × α)

namespace Bindings

variable {α : Type}

/-- The value of `name`, if it has one. -/
def get? : Bindings α → String → Option α
  | [], _ => none
  | (key, value) :: rest, name => if key = name then some value else get? rest name

/-- Gives `name` the value `value` and leaves every other name alone. -/
def set : Bindings α → String → α → Bindings α
  | [], name, value => [(name, value)]
  | (key, old) :: rest, name, value =>
    if key = name then (key, value) :: rest else (key, old) :: set rest name value

/-- Gives `name` the value `value` unless it has one already. -/
def setNew (b : Bindings α) (name : String) (value : α) : Bindings α :=
  match b.get? name with
  | some _ => b
  | none => b.set name value

/-- Reading back what was written: the written name has the new value, all others their old one. -/
theorem get?_set (b : Bindings α) (name : String) (value : α) (other : String) :
    (b.set name value).get? other = if name = other then some value else b.get? other := by
  induction b with
  | nil => simp [set, get?]
  | cons entry rest ih =>
    obtain ⟨key, old⟩ := entry
    by_cases hkey : key = name
    · subst hkey
      by_cases hother : key = other <;> simp [set, get?, hother]
    · by_cases hname : name = other
      · subst hname
        simp [set, get?, hkey, ih]
      · by_cases hk : key = other
        · subst hk
          simp [set, get?, hkey, hname]
        · simp [set, get?, hkey, hname, hk, ih]

end Bindings

end TouchScript
