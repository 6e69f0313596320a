/-! Values by name, in the order in which the names came. -/
namespace KeyedImages.Members

variable {α : Type} {name other : String} {a : α} {ms : List (String × α)}

def get? (name : String) : List (String × α) → Option α
  | [] => none
  | (n, a) :: ms => if n = name then some a else get? name ms

/-- Sets the value of a name, at its place if it has one. -/
def put (name : String) (a : α) : List (String × α) → List (String × α)
  | [] => [(name, a)]
  | (n, b) :: ms => if n = name then (n, a) :: ms else (n, b) :: put name a ms

def erase (name : String) (ms : List (String × α)) : List (String × α) := ms.filter (·.1 ≠ name)

@[simp] theorem get?_put : get? name (put name a ms) = some a := by
  induction ms with
  | nil => simp [put, get?]
  | cons m ms ih =>
    obtain ⟨n, b⟩ := m
    by_cases h : n = name <;> simp [put, get?, h, ih]

theorem get?_put_of_ne (h : other ≠ name) : get? other (put name a ms) = get? other ms := by
  induction ms with
  | nil => simp [put, get?, h.symm]
  | cons m ms ih =>
    obtain ⟨n, b⟩ := m
    by_cases hn : n = name
    · simp [put, get?, hn, h.symm]
    · simp [put, get?, hn, ih]

end KeyedImages.Members
