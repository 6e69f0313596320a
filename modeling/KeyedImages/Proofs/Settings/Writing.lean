import KeyedImages.Settings.Path

/-! What stands under a name after values were written into a tree: only entries of that name have a
say in it. -/
namespace KeyedImages.Settings

namespace Tree

variable {t v : Tree} {name other : String}

@[simp] theorem get?_put : (t.put name v).get? name = some v := Members.get?_put

theorem get?_put_of_ne (h : other ≠ name) : (t.put name v).get? other = t.get? other :=
  Members.get?_put_of_ne h

/-- What a value becomes when it is written over what is there. -/
def overlay (old : Option Tree) : Tree → Tree
  | table _ members => (old.getD empty).assignAll members
  | v => v

theorem assign_eq (t : Tree) (name : String) (v : Tree) :
    t.assign name v = t.put (lower name) (overlay (t.get? (lower name)) v) := by
  cases v <;> simp only [assign, overlay]

theorem get?_assign : (t.assign name v).get? other =
    if lower name = other then some (overlay (t.get? other) v) else t.get? other := by
  rw [assign_eq]
  split
  · next h => rw [h, get?_put]
  · next h => exact get?_put_of_ne (Ne.symm h)

theorem get?_assignAll (members : List (String × Tree)) :
    (t.assignAll members).get? other =
      (members.filter fun m => lower m.1 = other).foldl (fun old m => some (overlay old m.2))
        (t.get? other) := by
  induction members generalizing t with
  | nil => rw [assignAll, List.filter_nil, List.foldl_nil]
  | cons m members ih =>
    obtain ⟨name, v⟩ := m
    rw [assignAll, ih, get?_assign]
    by_cases h : lower name = other
    · simp [h]
    · simp [h]

/-- What a name stands for after a value was written at steps behind it. -/
def stepped (old : Option Tree) (v : Tree) : List Step → Tree
  | [] => overlay old v
  | second :: rest => (old.getD nil).write v second rest

theorem get?_set {path : Path} : (t.set path v).get? other =
    if lower path.first = other then some (stepped (t.get? other) v path.rest)
    else t.get? other := by
  obtain ⟨first, rest⟩ := path
  unfold set
  cases rest with
  | nil =>
    rw [write, get?_assign]
    rfl
  | cons second rest =>
    rw [write]
    dsimp only
    split
    · next h => rw [h, get?_put, stepped]
    · next h => exact get?_put_of_ne (Ne.symm h)

/-- Whether an entry has its place under a name. -/
def under (name : String) (entry : String × Tree) : Bool :=
  lower (Path.ofName entry.1).first = name

theorem get?_setAll (entries : List (String × Tree)) :
    (t.setAll entries).get? other =
      (entries.filter (under other)).foldl
        (fun old e => some (stepped old e.2 (Path.ofName e.1).rest)) (t.get? other) := by
  induction entries generalizing t with
  | nil => rfl
  | cons e entries ih =>
    rw [setAll, List.foldl_cons, ← setAll, ih, get?_set]
    by_cases h : lower (Path.ofName e.1).first = other
    · simp [under, h]
    · simp [under, h]

theorem setAll_append (xs ys : List (String × Tree)) :
    t.setAll (xs ++ ys) = (t.setAll xs).setAll ys :=
  List.foldl_append

/-- A setting: the member of a group. -/
def member? (t : Tree) (group name : String) : Option Tree :=
  (t.get? group).bind (·.get? name)

/-- Whether a name stands for a group. -/
def IsGroup (t : Tree) (group : String) : Prop :=
  ∃ origin members, t.get? group = some (table origin members)

theorem isTable_assign (t : Tree) (name : String) (v : Tree) :
    ∃ origin members, t.assign name v = table origin members := by
  rw [assign_eq]
  exact ⟨_, _, rfl⟩

theorem isTable_assignAll (members : List (String × Tree))
    (h : ∃ origin ms, t = table origin ms) :
    ∃ origin ms, t.assignAll members = table origin ms := by
  induction members generalizing t with
  | nil => rwa [assignAll]
  | cons m members ih =>
    rw [assignAll]
    exact ih (isTable_assign t m.1 m.2)

end Tree

end KeyedImages.Settings
