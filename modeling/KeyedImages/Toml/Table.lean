import KeyedImages.Members
import KeyedImages.Toml.Value

/-! Tables of a TOML document that is being read: which names may still be given to them. -/
namespace KeyedImages.Toml

/-- How a table came about. -/
inductive Standing
  /-- By its own header, or as the whole document. -/
  | declared
  /-- By the header of a table inside it. -/
  | implied
  /-- By a key of several parts. -/
  | dotted
  deriving DecidableEq, Repr

/-- What a name stands for: a value, a table that may grow, or such tables one after the other. -/
inductive Item
  | value (v : Value)
  | table (standing : Standing) (members : List (String × Item))
  | tables (all : List (List (String × Item)))

structure Table where
  standing : Standing
  members : List (String × Item)

namespace Table

variable {α : Type}

def get? (t : Table) (name : String) : Option Item := Members.get? name t.members

def put (t : Table) (name : String) (item : Item) : Table :=
  { t with members := Members.put name item t.members }

/-- Works on the table at a path. Missing tables on the way come about as `made`; of several tables
under one name the last is meant, and `made` also says whether tables with a header may be on the
way. -/
def descend (made : Standing) (work : Table → Option (α × Table)) :
    List String → Table → Option (α × Table)
  | [], t => work t
  | name :: path, t =>
    match t.get? name with
    | none => do
      let (a, inner) ← descend made work path ⟨made, []⟩
      pure (a, t.put name (.table inner.standing inner.members))
    | some (.table standing members) => do
      guard (made ≠ .dotted ∨ standing ≠ .declared)
      let (a, inner) ← descend made work path ⟨standing, members⟩
      pure (a, t.put name (.table inner.standing inner.members))
    | some (.tables all) => do
      let (a, inner) ← descend made work path ⟨.declared, ← all.getLast?⟩
      pure (a, t.put name (.tables (all.dropLast ++ [inner.members])))
    | some (.value _) => none

/-- Gives a value to a new name. A key of several parts ends in a table that came about by such a
key, and a key of one part in a table that did not. -/
def assign (path : List String) (name : String) (v : Value) (t : Table) : Option Table :=
  (·.2) <$> descend .dotted give path t
where
  give (inner : Table) : Option (Unit × Table) := do
    guard ((inner.standing = .dotted) = (path ≠ []))
    guard (inner.get? name).isNone
    pure ((), inner.put name (.value v))

/-- Takes the table at a name out, so that its header can declare it. Only a table that was implied
can be declared. -/
def takeImplied (name : String) (t : Table) : Option (Table × Table) :=
  match t.get? name with
  | none => some (⟨.declared, []⟩, t)
  | some (.table .implied members) =>
    some (⟨.declared, members⟩, { t with members := Members.erase name t.members })
  | _ => none

def putTable (name : String) (inner : Table) (t : Table) : Option (Unit × Table) :=
  some ((), t.put name (.table inner.standing inner.members))

/-- Makes room for tables under one name. -/
def openTables (name : String) (t : Table) : Option (Unit × Table) :=
  match t.get? name with
  | none => some ((), t.put name (.tables []))
  | some (.tables _) => some ((), t)
  | _ => none

/-- Adds a table to those under one name. -/
def appendTable (name : String) (inner : Table) (t : Table) : Option (Unit × Table) :=
  match t.get? name with
  | none => some ((), t.put name (.tables [inner.members]))
  | some (.tables all) => some ((), t.put name (.tables (all ++ [inner.members])))
  | _ => none

end Table

mutual

/-- The value of a name when nothing more is added. -/
def Item.close : Item → Value
  | .value v => v
  | .table _ members => .table (closeMembers members)
  | .tables all => .array (closeAll all)

def closeMembers : List (String × Item) → List (String × Value)
  | [] => []
  | (name, item) :: ms => (name, item.close) :: closeMembers ms

def closeAll : List (List (String × Item)) → List Value
  | [] => []
  | ms :: all => .table (closeMembers ms) :: closeAll all

end

end KeyedImages.Toml
