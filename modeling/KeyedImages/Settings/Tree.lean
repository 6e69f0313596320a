import KeyedImages.Members

/-! Trees of settings before their meaning is known. Later layers are written over earlier ones. -/
namespace KeyedImages.Settings

inductive Scalar
  | nil
  | boolean (b : Bool)
  | integer (i : Int)
  | float (f : Float)
  | string (s : String)

/-- A value, with the name of the place where it was found if it has one. Tables that came about
while layers were joined have none. -/
inductive Tree
  | scalar (origin : Option String) (value : Scalar)
  | array (origin : Option String) (items : List Tree)
  | table (origin : Option String) (members : List (String × Tree))

/-- A character in lower case. Names of settings are ASCII; besides their letters only the Kelvin
sign has a lower-case form that is one of them. -/
def lowerChar (c : Char) : Char := if c = '\u212a' then 'k' else c.toLower

/-- A name in lower case. -/
def lower (s : String) : String := String.ofList (s.toList.map lowerChar)

namespace Tree

def nil : Tree := scalar none .nil

def empty : Tree := table none []

def string (s : String) : Tree := scalar none (.string s)

/-- The same value where it is a table, and an empty table otherwise. -/
def toTable : Tree → Option String × List (String × Tree)
  | table origin members => (origin, members)
  | _ => (none, [])

def toArray : Tree → Option String × List Tree
  | array origin items => (origin, items)
  | _ => (none, [])

def get? (t : Tree) (name : String) : Option Tree := Members.get? name t.toTable.2

/-- Sets a member. What is no table becomes one. -/
def put (t : Tree) (name : String) (v : Tree) : Tree :=
  let (origin, members) := t.toTable
  table origin (Members.put name v members)

mutual

/-- Writes a value under a name. A table is written member by member over what is there; an empty
one changes nothing but that there is something. -/
def assign (t : Tree) (name : String) : Tree → Tree
  | table _ members => t.put (lower name) (assignAll ((t.get? (lower name)).getD empty) members)
  | v => t.put (lower name) v

def assignAll (t : Tree) : List (String × Tree) → Tree
  | [] => t
  | (name, v) :: members => assignAll (t.assign name v) members

end

/-- The position that an index names among a number of items. A negative one counts from the end.
One that counts back beyond the first item names none, and writing there breaks off; here it is
taken for the first. -/
def position (length : Nat) : Int → Nat
  | .ofNat i => i
  | .negSucc i => length - (i + 1)

/-- Changes an item. What is no array becomes one, and is filled up as far as needed. -/
def change (t : Tree) (index : Int) (f : Tree → Tree) : Tree :=
  let (origin, items) := t.toArray
  let i := position items.length index
  let items := items ++ List.replicate (i + 1 - items.length) nil
  array origin (items.modify i f)

end Tree

end KeyedImages.Settings
