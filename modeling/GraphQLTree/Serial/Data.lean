namespace GraphQLTree

inductive Data
  | null
  | bool (b : Bool)
  | integer (n : Int)
  | real
  | text (s : String)
  | list (items : List Data)
  | record (entries : List (String × Data))
deriving Inhabited

namespace Data

def word? : Data → Option Nat
  | integer (.ofNat n) => if n < UInt64.size then some n else none
  | _ => none

theorem word?_integer {n : Nat} (h : n < UInt64.size) : word? (.integer n) = some n :=
  if_pos h

/-- A named alternative without contents: its name, or a record of its name and null. -/
def alternative? : Data → Option String
  | text s => some s
  | record [(s, null)] => some s
  | _ => none

def lookup? (key : String) (entries : List (String × Data)) : Option Data :=
  (entries.find? (·.1 == key)).map (·.2)

end Data

end GraphQLTree
