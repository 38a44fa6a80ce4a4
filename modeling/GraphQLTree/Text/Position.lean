import GraphQLTree.Text.FilePath

namespace GraphQLTree

/-- A place in a text, all parts counted from 0: newlines before it, characters since the last
newline, bytes before it. -/
structure Position where
  line : Nat
  column : Nat
  byteOffset : Nat
deriving DecidableEq, Repr

structure Location where
  start : Position
  stop : Position
  file : Option FilePath
deriving BEq, Repr

namespace Location

def point (p : Position) : Location :=
  ⟨p, p, none⟩

def length (l : Location) : Nat :=
  l.stop.byteOffset - l.start.byteOffset

def isEmpty (l : Location) : Bool :=
  l.length == 0

theorem isEmpty_point (p : Position) : (Location.point p).isEmpty = true := by
  simp [Location.point, isEmpty, length]

end Location

end GraphQLTree
