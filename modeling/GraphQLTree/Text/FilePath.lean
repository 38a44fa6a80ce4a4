import GraphQLTree.Text.Escape
import GraphQLTree.Text.Split

namespace GraphQLTree

structure FilePath where
  text : String
deriving Repr

namespace FilePath

inductive Component
  | root
  | current
  | parent
  | named (name : List Char)
deriving DecidableEq, Repr

def Component.ofPiece? : List Char → Option Component
  | [] => none
  | ['.'] => none
  | ['.', '.'] => some .parent
  | name => some (.named name)

/-- A slash or a single dot counts only at the start; after it repeated and trailing slashes and
single dots say nothing. -/
def components (p : FilePath) : List Component :=
  match Text.splitOn '/' p.text.toList with
  | [] :: piece :: pieces => .root :: (piece :: pieces).filterMap Component.ofPiece?
  | ['.'] :: pieces => .current :: pieces.filterMap Component.ofPiece?
  | pieces => pieces.filterMap Component.ofPiece?

instance : BEq FilePath := ⟨fun p q => p.components == q.components⟩

theorem beq_iff {p q : FilePath} : (p == q) = true ↔ p.components = q.components := by
  change (p.components == q.components) = true ↔ _
  exact beq_iff_eq

def fileName? (p : FilePath) : Option (List Char) :=
  match p.components.getLast? with
  | some (.named name) => some name
  | _ => none

def extensionOf? (name : List Char) : Option (List Char) :=
  if '.' ∈ name.drop 1 then some (name.reverse.takeWhile (· ≠ '.')).reverse else none

def extension? (p : FilePath) : Option (List Char) :=
  p.fileName?.bind extensionOf?

def join (p : FilePath) (name : String) : FilePath :=
  if p.text.isEmpty || p.text.back == '/' then ⟨p.text ++ name⟩ else ⟨p.text ++ "/" ++ name⟩

def quoted (p : FilePath) : String :=
  String.ofList (Text.quote p.text.toList)

end FilePath

end GraphQLTree
