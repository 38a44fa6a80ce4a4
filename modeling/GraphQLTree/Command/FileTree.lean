import GraphQLTree.Command.Discovery
import GraphQLTree.Text.Offset

namespace GraphQLTree.Command

variable {α : Type}

mutual

inductive FileTree (α : Type)
  | file (content : α)
  | directory (entries : List (FileEntry α))
  | special

structure FileEntry (α : Type) where
  name : String
  tree : FileTree α

end

namespace FileTree

inductive Dead
  | notFound
  | notDirectory
  | nameTooLong
deriving DecidableEq, Repr

def Dead.reason : Dead → String
  | notFound => "No such file or directory (os error 2)"
  | notDirectory => "Not a directory (os error 20)"
  | nameTooLong => "File name too long (os error 36)"

def nameLimit : Nat := 255

def pathLimit : Nat := 4095

def isFile : FileTree α → Bool
  | file _ => true
  | _ => false

def entry (entries : List (FileEntry α)) (name : List Char) : Except Dead (FileTree α) :=
  if nameLimit < Text.byteLength name then .error .nameTooLong
  else
    match entries.find? (·.name.toList == name) with
    | some e => .ok e.tree
    | none => .error .notFound

/-- Follows the pieces of a path; `above` are the directories on the way, the nearest first. -/
def follow (above : List (FileTree α)) (here : FileTree α) : List (List Char) → Except Dead (FileTree α)
  | [] => .ok here
  | piece :: pieces =>
    match here with
    | directory entries =>
      if piece = [] ∨ piece = ['.'] then follow above here pieces
      else if piece = ['.', '.'] then
        match above with
        | [] => .error .notFound
        | parent :: above => follow above parent pieces
      else
        match entry entries piece with
        | .ok below => follow (here :: above) below pieces
        | .error dead => .error dead
    | _ => .error .notDirectory

def outside : FileTree α :=
  .directory [⟨"dev", .directory [⟨"null", .special⟩]⟩]

def find (t : FileTree α) (p : FilePath) : Except Dead (FileTree α) :=
  let pieces := Text.splitOn '/' p.text.toList
  if pathLimit < Text.byteLength p.text.toList then .error .nameTooLong
  else
    match p.components with
    -- all that is known of the places outside the tree is that there is a null device
    | .root :: _ => follow [] outside pieces
    | _ => follow [] t pieces

mutual

def visits (p : FilePath) : FileTree α → List Visit
  | .file _ => [.file p]
  | .special => [.other p]
  | .directory entries =>
    .other p :: ((entryVisits p entries).mergeSort (fun a b => a.1 ≤ b.1)).flatMap (·.2)

def entryVisits (p : FilePath) : List (FileEntry α) → List (String × List Visit)
  | [] => []
  | ⟨name, t⟩ :: entries => (name, t.visits (p.join name)) :: entryVisits p entries

end

def search (t : FileTree α) (p : FilePath) : Search :=
  match t.find p with
  | .ok found => ⟨p, found.isFile, found.visits p⟩
  | .error dead => ⟨p, false, [.failure p dead.reason]⟩

def read (t : FileTree ByteArray) (p : FilePath) : Except String String :=
  match t.find p with
  | .ok (.file bytes) => decodeText bytes
  | .ok _ => .error "Is a directory (os error 21)"
  | .error dead => .error dead.reason

/-- Puts a tree at the end of a way of names, on which directories are made where there are none;
an empty directory does not replace one. -/
def insert (leaf : FileTree α) : List String → List (FileEntry α) → List (FileEntry α)
  | [], entries => entries
  | name :: names, entries =>
    let others := entries.filter (·.name != name)
    let below := match entries.find? (·.name == name) with
      | some ⟨_, .directory below⟩ => below
      | _ => []
    match names, leaf with
    | [], .directory [] => ⟨name, .directory below⟩ :: others
    | [], leaf => ⟨name, leaf⟩ :: others
    | names, leaf => ⟨name, .directory (insert leaf names below)⟩ :: others

def ofPlaces (places : List (List String × FileTree α)) : FileTree α :=
  .directory (places.foldl (fun entries (names, leaf) => insert leaf names entries) [])

end FileTree

end GraphQLTree.Command
