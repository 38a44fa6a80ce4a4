import GraphQLTree.Command.Log
import GraphQLTree.Text.FilePath

namespace GraphQLTree.Command

inductive Visit
  | file (p : FilePath)
  | other (p : FilePath)
  | failure (p : FilePath) (reason : String)

structure Search where
  root : FilePath
  rootIsFile : Bool
  visits : List Visit

structure SearchFault where
  place : FilePath
  reason : String

structure Discovery where
  files : List FilePath
  faults : List SearchFault
  log : List LogLine

def decodeText (bytes : ByteArray) : Except String String :=
  match String.fromUTF8? bytes with
  | some text => .ok text
  | none => .error "stream did not contain valid UTF-8"

namespace Discovery

def bareExtension (s : String) : String :=
  String.ofList (s.toList.dropWhile (· == '.'))

def wants (extensions : List String) (p : FilePath) : Bool :=
  match p.extension? with
  | some e => extensions.contains (String.ofList e)
  | none => false

def line (level : LogLevel) (message : String) : LogLine :=
  ⟨level, .coordinates, message⟩

def selected (extensions : List String) : Visit → Option FilePath
  | .file p => if wants extensions p then some p else none
  | _ => none

def fault? : Visit → Option SearchFault
  | .failure p reason => some ⟨p, reason⟩
  | _ => none

def visitLine (root : FilePath) : Visit → LogLine
  | .other p => line .trace ("Skipping non-file: " ++ p.quoted ++ ".")
  | .file p => line .trace ("Found file at " ++ p.quoted ++ ".")
  | .failure _ _ =>
    line .trace ("Encountered an error while iterating recursive filesystem entities at/under " ++
      root.quoted ++ ".")

def extensionList (extensions : List String) : String :=
  let quoted := extensions.eraseDups.map fun e => Text.tame ("`" ++ e ++ "`")
  String.intercalate ", " (quoted.mergeSort (fun a b => a ≤ b))

def fallbackLine (extensions : List String) (p : FilePath) : LogLine :=
  line .warn ("Proceeding to read " ++ p.quoted ++ " even though it doesn't match any of the " ++
    "--graphql-file-exts (" ++ extensionList extensions ++ ").")

/-- A file that was named on its own is read whatever its extension. -/
def fallback? (searches : List Search) (files : List FilePath) : Option FilePath :=
  match searches, files with
  | [search], [] => if search.rootIsFile then some search.root else none
  | _, _ => none

def ofSearches (given : List String) (searches : List Search) : Discovery :=
  let extensions := given.map bareExtension
  let files := searches.flatMap fun s => s.visits.filterMap (selected extensions)
  let faults := searches.flatMap fun s => s.visits.filterMap fault?
  let log := line .debug ("Scanning " ++ toString searches.length ++ " input paths...") ::
    searches.flatMap fun s => s.visits.map (visitLine s.root)
  match fallback? searches files with
  | some p => ⟨[p], faults, log ++ [fallbackLine extensions p]⟩
  | none => ⟨files, faults, log⟩

end Discovery

end GraphQLTree.Command
