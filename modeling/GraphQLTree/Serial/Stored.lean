import GraphQLTree.Serial.Data
import GraphQLTree.Text.Position
import GraphQLTree.Tree.Kind
import GraphQLTree.Tree.OperationType

/-!
The stored forms of kinds, operations and locations. A structure is written as a record; it is
also read from the list of exactly its parts, and from a record with more entries.
-/
namespace GraphQLTree

def Kind.toData (k : Kind) : Data :=
  .text k.label

def Kind.ofData? (d : Data) : Option Kind :=
  d.alternative?.bind Kind.ofLabel?

def OperationType.toData (o : OperationType) : Data :=
  .text o.label

def OperationType.ofData? (d : Data) : Option OperationType :=
  d.alternative?.bind OperationType.ofLabel?

namespace Position

def toData (p : Position) : Data :=
  .record [("line", .integer p.line), ("column", .integer p.column), ("byte_offset", .integer p.byteOffset)]

def ofParts? (line column byteOffset : Data) : Option Position := do
  return ⟨← line.word?, ← column.word?, ← byteOffset.word?⟩

def ofData? : Data → Option Position
  | .record entries => do
    ofParts? (← Data.lookup? "line" entries) (← Data.lookup? "column" entries)
      (← Data.lookup? "byte_offset" entries)
  | .list [line, column, byteOffset] => ofParts? line column byteOffset
  | _ => none

theorem ofData?_toData {p : Position} (hl : p.line < UInt64.size) (hc : p.column < UInt64.size)
    (hb : p.byteOffset < UInt64.size) : ofData? p.toData = some p := by
  simp [toData, ofData?, ofParts?, Data.lookup?, Data.word?_integer hl, Data.word?_integer hc,
    Data.word?_integer hb]

end Position

namespace Location

def fileToData : Option FilePath → Data
  | none => .null
  | some p => .text p.text

def fileOfData? : Data → Option (Option FilePath)
  | .null => some none
  | .text s => some (some ⟨s⟩)
  | _ => none

def toData (l : Location) : Data :=
  .record [("start_inclusive", l.start.toData), ("end_exclusive", l.stop.toData),
    ("file_path", fileToData l.file)]

def ofParts? (start stop file : Data) : Option Location := do
  return ⟨← Position.ofData? start, ← Position.ofData? stop, ← fileOfData? file⟩

/-- A record may lack the file. -/
def ofData? : Data → Option Location
  | .record entries => do
    ofParts? (← Data.lookup? "start_inclusive" entries) (← Data.lookup? "end_exclusive" entries)
      ((Data.lookup? "file_path" entries).getD .null)
  | .list [start, stop, file] => ofParts? start stop file
  | _ => none

theorem fileOfData?_fileToData (f : Option FilePath) : fileOfData? (fileToData f) = some f := by
  cases f <;> rfl

end Location

end GraphQLTree
