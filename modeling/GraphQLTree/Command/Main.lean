import GraphQLTree.Command.Run

namespace GraphQLTree.Command

def handle (p : FilePath) :=
  (IO.FS.DirEntry.mk p.text "").root

def nameTooLongCode : UInt32 := 36

def failureReason : IO.Error → String
  | .noFileOrDirectory _ _ _ => FileTree.Dead.notFound.reason
  | .inappropriateType _ _ _ => FileTree.Dead.notDirectory.reason
  | .invalidArgument _ code details =>
    -- the code comes with either sign
    if code = nameTooLongCode ∨ code = 0 - nameTooLongCode then FileTree.Dead.nameTooLong.reason
    else details
  | .permissionDenied _ _ _ => "Permission denied (os error 13)"
  | e => toString e

partial def visitsFrom (p : FilePath) : IO (List Visit) := do
  try
    match (← (handle p).metadata).type with
    | .file => return [.file p]
    | .dir =>
      let entries ← (handle p).readDir
      let names := entries.toList.map (·.fileName) |>.mergeSort (fun a b => a ≤ b)
      let below ← names.mapM fun name => visitsFrom (p.join name)
      return .other p :: below.flatten
    | _ => return [.other p]
  catch e => return [.failure p (failureReason e)]

def searchFrom (p : FilePath) : IO Search := do
  let visits ← visitsFrom p
  let isFile := match visits with
    | [.file _] => true
    | _ => false
  return ⟨p, isFile, visits⟩

def readFrom (p : FilePath) : IO (Except String String) := do
  try return decodeText (← IO.FS.readBinFile (handle p))
  catch e => return .error (failureReason e)

def outcome (invocation : Invocation) (setting : Option String) : IO Outcome := do
  match invocation with
  | .coordinates verbose extensions paths =>
    let d := Discovery.ofSearches extensions (← paths.mapM searchFrom)
    let reports ← d.files.mapM fun p => return FileReport.ofText refusal p (← readFrom p)
    return .ofCommand verbose setting d reports
  | quiet => return .ofQuiet quiet setting

def present (o : Outcome) : IO UInt32 := do
  for l in o.log do
    IO.eprintln (l.level.label ++ " " ++ l.source.label ++ ": " ++ l.message)
  IO.print o.output
  IO.eprint o.complaints
  return UInt32.ofNat o.exit

end GraphQLTree.Command

open GraphQLTree.Command in
def main (arguments : List String) : IO UInt32 := do
  let setting ← IO.getEnv "LOG_LEVEL"
  present (← outcome (.ofArguments false arguments) setting)
