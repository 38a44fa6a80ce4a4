import GraphQLTree.Text.FilePath

/-!
The arguments of a run, read from left to right: the first fault refuses them all, and a question
for the version or for help ends the reading.
-/
namespace GraphQLTree.Command

inductive Invocation
  | refused
  | version
  | help
  | commandHelp
  | helpHelp
  | idle (verbose : Bool)
  | coordinates (verbose : Bool) (extensions : List String) (paths : List FilePath)

namespace Invocation

def defaultExtensions : List String := ["graphql", "graphqls"]

def isOption (s : String) : Bool :=
  match s.toList with
  -- a lone dash is a path
  | '-' :: _ :: _ => true
  | _ => false

inductive Word
  | separator
  | help
  | extensions (attached : Option String)
  | path (p : FilePath)
  | refused

def extensionOption : List Char := "--graphql-file-exts".toList

def Word.ofArgument (s : String) : Word :=
  match s.toList with
  | [] => .refused
  | ['-', '-'] => .separator
  | '-' :: 'h' :: _ => .help
  | cs =>
    if cs = extensionOption then .extensions none
    else if (extensionOption ++ ['=']).isPrefixOf cs then
      .extensions (some (String.ofList (cs.drop (extensionOption.length + 1))))
    else if cs = "--help".toList then .help
    else if isOption s then .refused
    else .path ⟨s⟩

/-- What the command was given so far; no extensions are not the same as an empty list. -/
structure Progress where
  extensions : Option (List String)
  paths : List FilePath

namespace Progress

def addExtensions (p : Progress) (s : String) : Progress :=
  let more := (Text.splitOn ',' s.toList).map String.ofList
  { p with extensions := some (p.extensions.getD [] ++ more) }

def addPath (p : Progress) (path : FilePath) : Progress :=
  { p with paths := p.paths ++ [path] }

def finish (p : Progress) (verbose : Bool) : Invocation :=
  if p.paths.isEmpty then .refused
  else .coordinates verbose (p.extensions.getD defaultExtensions) p.paths

end Progress

def onlyPaths (verbose : Bool) (p : Progress) : List String → Invocation
  | [] => p.finish verbose
  | s :: args => if s.isEmpty then .refused else onlyPaths verbose (p.addPath ⟨s⟩) args

def ofCommandArguments (verbose : Bool) (p : Progress) : List String → Invocation
  | [] => p.finish verbose
  | s :: args =>
    match Word.ofArgument s with
    | .separator => onlyPaths verbose p args
    | .help => .commandHelp
    | .refused => .refused
    | .path path => ofCommandArguments verbose (p.addPath path) args
    | .extensions (some list) => ofCommandArguments verbose (p.addExtensions list) args
    | .extensions none =>
      match args with
      | [] => .refused
      | list :: args =>
        if isOption list then .refused else ofCommandArguments verbose (p.addExtensions list) args

def ofLetters (verbose : Bool) : List Char → Except Invocation Bool
  | [] => .ok verbose
  | 'v' :: cs => if verbose then .error .refused else ofLetters true cs
  | 'V' :: _ => .error .version
  | 'h' :: _ => .error .help
  | _ => .error .refused

def ofHelpArguments : List String → Invocation
  | [] => .help
  | ["coordinates"] => .commandHelp
  | ["help"] => .helpHelp
  | _ => .refused

def ofArguments (verbose : Bool) : List String → Invocation
  | [] => .idle verbose
  | "--" :: args => if args.isEmpty then .idle verbose else .refused
  | "--verbose" :: args => if verbose then .refused else ofArguments true args
  | "--version" :: _ => .version
  | "--help" :: _ => .help
  | "help" :: args => ofHelpArguments args
  | "coordinates" :: args => ofCommandArguments verbose ⟨none, []⟩ args
  | s :: args =>
    match s.toList with
    | '-' :: c :: cs =>
      match ofLetters verbose (c :: cs) with
      | .ok verbose => ofArguments verbose args
      | .error invocation => invocation
    | _ => .refused

end Invocation

end GraphQLTree.Command
