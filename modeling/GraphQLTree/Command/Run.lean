import GraphQLTree.Command.Collector
import GraphQLTree.Command.FileTree
import GraphQLTree.Command.Invocation
import GraphQLTree.Source.Parse

/-!
A run of the program: what it prints, what it tells about itself, and whether it went well. The
files are searched and read outside; all that follows from what was found there is decided here.
-/
namespace GraphQLTree.Command

inductive RunFault
  | search (fault : SearchFault)
  | unreadable (p : FilePath) (reason : String)
  | unparsed (p : FilePath) (e : ParseError) (said : String)
  | noCoordinate (p : FilePath) (e : TreeError)
  | noFiles

/-- A parse error and its cause, where `said` is what the parser says of the text. -/
def parseErrorCauses (said : String) : ParseError → List String
  | .schema => ["Failed to parse schema document: " ++ said, said]
  | .executable => ["Failed to parse executable document: " ++ said, said]
  | .splitCharacter => [said]
  | .tree e => ["Failed to convert parsed document: " ++ e.message, e.message]

namespace RunFault

/-- A fault and what caused it, the outermost first. -/
def causes : RunFault → List String
  | search f => ["IO error for operation on " ++ f.place.text ++ ": " ++ f.reason, f.reason]
  | unreadable p reason => ["Failed to read " ++ p.text, reason]
  | unparsed p e said => ("Failed to parse " ++ p.text) :: parseErrorCauses said e
  | noCoordinate p e => ["Failed to build a coordinate in " ++ p.text, e.message]
  | noFiles => ["No GraphQL files found at or under the given paths."]

def entry (f : RunFault) : String :=
  "\u274C " ++ String.intercalate ": " f.causes

end RunFault

structure CommandResult where
  success : Bool
  output : Option String
  complaint : Option String

structure FileReport where
  result : Except RunFault (List String)
  log : List LogLine

namespace FileReport

def createdLine? (c : Collected) : Option LogLine :=
  if c.coordinate.ofDirective then none
  else some ⟨.trace, .navigator, "Created schema coordinate `" ++ c.coordinate.render ++
    "` from a path of " ++ toString c.depth ++ " nodes."⟩

def ofDocument (p : FilePath) (d : Document) : FileReport :=
  let parsed : LogLine :=
    ⟨.debug, .parser, "Parsed schema document with " ++ toString d.definitions.length ++ " definitions."⟩
  match Collector.collect d with
  | .error e => ⟨.error (.noCoordinate p e), [parsed]⟩
  | .ok collected =>
    let done : LogLine :=
      ⟨.debug, .coordinates, "Collected " ++ toString collected.length ++ " coordinates from " ++
        p.quoted ++ "."⟩
    ⟨.ok (collected.map (·.coordinate.render)), parsed :: collected.filterMap createdLine? ++ [done]⟩

def ofText (said : String → String) (p : FilePath) (text : Except String String) : FileReport :=
  match text with
  | .error reason => ⟨.error (.unreadable p reason), []⟩
  | .ok text =>
    match Document.parseSchema text with
    | .error e => ⟨.error (.unparsed p e (said text)), []⟩
    | .ok d => ofDocument p d

def coordinates (r : FileReport) : List String :=
  match r.result with
  | .ok cs => cs
  | .error _ => []

def fault? (r : FileReport) : Option RunFault :=
  match r.result with
  | .ok _ => none
  | .error f => some f

def breaksOff (r : FileReport) : Bool :=
  match r.result with
  | .error (.unparsed _ .splitCharacter _) => true
  | _ => false

end FileReport

namespace CommandResult

def failed (complaint : String) : CommandResult :=
  ⟨false, none, some complaint⟩

def succeeded (output : String) : CommandResult :=
  ⟨true, some output, none⟩

def failedWithOutput (output complaint : String) : CommandResult :=
  ⟨false, if output.isEmpty then none else some output, some complaint⟩

def ofReports (faults : List SearchFault) (reports : List FileReport) : CommandResult :=
  let output := String.intercalate "\n" (reports.flatMap (·.coordinates))
  let faults := faults.map .search ++ reports.filterMap (·.fault?)
  -- without a fault the output is there even if it is empty
  if faults.isEmpty then succeeded output
  else failedWithOutput output (String.intercalate "\n" (faults.map (·.entry)))

def ofDiscovery (d : Discovery) (reports : List FileReport) : CommandResult :=
  if d.files.isEmpty && d.faults.isEmpty then failed RunFault.noFiles.entry
  else ofReports d.faults reports

/-- A run that breaks off at a file has no result. -/
def ofDiscovery? (d : Discovery) (reports : List FileReport) : Option CommandResult :=
  if reports.any (·.breaksOff) then none else some (ofDiscovery d reports)

end CommandResult

structure Outcome where
  exit : Nat
  output : String
  complaints : String
  log : List LogLine

/-- The words on any text that the grammar refuses; it tells only that it does. -/
def refusal (_ : String) : String :=
  "schema parse error"

namespace Outcome

def usage : List String :=
  ["Usage: graphql [OPTIONS] [COMMAND]",
    "",
    "Commands:",
    "  coordinates  Print the schema coordinate of every type, field, argument, enum value, input field and directive defined in the given files",
    "  help         Print this message or the help of the given subcommand(s)",
    "",
    "Options:",
    "  -v, --verbose  Enable verbose (debug) output. Without it, the log level is read from the LOG_LEVEL env var (error, warn, info, debug or trace) and defaults to info.",
    "  -h, --help     Print help",
    "  -V, --version  Print version"]

def commandUsage : List String :=
  ["Print the schema coordinate of every type, field, argument, enum value, input field and directive defined in the given files",
    "",
    "Usage: graphql coordinates [OPTIONS] <FILE_OR_DIR_PATHS>...",
    "",
    "Arguments:",
    "  <FILE_OR_DIR_PATHS>...  Paths to one or more GraphQL schema files or directories containing GraphQL schema files.",
    "",
    "Options:",
    "      --graphql-file-exts <GRAPHQL_FILE_EXTS>  Set of file extensions to filter to when searching for files within a directory. [default: graphql graphqls]",
    "  -h, --help                                   Print help"]

def helpUsage : List String :=
  ["Print this message or the help of the given subcommand(s)",
    "",
    "Usage: graphql help [COMMAND]...",
    "",
    "Arguments:",
    "  [COMMAND]...  Print help for the subcommand(s)"]

def line (s : String) : String :=
  s ++ "\n"

def lines (ls : List String) : String :=
  line (String.intercalate "\n" ls)

def start (verbose : Bool) (setting : Option String) : LogLevel × List LogLine :=
  let told (level : LogLevel) : LogLine :=
    ⟨.trace, .program, "Initial logging level set to `" ++ level.label ++ "`."⟩
  if verbose then (.debug, [told .debug])
  else
    match LogLevel.ofSetting setting with
    | .ok level => (level, [told level])
    | .error text =>
      (.default, [told .default,
        ⟨.warn, .program, "Invalid `LOG_LEVEL` environment variable value: `" ++ text ++ "`"⟩])

def shown (level : LogLevel) (log : List LogLine) : List LogLine :=
  (log.filter (level.shows ·.level)).map (·.tame)

/-- A run that broke off at a file tells only what it did before; what it had found is lost. -/
def ofCommand (verbose : Bool) (setting : Option String) (d : Discovery) (reports : List FileReport) :
    Outcome :=
  let (level, first) := start verbose setting
  let found : LogLine :=
    ⟨.debug, .coordinates, "Found " ++ toString d.files.length ++ " GraphQL files to collect coordinates from."⟩
  let told (reports : List FileReport) : List LogLine :=
    shown level (first ++ d.log ++ [found] ++ reports.flatMap (·.log))
  match CommandResult.ofDiscovery? d reports with
  | none => ⟨101, "", "", told (reports.takeWhile (!·.breaksOff))⟩
  | some result =>
    ⟨if result.success then 0 else 1, result.output.elim "" line, result.complaint.elim "" line, told reports⟩

def ofQuiet (invocation : Invocation) (setting : Option String) : Outcome :=
  match invocation with
  | .version => ⟨0, line "graphql 0.1.1", "", []⟩
  | .help => ⟨0, lines usage, "", []⟩
  | .commandHelp => ⟨0, lines commandUsage, "", []⟩
  | .helpHelp => ⟨0, lines helpUsage, "", []⟩
  | .idle verbose =>
    let (level, first) := start verbose setting
    ⟨0, lines usage, "", shown level first⟩
  | _ => ⟨2, "", "", []⟩

/-- A run with the given arguments and level setting, where `search` looks at a path, `read` gives the
text of a file, and `said` the parser's words on a text that it does not take. -/
def ofRun (said : String → String) (arguments : List String) (setting : Option String)
    (search : FilePath → Search) (read : FilePath → Except String String) : Outcome :=
  match Invocation.ofArguments false arguments with
  | .coordinates verbose extensions paths =>
    let d := Discovery.ofSearches extensions (paths.map search)
    ofCommand verbose setting d (d.files.map fun p => FileReport.ofText said p (read p))
  | quiet => ofQuiet quiet setting

def ofTree (arguments : List String) (setting : Option String) (t : FileTree ByteArray) : Outcome :=
  ofRun refusal arguments setting t.search t.read

end Outcome

end GraphQLTree.Command
