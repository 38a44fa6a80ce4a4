import GraphQLTree.Text.Blank
import GraphQLTree.Text.Escape

namespace GraphQLTree.Command

inductive LogLevel
  | error
  | warn
  | info
  | debug
  | trace
deriving DecidableEq, Repr

inductive LogSource
  | program
  | coordinates
  | parser
  | navigator
deriving DecidableEq, Repr

structure LogLine where
  level : LogLevel
  source : LogSource
  message : String
deriving DecidableEq, Repr

def LogLine.tame (l : LogLine) : LogLine :=
  { l with message := Text.tame l.message }

def LogSource.label : LogSource → String
  | program => "graphql"
  | coordinates => "graphql::commands::coordinates"
  | parser => "libgraphql_syntax::compat_graphql_parser_v0_4::parse"
  | navigator => "libgraphql_syntax::syntax_navigator"

namespace LogLevel

def default : LogLevel := .info

def label : LogLevel → String
  | error => "ERROR"
  | warn => "WARN"
  | info => "INFO"
  | debug => "DEBUG"
  | trace => "TRACE"

/-- The most severe level is 1; these are also the numerals that stand for the levels. -/
def rank : LogLevel → Nat
  | error => 1
  | warn => 2
  | info => 3
  | debug => 4
  | trace => 5

def all : List LogLevel :=
  [.error, .warn, .info, .debug, .trace]

def shows (shown l : LogLevel) : Bool :=
  l.rank ≤ shown.rank

def ofRank? (n : Nat) : Option LogLevel :=
  all.find? (·.rank == n)

def count? (cs : List Char) : Option Nat :=
  let digits := match cs with
    | '+' :: cs => cs
    | cs => cs
  if digits ≠ [] ∧ digits.all Char.isDigit then
    some (digits.foldl (fun n c => 10 * n + (c.toNat - '0'.toNat)) 0)
  else none

def ofText? (cs : List Char) : Option LogLevel :=
  match (count? cs).bind ofRank? with
  | some l => some l
  | none => all.find? fun l => l.label.toList == cs.map Char.toUpper

/-- The level of a setting; a blank one sets nothing. When there is no such level, the text that
names none. -/
def ofSetting (setting : Option String) : Except String LogLevel :=
  match setting.map fun s => Text.trim s.toList with
  | none | some [] => .ok default
  | some cs =>
    match ofText? cs with
    | some l => .ok l
    | none => .error (String.ofList cs)

end LogLevel

end GraphQLTree.Command
