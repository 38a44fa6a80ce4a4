import GraphQLTree.Source.Conversion
import GraphQLTree.Source.Grammar.Schema
import GraphQLTree.Source.Lexer

namespace GraphQLTree

/-- Why there is no tree for a text. At a split character the reading breaks off, and so does all that
waits for the tree. -/
inductive ParseError
  | schema
  | executable
  | splitCharacter
  | tree (e : TreeError)
deriving DecidableEq, Repr

namespace Source

def schemaItems (text : String) : Except Refusal (List SchemaItem) :=
  Grammar.schemaDocument.runAll (lexemes text.toList)

def executableDefinitions (text : String) : Except Refusal (List ExecutableDefinition) :=
  Grammar.executableDocument.runAll (lexemes text.toList)

end Source

namespace Document

def located (c : Source.Conversion Document) : Except ParseError Document :=
  c.mapError .tree

def parseSchema (text : String) : Except ParseError Document :=
  match Source.schemaItems text with
  | .error .misplaced => .error .schema
  | .error .splitCharacter => .error .splitCharacter
  | .ok items => located (Source.schemaDocument (.ofText text) items)

def parseExecutable (text : String) : Except ParseError Document :=
  match Source.executableDefinitions text with
  | .error .misplaced => .error .executable
  | .error .splitCharacter => .error .splitCharacter
  | .ok definitions => located (Source.executableDocument (.ofText text) definitions)

end Document

end GraphQLTree
