import GraphQLTree.Number.Binary64
import GraphQLTree.Tree.OperationType

/-!
Documents as their text gives them: each construct with the mark at which it was read, names and
references as plain texts that nothing has been asked of yet.
-/
namespace GraphQLTree.Source

structure Mark where
  line : Nat
  column : Nat
deriving DecidableEq, Repr

inductive TypeExpr
  | named (name : String)
  | list (element : TypeExpr)
  | nonNull (inner : TypeExpr)

mutual

inductive Value
  | var (name : String)
  | int (value : Int64)
  | float (value : Binary64)
  | string (value : String)
  | boolean (value : Bool)
  | null
  | enum (value : String)
  | list (items : List Value)
  | object (entries : List Entry)

structure Entry where
  key : String
  value : Value

end

/-- The entries of an object have one order, that of their keys; of two entries with the same key
the later one stays. -/
def Entry.insert (e : Entry) : List Entry → List Entry
  | [] => [e]
  | f :: fs =>
    if e.key < f.key then e :: f :: fs
    else if e.key = f.key then e :: fs
    else f :: Entry.insert e fs

def Value.ofEntries (entries : List Entry) : Value :=
  .object (entries.foldl (fun kept e => e.insert kept) [])

structure Directive where
  mark : Mark
  name : String
  arguments : List Entry

structure VariableDefinition where
  mark : Mark
  name : String
  type : TypeExpr
  defaultValue : Option Value

structure FragmentSpread where
  mark : Mark
  name : String
  directives : List Directive

mutual

inductive Selection
  | field (field : Field)
  | spread (spread : FragmentSpread)
  | inline (fragment : InlineFragment)

structure Field where
  mark : Mark
  aliasName : Option String
  name : String
  arguments : List Entry
  directives : List Directive
  selectionSet : SelectionSet

structure InlineFragment where
  mark : Mark
  typeCondition : Option String
  directives : List Directive
  selectionSet : SelectionSet

structure SelectionSet where
  mark : Mark
  items : List Selection

end

structure Operation where
  mark : Mark
  operation : OperationType
  name : Option String
  variableDefinitions : List VariableDefinition
  directives : List Directive
  selectionSet : SelectionSet

structure Fragment where
  mark : Mark
  name : String
  typeCondition : String
  directives : List Directive
  selectionSet : SelectionSet

inductive ExecutableDefinition
  | shorthand (selectionSet : SelectionSet)
  | operation (operation : Operation)
  | fragment (fragment : Fragment)

structure InputValue where
  mark : Mark
  description : Option String
  name : String
  type : TypeExpr
  defaultValue : Option Value
  directives : List Directive

structure FieldDefinition where
  mark : Mark
  description : Option String
  name : String
  arguments : List InputValue
  type : TypeExpr
  directives : List Directive

structure EnumValue where
  mark : Mark
  description : Option String
  name : String
  directives : List Directive

inductive TypeBody
  | scalar
  | object (interfaces : List String) (fields : List FieldDefinition)
  | interface (interfaces : List String) (fields : List FieldDefinition)
  | union (types : List String)
  | enum (values : List EnumValue)
  | inputObject (fields : List InputValue)

structure TypeDefinition where
  mark : Mark
  description : Option String
  name : String
  directives : List Directive
  body : TypeBody

structure TypeExtension where
  mark : Mark
  name : String
  directives : List Directive
  body : TypeBody

inductive DirectiveLocation
  | query
  | mutation
  | subscription
  | field
  | fragmentDefinition
  | fragmentSpread
  | inlineFragment
  | schema
  | scalar
  | object
  | fieldDefinition
  | argumentDefinition
  | interface
  | union
  | enum
  | enumValue
  | inputObject
  | inputFieldDefinition
  | variableDefinition
deriving DecidableEq, Repr

namespace DirectiveLocation

def all : List DirectiveLocation :=
  [.query, .mutation, .subscription, .field, .fragmentDefinition, .fragmentSpread, .inlineFragment,
    .schema, .scalar, .object, .fieldDefinition, .argumentDefinition, .interface, .union, .enum,
    .enumValue, .inputObject, .inputFieldDefinition, .variableDefinition]

def keyword : DirectiveLocation → String
  | .query => "QUERY"
  | .mutation => "MUTATION"
  | .subscription => "SUBSCRIPTION"
  | .field => "FIELD"
  | .fragmentDefinition => "FRAGMENT_DEFINITION"
  | .fragmentSpread => "FRAGMENT_SPREAD"
  | .inlineFragment => "INLINE_FRAGMENT"
  | .schema => "SCHEMA"
  | .scalar => "SCALAR"
  | .object => "OBJECT"
  | .fieldDefinition => "FIELD_DEFINITION"
  | .argumentDefinition => "ARGUMENT_DEFINITION"
  | .interface => "INTERFACE"
  | .union => "UNION"
  | .enum => "ENUM"
  | .enumValue => "ENUM_VALUE"
  | .inputObject => "INPUT_OBJECT"
  | .inputFieldDefinition => "INPUT_FIELD_DEFINITION"
  | .variableDefinition => "VARIABLE_DEFINITION"

def ofKeyword? (s : String) : Option DirectiveLocation :=
  all.find? (·.keyword == s)

end DirectiveLocation

structure DirectiveDefinition where
  mark : Mark
  description : Option String
  name : String
  arguments : List InputValue
  repeatable : Bool
  locations : List DirectiveLocation

structure SchemaDefinition where
  mark : Mark
  directives : List Directive
  query : Option String
  mutation : Option String
  subscription : Option String

inductive SchemaItem
  | schema (schema : SchemaDefinition)
  | type (type : TypeDefinition)
  | extension (extension : TypeExtension)
  | directive (directive : DirectiveDefinition)

end GraphQLTree.Source
