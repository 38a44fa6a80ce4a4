import GraphQLTree.Source.Conversion
import Mathlib.Tactic.Lemma

/-! A conversion in two halves: a check of the names and types, which looks at no mark, and a tree
that there is in any case, with each construct at the place of its mark. -/

namespace GraphQLTree.Source

abbrev Check := Except TreeError Unit

section Monad

variable {α β : Type} {f : α → Conversion β} {check : α → Check} {tree : α → β}

lemma mapM_list (h : ∀ a, f a = do check a; return tree a) (as : List α) :
    as.mapM f = do as.forM check; return as.map tree := by
  induction as with
  | nil => rfl
  | cons a as ih => simp [h, ih]

lemma mapM_option (h : ∀ a, f a = do check a; return tree a) (o : Option α) :
    o.mapM f = do o.forM check; return o.map tree := by
  cases o with
  | none => rfl
  | some a => simp [h]

end Monad

def checkName (s : String) : Check :=
  if s = "" then .error .emptyName else .ok ()

def referred (s : String) : Name :=
  ⟨s, none⟩

def Mark.named (place : Mark → Location) (m : Mark) (s : String) : Name :=
  ⟨s, some (place m)⟩

def namedType (s : String) : NamedType :=
  ⟨referred s, none⟩

def TypeExpr.isNonNull : TypeExpr → Bool
  | nonNull _ => true
  | _ => false

def TypeExpr.checkNullable (t : TypeExpr) : Check :=
  if t.isNonNull then .error .nestedNonNull else .ok ()

def TypeExpr.check : TypeExpr → Check
  | named s => checkName s
  | list t => t.check
  | nonNull t => do
    t.check
    t.checkNullable

def TypeExpr.tree : TypeExpr → TypeRef
  | named s => .named (namedType s)
  | list t => .list t.tree none
  | nonNull t => .nonNull t.tree none

mutual

def Value.check : Value → Check
  | .var s => checkName s
  | .list items => Value.checkAll items
  | .object entries => Entry.checkAll entries
  | .int _ | .float _ | .string _ | .boolean _ | .null | .enum _ => return ()

def Value.checkAll : List Value → Check
  | [] => return ()
  | v :: vs => do
    v.check
    Value.checkAll vs

def Entry.checkAll : List Entry → Check
  | [] => return ()
  | ⟨key, value⟩ :: es => do
    checkName key
    value.check
    Entry.checkAll es

end

mutual

def Value.tree : Value → GraphQLTree.Value
  | .var s => .var ⟨referred s, none⟩
  | .int n => .int n none
  | .float x => .float x none
  | .string s => .string ⟨s, false, none⟩
  | .boolean b => .boolean b none
  | .null => .null none
  | .enum s => .enum s none
  | .list items => .list (Value.trees items) none
  | .object entries => .object (Entry.objectFields entries) none

def Value.trees : List Value → List GraphQLTree.Value
  | [] => []
  | v :: vs => v.tree :: Value.trees vs

def Entry.objectFields : List Entry → List ObjectField
  | [] => []
  | ⟨key, value⟩ :: es => ⟨referred key, value.tree, none⟩ :: Entry.objectFields es

end

def Entry.check (e : Entry) : Check := do
  checkName e.key
  e.value.check

def Entry.argument (e : Entry) : Argument :=
  ⟨referred e.key, e.value.tree, none⟩

def Directive.check (d : Directive) : Check := do
  checkName d.name
  d.arguments.forM Entry.check

def VariableDefinition.check (d : VariableDefinition) : Check := do
  checkName d.name
  d.defaultValue.forM Value.check
  d.type.check

def FragmentSpread.check (s : FragmentSpread) : Check := do
  checkName s.name
  s.directives.forM Directive.check

mutual

def Selection.check : Selection → Check
  | .field f => f.check
  | .spread s => s.check
  | .inline f => f.check

def Selection.checkAll : List Selection → Check
  | [] => return ()
  | s :: ss => do
    s.check
    Selection.checkAll ss

def Field.check : Field → Check
  | ⟨_, aliasName, name, arguments, directives, set⟩ => do
    set.check
    aliasName.forM checkName
    checkName name
    arguments.forM Entry.check
    directives.forM Directive.check

def InlineFragment.check : InlineFragment → Check
  | ⟨_, typeCondition, directives, set⟩ => do
    typeCondition.forM checkName
    set.check
    directives.forM Directive.check

def SelectionSet.check : SelectionSet → Check
  | ⟨_, items⟩ => Selection.checkAll items

end

def Operation.check (o : Operation) : Check := do
  o.name.forM checkName
  o.variableDefinitions.forM VariableDefinition.check
  o.selectionSet.check
  o.directives.forM Directive.check

def Fragment.check (f : Fragment) : Check := do
  checkName f.name
  checkName f.typeCondition
  f.selectionSet.check
  f.directives.forM Directive.check

def ExecutableDefinition.check : ExecutableDefinition → Check
  | shorthand set => set.check
  | operation o => o.check
  | fragment f => f.check

def InputValue.check (v : InputValue) : Check := do
  v.defaultValue.forM Value.check
  checkName v.name
  v.type.check
  v.directives.forM Directive.check

def FieldDefinition.check (f : FieldDefinition) : Check := do
  checkName f.name
  f.type.check
  f.arguments.forM InputValue.check
  f.directives.forM Directive.check

def EnumValue.check (v : EnumValue) : Check := do
  checkName v.name
  v.directives.forM Directive.check

def TypeBody.check (directives : List Directive) : TypeBody → Check
  | scalar => directives.forM Directive.check
  | object interfaces fields | interface interfaces fields => do
    interfaces.forM checkName
    directives.forM Directive.check
    fields.forM FieldDefinition.check
  | union types => do
    directives.forM Directive.check
    types.forM checkName
  | enum values => do
    directives.forM Directive.check
    values.forM EnumValue.check
  | inputObject fields => do
    directives.forM Directive.check
    fields.forM InputValue.check

def TypeDefinition.check (d : TypeDefinition) : Check := do
  checkName d.name
  d.body.check d.directives

def TypeExtension.check (d : TypeExtension) : Check := do
  checkName d.name
  d.body.check d.directives

def DirectiveDefinition.check (d : DirectiveDefinition) : Check := do
  checkName d.name
  d.arguments.forM InputValue.check

def SchemaDefinition.check (d : SchemaDefinition) : Check := do
  d.roots.forM fun root => checkName root.2
  d.directives.forM Directive.check

def SchemaItem.check : SchemaItem → Check
  | schema d => d.check
  | type d => d.check
  | extension d => d.check
  | directive d => d.check

section Trees

variable (place : Mark → Location)

def Directive.tree (d : Directive) : GraphQLTree.Directive :=
  ⟨d.mark.named place d.name, d.arguments.map Entry.argument, place d.mark⟩

def VariableDefinition.tree (d : VariableDefinition) : GraphQLTree.VariableDefinition :=
  ⟨⟨d.mark.named place d.name, place d.mark⟩, d.type.tree, d.defaultValue.map Value.tree, [], place d.mark⟩

def FragmentSpread.tree (s : FragmentSpread) : GraphQLTree.FragmentSpread :=
  ⟨referred s.name, s.directives.map (·.tree place), place s.mark⟩

mutual

def Selection.tree : Selection → GraphQLTree.Selection
  | .field f => .field f.tree
  | .spread s => .spread (s.tree place)
  | .inline f => .inline f.tree

def Selection.trees : List Selection → List GraphQLTree.Selection
  | [] => []
  | s :: ss => s.tree :: Selection.trees ss

def Field.tree : Field → GraphQLTree.Field
  | ⟨mark, aliasName, name, arguments, directives, set⟩ =>
    ⟨aliasName.map (mark.named place), mark.named place name, arguments.map Entry.argument,
      directives.map (·.tree place), set.tree?, place mark⟩

def InlineFragment.tree : InlineFragment → GraphQLTree.InlineFragment
  | ⟨mark, typeCondition, directives, set⟩ =>
    ⟨typeCondition.map namedType, directives.map (·.tree place), set.tree, place mark⟩

def SelectionSet.tree : SelectionSet → GraphQLTree.SelectionSet
  | ⟨mark, items⟩ => ⟨Selection.trees items, place mark⟩

def SelectionSet.tree? : SelectionSet → Option GraphQLTree.SelectionSet
  | ⟨_, []⟩ => none
  | ⟨mark, item :: items⟩ => some ⟨item.tree :: Selection.trees items, place mark⟩

end

def Operation.tree (o : Operation) : OperationDefinition :=
  ⟨o.operation, o.name.map (o.mark.named place), o.variableDefinitions.map (·.tree place),
    o.directives.map (·.tree place), o.selectionSet.tree place, place o.mark⟩

def Fragment.tree (f : Fragment) : FragmentDefinition :=
  ⟨f.mark.named place f.name, [], namedType f.typeCondition, f.directives.map (·.tree place),
    f.selectionSet.tree place, place f.mark⟩

def ExecutableDefinition.tree : ExecutableDefinition → Definition
  | shorthand set => .operation ⟨.query, none, [], [], set.tree place, place set.mark⟩
  | operation o => .operation (o.tree place)
  | fragment f => .fragment (f.tree place)

def InputValue.tree (v : InputValue) : InputValueDefinition :=
  ⟨describe v.description, v.mark.named place v.name, v.type.tree, v.defaultValue.map Value.tree,
    v.directives.map (·.tree place), place v.mark⟩

def FieldDefinition.tree (f : FieldDefinition) : GraphQLTree.FieldDefinition :=
  ⟨describe f.description, f.mark.named place f.name, f.arguments.map (·.tree place), f.type.tree,
    f.directives.map (·.tree place), place f.mark⟩

def EnumValue.tree (v : EnumValue) : EnumValueDefinition :=
  ⟨describe v.description, v.mark.named place v.name, v.directives.map (·.tree place), place v.mark⟩

def TypeBody.tree : TypeBody → GraphQLTree.TypeBody
  | scalar => .scalar
  | object interfaces fields => .object (interfaces.map namedType) (fields.map (·.tree place))
  | interface interfaces fields => .interface (interfaces.map namedType) (fields.map (·.tree place))
  | union types => .union (types.map namedType)
  | enum values => .enum (values.map (·.tree place))
  | inputObject fields => .inputObject (fields.map (·.tree place))

def TypeDefinition.tree (d : TypeDefinition) : GraphQLTree.TypeDefinition :=
  ⟨describe d.description, d.mark.named place d.name, d.directives.map (·.tree place), d.body.tree place,
    place d.mark⟩

def TypeExtension.tree (d : TypeExtension) : GraphQLTree.TypeExtension :=
  ⟨d.mark.named place d.name, d.directives.map (·.tree place), d.body.tree place, place d.mark⟩

def DirectiveDefinition.tree (d : DirectiveDefinition) : GraphQLTree.DirectiveDefinition :=
  ⟨describe d.description, d.mark.named place d.name, d.arguments.map (·.tree place), d.repeatable,
    d.locations.map (referred ·.keyword), place d.mark⟩

def SchemaDefinition.tree (d : SchemaDefinition) : GraphQLTree.SchemaDefinition :=
  ⟨none, d.directives.map (·.tree place), d.roots.map fun root => ⟨root.1, namedType root.2, none⟩,
    place d.mark⟩

def SchemaItem.tree : SchemaItem → Definition
  | schema d => .schema (d.tree place)
  | type d => .type (d.tree place)
  | extension d => .typeExtension (d.tree place)
  | directive d => .directive (d.tree place)

end Trees

section Halves

variable (lines : Lines)

lemma reference_eq (s : String) : reference s = do checkName s; return referred s := by
  by_cases hs : s = ""
  · simp only [reference, Name.new, Name.checked, checkName, if_pos hs]
    rfl
  · simp only [reference, Name.new, Name.checked, checkName, if_neg hs]
    rfl

lemma declared_eq (m : Mark) (s : String) :
    declared lines m s = do checkName s; return m.named (·.location lines) s := by
  have hn : Name.new s = do checkName s; return referred s := reference_eq s
  simp [declared, hn, referred, Mark.named]

lemma typeReference_eq (s : String) : typeReference s = do checkName s; return namedType s := by
  simp [typeReference, reference_eq, namedType]

lemma TypeExpr.isNonNull_tree (t : TypeExpr) : t.tree.isNonNull = t.isNonNull := by
  cases t <;> rfl

lemma TypeExpr.toTree_eq (t : TypeExpr) : t.toTree = do t.check; return t.tree := by
  induction t with
  | named s => simp [toTree, check, tree, typeReference_eq]
  | list t ih => simp [toTree, check, tree, ih]
  | nonNull t ih =>
    have hn : TypeRef.newNonNull t.tree = do t.checkNullable; return (nonNull t).tree := by
      rw [TypeRef.newNonNull, TypeRef.checkedNonNull, t.isNonNull_tree, checkNullable]
      cases t.isNonNull <;> rfl
    simp [toTree, check, ih, hn]

mutual

lemma Value.toTree_eq : ∀ v : Value, v.toTree = do v.check; return v.tree
  | .var s => by simp [Value.toTree, Value.check, Value.tree, reference_eq]
  | .list items => by simp [Value.toTree, Value.check, Value.tree, Value.toTrees_eq items]
  | .object entries => by simp [Value.toTree, Value.check, Value.tree, Entry.toObjectFields_eq entries]
  | .int _ | .float _ | .string _ | .boolean _ | .null | .enum _ => by
    simp [Value.toTree, Value.check, Value.tree]

lemma Value.toTrees_eq : ∀ vs : List Value, Value.toTrees vs = do Value.checkAll vs; return Value.trees vs
  | [] => by simp [Value.toTrees, Value.checkAll, Value.trees]
  | v :: vs => by
    simp [Value.toTrees, Value.checkAll, Value.trees, Value.toTree_eq v, Value.toTrees_eq vs]

lemma Entry.toObjectFields_eq :
    ∀ es : List Entry, Entry.toObjectFields es = do Entry.checkAll es; return Entry.objectFields es
  | [] => by simp [Entry.toObjectFields, Entry.checkAll, Entry.objectFields]
  | ⟨key, value⟩ :: es => by
    simp [Entry.toObjectFields, Entry.checkAll, Entry.objectFields, reference_eq, Value.toTree_eq value,
      Entry.toObjectFields_eq es]

end

lemma Entry.toArgument_eq (e : Entry) : e.toArgument = do e.check; return e.argument := by
  simp [toArgument, check, argument, reference_eq, Value.toTree_eq]

lemma Directive.toTree_eq (d : Directive) :
    d.toTree lines = do d.check; return d.tree (·.location lines) := by
  simp [toTree, check, tree, declared_eq, mapM_list Entry.toArgument_eq]

lemma VariableDefinition.toTree_eq (d : VariableDefinition) :
    d.toTree lines = do d.check; return d.tree (·.location lines) := by
  simp [toTree, check, tree, declared_eq, mapM_option Value.toTree_eq, TypeExpr.toTree_eq]

lemma FragmentSpread.toTree_eq (s : FragmentSpread) :
    s.toTree lines = do s.check; return s.tree (·.location lines) := by
  simp [toTree, check, tree, reference_eq, mapM_list (Directive.toTree_eq lines)]

mutual

lemma Selection.toTree_eq :
    ∀ s : Selection, s.toTree lines = do s.check; return s.tree (·.location lines)
  | .field f => by simp [Selection.toTree, Selection.check, Selection.tree, Field.toTree_eq f]
  | .spread s => by simp [Selection.toTree, Selection.check, Selection.tree, FragmentSpread.toTree_eq]
  | .inline f => by simp [Selection.toTree, Selection.check, Selection.tree, InlineFragment.toTree_eq f]

lemma Selection.toTrees_eq : ∀ ss : List Selection,
    Selection.toTrees lines ss = do Selection.checkAll ss; return Selection.trees (·.location lines) ss
  | [] => by simp [Selection.toTrees, Selection.checkAll, Selection.trees]
  | s :: ss => by
    simp [Selection.toTrees, Selection.checkAll, Selection.trees, Selection.toTree_eq s,
      Selection.toTrees_eq ss]

lemma Field.toTree_eq : ∀ f : Field, f.toTree lines = do f.check; return f.tree (·.location lines)
  | ⟨mark, aliasName, name, arguments, directives, set⟩ => by
    simp [Field.toTree, Field.check, Field.tree, SelectionSet.toTree?_eq set, declared_eq,
      mapM_option (declared_eq lines mark), mapM_list Entry.toArgument_eq,
      mapM_list (Directive.toTree_eq lines)]

lemma InlineFragment.toTree_eq :
    ∀ f : InlineFragment, f.toTree lines = do f.check; return f.tree (·.location lines)
  | ⟨mark, typeCondition, directives, set⟩ => by
    simp [InlineFragment.toTree, InlineFragment.check, InlineFragment.tree, SelectionSet.toTree_eq set,
      mapM_option typeReference_eq, mapM_list (Directive.toTree_eq lines)]

lemma SelectionSet.toTree_eq :
    ∀ set : SelectionSet, set.toTree lines = do set.check; return set.tree (·.location lines)
  | ⟨mark, items⟩ => by
    simp [SelectionSet.toTree, SelectionSet.check, SelectionSet.tree, Selection.toTrees_eq items]

lemma SelectionSet.toTree?_eq :
    ∀ set : SelectionSet, set.toTree? lines = do set.check; return set.tree? (·.location lines)
  | ⟨mark, []⟩ => by
    simp [SelectionSet.toTree?, SelectionSet.check, SelectionSet.tree?, Selection.checkAll]
  | ⟨mark, item :: items⟩ => by
    simp [SelectionSet.toTree?, SelectionSet.check, SelectionSet.tree?, Selection.checkAll,
      Selection.toTree_eq item, Selection.toTrees_eq items]

end

lemma Operation.toTree_eq (o : Operation) :
    o.toTree lines = do o.check; return o.tree (·.location lines) := by
  simp [toTree, check, tree, mapM_option (declared_eq lines o.mark), SelectionSet.toTree_eq,
    mapM_list (VariableDefinition.toTree_eq lines), mapM_list (Directive.toTree_eq lines)]

lemma Fragment.toTree_eq (f : Fragment) :
    f.toTree lines = do f.check; return f.tree (·.location lines) := by
  simp [toTree, check, tree, declared_eq, typeReference_eq, SelectionSet.toTree_eq,
    mapM_list (Directive.toTree_eq lines)]

lemma ExecutableDefinition.toTree_eq (d : ExecutableDefinition) :
    d.toTree lines = do d.check; return d.tree (·.location lines) := by
  cases d <;> simp [toTree, check, tree, SelectionSet.toTree_eq, Operation.toTree_eq, Fragment.toTree_eq]

lemma InputValue.toTree_eq (v : InputValue) :
    v.toTree lines = do v.check; return v.tree (·.location lines) := by
  simp [toTree, check, tree, declared_eq, mapM_option Value.toTree_eq, TypeExpr.toTree_eq,
    mapM_list (Directive.toTree_eq lines)]

lemma FieldDefinition.toTree_eq (f : FieldDefinition) :
    f.toTree lines = do f.check; return f.tree (·.location lines) := by
  simp [toTree, check, tree, declared_eq, TypeExpr.toTree_eq, mapM_list (InputValue.toTree_eq lines),
    mapM_list (Directive.toTree_eq lines)]

lemma EnumValue.toTree_eq (v : EnumValue) :
    v.toTree lines = do v.check; return v.tree (·.location lines) := by
  simp [toTree, check, tree, declared_eq, mapM_list (Directive.toTree_eq lines)]

lemma TypeBody.toTree_eq (directives : List Directive) (body : TypeBody) :
    body.toTree lines directives = do
      body.check directives
      return (directives.map (·.tree (·.location lines)), body.tree (·.location lines)) := by
  cases body <;>
    simp [toTree, check, tree, mapM_list typeReference_eq, mapM_list (Directive.toTree_eq lines),
      mapM_list (FieldDefinition.toTree_eq lines), mapM_list (EnumValue.toTree_eq lines),
      mapM_list (InputValue.toTree_eq lines)]

lemma TypeDefinition.toTree_eq (d : TypeDefinition) :
    d.toTree lines = do d.check; return d.tree (·.location lines) := by
  simp [toTree, check, tree, declared_eq, TypeBody.toTree_eq]

lemma TypeExtension.toTree_eq (d : TypeExtension) :
    d.toTree lines = do d.check; return d.tree (·.location lines) := by
  simp [toTree, check, tree, declared_eq, TypeBody.toTree_eq]

lemma DirectiveLocation.reference_keyword (l : DirectiveLocation) :
    reference l.keyword = return referred l.keyword := by
  cases l <;> rfl

lemma DirectiveDefinition.toTree_eq (d : DirectiveDefinition) :
    d.toTree lines = do d.check; return d.tree (·.location lines) := by
  have hl : d.locations.mapM (reference ·.keyword) = return d.locations.map (referred ·.keyword) := by
    simp [DirectiveLocation.reference_keyword, List.mapM_pure]
  simp [toTree, check, tree, hl, declared_eq, mapM_list (InputValue.toTree_eq lines)]

lemma SchemaDefinition.toTree_eq (d : SchemaDefinition) :
    d.toTree lines = do d.check; return d.tree (·.location lines) := by
  have hr : ∀ root : OperationType × String,
      (do return ⟨root.1, ← typeReference root.2, none⟩ : Conversion OperationTypeDefinition) = do
        checkName root.2
        return ⟨root.1, namedType root.2, none⟩ := by
    simp [typeReference_eq]
  rw [toTree, mapM_list hr]
  simp [check, tree, mapM_list (Directive.toTree_eq lines)]

lemma SchemaItem.toTree_eq (item : SchemaItem) :
    item.toTree lines = do item.check; return item.tree (·.location lines) := by
  cases item <;>
    simp [toTree, check, tree, SchemaDefinition.toTree_eq, TypeDefinition.toTree_eq,
      TypeExtension.toTree_eq, DirectiveDefinition.toTree_eq]

lemma schemaDocument_eq (items : List SchemaItem) :
    schemaDocument lines items = do
      items.forM SchemaItem.check
      return ⟨items.map (·.tree (·.location lines)), none⟩ := by
  simp [schemaDocument, mapM_list (SchemaItem.toTree_eq lines)]

lemma executableDocument_eq (definitions : List ExecutableDefinition) :
    executableDocument lines definitions = do
      definitions.forM ExecutableDefinition.check
      return ⟨definitions.map (·.tree (·.location lines)), none⟩ := by
  simp [executableDocument, mapM_list (ExecutableDefinition.toTree_eq lines)]

end Halves

end GraphQLTree.Source
