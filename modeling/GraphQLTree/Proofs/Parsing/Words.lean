import GraphQLTree.Proofs.Parsing.Names
import GraphQLTree.Proofs.Refusals
import Mathlib.Data.Option.Basic

namespace GraphQLTree

namespace Source

variable {place : Mark → Location}

lemma Value.worded_ofEntries {es : List Entry} (h : ∀ e ∈ es, (Node.objectField e.objectField).Worded) :
    (Node.value (Value.ofEntries es).tree).Worded := by
  obtain ⟨kept, he, hk⟩ := Value.exists_ofEntries h
  rw [he, Value.tree, Entry.objectFields_eq_map, Node.worded_object]
  exact List.forall_mem_map.mpr hk

lemma SelectionSet.eq_of_mem_tree? {set : SelectionSet} {s : GraphQLTree.SelectionSet} (h : s ∈ set.tree? place) :
    s = set.tree place := by
  rcases set with ⟨mark, _ | ⟨item, items⟩⟩
  · rw [tree?] at h
    nomatch h
  · rw [tree?] at h
    rw [tree, Selection.trees]
    exact (Option.some.inj h).symm

lemma DirectiveLocation.isWord_keyword (l : DirectiveLocation) : IsWord l.keyword := by
  cases l <;> decide

namespace Grammar

open GraphQLTree.Source.Parser

variable {L : Lexeme → Prop} (words : ∀ t s, L t → t.token = .name s → IsWord s) (place)

lemma marked_words {t : TypeExpr} (ht : (Node.typeRef t.tree).Worded) :
    Yields L (marked t) fun t => (Node.typeRef t.tree).Worded := by
  refine (Yields.accept _).bind fun b _ => .pure ?_
  split
  · rw [TypeExpr.tree, Node.worded_nonNullType]
    exact ht
  · exact ht

include words

lemma anyName_words : Yields L anyName IsWord :=
  Yields.anyName.mono fun _ ⟨t, ht, hs⟩ => words t _ ht hs

lemma scalar_words (constant : Bool) : Yields L (scalar constant) fun v => (Node.value v.tree).Worded := by
  refine Yields.next.bind fun t ht => ?_
  split
  · split
    · exact .fail
    · exact (anyName_words words).map fun s hs => by rw [Value.tree, Node.worded_var]; exact hs
  · exact .pure (by rw [Value.tree]; exact Node.worded_scalar rfl)
  · exact .pure (by rw [Value.tree]; exact Node.worded_scalar rfl)
  · exact .pure (by rw [Value.tree]; exact Node.worded_string)
  · exact (Yields.unblocked _).map fun s _ => by rw [Value.tree]; exact Node.worded_string
  · exact .pure (by rw [Value.tree]; exact Node.worded_scalar rfl)
  · exact .pure (by rw [Value.tree]; exact Node.worded_scalar rfl)
  · exact .pure (by rw [Value.tree]; exact Node.worded_scalar rfl)
  · exact .pure (by rw [Value.tree]; exact Node.worded_scalar rfl)
  · exact .fail

lemma entry_words {v : Parser Value} (hv : Yields L v fun v => (Node.value v.tree).Worded) :
    Yields L (entry v) fun e => (Node.objectField e.objectField).Worded ∧ (Node.argument e.argument).Worded := by
  refine (anyName_words words).bind fun key hkey => (Yields.punctuator _).bind fun _ _ => ?_
  exact hv.bind fun v hv => .pure ⟨Node.worded_objectField.mpr ⟨hkey, hv⟩, Node.worded_argument.mpr ⟨hkey, hv⟩⟩

lemma value_words (constant : Bool) (depth : Nat) :
    Yields L (value constant depth) fun v => (Node.value v.tree).Worded := by
  induction depth with
  | zero => exact scalar_words words constant
  | succ depth ih =>
    refine Yields.look.bind fun o _ => ?_
    split
    · refine ih.enclosed.map fun vs hvs => ?_
      rw [Value.tree, Value.trees_eq_map, Node.worded_list]
      exact List.forall_mem_map.mpr hvs
    · exact (entry_words words ih).enclosed.map fun es hes => Value.worded_ofEntries fun e he => (hes e he).1
    · exact scalar_words words constant

lemma defaultValue_words (depth : Nat) :
    Yields L (defaultValue depth) fun o => ∀ v ∈ o.map Value.tree, (Node.value v).Worded :=
  ((Yields.punctuator _).bind fun _ _ => value_words words true depth).optional.mono fun _ ho =>
    Option.forall_mem_map.mpr ho

lemma typeExpr_words (depth : Nat) : Yields L (typeExpr depth) fun t => (Node.typeRef t.tree).Worded := by
  have hnamed : Yields L (do marked (.named (← anyName))) fun t => (Node.typeRef t.tree).Worded :=
    (anyName_words words).bind fun s hs => marked_words (Node.worded_namedType.mpr hs)
  induction depth with
  | zero => exact hnamed
  | succ depth ih =>
    refine (Yields.accept _).bind fun b _ => ?_
    split
    · refine ih.bind fun t ht => (Yields.punctuator _).bind fun _ _ => marked_words ?_
      exact Node.worded_listType.mpr ht
    · exact hnamed

lemma arguments_words (depth : Nat) :
    Yields L (arguments depth) fun es => ∀ a ∈ es.map Entry.argument, (Node.argument a).Worded :=
  (Yields.block (fun depth => entry_words words (value_words words false depth)) depth).mono fun _ hes =>
    List.forall_mem_map.mpr fun e he => (hes e he).2

lemma directive_words (depth : Nat) :
    Yields L (directive depth) fun d => (Node.directive (d.tree place)).Worded := by
  refine (Yields.punctuator _).bind fun mark _ => (anyName_words words).bind fun name hname => ?_
  exact (arguments_words words depth).bind fun args hargs => .pure (Node.worded_directive.mpr ⟨hname, hargs⟩)

lemma directives_words (depth : Nat) :
    Yields L (directives depth) fun ds => ∀ d ∈ ds.map (·.tree place), (Node.directive d).Worded :=
  (directive_words place words depth).many.mono fun _ hds => List.forall_mem_map.mpr hds

lemma variableDefinition_words (depth : Nat) :
    Yields L (variableDefinition depth) fun d => (Node.variableDefinition (d.tree place)).Worded := by
  refine (Yields.punctuator _).bind fun mark _ => (anyName_words words).bind fun name hname => ?_
  refine (Yields.punctuator _).bind fun _ _ => (typeExpr_words words depth).bind fun type htype => ?_
  refine (defaultValue_words words depth).bind fun value hvalue => .pure ?_
  exact Node.worded_variableDefinition.mpr ⟨hname, htype, hvalue, nofun⟩

section Selections

variable {set : Parser SelectionSet} (hset : Yields L set fun s => (Node.selectionSet (s.tree place)).Worded)
include hset

lemma field_words (depth : Nat) :
    Yields L (field depth set) fun f => (Node.selection (.field (f.tree place))).Worded := by
  refine Yields.here.bind fun mark _ => (anyName_words words).bind fun first hfirst => ?_
  refine ((Yields.punctuator _).bind fun _ _ => anyName_words words).optional.bind fun second hsecond => ?_
  refine (arguments_words words depth).bind fun args hargs => ?_
  refine (directives_words place words depth).bind fun ds hds => hset.optional.bind fun selections hs => ?_
  -- Without selections the set is empty, and there is no name in it.
  have hsel : (Node.selectionSet ((selections.getD ⟨mark, []⟩).tree place)).Worded := by
    cases selections with
    | none =>
      rw [Option.getD_none, SelectionSet.tree, Selection.trees, Node.worded_selectionSet]
      exact nofun
    | some selections => exact hs selections rfl
  have hset? : ∀ s ∈ (selections.getD ⟨mark, []⟩).tree? place, (Node.selectionSet s).Worded :=
    fun s hs => SelectionSet.eq_of_mem_tree? hs ▸ hsel
  cases second with
  | none =>
    refine .pure ?_
    rw [Field.tree, Node.worded_field]
    exact ⟨nofun, hfirst, hargs, hds, hset?⟩
  | some name =>
    refine .pure ?_
    rw [Field.tree, Node.worded_field]
    exact ⟨fun n hn => Option.some.inj hn ▸ hfirst, hsecond name rfl, hargs, hds, hset?⟩

lemma inline_words (depth : Nat) (mark : Mark) :
    Yields L (dotted.inline depth set mark) fun s => (Node.selection (s.tree place)).Worded := by
  have hcondition : Yields L condition IsWord :=
    (Yields.keyword _).bind fun _ _ => anyName_words words
  refine hcondition.optional.bind fun type htype => (directives_words place words depth).bind fun ds hds => ?_
  refine hset.bind fun set hset => .pure ?_
  rw [Selection.tree, InlineFragment.tree, Node.worded_inline]
  exact ⟨Option.forall_mem_map.mpr htype, hds, hset⟩

lemma dotted_words (depth : Nat) :
    Yields L (dotted depth set) fun s => (Node.selection (s.tree place)).Worded := by
  refine Yields.here.bind fun mark _ => Yields.look.bind fun o _ => ?_
  split
  · split
    · refine (anyName_words words).bind fun name hname => ?_
      refine (directives_words place words depth).bind fun ds hds => .pure ?_
      rw [Selection.tree, FragmentSpread.tree, Node.worded_spread]
      exact ⟨hname, hds⟩
    · exact inline_words place words hset depth mark
  · exact inline_words place words hset depth mark

lemma selection_words (depth : Nat) :
    Yields L (selection depth set) fun s => (Node.selection (s.tree place)).Worded := by
  refine (Yields.accept _).bind fun b _ => ?_
  split
  · exact dotted_words place words hset depth
  · refine (field_words place words hset depth).map fun f hf => ?_
    rw [Selection.tree]
    exact hf

end Selections

lemma selectionSet_words (depth : Nat) :
    Yields L (selectionSet depth) fun s => (Node.selectionSet (s.tree place)).Worded := by
  -- On the brackets that may still open: the sets inside have one less.
  induction depth with
  | zero => exact .fail
  | succ depth ih =>
    refine Yields.here.bind fun mark _ => ?_
    refine (selection_words place words ih depth).enclosedSome.bind fun items hitems => .pure ?_
    rw [SelectionSet.tree, Selection.trees_eq_map, Node.worded_selectionSet]
    exact List.forall_mem_map.mpr hitems

lemma operation_words (mark : Mark) (o : OperationType) :
    Yields L (operation mark o) fun o => (Node.definition (.operation (o.tree place))).Worded := by
  refine (anyName_words words).optional.bind fun name hname => ?_
  refine (Yields.block (variableDefinition_words place words) _).bind fun definitions hdefinitions => ?_
  refine (directives_words place words _).bind fun ds hds => ?_
  refine (selectionSet_words place words _).bind fun set hset => .pure ?_
  exact Node.worded_operation.mpr ⟨Option.forall_mem_map.mpr hname, List.forall_mem_map.mpr hdefinitions, hds, hset⟩

lemma fragment_words (mark : Mark) :
    Yields L (fragment mark) fun f => (Node.definition (.fragment (f.tree place))).Worded := by
  refine (anyName_words words).bind fun name hname => ?_
  refine ((Yields.keyword _).bind fun _ _ => anyName_words words).bind fun condition hcondition => ?_
  refine (directives_words place words _).bind fun ds hds => ?_
  refine (selectionSet_words place words _).bind fun set hset => .pure ?_
  exact Node.worded_fragment.mpr ⟨hname, nofun, hcondition, hds, hset⟩

lemma executableDefinition_words :
    Yields L executableDefinition fun d => (Node.definition (d.tree place)).Worded := by
  refine Yields.look.bind fun o _ => ?_
  split
  · refine (Yields.keyword _).bind fun mark _ => ?_
    split
    · exact (operation_words place words mark _).map fun _ h => h
    · split
      · exact (fragment_words place words mark).map fun _ h => h
      · exact .fail
  · refine (selectionSet_words place words _).map fun set hset => ?_
    exact Node.worded_operation.mpr ⟨nofun, nofun, nofun, hset⟩

lemma executableDocument_words :
    Yields L executableDocument fun ds => ∀ d ∈ ds, (Node.definition (d.tree place)).Worded := by
  refine (executableDefinition_words place words).bind fun first hfirst => ?_
  exact (executableDefinition_words place words).many.bind fun others hothers =>
    .pure (List.forall_mem_cons.mpr ⟨hfirst, hothers⟩)

lemma inputValue_words (depth : Nat) :
    Yields L (inputValue depth) fun v => (Node.inputValueDefinition (v.tree place)).Worded := by
  refine Yields.here.bind fun mark _ => yields_description.bind fun description _ => ?_
  refine (anyName_words words).bind fun name hname => (Yields.punctuator _).bind fun _ _ => ?_
  refine (typeExpr_words words depth).bind fun type htype => ?_
  refine (defaultValue_words words depth).bind fun value hvalue => ?_
  refine (directives_words place words depth).bind fun ds hds => .pure ?_
  exact Node.worded_inputValue.mpr ⟨hname, htype, hvalue, hds⟩

lemma inputValues_words (opening closing : Punctuator) (depth : Nat) :
    Yields L (inputValues opening closing depth)
      fun vs => ∀ v ∈ vs.map (·.tree place), (Node.inputValueDefinition v).Worded :=
  (Yields.block (inputValue_words place words) depth).mono fun _ hvs => List.forall_mem_map.mpr hvs

lemma fieldDefinition_words (depth : Nat) :
    Yields L (fieldDefinition depth) fun f => (Node.fieldDefinition (f.tree place)).Worded := by
  refine Yields.here.bind fun mark _ => yields_description.bind fun description _ => ?_
  refine (anyName_words words).bind fun name hname => ?_
  refine (inputValues_words place words _ _ depth).bind fun args hargs => (Yields.punctuator _).bind fun _ _ => ?_
  refine (typeExpr_words words depth).bind fun type htype => ?_
  refine (directives_words place words depth).bind fun ds hds => .pure ?_
  exact Node.worded_fieldDefinition.mpr ⟨hname, hargs, htype, hds⟩

lemma enumValue_words (depth : Nat) :
    Yields L (enumValue depth) fun v => (Node.enumValueDefinition (v.tree place)).Worded := by
  refine Yields.here.bind fun mark _ => yields_description.bind fun description _ => ?_
  refine (anyName_words words).bind fun name hname => ?_
  exact (directives_words place words depth).bind fun ds hds => .pure (Node.worded_enumValue.mpr ⟨hname, hds⟩)

omit words in
lemma typeNames_words {starts : Token → Bool} {p : Parser (List String)}
    (hp : Yields L p fun names => ∀ s ∈ names, IsWord s) :
    Yields L (do let names ← Parser.optional starts p; return names.getD [])
      fun names => ∀ t ∈ names.map namedType, IsWord t.name.value :=
  hp.optional.bind fun _ hnames => .pure (List.forall_mem_map.mpr (getD_nil hnames))

lemma interfaces_words : Yields L interfaces fun names => ∀ t ∈ names.map namedType, IsWord t.name.value := by
  refine typeNames_words ((Yields.keyword _).bind fun _ _ => (Yields.accept _).bind fun _ _ => ?_)
  exact (anyName_words words).separated

lemma unionMembers_words : Yields L unionMembers fun names => ∀ t ∈ names.map namedType, IsWord t.name.value := by
  refine typeNames_words ((Yields.punctuator _).bind fun _ _ => (Yields.accept _).bind fun _ _ => ?_)
  exact (anyName_words words).separated

lemma typeBody_words (k : TypeKeyword) :
    Yields L (typeBody k) fun (ds, body) =>
      (∀ d ∈ ds.map (·.tree place), (Node.directive d).Worded) ∧ (body.tree place).Worded := by
  have hds := directives_words place words maxDepth
  have hfields : Yields L fieldDefinitions
      fun fs => ∀ f ∈ fs.map (·.tree place), (Node.fieldDefinition f).Worded :=
    (Yields.block (fieldDefinition_words place words) maxDepth).mono fun _ hfs => List.forall_mem_map.mpr hfs
  cases k with
  | scalar => exact hds.bind fun ds hds => .pure ⟨hds, trivial⟩
  | type | interface =>
    refine (interfaces_words words).bind fun names hnames => hds.bind fun ds hds => ?_
    exact hfields.bind fun fields hfields => .pure ⟨hds, hnames, hfields⟩
  | union =>
    exact hds.bind fun ds hds => (unionMembers_words words).bind fun names hnames => .pure ⟨hds, hnames⟩
  | enum =>
    refine hds.bind fun ds hds => (Yields.block (enumValue_words place words) _).bind fun values hvalues => ?_
    exact .pure ⟨hds, List.forall_mem_map.mpr hvalues⟩
  | input =>
    exact hds.bind fun ds hds => (inputValues_words place words _ _ _).bind fun fields hfields =>
      .pure ⟨hds, hfields⟩

lemma typeDefinition_words (description : Option String) :
    Yields L (typeDefinition description) fun d => (Node.definition (.type (d.tree place))).Worded := by
  refine yields_typeKeyword.bind fun (mark, k) _ => (anyName_words words).bind fun name hname => ?_
  exact (typeBody_words place words k).bind fun (ds, body) hbody => .pure (Node.worded_type.mpr ⟨hname, hbody⟩)

lemma typeExtension_words :
    Yields L typeExtension fun d => (Node.definition (.typeExtension (d.tree place))).Worded := by
  refine yields_typeKeyword.bind fun (mark, k) _ => (anyName_words words).bind fun name hname => ?_
  refine (typeBody_words place words k).bind fun (ds, body) hbody => ?_
  dsimp only
  split
  · exact .pure (Node.worded_typeExtension.mpr ⟨hname, hbody⟩)
  · exact .fail

lemma directiveDefinition_words (description : Option String) :
    Yields L (directiveDefinition description) fun d => (Node.definition (.directive (d.tree place))).Worded := by
  refine (Yields.keyword _).bind fun mark _ => (Yields.punctuator _).bind fun _ _ => ?_
  refine (anyName_words words).bind fun name hname => ?_
  refine (inputValues_words place words _ _ _).bind fun args hargs => ?_
  refine (Yields.accept _).bind fun repeatable _ => (Yields.keyword _).bind fun _ _ => ?_
  refine yields_directiveLocations.bind fun locations _ => .pure (Node.worded_directiveDefinition.mpr ?_)
  exact ⟨hname, hargs, List.forall_mem_map.mpr fun l _ => l.isWord_keyword⟩

lemma rootType_words : Yields L rootType fun root => IsWord root.2 := by
  refine Yields.anyName.bind fun s _ => ?_
  split
  · exact (Yields.punctuator _).bind fun _ _ => (anyName_words words).bind fun name hname => .pure hname
  · exact .fail

lemma schemaDefinition_words :
    Yields L schemaDefinition fun d => (Node.definition (.schema (d.tree place))).Worded := by
  refine (Yields.keyword _).bind fun mark _ => (directives_words place words _).bind fun ds hds => ?_
  refine (rootType_words words).enclosed.bind fun roots hroots => ?_
  refine (yields_rootOf IsWord _ hroots).bind fun query hquery => ?_
  refine (yields_rootOf IsWord _ hroots).bind fun mutation hmutation => ?_
  refine (yields_rootOf IsWord _ hroots).bind fun subscription hsubscription => .pure ?_
  refine Node.worded_schema.mpr ⟨hds, List.forall_mem_map.mpr ?_⟩
  exact forall_roots hquery hmutation hsubscription

lemma schemaItem_words : Yields L schemaItem fun item => (Node.definition (item.tree place)).Worded := by
  refine Yields.look.bind fun o _ => ?_
  split
  · exact (schemaDefinition_words place words).map fun _ h => h
  · exact (Yields.keyword _).bind fun _ _ => (typeExtension_words place words).map fun _ h => h
  · refine yields_description.bind fun description _ => Yields.look.bind fun o _ => ?_
    split
    · exact (directiveDefinition_words place words _).map fun _ h => h
    · exact (typeDefinition_words place words _).map fun _ h => h

lemma schemaDocument_words :
    Yields L schemaDocument fun items => ∀ item ∈ items, (Node.definition (item.tree place)).Worded := by
  refine (schemaItem_words place words).bind fun first hfirst => ?_
  exact (schemaItem_words place words).many.bind fun others hothers =>
    .pure (List.forall_mem_cons.mpr ⟨hfirst, hothers⟩)

end Grammar
end Source

open Source

namespace Document

lemma worded_of_parseSchema {text : String} {d : Document} (h : parseSchema text = .ok d) :
    (Node.document d).Worded := by
  rcases parseSchema_cases text with ⟨items, hi, hp⟩ | ⟨-, hp⟩ | ⟨-, hp⟩
  · obtain rfl := Except.ok.inj (hp.symm.trans h)
    have hw : ∀ item ∈ items, (Node.definition (item.tree (·.location (.ofText text)))).Worded :=
      (Grammar.schemaDocument_words _ fun _ _ => Lexer.isWord_of_mem_scan _).of_runAll (fun _ ht => ht) hi
    exact Node.worded_document.mpr (List.forall_mem_map.mpr hw)
  all_goals nomatch hp.symm.trans h

lemma worded_of_parseExecutable {text : String} {d : Document} (h : parseExecutable text = .ok d) :
    (Node.document d).Worded := by
  rcases parseExecutable_cases text with ⟨definitions, hd, hp⟩ | ⟨-, hp⟩ | ⟨-, hp⟩
  · obtain rfl := Except.ok.inj (hp.symm.trans h)
    have hw : ∀ d ∈ definitions, (Node.definition (d.tree (·.location (.ofText text)))).Worded :=
      (Grammar.executableDocument_words _ fun _ _ => Lexer.isWord_of_mem_scan _).of_runAll (fun _ ht => ht) hd
    exact Node.worded_document.mpr (List.forall_mem_map.mpr hw)
  all_goals nomatch hp.symm.trans h

end Document

def Name.IsRead (n : Name) : Prop :=
  ∃ text d way, (Document.parseSchema text = .ok d ∨ Document.parseExecutable text = .ok d) ∧
    (Node.document d).at? way = some (.name n)

lemma Name.IsRead.isWord {n : Name} (h : n.IsRead) : IsWord n.value := by
  obtain ⟨text, d, way, hd, hn⟩ := h
  have hw : (Node.document d).Worded := hd.elim Document.worded_of_parseSchema Document.worded_of_parseExecutable
  exact hw way _ hn n rfl

end GraphQLTree
