import GraphQLTree.Proofs.Conversion.Soundness
import GraphQLTree.Proofs.Signatures
import GraphQLTree.Tree.Construction

namespace GraphQLTree

inductive Construction
  | name (value : String)
  | document (definitions : List Definition)
  | operation (operation : OperationType) (selectionSet : SelectionSet)
  | fragment (name : Name) (typeCondition : NamedType) (selectionSet : SelectionSet)
  | variableDefinition (var : Variable) (type : TypeRef)
  | selectionSet (selections : List Selection)
  | field (name : Name)
  | spread (name : Name)
  | inline (selectionSet : SelectionSet)
  | argument (name : Name) (value : Value)
  | directive (name : Name)
  | objectField (name : Name) (value : Value)
  | var (name : Name)
  | int (value : Int64)
  | float (value : Binary64)
  | string (value : String)
  | boolean (value : Bool)
  | null
  | enum (value : String)
  | list (items : List Value)
  | object (fields : List ObjectField)
  | namedType (name : Name)
  | listType (element : TypeRef)
  | nonNull (inner : TypeRef)
  | schema (operationTypes : List OperationTypeDefinition)
  | operationType (operation : OperationType) (type : NamedType)
  | type (sort : TypeSort) (name : Name)
  | directiveDefinition (name : Name) (locations : List Name)
  | fieldDefinition (name : Name) (type : TypeRef)
  | inputValueDefinition (name : Name) (type : TypeRef)
  | enumValueDefinition (name : Name)
  | schemaExtension
  | typeExtension (sort : TypeSort) (name : Name)
  | coordinate (ofDirective : Bool) (name : Name) (member argument : Option Name)
  | typeCoordinate (name : Name)
  | memberCoordinate (type member : Name)
  | fieldArgumentCoordinate (type field argument : Name)
  | directiveCoordinate (name : Name)
  | directiveArgumentCoordinate (name argument : Name)

def Construction.result : Construction → Except TreeError Node
  | name s => (Name.new s).map .name
  | document ds => .ok (.document (.new ds))
  | operation o set => .ok (.definition (.operation (.new o set)))
  | fragment n t set => .ok (.definition (.fragment (.new n t set)))
  | variableDefinition v t => .ok (.variableDefinition (.new v t))
  | selectionSet ss => .ok (.selectionSet (.new ss))
  | field n => .ok (.selection (.field (.new n)))
  | spread n => .ok (.selection (.spread (.new n)))
  | inline set => .ok (.selection (.inline (.new set)))
  | argument n v => .ok (.argument (.new n v))
  | directive n => .ok (.directive (.new n))
  | objectField n v => .ok (.objectField (.new n v))
  | var n => .ok (.value (.var (.new n)))
  | int i => .ok (.value (.newInt i))
  | float x => .ok (.value (.newFloat x))
  | string s => .ok (.value (.string (.new s)))
  | boolean b => .ok (.value (.newBoolean b))
  | null => .ok (.value .newNull)
  | enum s => .ok (.value (.newEnum s))
  | list vs => .ok (.value (.newList vs))
  | object fs => .ok (.value (.newObject fs))
  | namedType n => .ok (.typeRef (.named (.new n)))
  | listType t => .ok (.typeRef (.newList t))
  | nonNull t => (TypeRef.newNonNull t).map .typeRef
  | schema ts => .ok (.definition (.schema (.new ts)))
  | operationType o t => .ok (.operationTypeDefinition (.new o t))
  | type sort n => .ok (.definition (.type (.new sort n)))
  | directiveDefinition n ls => .ok (.definition (.directive (.new n ls)))
  | fieldDefinition n t => .ok (.fieldDefinition (.new n t))
  | inputValueDefinition n t => .ok (.inputValueDefinition (.new n t))
  | enumValueDefinition n => .ok (.enumValueDefinition (.new n))
  | schemaExtension => .ok (.definition (.schemaExtension .new))
  | typeExtension sort n => .ok (.definition (.typeExtension (.new sort n)))
  | coordinate d n m a => (SchemaCoordinate.new d n m a).map .schemaCoordinate
  | typeCoordinate n => .ok (.schemaCoordinate (.ofType n))
  | memberCoordinate t m => .ok (.schemaCoordinate (.ofMember t m))
  | fieldArgumentCoordinate t f a => .ok (.schemaCoordinate (.ofFieldArgument t f a))
  | directiveCoordinate n => .ok (.schemaCoordinate (.ofDirectiveName n))
  | directiveArgumentCoordinate n a => .ok (.schemaCoordinate (.ofDirectiveArgument n a))

/-- Nodes that come about in a finite number of steps. What a node is built of are its children. -/
inductive Obtainable : Node → Prop
  | constructed {c : Construction} {n : Node} (hn : c.result = .ok n)
      (hparts : ∀ p ∈ n.children, Obtainable p) : Obtainable n
  | updated {n m : Node} {x : FieldName} {c : Content} (hn : Obtainable n) (hm : n.update x c = some (.ok m))
      (hparts : ∀ p ∈ c.nodes, Obtainable p) : Obtainable m
  | part {n p : Node} (hn : Obtainable n) (hp : p ∈ n.children) : Obtainable p
  | schema {lines : Source.Lines} {items : List Source.SchemaItem} {d : Document}
      (hd : Source.schemaDocument lines items = .ok d) : Obtainable (.document d)
  | executable {lines : Source.Lines} {definitions : List Source.ExecutableDefinition} {d : Document}
      (hd : Source.executableDocument lines definitions = .ok d) : Obtainable (.document d)
  | coordinate {nav : Navigator} {c : SchemaCoordinate} (hnav : ∀ p ∈ nav.nodes, Obtainable p.node)
      (hc : nav.schemaCoordinate = .ok c) : Obtainable (.schemaCoordinate c)

lemma Construction.valid_of_result {c : Construction} {n : Node} (h : c.result = .ok n) : n.Valid := by
  cases c with
  | name value =>
    rw [result, Name.new, Name.checked] at h
    split at h
    · cases h
    · next hv =>
      cases h
      exact hv
  | nonNull inner =>
    rw [result, TypeRef.newNonNull, TypeRef.checkedNonNull] at h
    split at h
    · cases h
    · next hi =>
      cases h
      exact Bool.eq_false_iff.mpr hi
  | coordinate ofDirective name member argument =>
    rw [result, SchemaCoordinate.new, SchemaCoordinate.checked] at h
    split at h
    · cases h
    · next hf =>
      cases h
      exact SchemaCoordinate.shaped_iff.mpr hf
  | typeCoordinate | memberCoordinate | fieldArgumentCoordinate | directiveCoordinate
    | directiveArgumentCoordinate =>
    cases h
    constructor
  | _ =>
    cases h
    trivial

lemma sound_schemaCoordinate {c : SchemaCoordinate} :
    (Node.schemaCoordinate c).Sound ↔ c.Shaped ∧ c.name.value ≠ "" ∧
      (∀ member ∈ c.member, member.value ≠ "") ∧ ∀ argument ∈ c.argument, argument.value ≠ "" := by
  rw [Node.sound_iff_slots]
  simp [Node.Valid, Node.slots, SchemaCoordinate.slots, Slot.one, Part.toNode, Source.sound_name]

namespace Element

variable {es : List Element} {c : SchemaCoordinate}

lemma sound_of_memberCoordinate {member : Name} {argument : Option Name}
    (hes : ∀ e ∈ es, e.name.value ≠ "") (hm : member.value ≠ "") (ha : ∀ a ∈ argument, a.value ≠ "")
    (h : memberCoordinate member argument es = .ok c) : (Node.schemaCoordinate c).Sound := by
  rw [memberCoordinate] at h
  split at h
  · cases h
  · next type ht =>
    cases h
    have htype : type.name.value ≠ "" := hes type (List.mem_of_find?_eq_some ht)
    rw [sound_schemaCoordinate]
    refine ⟨?_, htype, ?_, ha⟩
    · cases argument <;> constructor
    · simpa using hm

lemma sound_of_inputCoordinate {input : Name} (hes : ∀ e ∈ es, e.name.value ≠ "") (hi : input.value ≠ "")
    (h : inputCoordinate input es = .ok c) : (Node.schemaCoordinate c).Sound := by
  rw [inputCoordinate] at h
  split at h
  · cases h
  · next owner beyond hd =>
    have howner : ∀ e ∈ owner :: beyond, e.name.value ≠ "" :=
      fun e he => hes e ((List.dropWhile_sublist _).mem (hd ▸ he))
    obtain ⟨ho, hb⟩ := List.forall_mem_cons.mp howner
    split_ifs at h
    · cases h
      rw [sound_schemaCoordinate]
      exact ⟨.directiveArgument _ _ _, ho, by simp, by simpa using hi⟩
    · exact sound_of_memberCoordinate hb ho (by simpa using hi) h
    · cases h
      rw [sound_schemaCoordinate]
      exact ⟨.member _ _ _, ho, by simpa using hi, by simp⟩

lemma sound_of_coordinate {depth : Nat} (hes : ∀ e ∈ es, e.name.value ≠ "")
    (h : coordinate depth es = .ok c) : (Node.schemaCoordinate c).Sound := by
  cases es with
  | nil => cases h
  | cons e around =>
    obtain ⟨he, ha⟩ := List.forall_mem_cons.mp hes
    rw [coordinate] at h
    split_ifs at h
    · cases h
      rw [sound_schemaCoordinate]
      exact ⟨.type _ _, he, by simp, by simp⟩
    · cases h
      rw [sound_schemaCoordinate]
      exact ⟨.directive _ _, he, by simp, by simp⟩
    · exact sound_of_inputCoordinate ha he h
    · exact sound_of_memberCoordinate ha he (by simp) h

end Element

namespace Node

lemma of_declaredName? {p : Node → Prop} {n : Node} {s : Name} (h : n.declaredName? = some s)
    (hn : ∀ c ∈ n.children, p c) : p (name s) := by
  rw [forall_children] at hn
  cases n with
  | definition d =>
    cases d <;> cases h
    all_goals
      simp [slots, Definition.slots, TypeDefinition.slots, TypeExtension.slots, DirectiveDefinition.slots,
        Slot.one, Part.toNode] at hn
      tauto
  | fieldDefinition | inputValueDefinition | enumValueDefinition =>
    cases h
    simp [slots, FieldDefinition.slots, InputValueDefinition.slots, EnumValueDefinition.slots, Slot.one,
      Part.toNode] at hn
    tauto
  | typeRef t =>
    cases t <;> cases h
    simpa [slots, TypeRef.slots, Slot.one, Part.toNode] using hn
  | _ => cases h

lemma Sound.name_of_element? {n : Node} {e : Element} (hn : n.Sound) (he : n.element? = some e) :
    e.name.value ≠ "" := by
  rw [element?] at he
  split_ifs at he
  obtain ⟨s, hs, rfl⟩ := Option.map_eq_some_iff.mp he
  exact Source.sound_name.mp (of_declaredName? hs (sound_iff.mp hn).2)

end Node

lemma sound_of_navigator {nav : Navigator} {c : SchemaCoordinate} (hnav : ∀ p ∈ nav.nodes, p.node.Sound)
    (hc : nav.schemaCoordinate = .ok c) : (Node.schemaCoordinate c).Sound := by
  rcases nav with ⟨_ | ⟨p, ps⟩⟩
  · cases hc
  · -- the parts of the coordinate are names of nodes on the path
    have hc : Element.coordinate _ _ = .ok c := (Navigator.schemaCoordinate_push ⟨ps⟩ p).symm.trans hc
    refine Element.sound_of_coordinate (fun e he => ?_) hc
    obtain ⟨q, hq, he⟩ := List.mem_filterMap.mp he
    exact (hnav q hq).name_of_element? he

lemma Node.Sound.cases_of_update {n : Node} {x : FieldName} {c : Content} {r : Except TreeError Node}
    (hn : n.Sound) (hr : n.update x c = some r) (hparts : ∀ p ∈ c.nodes, p.Sound) :
    ∃ m : Node, m.kind = n.kind ∧ m.fields = setField x c n.fields ∧
      (m.Sound ∧ r = .ok m ∨ ¬m.Sound ∧ ∃ e, r = .error e ∧ m.constructed = .error e) := by
  obtain ⟨hv, hchildren⟩ := sound_iff.mp hn
  obtain ⟨m, hk, hf, hm⟩ := exists_accepted_of_update hv hr
  have hbelow : ∀ p ∈ m.children, p.Sound := fun p hp =>
    (mem_children_of_fields hf hp).elim (hparts p) (hchildren p)
  refine ⟨m, hk, hf, ?_⟩
  obtain ⟨ha, hvm⟩ | ⟨e, ha, he, hvm⟩ := m.accepted_cases
  · exact .inl ⟨sound_iff.mpr ⟨hvm, hbelow⟩, hm.trans ha⟩
  · exact .inr ⟨fun hs => hvm (sound_iff.mp hs).1, e, hm.trans ha, he⟩

lemma Node.Sound.update {n m : Node} {x : FieldName} {c : Content} (hn : n.Sound)
    (hm : n.update x c = some (.ok m)) (hparts : ∀ p ∈ c.nodes, p.Sound) : m.Sound := by
  obtain ⟨m', -, -, ⟨hs, hr⟩ | ⟨-, e, hr, -⟩⟩ := hn.cases_of_update hm hparts
  · exact Except.ok.inj hr ▸ hs
  · cases hr

lemma Obtainable.sound {n : Node} (h : Obtainable n) : n.Sound := by
  induction h with
  | constructed hn _ hparts => exact Node.sound_iff.mpr ⟨Construction.valid_of_result hn, hparts⟩
  | updated _ hm _ hn hparts => exact hn.update hm hparts
  | part _ hp hn => exact (Node.sound_iff.mp hn).2 _ hp
  | schema hd => exact Source.sound_of_schemaDocument hd
  | executable hd => exact Source.sound_of_executableDocument hd
  | coordinate _ hc hnav => exact sound_of_navigator hnav hc

/-- Whatever comes about keeps the three rules at every depth. Each of its fields takes what its sort says, and
an update is refused just when the node that it would make breaks a rule, with the error of that node's
constructor. -/
theorem Obtainable.keeps_rules {n : Node} (h : Obtainable n) :
    (∀ way m, n.at? way = some m →
      (∀ s, m = .name s → s.value ≠ "") ∧
      (∀ inner l, m = .typeRef (.nonNull inner l) → inner.isNonNull = false) ∧
      ∀ c, m = .schemaCoordinate c → c.Shaped ∧
        ∃ d, SchemaCoordinate.new c.ofDirective c.name c.member c.argument = .ok d ∧ (d == c) = true) ∧
    (∀ x c, (n.update x c).isSome = true ↔ ∃ s ∈ n.kind.sort? x, s.Takes c) ∧
    ∀ x c r, n.update x c = some r → (∀ p ∈ c.nodes, Obtainable p) →
      ∃ m : Node, m.kind = n.kind ∧ m.fields = setField x c n.fields ∧
        (x ≠ .location → m.location = n.location) ∧
        (m.Sound ∧ r = .ok m ∨ ¬m.Sound ∧ ∃ e, r = .error e ∧ m.constructed = .error e) := by
  refine ⟨?_, fun x c => Node.isSome_update_iff, ?_⟩
  · rintro way m hm
    have hm : m.Valid := h.sound way m hm
    refine ⟨?_, ?_, ?_⟩
    · rintro s rfl
      exact hm
    · rintro inner l rfl
      exact hm
    · rintro c rfl
      exact ⟨hm, hm.new⟩
  · intro x c r hr hparts
    obtain ⟨m, hk, hf, hm⟩ := h.sound.cases_of_update hr fun p hp => (hparts p hp).sound
    exact ⟨m, hk, hf, Node.location_of_fields hf, hm⟩

def includeIf : Node :=
  .schemaCoordinate (.ofDirectiveArgument ⟨"include", none⟩ ⟨"if", none⟩)

lemma obtainable_name {s : String} (hs : s ≠ "") : Obtainable (.name ⟨s, none⟩) := by
  refine .constructed (c := .name s) ?_ (List.forall_mem_nil _)
  rw [Construction.result, Name.new, Name.checked, if_neg hs]
  rfl

lemma obtainable_includeIf : Obtainable includeIf := by
  refine .constructed (c := .directiveArgumentCoordinate ⟨"include", none⟩ ⟨"if", none⟩) rfl ?_
  have hchildren : includeIf.children = [.name ⟨"include", none⟩, .name ⟨"if", none⟩] := rfl
  rw [hchildren]
  simp [obtainable_name]

def skipMember : Content :=
  .ofOptional (some (⟨"skip", none⟩ : Name))

/-- No member can stand in `@include(if:)`. -/
theorem keeps_rules_includeIf :
    Obtainable includeIf ∧
      includeIf.update .memberName skipMember =
        some (.error (.invalidCoordinate (.memberOfDirective "include"))) ∧
      (∃ c, SchemaCoordinate.new true ⟨"include", none⟩ none (some ⟨"if", none⟩) = .ok c ∧
        (c == .ofDirectiveArgument ⟨"include", none⟩ ⟨"if", none⟩) = true) ∧
      ∃ m : Node, m.kind = .schemaCoordinate ∧ m.fields = setField .memberName skipMember includeIf.fields ∧
        ¬m.Sound ∧ m.constructed = .error (.invalidCoordinate (.memberOfDirective "include")) := by
  have hskip : ∀ p ∈ skipMember.nodes, Obtainable p := by
    have hnodes : skipMember.nodes = [.name ⟨"skip", none⟩] := rfl
    rw [hnodes]
    simp [obtainable_name]
  have hu : includeIf.update .memberName skipMember =
      some (.error (.invalidCoordinate (.memberOfDirective "include"))) := rfl
  obtain ⟨hrules, -, hupdates⟩ := Obtainable.keeps_rules obtainable_includeIf
  obtain ⟨-, -, hc⟩ := hrules [] includeIf rfl
  obtain ⟨m, hk, hf, -, ⟨-, hr⟩ | ⟨hs, e, hr, he⟩⟩ := hupdates _ _ _ hu hskip
  · cases hr
  · cases hr
    exact ⟨obtainable_includeIf, hu, (hc _ rfl).2, m, hk, hf, hs, he⟩

end GraphQLTree
