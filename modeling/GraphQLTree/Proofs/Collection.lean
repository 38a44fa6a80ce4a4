import GraphQLTree.Proofs.Nesting
import GraphQLTree.Proofs.Walk.Course

namespace GraphQLTree

def FieldDefinition.coordinateTexts (type : String) (d : FieldDefinition) : List String :=
  (type ++ "." ++ d.name.value) ::
    d.arguments.map fun a => type ++ "." ++ d.name.value ++ "(" ++ a.name.value ++ ":)"

def TypeBody.coordinateTexts (type : String) : TypeBody → List String
  | scalar | union _ => []
  | object _ fields | interface _ fields => fields.flatMap (·.coordinateTexts type)
  | enum values => values.map fun v => type ++ "." ++ v.name.value
  | inputObject fields => fields.map fun d => type ++ "." ++ d.name.value

def Definition.coordinateTexts : Definition → List String
  | type d => d.name.value :: d.body.coordinateTexts d.name.value
  | typeExtension d => d.name.value :: d.body.coordinateTexts d.name.value
  | directive d =>
    ("@" ++ d.name.value) :: d.arguments.map fun a => "@" ++ d.name.value ++ "(" ++ a.name.value ++ ":)"
  | operation _ | fragment _ | schema _ | schemaExtension _ => []

def Document.coordinateTexts (d : Document) : List String :=
  d.definitions.flatMap (·.coordinateTexts)

def Node.coordinateTexts (around : List Element) : Node → List String
  | .document d => d.coordinateTexts
  | .definition d => d.coordinateTexts
  | .fieldDefinition d =>
    match around with
    | [type] => d.coordinateTexts type.name.value
    | _ => []
  | .enumValueDefinition d =>
    match around with
    | [type] => [type.name.value ++ "." ++ d.name.value]
    | _ => []
  | .inputValueDefinition d =>
    match around with
    | [owner] =>
      if owner.isDirective then ["@" ++ owner.name.value ++ "(" ++ d.name.value ++ ":)"]
      else [owner.name.value ++ "." ++ d.name.value]
    | [field, type] => [type.name.value ++ "." ++ field.name.value ++ "(" ++ d.name.value ++ ":)"]
    | _ => []
  | _ => []

namespace SchemaCoordinate

lemma render_ofType (type : Name) : (ofType type).render = type.value := by
  simp [ofType, render, memberText, argumentText]

lemma render_ofMember (type member : Name) :
    (ofMember type member).render = type.value ++ "." ++ member.value := by
  simp [ofMember, render, memberText, argumentText, String.append_assoc]

lemma render_ofFieldArgument (type field argument : Name) :
    (ofFieldArgument type field argument).render =
      type.value ++ "." ++ field.value ++ "(" ++ argument.value ++ ":)" := by
  simp [ofFieldArgument, render, memberText, argumentText, String.append_assoc]

lemma render_ofDirectiveName (directive : Name) :
    (ofDirectiveName directive).render = "@" ++ directive.value := by
  simp [ofDirectiveName, render, memberText, argumentText]

lemma render_ofDirectiveArgument (directive argument : Name) :
    (ofDirectiveArgument directive argument).render =
      "@" ++ directive.value ++ "(" ++ argument.value ++ ":)" := by
  simp [ofDirectiveArgument, render, memberText, argumentText, String.append_assoc]

end SchemaCoordinate

section Texts

variable {around : List Element} {n : Node}

lemma coordinateTexts_of_isBare (hn : n.isBare = true) : n.coordinateTexts around = [] := by
  cases n with
  | document | definition | fieldDefinition | inputValueDefinition | enumValueDefinition => cases hn
  | _ => rfl

lemma flatMap_coordinateTexts_of_isBare {ns : List Node} (hn : ∀ n ∈ ns, n.isBare = true) :
    ns.flatMap (·.coordinateTexts around) = [] :=
  List.flatMap_eq_nil_iff.mpr fun n h => coordinateTexts_of_isBare (hn n h)

def slotTexts (around : List Element) (slots : List Slot) : List String :=
  slots.flatMap fun s => s.content.nodes.flatMap (·.coordinateTexts around)

lemma flatMap_children (n : Node) :
    n.children.flatMap (·.coordinateTexts around) = slotTexts around n.slots := by
  rw [Node.children, List.flatMap_assoc]
  rfl

lemma slotTexts_of_isBare {slots : List Slot} (h : ∀ s ∈ slots, ∀ c ∈ s.content.nodes, c.isBare = true) :
    slotTexts around slots = [] :=
  List.flatMap_eq_nil_iff.mpr fun s hs => flatMap_coordinateTexts_of_isBare (h s hs)

lemma slotTexts_append (ss ts : List Slot) :
    slotTexts around (ss ++ ts) = slotTexts around ss ++ slotTexts around ts :=
  List.flatMap_append

lemma slotTexts_interfaces (body : TypeBody) (put : TypeBody → Node) :
    slotTexts around (body.interfaceSlots put) = [] := by
  apply slotTexts_of_isBare
  cases body <;> simp [TypeBody.interfaceSlots, Part.toNode, Node.isBare]

lemma slotTexts_many {α : Type} [Part α] (field : FieldName) (as : List α) (put : List α → Node) :
    slotTexts around [.many field as put] = as.flatMap fun a => (Part.toNode a).coordinateTexts around := by
  simp [slotTexts, Slot.many, Content.ofMany, Content.nodes, List.flatMap_map]

lemma slotTexts_members {e : Element} (he : e.isDirective = false) (body : TypeBody)
    (put : TypeBody → Node) :
    slotTexts [e] (body.memberSlots put) = body.coordinateTexts e.name.value := by
  cases body with
  | scalar => rfl
  | union types =>
    apply slotTexts_of_isBare
    simp [TypeBody.memberSlots, Part.toNode, Node.isBare]
  | object _ fields | interface _ fields =>
    rw [TypeBody.memberSlots, slotTexts_many]
    rfl
  | enum values =>
    rw [TypeBody.memberSlots, slotTexts_many, TypeBody.coordinateTexts, List.map_eq_flatMap]
    rfl
  | inputObject fields =>
    rw [TypeBody.memberSlots, slotTexts_many, TypeBody.coordinateTexts, List.map_eq_flatMap]
    simp only [Part.toNode, Node.coordinateTexts, he]
    rfl

lemma flatMap_type (d : TypeDefinition) :
    (Node.definition (.type d)).children.flatMap (·.coordinateTexts [d.element]) =
      d.body.coordinateTexts d.name.value := by
  have hd : d.element.isDirective = false := Element.isDirective_of_isType (isType_of_body (.inl rfl))
  rw [flatMap_children, Node.slots, Definition.slots, TypeDefinition.slots]
  simp only [slotTexts_append]
  rw [slotTexts_interfaces, slotTexts_members hd, slotTexts_of_isBare, slotTexts_of_isBare,
    slotTexts_of_isBare]
  · simp [TypeDefinition.element]
  all_goals simp [Slot.one, Slot.optional, Part.toNode, Node.isBare]

lemma flatMap_typeExtension (d : TypeExtension) :
    (Node.definition (.typeExtension d)).children.flatMap (·.coordinateTexts [d.element]) =
      d.body.coordinateTexts d.name.value := by
  have hd : d.element.isDirective = false := Element.isDirective_of_isType (isType_of_body (.inr rfl))
  rw [flatMap_children, Node.slots, Definition.slots, TypeExtension.slots]
  simp only [slotTexts_append]
  rw [slotTexts_interfaces, slotTexts_members hd, slotTexts_of_isBare, slotTexts_of_isBare,
    slotTexts_of_isBare]
  · simp [TypeExtension.element]
  all_goals simp [Slot.one, Part.toNode, Node.isBare]

lemma flatMap_children_of_slots {α : Type} [Part α] {field : FieldName} {as : List α} {put : List α → Node}
    (before after : List Slot) (hn : n.slots = before ++ .many field as put :: after)
    (hb : ∀ s ∈ before, ∀ c ∈ s.content.nodes, c.isBare = true)
    (ha : ∀ s ∈ after, ∀ c ∈ s.content.nodes, c.isBare = true) :
    n.children.flatMap (·.coordinateTexts around) =
      as.flatMap fun a => (Part.toNode a).coordinateTexts around := by
  rw [flatMap_children, hn, List.append_cons, slotTexts_append, slotTexts_append, slotTexts_many,
    slotTexts_of_isBare hb, slotTexts_of_isBare ha, List.nil_append, List.append_nil]

lemma flatMap_directive (d : DirectiveDefinition) :
    (Node.definition (.directive d)).children.flatMap (·.coordinateTexts [d.element]) =
      d.arguments.map fun a => "@" ++ d.name.value ++ "(" ++ a.name.value ++ ":)" := by
  rw [flatMap_children_of_slots (d.slots.take 2) (d.slots.drop 3) rfl, List.map_eq_flatMap]
  · rfl
  all_goals simp [DirectiveDefinition.slots, Slot.one, Slot.optional, Slot.flag, Part.toNode, Node.isBare]

lemma flatMap_field (type : Element) (d : FieldDefinition) :
    (Node.fieldDefinition d).children.flatMap (·.coordinateTexts [⟨.fieldDefinition, d.name⟩, type]) =
      d.arguments.map fun a => type.name.value ++ "." ++ d.name.value ++ "(" ++ a.name.value ++ ":)" := by
  rw [flatMap_children_of_slots (d.slots.take 2) (d.slots.drop 3) rfl, List.map_eq_flatMap]
  · rfl
  all_goals simp [FieldDefinition.slots, Slot.one, Slot.optional, Part.toNode, Node.isBare]

def LedBy (e : Element) (around : List Element) (n : Node) : Prop :=
  ∃ c : SchemaCoordinate, (∀ depth, Element.coordinate depth (e :: around) = .ok c) ∧
    n.coordinateTexts around = c.render :: n.children.flatMap (·.coordinateTexts (e :: around))

lemma ledBy_of_isBare_children {e : Element} {c : SchemaCoordinate} (hn : ∀ m ∈ n.children, m.isBare = true)
    (hc : ∀ depth, Element.coordinate depth (e :: around) = .ok c)
    (ht : n.coordinateTexts around = [c.render]) : LedBy e around n := by
  refine ⟨c, hc, ?_⟩
  rw [ht, flatMap_coordinateTexts_of_isBare hn]

lemma ledBy_definition {d : Definition} {e : Element} (he : (Node.definition d).element? = some e) :
    LedBy e [] (.definition d) := by
  cases d with
  | operation | fragment | schema | schemaExtension => cases he
  | directive d =>
    obtain rfl : d.element = e := Option.some.inj he
    refine ⟨.ofDirectiveName d.name, fun _ => rfl, ?_⟩
    rw [flatMap_directive, SchemaCoordinate.render_ofDirectiveName]
    rfl
  | type d =>
    obtain rfl : d.element = e := Option.some.inj ((Node.element?_type d).symm.trans he)
    refine ⟨.ofType d.name, Element.coordinate_of_isType (isType_of_body (.inl rfl)), ?_⟩
    rw [flatMap_type, SchemaCoordinate.render_ofType]
    rfl
  | typeExtension d =>
    obtain rfl : d.element = e := Option.some.inj ((Node.element?_typeExtension d).symm.trans he)
    refine ⟨.ofType d.name, Element.coordinate_of_isType (isType_of_body (.inr rfl)), ?_⟩
    rw [flatMap_typeExtension, SchemaCoordinate.render_ofType]
    rfl

lemma Fits.ledBy {e : Element} (h : Fits around n) (he : n.element? = some e) : LedBy e around n := by
  cases h with
  | document d => cases he
  | definition d => exact ledBy_definition he
  | @field type ht d =>
    obtain rfl : ⟨.fieldDefinition, d.name⟩ = e := Option.some.inj he
    refine ⟨.ofMember type.name d.name, fun _ => Element.memberCoordinate_of_isType ht d.name none, ?_⟩
    rw [flatMap_field, SchemaCoordinate.render_ofMember]
    rfl
  | @enumValue type ht d =>
    obtain rfl : ⟨.enumValueDefinition, d.name⟩ = e := Option.some.inj he
    refine ledBy_of_isBare_children (isBare_enumValue_children d)
      (fun _ => Element.memberCoordinate_of_isType ht d.name none) ?_
    exact congrArg ([·]) (SchemaCoordinate.render_ofMember type.name d.name).symm
  | @inputField type hi d =>
    obtain rfl : ⟨.inputValueDefinition, d.name⟩ = e := Option.some.inj he
    have hd := Element.isDirective_of_isType (Element.isType_of_isInputObject hi)
    refine ledBy_of_isBare_children (isBare_inputValue_children d)
      (fun _ => Element.inputCoordinate_of_isInputObject hi d.name) ?_
    simp [Node.coordinateTexts, hd, SchemaCoordinate.render_ofMember]
  | @directiveArgument directive hd d =>
    obtain rfl : ⟨.inputValueDefinition, d.name⟩ = e := Option.some.inj he
    refine ledBy_of_isBare_children (isBare_inputValue_children d)
      (fun _ => Element.inputCoordinate_of_isDirective hd d.name) ?_
    simp [Node.coordinateTexts, hd, SchemaCoordinate.render_ofDirectiveArgument]
  | @fieldArgument type field ht hf d =>
    obtain rfl : ⟨.inputValueDefinition, d.name⟩ = e := Option.some.inj he
    have hc : Element.inputCoordinate d.name [field, type] =
        .ok (.ofFieldArgument type.name field.name d.name) :=
      (Element.inputCoordinate_of_isField hf d.name).trans (Element.memberCoordinate_of_isType ht field.name _)
    refine ledBy_of_isBare_children (isBare_inputValue_children d) (fun _ => hc) ?_
    exact congrArg ([·]) (SchemaCoordinate.render_ofFieldArgument type.name field.name d.name).symm
  | bare hn =>
    rw [Node.element?_eq_none_of_isBare hn] at he
    cases he

lemma Fits.coordinateTexts_eq (h : Fits around n) (he : n.element? = none) :
    n.coordinateTexts around = n.children.flatMap (·.coordinateTexts around) := by
  cases h with
  | document d =>
    rw [flatMap_children_of_slots [] (d.slots.drop 1) rfl]
    · rfl
    all_goals simp [Document.slots]
  | definition d =>
    rw [flatMap_coordinateTexts_of_isBare (isBare_definition_children he)]
    rcases definition_of_element?_eq_none he with ⟨d, rfl⟩ | ⟨d, rfl⟩ | ⟨d, rfl⟩ | ⟨d, rfl⟩ <;> rfl
  | field | enumValue | inputField | directiveArgument | fieldArgument => cases he
  | bare hn =>
    rw [coordinateTexts_of_isBare hn, flatMap_coordinateTexts_of_isBare (Node.isBare_children hn)]

end Texts

namespace Command.Collector

def Adds (stretch : Navigator → Collector → Walked Collector) (nav : Navigator)
    (texts : List String) : Prop :=
  ∀ c, ∃ new : List Collected, stretch nav c = ⟨.next, nav, ⟨new ++ c.found, c.fault⟩⟩ ∧
    new.reverse.map (·.coordinate.render) = texts

variable {p : Placed} {nav : Navigator} {c : Collector}

lemma each_adds {ps : List Placed} {texts : Node → List String}
    (h : ∀ p ∈ ps, Adds (Walk.down visitor p) nav (texts p.node)) :
    Adds (Walk.each (Walk.down visitor) ps) nav ((ps.map (·.node)).flatMap texts) := by
  induction ps with
  | nil => exact fun c => ⟨[], rfl, rfl⟩
  | cons p ps ih =>
    intro c
    obtain ⟨new, hp, ht⟩ := h p List.mem_cons_self c
    obtain ⟨later, hps, hts⟩ := ih (fun q hq => h q (List.mem_cons_of_mem _ hq)) ⟨new ++ c.found, c.fault⟩
    refine ⟨later ++ new, ?_, ?_⟩
    · simp only [Walk.each, hp, hps, List.append_assoc]
    · simp [← ht, ← hts]

lemma enter_of_none (he : p.node.element? = none) : enter p (nav.push p) c = (.next, c) := by
  have hk := p.node.isSome_element?
  rw [he] at hk
  simp [enter, ← hk]

lemma enter_of_some {e : Element} {coordinate : SchemaCoordinate} (he : p.node.element? = some e)
    (hc : ∀ depth, Element.coordinate depth (e :: nav.elements) = .ok coordinate) :
    enter p (nav.push p) c = (.next, ⟨⟨coordinate, (nav.push p).size⟩ :: c.found, c.fault⟩) := by
  have hk := p.node.isSome_element?
  rw [he] at hk
  have hs : (nav.push p).schemaCoordinate = .ok coordinate := by
    rw [nav.schemaCoordinate_push, nav.elements_push, he]
    exact hc _
  simp [enter, ← hk, hs]

lemma down_of_enter {c' : Collector} {texts : List String} (he : enter p (nav.push p) c = (.next, c'))
    (hc : Adds (Walk.each (Walk.down visitor) p.children) (nav.push p) texts) :
    ∃ new : List Collected, Walk.down visitor p nav c = ⟨.next, nav, ⟨new ++ c'.found, c'.fault⟩⟩ ∧
      new.reverse.map (·.coordinate.render) = texts := by
  obtain ⟨new, hw, ht⟩ := hc c'
  have he : visitor.enter p (nav.push p) c = (.next, c') := he
  refine ⟨new, ?_, ht⟩
  rw [Walk.down_eq, he]
  simp only [hw]
  rfl

lemma down_adds (p : Placed) (nav : Navigator) (h : Fits nav.elements p.node) :
    Adds (Walk.down visitor p) nav (p.node.coordinateTexts nav.elements) := by
  induction p using Placed.induction generalizing nav with
  | step p ih =>
    -- Each child fits under the elements of the longer way, which is what the hypothesis asks for.
    have hbelow : Adds (Walk.each (Walk.down visitor) p.children) (nav.push p)
        (p.node.children.flatMap (·.coordinateTexts (p.node.element?.toList ++ nav.elements))) := by
      rw [← p.map_node_children, ← nav.elements_push]
      refine each_adds fun q hq => ih q hq _ ?_
      rw [nav.elements_push]
      refine h.child q.node ?_
      rw [← p.map_node_children]
      exact List.mem_map_of_mem hq
    intro c
    cases he : p.node.element? with
    | none =>
      rw [he] at hbelow
      obtain ⟨new, hw, ht⟩ := down_of_enter (enter_of_none he) hbelow
      exact ⟨new, hw, ht.trans (h.coordinateTexts_eq he).symm⟩
    | some e =>
      rw [he] at hbelow
      obtain ⟨coordinate, hc, ht⟩ := h.ledBy he
      obtain ⟨new, hw, hn⟩ := down_of_enter (enter_of_some he hc) hbelow
      refine ⟨new ++ [⟨coordinate, (nav.push p).size⟩], ?_, ?_⟩
      · rw [hw, List.append_assoc]
        rfl
      · rw [ht]
        simpa using hn

theorem walk_eq_coordinateTexts (d : Document) :
    (walk d).flow = .next ∧ (walk d).navigator = .empty ∧ (walk d).state.fault = none ∧
      (walk d).state.found.reverse.map (·.coordinate.render) = d.coordinateTexts := by
  obtain ⟨new, hw, ht⟩ := down_adds (Placed.root 0 (.document d)) .empty (.document d) ⟨[], none⟩
  have ht : new.reverse.map (·.coordinate.render) = d.coordinateTexts := ht
  rw [walk, hw]
  exact ⟨rfl, rfl, rfl, by simpa using ht⟩

end Command.Collector

end GraphQLTree
