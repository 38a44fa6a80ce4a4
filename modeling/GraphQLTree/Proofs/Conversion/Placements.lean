import GraphQLTree.Proofs.Conversion.Soundness

namespace GraphQLTree

def Kind.isMarked : Kind → Bool
  | .schemaDefinition | .directiveDefinition | .fieldDefinition | .inputValueDefinition | .enumValueDefinition
  | .directive | .operationDefinition | .variableDefinition | .fragmentDefinition | .selectionSet | .field
  | .fragmentSpread | .inlineFragment => true
  | k => k.isTypeDefinition || k.isTypeExtension

namespace Node

def depthFirst (n : Node) : List Node :=
  n :: n.children.attach.flatMap fun c => c.1.depthFirst
termination_by sizeOf n
decreasing_by exact sizeOf_lt_of_mem_children c.2

def located (n : Node) : List Node :=
  n.depthFirst.filter (·.location.isSome)

/-- Whether a child lies where its node does: so do a name that a construct declares and the variable of a
variable definition. -/
def shares (n : Node) (x : FieldName) (c : Node) : Bool :=
  c.kind == .variable && x == .var ||
    c.kind == .name && n.location.isSome && n.kind != .fragmentSpread && x != .locations

structure Holds (n : Node) (x : FieldName) (c : Node) : Prop where
  isSome_eq : c.location.isSome = (c.kind.isMarked || n.shares x c)
  of_shares : n.shares x c = true → c.location = n.location

def Settled (n : Node) : Prop :=
  ∀ way m, n.at? way = some m → ∀ s ∈ m.slots, ∀ c ∈ s.content.nodes, m.Holds s.field c

variable {n : Node}

lemma depthFirst_eq (n : Node) : n.depthFirst = n :: n.children.flatMap depthFirst := by
  rw [depthFirst, ← List.flatMap_map Subtype.val, List.attach_map_subtype_val]

lemma located_eq (n : Node) :
    n.located = [n].filter (·.location.isSome) ++ n.slots.flatMap fun s => s.content.nodes.flatMap located := by
  rw [located, depthFirst_eq, ← List.singleton_append, List.filter_append, List.filter_flatMap, children,
    List.flatMap_assoc]
  rfl

lemma settled_iff_slots : n.Settled ↔ ∀ s ∈ n.slots, ∀ c ∈ s.content.nodes, n.Holds s.field c ∧ c.Settled := by
  rw [Settled, forall_at?_iff, forall_children]
  simp only [← forall_and]
  rfl

end Node

namespace Source

section Placements

variable (place : Mark → Location)

def Mark.naming (m : Mark) (s : String) : Node × Mark :=
  (.name (m.named place s), m)

def Directive.placements (d : Directive) : List (Node × Mark) :=
  [(.directive (d.tree place), d.mark), d.mark.naming place d.name]

def VariableDefinition.placements (d : VariableDefinition) : List (Node × Mark) :=
  [(.variableDefinition (d.tree place), d.mark), (.value (.var (d.tree place).var), d.mark),
    d.mark.naming place d.name]

def FragmentSpread.placements (s : FragmentSpread) : List (Node × Mark) :=
  (.selection (.spread (s.tree place)), s.mark) :: s.directives.flatMap (·.placements place)

mutual

def Selection.placements : Selection → List (Node × Mark)
  | .field f => f.placements
  | .spread s => s.placements place
  | .inline f => f.placements

def Selection.placementsAll : List Selection → List (Node × Mark)
  | [] => []
  | s :: ss => s.placements ++ Selection.placementsAll ss

def Field.placements : Field → List (Node × Mark)
  | ⟨mark, aliasName, name, arguments, directives, set⟩ =>
    (.selection (.field (Field.tree place ⟨mark, aliasName, name, arguments, directives, set⟩)), mark) ::
      (aliasName.toList.map (mark.naming place) ++ mark.naming place name ::
        (directives.flatMap (·.placements place) ++ set.placements?))

def InlineFragment.placements : InlineFragment → List (Node × Mark)
  | ⟨mark, typeCondition, directives, set⟩ =>
    (.selection (.inline (InlineFragment.tree place ⟨mark, typeCondition, directives, set⟩)), mark) ::
      (directives.flatMap (·.placements place) ++ set.placements)

def SelectionSet.placements : SelectionSet → List (Node × Mark)
  | ⟨mark, items⟩ => (.selectionSet (SelectionSet.tree place ⟨mark, items⟩), mark) :: Selection.placementsAll items

def SelectionSet.placements? : SelectionSet → List (Node × Mark)
  | ⟨_, []⟩ => []
  | ⟨mark, item :: items⟩ =>
    (.selectionSet (SelectionSet.tree place ⟨mark, item :: items⟩), mark) ::
      (item.placements ++ Selection.placementsAll items)

end

def Operation.placements (o : Operation) : List (Node × Mark) :=
  (.definition (.operation (o.tree place)), o.mark) :: (o.name.toList.map (o.mark.naming place) ++
    o.variableDefinitions.flatMap (·.placements place) ++ o.directives.flatMap (·.placements place) ++
    o.selectionSet.placements place)

def Fragment.placements (f : Fragment) : List (Node × Mark) :=
  (.definition (.fragment (f.tree place)), f.mark) :: f.mark.naming place f.name ::
    (f.directives.flatMap (·.placements place) ++ f.selectionSet.placements place)

def ExecutableDefinition.placements : ExecutableDefinition → List (Node × Mark)
  | shorthand set => (.definition ((shorthand set).tree place), set.mark) :: set.placements place
  | operation o => o.placements place
  | fragment f => f.placements place

def InputValue.placements (v : InputValue) : List (Node × Mark) :=
  (.inputValueDefinition (v.tree place), v.mark) :: v.mark.naming place v.name ::
    v.directives.flatMap (·.placements place)

def FieldDefinition.placements (f : FieldDefinition) : List (Node × Mark) :=
  (.fieldDefinition (f.tree place), f.mark) :: f.mark.naming place f.name ::
    (f.arguments.flatMap (·.placements place) ++ f.directives.flatMap (·.placements place))

def EnumValue.placements (v : EnumValue) : List (Node × Mark) :=
  (.enumValueDefinition (v.tree place), v.mark) :: v.mark.naming place v.name ::
    v.directives.flatMap (·.placements place)

def TypeBody.placements : TypeBody → List (Node × Mark)
  | scalar | union _ => []
  | object _ fields | interface _ fields => fields.flatMap (·.placements place)
  | enum values => values.flatMap (·.placements place)
  | inputObject fields => fields.flatMap (·.placements place)

def TypeDefinition.placements (d : TypeDefinition) : List (Node × Mark) :=
  (.definition (.type (d.tree place)), d.mark) :: d.mark.naming place d.name ::
    (d.directives.flatMap (·.placements place) ++ d.body.placements place)

def TypeExtension.placements (d : TypeExtension) : List (Node × Mark) :=
  (.definition (.typeExtension (d.tree place)), d.mark) :: d.mark.naming place d.name ::
    (d.directives.flatMap (·.placements place) ++ d.body.placements place)

def DirectiveDefinition.placements (d : DirectiveDefinition) : List (Node × Mark) :=
  (.definition (.directive (d.tree place)), d.mark) :: d.mark.naming place d.name ::
    d.arguments.flatMap (·.placements place)

def SchemaDefinition.placements (d : SchemaDefinition) : List (Node × Mark) :=
  (.definition (.schema (d.tree place)), d.mark) :: d.directives.flatMap (·.placements place)

def SchemaItem.placements : SchemaItem → List (Node × Mark)
  | schema d => d.placements place
  | type d => d.placements place
  | extension d => d.placements place
  | directive d => d.placements place

end Placements

lemma Selection.placementsAll_eq (place : Mark → Location) (ss : List Selection) :
    Selection.placementsAll place ss = ss.flatMap (·.placements place) := by
  induction ss with
  | nil => rw [placementsAll, List.flatMap_nil]
  | cons s ss ih => rw [placementsAll, List.flatMap_cons, ih]

/-- The located nodes of a tree are those of a list, in its order, and each lies at the mark beside it. -/
structure Laid (place : Mark → Location) (n : Node) (ps : List (Node × Mark)) : Prop where
  located_eq : n.located = ps.map (·.1)
  location_eq : ∀ p ∈ ps, p.1.location = some (place p.2)
  settled : n.Settled

structure SlotsLaid (place : Mark → Location) (n : Node) (ss : List Slot) (ps : List (Node × Mark)) : Prop where
  located_eq : (ss.flatMap fun s => s.content.nodes.flatMap Node.located) = ps.map (·.1)
  location_eq : ∀ p ∈ ps, p.1.location = some (place p.2)
  settled : ∀ s ∈ ss, ∀ c ∈ s.content.nodes, n.Holds s.field c ∧ c.Settled

section Rules

variable {place : Mark → Location} {n : Node} {ps ps' : List (Node × Mark)} {s : Slot} {ss ss' : List Slot}

lemma Laid.marked {m : Mark} (hn : n.location = some (place m)) (h : SlotsLaid place n n.slots ps)
    (hps : (n, m) :: ps = ps') : Laid place n ps' := by
  subst hps
  refine ⟨?_, List.forall_mem_cons.mpr ⟨hn, h.location_eq⟩, Node.settled_iff_slots.mpr h.settled⟩
  rw [n.located_eq, h.located_eq, List.filter_cons_of_pos (by rw [hn]; rfl)]
  rfl

lemma Laid.bare (hn : n.location = none) (h : SlotsLaid place n n.slots ps) (hps : ps = ps') :
    Laid place n ps' := by
  subst hps
  refine ⟨?_, h.location_eq, Node.settled_iff_slots.mpr h.settled⟩
  rw [n.located_eq, h.located_eq, List.filter_cons_of_neg (by rw [hn]; exact Bool.false_ne_true)]
  rfl

lemma SlotsLaid.nil : SlotsLaid place n [] [] :=
  ⟨rfl, List.forall_mem_nil _, List.forall_mem_nil _⟩

lemma SlotsLaid.append (h : SlotsLaid place n ss ps) (h' : SlotsLaid place n ss' ps') :
    SlotsLaid place n (ss ++ ss') (ps ++ ps') := by
  refine ⟨?_, List.forall_mem_append.mpr ⟨h.location_eq, h'.location_eq⟩,
    List.forall_mem_append.mpr ⟨h.settled, h'.settled⟩⟩
  rw [List.flatMap_append, h.located_eq, h'.located_eq, List.map_append]

lemma SlotsLaid.cons (h : SlotsLaid place n [s] ps) (h' : SlotsLaid place n ss ps') :
    SlotsLaid place n (s :: ss) (ps ++ ps') :=
  h.append h'

lemma SlotsLaid.single (hs : s.content.nodes.flatMap Node.located = ps.map (·.1))
    (hp : ∀ p ∈ ps, p.1.location = some (place p.2))
    (hc : ∀ c ∈ s.content.nodes, n.Holds s.field c ∧ c.Settled) : SlotsLaid place n [s] ps := by
  refine ⟨?_, hp, List.forall_mem_singleton.mpr hc⟩
  rw [List.flatMap_singleton]
  exact hs

variable {α β : Type} [Part α] {x : FieldName}

lemma SlotsLaid.empty (hs : s.content.nodes = []) : SlotsLaid place n [s] [] :=
  .single (by rw [hs]; rfl) (List.forall_mem_nil _) (by rw [hs]; exact List.forall_mem_nil _)

lemma SlotsLaid.checkedOne {a : α} {put : α → Except TreeError Node} (hc : n.Holds x (Part.toNode a))
    (h : Laid place (Part.toNode a) ps) : SlotsLaid place n [.checkedOne x a put] ps :=
  .single ((List.append_nil _).trans h.located_eq) h.location_eq (List.forall_mem_singleton.mpr ⟨hc, h.settled⟩)

lemma SlotsLaid.one {a : α} {put : α → Node} (hc : n.Holds x (Part.toNode a))
    (h : Laid place (Part.toNode a) ps) : SlotsLaid place n [.one x a put] ps :=
  .checkedOne hc h

lemma SlotsLaid.some {a : α} {put : Option α → Node} (hc : n.Holds x (Part.toNode a))
    (h : Laid place (Part.toNode a) ps) : SlotsLaid place n [.optional x (some a) put] ps :=
  .single ((List.append_nil _).trans h.located_eq) h.location_eq (List.forall_mem_singleton.mpr ⟨hc, h.settled⟩)

lemma SlotsLaid.optional {o : Option β} {f : β → α} {put : Option α → Node}
    (h : ∀ b ∈ o, n.Holds x (Part.toNode (f b)) ∧ Laid place (Part.toNode (f b)) []) :
    SlotsLaid place n [.optional x (o.map f) put] [] := by
  cases o with
  | none => exact .empty rfl
  | some b => exact .some (h b rfl).1 (h b rfl).2

lemma SlotsLaid.many {bs : List β} {f : β → α} {ps : β → List (Node × Mark)} {put : List α → Node}
    (h : ∀ b ∈ bs, n.Holds x (Part.toNode (f b)) ∧ Laid place (Part.toNode (f b)) (ps b)) :
    SlotsLaid place n [.many x (bs.map f) put] (bs.flatMap ps) := by
  have hnodes : (Slot.many x (bs.map f) put).content.nodes = bs.map fun b => Part.toNode (f b) :=
    List.map_map
  refine .single ?_ (List.forall_mem_flatMap.mpr fun b hb => (h b hb).2.location_eq) ?_
  · rw [hnodes, List.flatMap_map, List.map_flatMap]
    exact List.flatMap_congr fun b hb => (h b hb).2.located_eq
  · rw [hnodes, List.forall_mem_map]
    exact fun b hb => ⟨(h b hb).1, (h b hb).2.settled⟩

lemma SlotsLaid.manyBare {bs : List β} {f : β → α} {put : List α → Node}
    (h : ∀ b ∈ bs, n.Holds x (Part.toNode (f b)) ∧ Laid place (Part.toNode (f b)) []) :
    SlotsLaid place n [.many x (bs.map f) put] [] := by
  have hnil : bs.flatMap (fun _ => ([] : List (Node × Mark))) = [] := by simp
  exact hnil ▸ SlotsLaid.many h

end Rules

section Parts

variable {place : Mark → Location}

-- Kinds, slots and locations are read off a tree by `rfl`: a construct is at its mark, a child has the location of
-- its node or none.

lemma Mark.laid_named (m : Mark) (s : String) : Laid place (.name (m.named place s)) [m.naming place s] :=
  .marked rfl (.cons (.empty rfl) (.empty rfl)) rfl

lemma laid_referred (s : String) : Laid place (.name (referred s)) [] :=
  .bare rfl (.cons (.empty rfl) (.empty rfl)) rfl

lemma laid_namedType (s : String) : Laid place (.typeRef (.named (namedType s))) [] :=
  .bare rfl (.cons (.one ⟨rfl, fun _ => rfl⟩ (laid_referred s)) (.empty rfl)) rfl

lemma laid_string (s : String) : Laid place (.value (.string ⟨s, false, none⟩)) [] :=
  .bare rfl (.cons (.empty rfl) (.cons (.empty rfl) (.empty rfl))) rfl

lemma holds_typeExpr {n : Node} {x : FieldName} (t : TypeExpr) : n.Holds x (.typeRef t.tree) := by
  cases t <;> exact ⟨rfl, nofun⟩

lemma holds_value {n : Node} {x : FieldName} (v : Value) (hx : (x == .var) = false) :
    n.Holds x (.value v.tree) := by
  cases v with
  | var s =>
    -- A variable is located in a variable definition only, not as a value.
    rw [Value.tree]
    have hs : n.shares x (.value (.var ⟨referred s, none⟩)) = false := by
      rw [Node.shares, hx]
      rfl
    exact ⟨by rw [hs]; rfl, fun h => nomatch hs.symm.trans h⟩
  | _ =>
    rw [Value.tree]
    exact ⟨rfl, nofun⟩

lemma holds_selectionSet {n : Node} {x : FieldName} (set : SelectionSet) :
    n.Holds x (.selectionSet (set.tree place)) := by
  rcases set with ⟨mark, items⟩
  rw [SelectionSet.tree]
  exact ⟨rfl, nofun⟩

lemma holds_selection {n : Node} {x : FieldName} (s : Selection) : n.Holds x (.selection (s.tree place)) := by
  rcases s with ⟨_, _, _, _, _, _⟩ | s | ⟨_, _, _, _⟩
  · rw [Selection.tree, Field.tree]
    exact ⟨rfl, nofun⟩
  · rw [Selection.tree]
    exact ⟨rfl, nofun⟩
  · rw [Selection.tree, InlineFragment.tree]
    exact ⟨rfl, nofun⟩

lemma TypeExpr.laid_tree (t : TypeExpr) : Laid place (.typeRef t.tree) [] := by
  induction t with
  | named s => exact laid_namedType s
  | list t ih => exact .bare rfl (.cons (.one (holds_typeExpr t) ih) (.empty rfl)) rfl
  | nonNull t ih =>
    exact .bare rfl (.cons (.checkedOne (holds_typeExpr t) ih) (.empty rfl)) rfl

mutual

lemma Value.laid_tree : ∀ v : Value, Laid place (.value v.tree) []
  | .var s => by
    rw [Value.tree]
    exact .bare rfl (.cons (.one ⟨rfl, fun _ => rfl⟩ (laid_referred s)) (.empty rfl)) rfl
  | .int _ | .float _ | .boolean _ | .enum _ => by
    rw [Value.tree]
    exact .bare rfl (.cons (.empty rfl) (.empty rfl)) rfl
  | .string s => by
    rw [Value.tree]
    exact laid_string s
  | .null => by
    rw [Value.tree]
    exact .bare rfl (.empty rfl) rfl
  | .list items => by
    rw [Value.tree, Value.trees_eq_map]
    exact .bare rfl (.cons (.manyBare fun v hv => ⟨holds_value v rfl, Value.laid_trees items v hv⟩)
      (.empty rfl)) rfl
  | .object entries => by
    rw [Value.tree, Entry.objectFields_eq_map]
    exact .bare rfl (.cons (.manyBare fun e he => ⟨⟨rfl, nofun⟩, Entry.laid_objectFields entries e he⟩)
      (.empty rfl)) rfl

lemma Value.laid_trees : ∀ vs : List Value, ∀ v ∈ vs, Laid place (.value v.tree) []
  | [] => nofun
  | v :: vs => List.forall_mem_cons.mpr ⟨Value.laid_tree v, Value.laid_trees vs⟩

lemma Entry.laid_objectFields : ∀ es : List Entry, ∀ e ∈ es, Laid place (.objectField e.objectField) []
  | [] => nofun
  | ⟨key, value⟩ :: es => by
    refine List.forall_mem_cons.mpr ⟨?_, Entry.laid_objectFields es⟩
    exact .bare rfl (.cons (.one ⟨rfl, fun _ => rfl⟩ (laid_referred key))
      (.cons (.one (holds_value value rfl) (Value.laid_tree value)) (.empty rfl))) rfl

end

lemma Entry.laid_argument (e : Entry) : Laid place (.argument e.argument) [] :=
  .bare rfl (.cons (.one ⟨rfl, fun _ => rfl⟩ (laid_referred e.key))
    (.cons (.one (holds_value e.value rfl) e.value.laid_tree) (.empty rfl))) rfl

lemma Directive.laid_tree (d : Directive) : Laid place (.directive (d.tree place)) (d.placements place) :=
  .marked rfl (.cons (.one ⟨rfl, fun _ => rfl⟩ (d.mark.laid_named d.name))
    (.cons (.manyBare fun e _ => ⟨⟨rfl, nofun⟩, e.laid_argument⟩) (.empty rfl))) rfl

lemma Mark.laid_optional {n : Node} {x : FieldName} {put : Option Name → Node} {m : Mark}
    (hn : ∀ s, n.Holds x (.name (m.named place s))) (o : Option String) :
    SlotsLaid place n [.optional x (o.map (m.named place)) put] (o.toList.map (m.naming place)) := by
  cases o with
  | none => exact .empty rfl
  | some s => exact .some (hn s) (m.laid_named s)

lemma laid_directives {n : Node} {put : List GraphQLTree.Directive → Node} (ds : List Directive) :
    SlotsLaid place n [.many .directives (ds.map (·.tree place)) put] (ds.flatMap (·.placements place)) :=
  .many fun d _ => ⟨⟨rfl, nofun⟩, d.laid_tree⟩

lemma VariableDefinition.laid_tree (d : VariableDefinition) :
    Laid place (.variableDefinition (d.tree place)) (d.placements place) := by
  have hvar : Laid place (.value (.var (d.tree place).var))
      [(.value (.var (d.tree place).var), d.mark), d.mark.naming place d.name] :=
    .marked rfl (.cons (.one ⟨rfl, fun _ => rfl⟩ (d.mark.laid_named d.name)) (.empty rfl)) rfl
  exact .marked rfl (.cons (.one ⟨rfl, fun _ => rfl⟩ hvar) (.cons (.one (holds_typeExpr d.type) d.type.laid_tree)
    (.cons (.optional fun v _ => ⟨holds_value v rfl, v.laid_tree⟩)
      (.cons (.empty rfl) (.empty rfl))))) rfl

lemma FragmentSpread.laid_tree (s : FragmentSpread) :
    Laid place (.selection (.spread (s.tree place))) (s.placements place) := by
  refine .marked rfl (.cons (.one ⟨rfl, nofun⟩ (laid_referred s.name))
    (.cons (laid_directives s.directives) (.empty rfl))) ?_
  simp [placements]

lemma Laid.tree? {n : Node} {put : Option GraphQLTree.SelectionSet → Node} {set : SelectionSet}
    (h : Laid place (.selectionSet (set.tree place)) (set.placements place)) :
    SlotsLaid place n [.optional .selectionSet (set.tree? place) put] (set.placements? place) := by
  rcases set with ⟨mark, _ | ⟨item, items⟩⟩
  · rw [SelectionSet.tree?, SelectionSet.placements?]
    exact .empty rfl
  · rw [SelectionSet.placements, SelectionSet.tree, Selection.trees, Selection.placementsAll] at h
    rw [SelectionSet.tree?, SelectionSet.placements?, SelectionSet.tree, Selection.trees]
    exact .some ⟨rfl, nofun⟩ h

mutual

lemma Selection.laid_tree :
    ∀ s : Selection, Laid place (.selection (s.tree place)) (s.placements place)
  | .field f => by
    rw [Selection.tree, Selection.placements]
    exact Field.laid_tree f
  | .spread s => by
    rw [Selection.tree, Selection.placements]
    exact s.laid_tree
  | .inline f => by
    rw [Selection.tree, Selection.placements]
    exact InlineFragment.laid_tree f

lemma Selection.laid_trees :
    ∀ ss : List Selection, ∀ s ∈ ss, Laid place (.selection (s.tree place)) (s.placements place)
  | [] => nofun
  | s :: ss => List.forall_mem_cons.mpr ⟨Selection.laid_tree s, Selection.laid_trees ss⟩

lemma Field.laid_tree : ∀ f : Field, Laid place (.selection (.field (f.tree place))) (f.placements place)
  | ⟨mark, aliasName, name, arguments, directives, set⟩ => by
    rw [Field.placements, Field.tree]
    refine .marked rfl (.cons (mark.laid_optional (fun _ => ⟨rfl, fun _ => rfl⟩) aliasName)
      (.cons (.one ⟨rfl, fun _ => rfl⟩ (mark.laid_named name))
        (.cons (.manyBare fun e _ => ⟨⟨rfl, nofun⟩, e.laid_argument⟩) (.cons (laid_directives directives)
          (.cons (SelectionSet.laid_tree set).tree? (.empty rfl)))))) ?_
    simp

lemma InlineFragment.laid_tree :
    ∀ f : InlineFragment, Laid place (.selection (.inline (f.tree place))) (f.placements place)
  | ⟨mark, typeCondition, directives, set⟩ => by
    rw [InlineFragment.placements, InlineFragment.tree]
    refine .marked rfl (.cons (.optional fun s _ => ⟨⟨rfl, nofun⟩, laid_namedType s⟩)
      (.cons (laid_directives directives) (.cons (.one (holds_selectionSet set) (SelectionSet.laid_tree set))
        (.empty rfl)))) ?_
    simp

lemma SelectionSet.laid_tree :
    ∀ set : SelectionSet, Laid place (.selectionSet (set.tree place)) (set.placements place)
  | ⟨mark, items⟩ => by
    rw [SelectionSet.placements, SelectionSet.tree, Selection.trees_eq_map, Selection.placementsAll_eq]
    refine .marked rfl (.cons (.many fun s hs => ⟨holds_selection s, Selection.laid_trees items s hs⟩)
      (.empty rfl)) ?_
    simp

end

lemma Operation.laid_tree (o : Operation) :
    Laid place (.definition (.operation (o.tree place))) (o.placements place) := by
  refine .marked rfl (.cons (.empty rfl) (.cons (o.mark.laid_optional (fun _ => ⟨rfl, fun _ => rfl⟩) o.name)
    (.cons (.many fun d _ => ⟨⟨rfl, nofun⟩, d.laid_tree⟩) (.cons (laid_directives o.directives)
      (.cons (.one (holds_selectionSet _) o.selectionSet.laid_tree) (.empty rfl)))))) ?_
  simp [placements]

lemma Fragment.laid_tree (f : Fragment) :
    Laid place (.definition (.fragment (f.tree place))) (f.placements place) := by
  refine .marked rfl (.cons (.one ⟨rfl, fun _ => rfl⟩ (f.mark.laid_named f.name)) (.cons (.empty rfl)
    (.cons (.one ⟨rfl, nofun⟩ (laid_namedType f.typeCondition)) (.cons (laid_directives f.directives)
      (.cons (.one (holds_selectionSet _) f.selectionSet.laid_tree) (.empty rfl)))))) ?_
  simp [placements]

lemma ExecutableDefinition.laid_tree (d : ExecutableDefinition) :
    Laid place (.definition (d.tree place)) (d.placements place) := by
  cases d with
  | shorthand set =>
    refine .marked rfl (.cons (.empty rfl) (.cons (.empty rfl) (.cons (.empty rfl) (.cons (.empty rfl)
      (.cons (.one (holds_selectionSet _) set.laid_tree) (.empty rfl)))))) ?_
    simp [placements]
  | operation o => exact o.laid_tree
  | fragment f => exact f.laid_tree

lemma laid_description {n : Node} {put : Option StringValue → Node} (o : Option String) :
    SlotsLaid place n [.optional .description (describe o) put] [] :=
  .optional fun s _ => ⟨⟨rfl, nofun⟩, laid_string s⟩

lemma InputValue.laid_tree (v : InputValue) :
    Laid place (.inputValueDefinition (v.tree place)) (v.placements place) := by
  refine .marked rfl (.cons (laid_description v.description)
    (.cons (.one ⟨rfl, fun _ => rfl⟩ (v.mark.laid_named v.name))
      (.cons (.one (holds_typeExpr v.type) v.type.laid_tree)
        (.cons (.optional fun w _ => ⟨holds_value w rfl, w.laid_tree⟩)
          (.cons (laid_directives v.directives) (.empty rfl)))))) ?_
  simp [placements]

lemma laid_inputValues {n : Node} {x : FieldName} {put : List InputValueDefinition → Node} (vs : List InputValue) :
    SlotsLaid place n [.many x (vs.map (·.tree place)) put] (vs.flatMap (·.placements place)) :=
  .many fun v _ => ⟨⟨rfl, nofun⟩, v.laid_tree⟩

lemma FieldDefinition.laid_tree (f : FieldDefinition) :
    Laid place (.fieldDefinition (f.tree place)) (f.placements place) := by
  refine .marked rfl (.cons (laid_description f.description)
    (.cons (.one ⟨rfl, fun _ => rfl⟩ (f.mark.laid_named f.name)) (.cons (laid_inputValues f.arguments)
      (.cons (.one (holds_typeExpr f.type) f.type.laid_tree)
        (.cons (laid_directives f.directives) (.empty rfl)))))) ?_
  simp [placements]

lemma EnumValue.laid_tree (v : EnumValue) :
    Laid place (.enumValueDefinition (v.tree place)) (v.placements place) := by
  refine .marked rfl (.cons (laid_description v.description)
    (.cons (.one ⟨rfl, fun _ => rfl⟩ (v.mark.laid_named v.name))
      (.cons (laid_directives v.directives) (.empty rfl)))) ?_
  simp [placements]

lemma TypeBody.laid_interfaces {n : Node} (b : TypeBody) (put : GraphQLTree.TypeBody → Node) :
    SlotsLaid place n ((b.tree place).interfaceSlots put) [] := by
  cases b with
  | object | interface => exact .manyBare fun s _ => ⟨⟨rfl, nofun⟩, laid_namedType s⟩
  | scalar | union | enum | inputObject => exact .nil

lemma TypeBody.laid_members {n : Node} (b : TypeBody) (put : GraphQLTree.TypeBody → Node) :
    SlotsLaid place n ((b.tree place).memberSlots put) (b.placements place) := by
  cases b with
  | scalar => exact .nil
  | object _ fields | interface _ fields => exact .many fun f _ => ⟨⟨rfl, nofun⟩, f.laid_tree⟩
  | union types => exact .manyBare fun s _ => ⟨⟨rfl, nofun⟩, laid_namedType s⟩
  | enum values => exact .many fun v _ => ⟨⟨rfl, nofun⟩, v.laid_tree⟩
  | inputObject fields => exact laid_inputValues fields

lemma TypeDefinition.laid_tree (d : TypeDefinition) :
    Laid place (.definition (.type (d.tree place))) (d.placements place) := by
  have hname : (Node.definition (.type (d.tree place))).Holds .name (.name (d.mark.named place d.name)) := by
    rcases d with ⟨_, _, _, _, body⟩
    cases body <;> exact ⟨rfl, fun _ => rfl⟩
  refine .marked rfl (.append (.append (.append (.append
    (.cons (laid_description d.description) (.one hname (d.mark.laid_named d.name)))
    (d.body.laid_interfaces _)) (laid_directives d.directives)) (d.body.laid_members _)) (.empty rfl)) ?_
  simp [placements]

lemma TypeExtension.laid_tree (d : TypeExtension) :
    Laid place (.definition (.typeExtension (d.tree place))) (d.placements place) := by
  have hname : (Node.definition (.typeExtension (d.tree place))).Holds .name (.name (d.mark.named place d.name)) := by
    rcases d with ⟨_, _, _, body⟩
    cases body <;> exact ⟨rfl, fun _ => rfl⟩
  refine .marked rfl (.append (.append (.append (.append (.one hname (d.mark.laid_named d.name))
    (d.body.laid_interfaces _)) (laid_directives d.directives)) (d.body.laid_members _)) (.empty rfl)) ?_
  simp [placements]

lemma DirectiveDefinition.laid_tree (d : DirectiveDefinition) :
    Laid place (.definition (.directive (d.tree place))) (d.placements place) := by
  refine .marked rfl (.cons (laid_description d.description)
    (.cons (.one ⟨rfl, fun _ => rfl⟩ (d.mark.laid_named d.name)) (.cons (laid_inputValues d.arguments)
      (.cons (.empty rfl) (.cons (.manyBare fun l _ => ⟨⟨rfl, nofun⟩, laid_referred l.keyword⟩)
        (.empty rfl)))))) ?_
  simp [placements]

lemma laid_rootType (root : OperationType × String) :
    Laid place (.operationTypeDefinition ⟨root.1, namedType root.2, none⟩) [] :=
  .bare rfl (.cons (.empty rfl) (.cons (.one ⟨rfl, nofun⟩ (laid_namedType root.2)) (.empty rfl))) rfl

lemma SchemaDefinition.laid_tree (d : SchemaDefinition) :
    Laid place (.definition (.schema (d.tree place))) (d.placements place) := by
  refine .marked rfl (.cons (.empty rfl) (.cons (laid_directives d.directives)
    (.cons (.manyBare fun root _ => ⟨⟨rfl, nofun⟩, laid_rootType root⟩) (.empty rfl)))) ?_
  simp [placements]

lemma SchemaItem.laid_tree (item : SchemaItem) :
    Laid place (.definition (item.tree place)) (item.placements place) := by
  cases item with
  | schema d => exact d.laid_tree
  | type d => exact d.laid_tree
  | extension d => exact d.laid_tree
  | directive d => exact d.laid_tree

lemma holds_schemaItem {n : Node} {x : FieldName} (item : SchemaItem) :
    n.Holds x (.definition (item.tree place)) := by
  rcases item with d | ⟨_, _, _, _, body⟩ | ⟨_, _, _, body⟩ | d
  case type | extension => cases body <;> exact ⟨rfl, nofun⟩
  all_goals exact ⟨rfl, nofun⟩

lemma holds_executableDefinition {n : Node} {x : FieldName} (d : ExecutableDefinition) :
    n.Holds x (.definition (d.tree place)) := by
  cases d <;> exact ⟨rfl, nofun⟩

end Parts

section Documents

/-- The document has no location. The located nodes below it, in the order of a walk, are those of a list, each
at the place of the mark beside it, and which they are can be told from their kinds and their parents. -/
structure LocatedAtMarks (d : Document) (ps : List (Node × Mark)) : Prop where
  location_eq_none : d.location = none
  holds : ∀ way n, (Node.document d).at? way = some n →
    ∀ s ∈ n.slots, ∀ c ∈ s.content.nodes, n.Holds s.field c
  located_eq : (Node.document d).located = ps.map (·.1)
  location_eq : ∀ p ∈ ps, ∃ l, p.1.location = some l ∧ l.start = l.stop ∧ l.file = none ∧
    l.start.line = p.2.line - 1 ∧ l.start.column = p.2.column - 1

lemma Laid.locatedAtMarks {lines : Lines} {d : Document} {ps : List (Node × Mark)} (hd : d.location = none)
    (h : Laid (·.location lines) (.document d) ps) : LocatedAtMarks d ps := by
  refine ⟨hd, h.settled, h.located_eq, fun p hp => ⟨p.2.location lines, h.location_eq p hp, ?_⟩⟩
  exact ⟨rfl, rfl, rfl, rfl⟩

lemma laid_schemaDocument (place : Mark → Location) (items : List SchemaItem) :
    Laid place (.document ⟨items.map (·.tree place), none⟩) (items.flatMap (·.placements place)) := by
  refine .bare rfl (.cons (.many fun item _ => ⟨holds_schemaItem item, item.laid_tree⟩) (.empty rfl)) ?_
  exact List.append_nil _

lemma laid_executableDocument (place : Mark → Location) (definitions : List ExecutableDefinition) :
    Laid place (.document ⟨definitions.map (·.tree place), none⟩) (definitions.flatMap (·.placements place)) := by
  refine .bare rfl (.cons (.many fun d _ => ⟨holds_executableDefinition d, d.laid_tree⟩) (.empty rfl)) ?_
  exact List.append_nil _

theorem locatedAtMarks_documents :
    (∀ (lines : Lines) (items : List SchemaItem) (d : Document), schemaDocument lines items = .ok d →
      LocatedAtMarks d (items.flatMap (·.placements (·.location lines)))) ∧
    ∀ (lines : Lines) (definitions : List ExecutableDefinition) (d : Document),
      executableDocument lines definitions = .ok d →
        LocatedAtMarks d (definitions.flatMap (·.placements (·.location lines))) := by
  constructor
  · intro lines items d h
    rw [schemaDocument_eq, bind_return_eq_ok] at h
    obtain ⟨-, rfl⟩ := h
    exact (laid_schemaDocument _ items).locatedAtMarks rfl
  · intro lines definitions d h
    rw [executableDocument_eq, bind_return_eq_ok] at h
    obtain ⟨-, rfl⟩ := h
    exact (laid_executableDocument _ definitions).locatedAtMarks rfl

theorem locatedAtMarks_aliased :
    let field : Field := ⟨⟨2, 3⟩, some "first", "item", [], [], ⟨⟨2, 14⟩, []⟩⟩
    let definitions : List ExecutableDefinition := [.shorthand ⟨⟨1, 1⟩, [.field field]⟩]
    let size : InputValue := ⟨⟨2, 7⟩, none, "size", .named "Int", none, [⟨⟨2, 17⟩, "unit", []⟩]⟩
    let url : FieldDefinition := ⟨⟨2, 3⟩, none, "url", [size], .named "String", []⟩
    let items : List SchemaItem := [.type ⟨⟨1, 1⟩, none, "Photo", [], .object ["Node"] [url]⟩,
      .directive ⟨⟨4, 1⟩, none, "unit", [], false, [.argumentDefinition]⟩]
    (∃ d, executableDocument .unknown definitions = .ok d ∧
      LocatedAtMarks d (definitions.flatMap (·.placements (·.location .unknown))) ∧
      (definitions.flatMap (·.placements (·.location .unknown))).map (fun p => (p.1.kind, p.2)) =
        [(.operationDefinition, ⟨1, 1⟩), (.selectionSet, ⟨1, 1⟩), (.field, ⟨2, 3⟩), (.name, ⟨2, 3⟩),
          (.name, ⟨2, 3⟩)]) ∧
    ∃ d, schemaDocument .unknown items = .ok d ∧
      LocatedAtMarks d (items.flatMap (·.placements (·.location .unknown))) ∧
      (items.flatMap (·.placements (·.location .unknown))).map (fun p => (p.1.kind, p.2)) =
        [(.objectTypeDefinition, ⟨1, 1⟩), (.name, ⟨1, 1⟩), (.fieldDefinition, ⟨2, 3⟩), (.name, ⟨2, 3⟩),
          (.inputValueDefinition, ⟨2, 7⟩), (.name, ⟨2, 7⟩), (.directive, ⟨2, 17⟩), (.name, ⟨2, 17⟩),
          (.directiveDefinition, ⟨4, 1⟩), (.name, ⟨4, 1⟩)] := by
  refine ⟨⟨_, rfl, ?_, rfl⟩, _, rfl, ?_, rfl⟩
  · exact locatedAtMarks_documents.2 _ _ _ rfl
  · exact locatedAtMarks_documents.1 _ _ _ rfl

end Documents

end Source

end GraphQLTree
