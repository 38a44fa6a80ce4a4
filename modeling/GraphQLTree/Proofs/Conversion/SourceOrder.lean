import GraphQLTree.Proofs.Conversion.Places
import GraphQLTree.Proofs.Conversion.Placements
import GraphQLTree.Proofs.Offsets
import GraphQLTree.Proofs.Walk.Course
import Mathlib.Data.List.Pairwise

/-! The order of the source and the order of the walk. A walk of a converted document comes to the marks of
the document in the order of its grammar, to each of them once or more often in a row. -/

namespace GraphQLTree

section Walks

def Visitor.listing : Visitor (List Node) :=
  ⟨fun p _ ns => (.next, ns ++ [p.node]), fun _ _ ns => (.next, ns)⟩

namespace Walk

lemma each_listing {ps : List Placed} {nav : Navigator}
    (h : ∀ p ∈ ps, ∀ ns, down .listing p nav ns = ⟨.next, nav, ns ++ p.node.depthFirst⟩) (ns : List Node) :
    each (down .listing) ps nav ns = ⟨.next, nav, ns ++ (ps.map (·.node)).flatMap Node.depthFirst⟩ := by
  induction ps generalizing ns with
  | nil => simp [each]
  | cons p ps ih =>
    have hp := h p List.mem_cons_self ns
    have hps := ih (fun q hq => h q (List.mem_cons_of_mem _ hq)) (ns ++ p.node.depthFirst)
    simp only [each, hp, hps, List.map_cons, List.flatMap_cons, List.append_assoc]

lemma down_listing (p : Placed) (nav : Navigator) (ns : List Node) :
    down .listing p nav ns = ⟨.next, nav, ns ++ p.node.depthFirst⟩ := by
  induction p using Placed.induction generalizing nav ns with
  | step p ih =>
    have hc := each_listing (fun c hc ns => ih c hc (nav.push p) ns) (ns ++ [p.node])
    have henter : Visitor.listing.enter p (nav.push p) ns = (.next, ns ++ [p.node]) := rfl
    rw [down_eq, henter]
    simp only [hc, Placed.map_node_children]
    rw [Node.depthFirst_eq, List.append_assoc, List.singleton_append]
    rfl

def entered (n : Node) (nav : Navigator) : List Node :=
  (down .listing (.root 0 n) nav []).state

lemma entered_eq (n : Node) (nav : Navigator) : entered n nav = n.depthFirst := by
  rw [entered, down_listing]
  rfl

end Walk

end Walks

def Position.key (p : Position) : ℕ ×ₗ ℕ :=
  toLex (p.line, p.column)

namespace Source

/-- Nodes lie at the marks of openings, in their order, one or more at each mark. -/
inductive Follows : List (Node × Mark) → List Opening → Prop
  | nil : Follows [] []
  | once {n m token ps os} : Follows ps os → Follows ((n, m) :: ps) (⟨m, token⟩ :: os)
  | again {n m token ps os} : Follows ps (⟨m, token⟩ :: os) → Follows ((n, m) :: ps) (⟨m, token⟩ :: os)

namespace Follows

variable {α : Type} {ps ps' : List (Node × Mark)} {os os' : List Opening} {m : Mark} {token : Option Token}

lemma append (h : Follows ps os) (h' : Follows ps' os') : Follows (ps ++ ps') (os ++ os') := by
  induction h with
  | nil => exact h'
  | once _ ih => exact .once ih
  | again _ ih => exact .again ih

lemma flatMap {as : List α} {f : α → List (Node × Mark)} {g : α → List Opening}
    (h : ∀ a ∈ as, Follows (f a) (g a)) : Follows (as.flatMap f) (as.flatMap g) := by
  induction as with
  | nil => exact .nil
  | cons a as ih =>
    have ha := h a List.mem_cons_self
    exact ha.append (ih fun b hb => h b (List.mem_cons_of_mem _ hb))

lemma mark_mem (h : Follows ps os) : ∀ p ∈ ps, p.2 ∈ os.map (·.mark) := by
  induction h with
  | nil => exact fun p hp => absurd hp List.not_mem_nil
  | once _ ih =>
    refine List.forall_mem_cons.mpr ⟨List.mem_cons_self, fun p hp => ?_⟩
    exact List.mem_cons_of_mem _ (ih p hp)
  | again _ ih => exact List.forall_mem_cons.mpr ⟨List.mem_cons_self, ih⟩

lemma mark_sublist (h : Follows ps os) : (os.map (·.mark)).Sublist (ps.map (·.2)) := by
  induction h with
  | nil => exact List.Sublist.refl _
  | once _ ih => exact ih.cons_cons _
  | again _ ih => exact ih.cons _

lemma pairwise_iff {R : Mark → Mark → Prop} (hR : ∀ m, R m m) (h : Follows ps os) :
    (ps.map (·.2)).Pairwise R ↔ (os.map (·.mark)).Pairwise R := by
  refine ⟨fun hp => hp.sublist h.mark_sublist, fun hp => ?_⟩
  induction h with
  | nil => exact .nil
  | @once n m token ps os h ih =>
    obtain ⟨hhead, htail⟩ := List.pairwise_cons.mp hp
    refine List.pairwise_cons.mpr ⟨List.forall_mem_map.mpr fun p hm => ?_, ih htail⟩
    exact hhead _ (h.mark_mem p hm)
  | @again n m token ps os h ih =>
    have hhead : ∀ m' ∈ (⟨m, token⟩ :: os : List Opening).map (·.mark), R m m' :=
      List.forall_mem_cons.mpr ⟨hR _, (List.pairwise_cons.mp hp).1⟩
    refine List.pairwise_cons.mpr ⟨List.forall_mem_map.mpr fun p hm => ?_, ih hp⟩
    exact hhead _ (h.mark_mem p hm)

end Follows

section Parts

variable {place : Mark → Location}

lemma Directive.follows (d : Directive) : Follows (d.placements place) d.openings :=
  .again (.once .nil)

lemma follows_directives (ds : List Directive) :
    Follows (ds.flatMap (·.placements place)) (ds.flatMap (·.openings)) :=
  .flatMap fun d _ => d.follows

lemma VariableDefinition.follows (d : VariableDefinition) : Follows (d.placements place) d.openings :=
  .again (.again (.once .nil))

lemma FragmentSpread.follows (s : FragmentSpread) : Follows (s.placements place) s.openings :=
  .once (follows_directives s.directives)

lemma Mark.follows_optional {m : Mark} {token : Option Token} {ps : List (Node × Mark)} {os : List Opening}
    (o : Option String) (h : Follows ps (⟨m, token⟩ :: os)) :
    Follows (o.toList.map (m.naming place) ++ ps) (⟨m, token⟩ :: os) := by
  cases o with
  | none => exact h
  | some s => exact .again h

mutual

lemma Selection.follows : ∀ s : Selection, Follows (s.placements place) s.openings
  | .field f => by
    rw [Selection.placements, Selection.openings]
    exact Field.follows f
  | .spread s => by
    rw [Selection.placements, Selection.openings]
    exact s.follows
  | .inline f => by
    rw [Selection.placements, Selection.openings]
    exact InlineFragment.follows f

lemma Selection.follows_all : ∀ ss : List Selection,
    Follows (Selection.placementsAll place ss) (Selection.openingsAll ss)
  | [] => by
    rw [Selection.placementsAll, Selection.openingsAll]
    exact .nil
  | s :: ss => by
    rw [Selection.placementsAll, Selection.openingsAll]
    exact (Selection.follows s).append (Selection.follows_all ss)

lemma Field.follows : ∀ f : Field, Follows (f.placements place) f.openings
  | ⟨mark, aliasName, name, arguments, directives, set⟩ => by
    rw [Field.placements, Field.openings]
    exact .again (mark.follows_optional aliasName
      (.once ((follows_directives directives).append (SelectionSet.follows? set))))

lemma InlineFragment.follows : ∀ f : InlineFragment, Follows (f.placements place) f.openings
  | ⟨mark, typeCondition, directives, set⟩ => by
    rw [InlineFragment.placements, InlineFragment.openings]
    exact .once ((follows_directives directives).append (SelectionSet.follows set))

lemma SelectionSet.follows : ∀ set : SelectionSet, Follows (set.placements place) set.openings
  | ⟨mark, items⟩ => by
    rw [SelectionSet.placements, SelectionSet.openings]
    exact .once (Selection.follows_all items)

lemma SelectionSet.follows? : ∀ set : SelectionSet, Follows (set.placements? place) set.openings?
  | ⟨mark, []⟩ => by
    rw [SelectionSet.placements?, SelectionSet.openings?]
    exact .nil
  | ⟨mark, item :: items⟩ => by
    rw [SelectionSet.placements?, SelectionSet.openings?]
    exact .once ((Selection.follows item).append (Selection.follows_all items))

end

lemma Operation.follows (o : Operation) : Follows (o.placements place) o.openings := by
  have hvariables : Follows (o.variableDefinitions.flatMap (·.placements place))
      (o.variableDefinitions.flatMap (·.openings)) := .flatMap fun d _ => d.follows
  have hdirectives : Follows (o.directives.flatMap (·.placements place)) (o.directives.flatMap (·.openings)) :=
    follows_directives o.directives
  have hset : Follows (o.selectionSet.placements place) o.selectionSet.openings := o.selectionSet.follows
  have hparts := (hvariables.append hdirectives).append hset
  rw [placements, openings, List.append_assoc, List.append_assoc, ← List.append_assoc (List.flatMap _ _)]
  -- The operation comes first, and then its name, if it has one.
  cases hname : o.name with
  | none => exact .once hparts
  | some s => exact .again (.once hparts)

lemma Fragment.follows (f : Fragment) : Follows (f.placements place) f.openings :=
  .again (.once ((follows_directives f.directives).append f.selectionSet.follows))

lemma ExecutableDefinition.follows (d : ExecutableDefinition) : Follows (d.placements place) d.openings := by
  cases d with
  | shorthand set =>
    have hset : Follows (set.placements place) set.openings := set.follows
    rcases set with ⟨mark, items⟩
    rw [SelectionSet.openings] at hset
    rw [placements, openings, SelectionSet.openings]
    exact .again hset
  | operation o => exact o.follows
  | fragment f => exact f.follows

lemma InputValue.follows (v : InputValue) : Follows (v.placements place) v.openings :=
  .again (.once (follows_directives v.directives))

lemma follows_inputValues (vs : List InputValue) :
    Follows (vs.flatMap (·.placements place)) (vs.flatMap (·.openings)) :=
  .flatMap fun v _ => v.follows

lemma FieldDefinition.follows (f : FieldDefinition) : Follows (f.placements place) f.openings :=
  .again (.once ((follows_inputValues f.arguments).append (follows_directives f.directives)))

lemma EnumValue.follows (v : EnumValue) : Follows (v.placements place) v.openings :=
  .again (.once (follows_directives v.directives))

lemma TypeBody.follows (b : TypeBody) : Follows (b.placements place) b.openings := by
  cases b with
  | scalar | union => exact .nil
  | object _ fields | interface _ fields => exact .flatMap fun f _ => f.follows
  | enum values => exact .flatMap fun v _ => v.follows
  | inputObject fields => exact follows_inputValues fields

lemma TypeDefinition.follows (d : TypeDefinition) : Follows (d.placements place) d.openings :=
  .again (.once ((follows_directives d.directives).append d.body.follows))

lemma TypeExtension.follows (d : TypeExtension) : Follows (d.placements place) d.openings :=
  .again (.once ((follows_directives d.directives).append d.body.follows))

lemma DirectiveDefinition.follows (d : DirectiveDefinition) : Follows (d.placements place) d.openings :=
  .again (.once (follows_inputValues d.arguments))

lemma SchemaDefinition.follows (d : SchemaDefinition) : Follows (d.placements place) d.openings :=
  .once (follows_directives d.directives)

lemma SchemaItem.follows (item : SchemaItem) : Follows (item.placements place) item.openings := by
  cases item with
  | schema d => exact d.follows
  | type d => exact d.follows
  | extension d => exact d.follows
  | directive d => exact d.follows

end Parts

section Order

variable {lines : Lines} {m m' : Mark} {ms : List Mark}

lemma Laid.filterMap_location {place : Mark → Location} {n : Node} {ps : List (Node × Mark)}
    (h : Laid place n ps) : n.depthFirst.filterMap (·.location) = (ps.map (·.2)).map place := by
  have hlocated : n.depthFirst.filterMap (·.location) = n.located.filterMap (·.location) := by
    rw [Node.located, List.filterMap_filter]
    refine List.filterMap_congr fun c _ => ?_
    cases c.location <;> simp
  have hplaces : ps.filterMap (fun p => p.1.location) = ps.filterMap fun p => some (place p.2) :=
    List.filterMap_congr h.location_eq
  rw [hlocated, h.located_eq, List.filterMap_map, List.map_map]
  exact hplaces.trans (congrFun List.filterMap_eq_map' ps)

/-- A mark on line 0 is not to the right of one on line 1. -/
def Mark.Aligned (m m' : Mark) : Prop :=
  m.line = 0 → m'.line = 1 → m.column - 1 ≤ m'.column - 1

instance : Decidable (m.Aligned m') :=
  inferInstanceAs (Decidable (_ → _ → _))

-- Lines are counted down from 1, so that a mark on line 0 is located on the line of those on line 1.
lemma Mark.location_key_le_iff (h : m.key ≤ m'.key) :
    (m.location lines).start.key ≤ (m'.location lines).start.key ↔ m.Aligned m' := by
  have hmarks := Mark.key_le_key.mp h
  have hlocations : (m.location lines).start.key ≤ (m'.location lines).start.key ↔
      m.line - 1 < m'.line - 1 ∨ m.line - 1 = m'.line - 1 ∧ m.column - 1 ≤ m'.column - 1 :=
    Prod.Lex.toLex_le_toLex
  rw [hlocations, Aligned]
  omega

lemma Mark.aligned_of_key_le (h : m'.key ≤ m.key) : m.Aligned m' := by
  intro h0 h1
  have hkey := Mark.key_le_key.mp h
  omega

lemma pairwise_location_iff (h : ms.Pairwise (·.key ≤ ·.key)) :
    ms.Pairwise (fun m m' => (m.location lines).start.key ≤ (m'.location lines).start.key) ↔
      ∀ m ∈ ms, ∀ m' ∈ ms, m.Aligned m' := by
  constructor
  · intro hp m hm m' hm'
    have haligned : ms.Pairwise fun m m' => m.Aligned m' ∧ m'.Aligned m :=
      (h.and hp).imp fun hmm => ⟨(Mark.location_key_le_iff hmm.1).mp hmm.2, Mark.aligned_of_key_le hmm.1⟩
    have hself : ∀ m ∈ ms, m.Aligned m ∧ m.Aligned m := fun _ _ => ⟨fun _ _ => le_rfl, fun _ _ => le_rfl⟩
    have hsymm : Std.Symm fun m m' : Mark => m.Aligned m' ∧ m'.Aligned m := ⟨fun _ _ => And.symm⟩
    exact (haligned.forall_of_forall hself hm hm').1
  · intro ha
    exact h.imp_of_mem fun hm hm' hkey => (Mark.location_key_le_iff hkey).mpr (ha _ hm _ hm')

/-- A walk of the document enters its located nodes line by line, and each line from left to right. -/
def EntersInOrder (d : Document) : Prop :=
  ∀ nav, ((Walk.entered (.document d) nav).filterMap (·.location)).Pairwise (·.start.key ≤ ·.start.key)

lemma Laid.entersInOrder_iff_aligned {d : Document} {ps : List (Node × Mark)} {os : List Opening}
    (h : Laid (·.location lines) (.document d) ps) (hf : Follows ps os)
    (hos : (os.map (·.mark)).Pairwise (·.key ≤ ·.key)) :
    EntersInOrder d ↔ ∀ m ∈ os.map (·.mark), ∀ m' ∈ os.map (·.mark), m.Aligned m' := by
  have hwalk : ∀ nav, (Walk.entered (.document d) nav).filterMap (·.location) =
      (ps.map (·.2)).map (·.location lines) := by
    intro nav
    rw [Walk.entered_eq, h.filterMap_location]
  have hmarks : (ps.map (·.2)).Pairwise
      (fun m m' => (m.location lines).start.key ≤ (m'.location lines).start.key) ↔
      ∀ m ∈ os.map (·.mark), ∀ m' ∈ os.map (·.mark), m.Aligned m' := by
    refine (hf.pairwise_iff ?_).trans (pairwise_location_iff hos)
    intro m
    exact le_refl _
  rw [← hmarks]
  constructor
  · intro he
    have hempty := he .empty
    rwa [hwalk, List.pairwise_map] at hempty
  · intro hp nav
    rwa [hwalk, List.pairwise_map]

/-- A walk comes to the located nodes of a document in the order of its marks, unless one of those on line 0 is
to the right of one on line 1. -/
theorem entersInOrder_iff :
    (∀ (lines : Lines) (items : List SchemaItem) (d : Document), schemaDocument lines items = .ok d →
      let ms := (items.flatMap (·.openings)).map (·.mark)
      ms.Pairwise (·.key ≤ ·.key) → (EntersInOrder d ↔ ∀ m ∈ ms, ∀ m' ∈ ms, m.Aligned m')) ∧
    ∀ (lines : Lines) (definitions : List ExecutableDefinition) (d : Document),
      executableDocument lines definitions = .ok d →
        let ms := (definitions.flatMap (·.openings)).map (·.mark)
        ms.Pairwise (·.key ≤ ·.key) → (EntersInOrder d ↔ ∀ m ∈ ms, ∀ m' ∈ ms, m.Aligned m') := by
  constructor
  · intro lines items d h ms hms
    rw [schemaDocument_eq, bind_return_eq_ok] at h
    obtain ⟨-, rfl⟩ := h
    exact (laid_schemaDocument _ items).entersInOrder_iff_aligned (.flatMap fun item _ => item.follows) hms
  · intro lines definitions d h ms hms
    rw [executableDocument_eq, bind_return_eq_ok] at h
    obtain ⟨-, rfl⟩ := h
    exact (laid_executableDocument _ definitions).entersInOrder_iff_aligned (.flatMap fun d _ => d.follows) hms

def markedField : FieldDefinition :=
  ⟨⟨2, 3⟩, none, "f", [⟨⟨2, 5⟩, none, "a", .named "Int", none, []⟩], .named "Int", [⟨⟨2, 15⟩, "old", []⟩]⟩

def markedType : SchemaItem :=
  .type ⟨⟨1, 1⟩, none, "T", [⟨⟨1, 8⟩, "key", []⟩], .object [] [markedField]⟩

theorem entersInOrder_iff_markedType :
    ∃ d, schemaDocument .unknown [markedType] = .ok d ∧
      (([markedType].flatMap (·.openings)).map (·.mark)).Pairwise (·.key ≤ ·.key) ∧ EntersInOrder d := by
  have hms : (([markedType].flatMap (·.openings)).map (·.mark)).Pairwise (·.key ≤ ·.key) := by decide
  exact ⟨_, rfl, hms, (entersInOrder_iff.1 .unknown [markedType] _ rfl hms).mpr (by decide)⟩

def scalarsFromLineZero : List SchemaItem :=
  [.type ⟨⟨0, 9⟩, none, "A", [], .scalar⟩, .type ⟨⟨1, 1⟩, none, "B", [], .scalar⟩]

theorem not_entersInOrder_scalarsFromLineZero :
    ¬ ∀ (lines : Lines) (items : List SchemaItem) (d : Document), schemaDocument lines items = .ok d →
      ((items.flatMap (·.openings)).map (·.mark)).Pairwise (·.key ≤ ·.key) → EntersInOrder d := by
  intro h
  have hms : ((scalarsFromLineZero.flatMap (·.openings)).map (·.mark)).Pairwise (·.key ≤ ·.key) := by decide
  have hlaid := laid_schemaDocument (·.location .unknown) scalarsFromLineZero
  have hiff := hlaid.entersInOrder_iff_aligned (.flatMap fun item _ => item.follows) hms
  exact absurd (hiff.mp (h .unknown scalarsFromLineZero _ rfl hms)) (by decide)

end Order

end Source

end GraphQLTree
