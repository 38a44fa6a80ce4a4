import GraphQLTree.Proofs.Collection
import Mathlib.Data.List.Chain
import Mathlib.Data.List.DropRight

namespace GraphQLTree

open Command (isSchemaElement)

def Placed.isElement (p : Placed) : Bool :=
  isSchemaElement p.node.kind

lemma Placed.isElement_eq (p : Placed) : p.isElement = p.node.element?.isSome :=
  (Node.isSome_element? p.node).symm

structure IsWay (d : Document) (way : List Placed) : Prop where
  start : way.head?.map (·.node) = some (.document d)
  down : way.IsChain fun p q => q.node ∈ p.node.children

lemma IsWay.ne_nil {d : Document} {way : List Placed} (h : IsWay d way) : way ≠ [] := by
  rintro rfl
  cases h.start

/-- Elements around a node leave no doubt about the coordinate: there are none, or they have one that
does not depend on the length of the way. -/
def Settled (around : List Element) : Prop :=
  around = [] ∨ ∃ c : SchemaCoordinate, ∀ depth, Element.coordinate depth around = .ok c

lemma Fits.settled {around : List Element} {n : Node} (h : Fits around n) (hs : Settled around) :
    Settled (n.element?.toList ++ around) := by
  cases he : n.element? with
  | none => exact hs
  | some e =>
    obtain ⟨c, hc, _⟩ := h.ledBy he
    exact .inr ⟨c, hc⟩

namespace Navigator

def along (way : List Placed) : Navigator :=
  way.foldl push .empty

lemma along_concat (way : List Placed) (p : Placed) : along (way ++ [p]) = (along way).push p := by
  simp [along]

lemma nodes_along (way : List Placed) : (along way).nodes = way.reverse := by
  induction way using List.reverseRecOn with
  | nil => rfl
  | append_singleton way p ih => simp [along_concat, push, ih]

lemma size_along (way : List Placed) : (along way).size = way.length := by
  simp [size, nodes_along]

lemma schemaCoordinate_along_of_ne_nil {way : List Placed} (h : way ≠ []) :
    (along way).schemaCoordinate = Element.coordinate way.length (along way).elements := by
  rw [schemaCoordinate_eq, size_along]
  simp [isEmpty, nodes_along, h]

lemma elements_along_eq_nil_iff {way : List Placed} :
    (along way).elements = [] ↔ ∀ p ∈ way, p.isElement = false := by
  simp [elements, toList, nodes_along, Placed.isElement_eq, List.filterMap_eq_nil_iff]

lemma elements_along_rdropWhile (way : List Placed) :
    (along (way.rdropWhile (!·.isElement))).elements = (along way).elements := by
  induction way using List.reverseRecOn with
  | nil => rfl
  | append_singleton way p ih =>
    cases hp : p.isElement with
    | true => rw [List.rdropWhile_concat_neg _ _ _ (by simp [hp])]
    | false =>
      have he : p.node.element? = none := by simpa [Placed.isElement_eq] using hp
      rw [List.rdropWhile_concat_pos _ _ _ (by simp [hp]), ih, along_concat, elements_push, he]
      rfl

end Navigator

open Navigator

lemma IsWay.of_concat {d : Document} {way : List Placed} {p : Placed} (h : IsWay d (way ++ [p]))
    (hw : way ≠ []) : IsWay d way :=
  ⟨by simpa [List.head?_append_of_ne_nil _ hw] using h.start, (List.isChain_append.mp h.down).1⟩

lemma IsWay.fits {d : Document} {way : List Placed} {p : Placed} (h : IsWay d (way ++ [p])) :
    Fits (along way).elements p.node ∧ Settled (along (way ++ [p])).elements := by
  induction way using List.reverseRecOn generalizing p with
  | nil =>
    have hp : p.node = .document d := by simpa using h.start
    have hf : Fits (along []).elements p.node := hp ▸ Fits.document d
    rw [along_concat, elements_push]
    exact ⟨hf, hf.settled (.inl rfl)⟩
  | append_singleton way q ih =>
    obtain ⟨hq, hs⟩ := ih (h.of_concat (by simp))
    have hc : p.node ∈ q.node.children := by
      have hd := (List.isChain_append.mp h.down).2.2
      exact hd q (by simp) p (by simp)
    have hf : Fits (along (way ++ [q])).elements p.node := by
      rw [along_concat, elements_push]
      exact hq.child p.node hc
    rw [along_concat _ p, elements_push]
    exact ⟨hf, hf.settled hs⟩

lemma IsWay.settled {d : Document} {way : List Placed} (h : IsWay d way) :
    Settled (along way).elements := by
  induction way using List.reverseRecOn with
  | nil => exact (h.ne_nil rfl).elim
  | append_singleton way p => exact h.fits.2

/-- A way has a coordinate if there is a schema element on it, that of the way which ends at the last
one; the only other answer is that there is none. -/
theorem schemaCoordinate_along {d : Document} {way : List Placed} (h : IsWay d way) :
    ((∃ c, (along way).schemaCoordinate = .ok c) ↔ ∃ p ∈ way, isSchemaElement p.node.kind = true) ∧
    ((∃ p ∈ way, isSchemaElement p.node.kind = true) →
      (along way).schemaCoordinate =
        (along (way.rdropWhile fun p => !isSchemaElement p.node.kind)).schemaCoordinate) ∧
    ((∀ p ∈ way, isSchemaElement p.node.kind = false) →
      (along way).schemaCoordinate = .error (.unrecognizedPath (.noElement way.length))) ∧
    ∀ e, (along way).schemaCoordinate = .error e → e = .unrecognizedPath (.noElement way.length) := by
  have hcut : (along (way.rdropWhile fun p => !isSchemaElement p.node.kind)).elements =
      (along way).elements := elements_along_rdropWhile way
  rw [schemaCoordinate_along_of_ne_nil h.ne_nil]
  rcases h.settled with hnil | ⟨c, hc⟩
  · have hnone : ∀ p ∈ way, isSchemaElement p.node.kind = false := elements_along_eq_nil_iff.mp hnil
    have hno : ¬ ∃ p ∈ way, isSchemaElement p.node.kind = true := by
      rintro ⟨p, hp, hk⟩
      rw [hnone p hp] at hk
      cases hk
    rw [hnil]
    refine ⟨⟨?_, fun hs => (hno hs).elim⟩, fun hs => (hno hs).elim, fun _ => rfl, ?_⟩
    · rintro ⟨c, hc⟩
      cases hc
    · rintro e he
      exact (Except.error.inj he).symm
  · have hsome : ¬ ∀ p ∈ way, isSchemaElement p.node.kind = false := by
      intro hnone
      rw [elements_along_eq_nil_iff.mpr hnone] at hc
      cases hc 0
    have hex : ∃ p ∈ way, isSchemaElement p.node.kind = true := by simpa using hsome
    have hne : way.rdropWhile (fun p => !isSchemaElement p.node.kind) ≠ [] := by
      rw [Ne, List.rdropWhile_eq_nil_iff]
      simpa using hex
    rw [schemaCoordinate_along_of_ne_nil hne, hcut, hc, hc]
    refine ⟨⟨fun _ => hex, fun _ => ⟨c, rfl⟩⟩, fun _ => rfl, fun hnone => (hsome hnone).elim, ?_⟩
    rintro e he
    cases he

def idType : NamedType := ⟨⟨"ID", none⟩, none⟩

def idArgument : InputValueDefinition := ⟨none, ⟨"id", none⟩, .named idType, none, [], none⟩

def userField : FieldDefinition := ⟨none, ⟨"user", none⟩, [idArgument], .named idType, [], none⟩

def queryType : TypeDefinition := ⟨none, ⟨"Query", none⟩, [], .object [] [userField], none⟩

def wayToArgumentType : List Placed :=
  [⟨[0], .document ⟨[.type queryType], none⟩⟩, ⟨[0, 0], .definition (.type queryType)⟩,
    ⟨[1, 0, 0], .fieldDefinition userField⟩, ⟨[1, 1, 0, 0], .inputValueDefinition idArgument⟩,
    ⟨[1, 1, 1, 0, 0], .typeRef (.named idType)⟩]

lemma isWay_wayToArgumentType : IsWay ⟨[.type queryType], none⟩ wayToArgumentType := by
  refine ⟨rfl, ?_⟩
  simp [wayToArgumentType, Node.children, Node.slots, Document.slots, Definition.slots,
    TypeDefinition.slots, TypeBody.interfaceSlots, TypeBody.memberSlots, FieldDefinition.slots,
    InputValueDefinition.slots, Slot.many, Slot.one, Slot.checkedOne, Content.ofMany, Content.ofOne,
    Content.nodes, Part.toNode, queryType, userField, idArgument]

theorem schemaCoordinate_along_wayToArgumentType :
    IsWay ⟨[.type queryType], none⟩ wayToArgumentType ∧ (∃ c, (along wayToArgumentType).schemaCoordinate = .ok c) ∧
    (along wayToArgumentType).schemaCoordinate =
      .ok (.ofFieldArgument queryType.name userField.name idArgument.name) := by
  obtain ⟨hok, hcut, -⟩ := schemaCoordinate_along isWay_wayToArgumentType
  have he : ∃ p ∈ wayToArgumentType, isSchemaElement p.node.kind = true :=
    ⟨⟨[0, 0], .definition (.type queryType)⟩, by simp [wayToArgumentType], rfl⟩
  exact ⟨isWay_wayToArgumentType, hok.mpr he, (hcut he).trans rfl⟩

end GraphQLTree
