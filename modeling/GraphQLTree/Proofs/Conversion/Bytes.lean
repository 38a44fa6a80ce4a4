import GraphQLTree.Proofs.Conversion.Alike
import GraphQLTree.Proofs.Conversion.Places
import GraphQLTree.Proofs.Reflexivity

namespace GraphQLTree.Source

def SamePoint (l k : Location) : Prop :=
  ∃ line column bytes : Nat, l = .point ⟨line, column, bytes⟩ ∧ k = .point ⟨line, column, 0⟩

def SamePlace (n m : Node) : Prop :=
  n.kind = m.kind ∧ Option.Rel SamePoint n.location m.location

/-- Both conversions fail alike; or both give trees of one shape, located at the same places, which
are equal unless there is a NaN in them. -/
def Agree : Conversion Document → Conversion Document → Prop
  | .error e, .error e' => e = e'
  | .ok d, .ok d' =>
    ((d == d') = true ↔ ∀ way n, (Node.document d).at? way = some n → n.isNaN = false) ∧
      Matches SamePlace (.document d) (.document d')
  | _, _ => False

lemma samePoint (m : Mark) (lines : Lines) : SamePoint (m.location lines) (m.location .unknown) :=
  ⟨m.line - 1, m.column - 1, _, rfl, rfl⟩

lemma samePlace_of_bare (n m : Node) (hk : n.kind = m.kind) (hn : n.location = none)
    (hm : m.location = none) : SamePlace n m := by
  refine ⟨hk, ?_⟩
  rw [hn, hm]
  exact .none

lemma linked_samePlace (lines : Lines) (o : Opening) :
    Linked SamePlace (·.location lines) (·.location .unknown) o := by
  intro n m hk hn hm _ _
  refine ⟨hk, ?_⟩
  rw [hn, hm]
  exact .some (samePoint o.mark lines)

lemma agree_of_check {check : Check} {d d' : Document}
    (he : (d == d') = (d == d)) (hm : Matches SamePlace (.document d) (.document d')) :
    Agree (do check; return d) (do check; return d') := by
  cases check with
  | error e => exact rfl
  | ok u =>
    refine ⟨?_, hm⟩
    rw [he]
    exact (Node.document d).beq_self_iff

/-- With and without its text, a document is refused for the same reason or gives the same tree, at
the same lines and columns; only the bytes differ. The trees are equal when they hold no NaN. -/
theorem agree_with_text :
    (∀ (text : String) (items : List SchemaItem),
      Agree (schemaDocument (.ofText text) items) (schemaDocument .unknown items)) ∧
    ∀ (text : String) (definitions : List ExecutableDefinition),
      Agree (executableDocument (.ofText text) definitions) (executableDocument .unknown definitions) := by
  constructor
  · intro text items
    rw [schemaDocument_eq, schemaDocument_eq]
    refine agree_of_check ?_ ?_
    · exact (beq_map (SchemaItem.beq_tree _ _) items items).trans
        (beq_map (SchemaItem.beq_tree _ _) items items).symm
    · exact matches_schemaDocument samePlace_of_bare items fun o _ => linked_samePlace _ o
  · intro text definitions
    rw [executableDocument_eq, executableDocument_eq]
    refine agree_of_check ?_ ?_
    · exact (beq_map_map (ExecutableDefinition.beq_tree _ _) definitions definitions).trans
        (beq_map_map (ExecutableDefinition.beq_tree _ _) definitions definitions).symm
    · exact matches_executableDocument samePlace_of_bare definitions fun o _ => linked_samePlace _ o

def nanField : Field :=
  ⟨⟨1, 2⟩, none, "number", [⟨"is", .float ⟨0x7FF8000000000000⟩⟩], [], ⟨⟨1, 2⟩, []⟩⟩

def nanSet : ExecutableDefinition :=
  .shorthand ⟨⟨1, 1⟩, [.field nanField]⟩

theorem beq_nanSet :
    ∃ d d', executableDocument (.ofText "number") [nanSet] = .ok d ∧
      executableDocument .unknown [nanSet] = .ok d' ∧ (d == d') = false := by
  refine ⟨_, _, rfl, rfl, ?_⟩
  decide +kernel

end GraphQLTree.Source
