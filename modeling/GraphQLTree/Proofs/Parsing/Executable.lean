import GraphQLTree.Proofs.Parsing.Grounded
import GraphQLTree.Source.Grammar.Executable

namespace GraphQLTree.Source.Grammar

open GraphQLTree.Source.Parser

variable {L : Lexeme → Prop} (named : ∀ t s, L t → t.token = .name s → s ≠ "")
include named

lemma yields_variableDefinition (depth : Nat) :
    Yields L (variableDefinition depth) fun d => Grounded L d.check d.openings := by
  refine (yields_punctuator _).bind fun mark hmark => (yields_anyName named).bind fun name hname => ?_
  refine (yields_punctuator _).bind fun _ _ => (yields_typeExpr named depth).bind fun type htype => ?_
  refine (yields_defaultValue named depth).bind fun value hvalue => .pure ?_
  exact .cons hmark.bare ((Grounded.name hname).bind
    ((Grounded.option hvalue).bind (.of_check htype)))

section Selections

variable {set : Parser SelectionSet} (hset : Yields L set fun s => Grounded L s.check s.openings)
include hset

lemma yields_field (depth : Nat) : Yields L (field depth set) fun f => Grounded L f.check f.openings := by
  refine Yields.here_anyName fun t first ht hfirst => ?_
  have hname : first ≠ "" := named t first ht hfirst
  refine ((Yields.punctuator _).bind fun _ _ => yields_anyName named).optional.bind fun second hsecond => ?_
  refine (yields_arguments named depth).bind fun args hargs => ?_
  refine (yields_directives named depth).bind fun ds hds => hset.optional.bind fun selections hs => ?_
  have hsel : Grounded L (selections.getD ⟨t.mark, []⟩).check (selections.getD ⟨t.mark, []⟩).openings? := by
    cases selections with
    | none =>
      refine ⟨?_, by rw [Option.getD_none, SelectionSet.openings?]; exact nofun⟩
      rw [Option.getD_none, SelectionSet.check, Selection.checkAll]
      rfl
    | some selections => exact (hs selections rfl).selections?
  cases second with
  | none => exact .pure (.field (.of_token ht hfirst) nofun hname hargs hds hsel)
  | some name =>
    refine .pure (.field (.of_token ht hfirst) (fun s hs => ?_) (hsecond name rfl) hargs hds hsel)
    exact Option.some.inj hs ▸ hname

lemma yields_inline (depth : Nat) {mark : Mark} (hmark : Opening.IsToken L ⟨mark, none⟩) :
    Yields L (dotted.inline depth set mark) fun s => Grounded L s.check s.openings := by
  have hcondition : Yields L condition (· ≠ "") :=
    (yields_keyword _).bind fun _ _ => yields_anyName named
  refine hcondition.optional.bind fun type htype => (yields_directives named depth).bind fun ds hds => ?_
  refine hset.bind fun set hset => .pure ?_
  rw [Selection.check, Selection.openings, InlineFragment.check, InlineFragment.openings]
  refine .cons hmark ((Grounded.option fun s hs => checkName_eq_ok.mpr (htype s hs)).bind ?_)
  exact .swap (hset.bind (.list hds))

lemma yields_dotted (depth : Nat) : Yields L (dotted depth set) fun s => Grounded L s.check s.openings := by
  refine yields_here.bind fun mark hmark => Yields.look.bind fun o _ => ?_
  split
  · split
    · refine (yields_anyName named).bind fun name hname => ?_
      refine (yields_directives named depth).bind fun ds hds => .pure ?_
      rw [Selection.check, Selection.openings]
      exact .cons hmark ((Grounded.name hname).bind (.list hds))
    · exact yields_inline named hset depth hmark
  · exact yields_inline named hset depth hmark

lemma yields_selection (depth : Nat) : Yields L (selection depth set) fun s => Grounded L s.check s.openings := by
  refine (Yields.accept _).bind fun b _ => ?_
  split
  · exact yields_dotted named hset depth
  · refine (yields_field named hset depth).map fun f hf => ?_
    rw [Selection.check, Selection.openings]
    exact hf

end Selections

lemma yields_selectionSet (depth : Nat) :
    Yields L (selectionSet depth) fun s => Grounded L s.check s.openings := by
  -- On the brackets that may still open: the sets inside have one less.
  induction depth with
  | zero => exact .fail
  | succ depth ih =>
    refine (yields_selection named ih depth).here_enclosedSome fun t items ht hk hitems => .pure ?_
    rw [SelectionSet.check, SelectionSet.openings]
    exact .cons (.of_token ht hk) (.selections hitems)

lemma yields_operation {mark : Mark} (hmark : Opening.IsToken L ⟨mark, none⟩) (o : OperationType) :
    Yields L (operation mark o) fun o => Grounded L o.check o.openings := by
  refine (yields_anyName named).optional.bind fun name hname => ?_
  refine (Yields.block (yields_variableDefinition named) _).bind fun definitions hdefinitions => ?_
  refine (yields_directives named _).bind fun ds hds => (yields_selectionSet named _).bind fun set hset => .pure ?_
  rw [Operation.openings, List.append_assoc]
  refine .cons hmark ((Grounded.option fun s hs => checkName_eq_ok.mpr (hname s hs)).bind ?_)
  exact (Grounded.list hdefinitions).bind (.swap (hset.bind (.list hds)))

lemma yields_fragment {mark : Mark} (hmark : Opening.IsToken L ⟨mark, none⟩) :
    Yields L (fragment mark) fun f => Grounded L f.check f.openings := by
  refine (yields_anyName named).bind fun name hname => ?_
  refine ((yields_keyword _).bind fun _ _ => yields_anyName named).bind fun condition hcondition => ?_
  refine (yields_directives named _).bind fun ds hds => (yields_selectionSet named _).bind fun set hset => .pure ?_
  exact .cons hmark ((Grounded.name hname).bind ((Grounded.name hcondition).bind (.swap (hset.bind (.list hds)))))

lemma yields_executableDefinition :
    Yields L executableDefinition fun d => Grounded L d.check d.openings := by
  refine Yields.look.bind fun o _ => ?_
  split
  · refine (yields_keyword _).bind fun mark hmark => ?_
    split
    · exact (yields_operation named hmark _).map fun _ h => h
    · split
      · exact (yields_fragment named hmark).map fun _ h => h
      · exact .fail
  · exact (yields_selectionSet named _).map fun _ h => h

lemma yields_executableDocument :
    Yields L executableDocument fun ds => ∀ d ∈ ds, Grounded L d.check d.openings := by
  refine (yields_executableDefinition named).bind fun first hfirst => ?_
  exact (yields_executableDefinition named).many.bind fun others hothers =>
    .pure (List.forall_mem_cons.mpr ⟨hfirst, hothers⟩)

end GraphQLTree.Source.Grammar
