import GraphQLTree.Proofs.Parsing.Grounded
import GraphQLTree.Source.Grammar.Schema

namespace GraphQLTree.Source.Grammar

open GraphQLTree.Source.Parser

variable {L : Lexeme → Prop} (named : ∀ t s, L t → t.token = .name s → s ≠ "")
include named

omit named in
lemma yields_description : Yields L description fun _ => True := by
  refine Yields.look.bind fun o _ => ?_
  split
  · exact Yields.next.bind fun _ _ => .pure trivial
  · exact Yields.next.bind fun _ _ => (Yields.unblocked _).bind fun _ _ => .pure trivial
  · exact .pure trivial

lemma yields_inputValue (depth : Nat) :
    Yields L (inputValue depth) fun v => Grounded L v.check v.openings := by
  refine yields_here.bind fun mark hmark => yields_description.bind fun description _ => ?_
  refine (yields_anyName named).bind fun name hname => (yields_punctuator _).bind fun _ _ => ?_
  refine (yields_typeExpr named depth).bind fun type htype => ?_
  refine (yields_defaultValue named depth).bind fun value hvalue => ?_
  refine (yields_directives named depth).bind fun ds hds => .pure ?_
  exact .cons hmark ((Grounded.option hvalue).bind
    ((Grounded.name hname).bind ((Grounded.of_check htype).bind (.list hds))))

lemma yields_inputValues (opening closing : Punctuator) (depth : Nat) :
    Yields L (inputValues opening closing depth) fun vs => ∀ v ∈ vs, Grounded L v.check v.openings :=
  .block (yields_inputValue named) depth

lemma yields_fieldDefinition (depth : Nat) :
    Yields L (fieldDefinition depth) fun f => Grounded L f.check f.openings := by
  refine yields_here.bind fun mark hmark => yields_description.bind fun description _ => ?_
  refine (yields_anyName named).bind fun name hname => ?_
  refine (yields_inputValues named _ _ depth).bind fun args hargs => (yields_punctuator _).bind fun _ _ => ?_
  refine (yields_typeExpr named depth).bind fun type htype => ?_
  refine (yields_directives named depth).bind fun ds hds => .pure ?_
  exact .cons hmark ((Grounded.name hname).bind
    ((Grounded.of_check htype).bind ((Grounded.list hargs).bind (.list hds))))

lemma yields_enumValue (depth : Nat) :
    Yields L (enumValue depth) fun v => Grounded L v.check v.openings := by
  refine yields_here.bind fun mark hmark => yields_description.bind fun description _ => ?_
  refine (yields_anyName named).bind fun name hname => (yields_directives named depth).bind fun ds hds => ?_
  exact .pure (.cons hmark ((Grounded.name hname).bind (.list hds)))

omit named in
lemma getD_nil {α : Type} {P : α → Prop} {o : Option (List α)} (h : ∀ as ∈ o, ∀ a ∈ as, P a) :
    ∀ a ∈ o.getD [], P a := by
  cases o with
  | none => exact nofun
  | some as => exact h as rfl

lemma yields_interfaces : Yields L interfaces fun names => ∀ s ∈ names, s ≠ "" := by
  refine Yields.bind (Yields.optional ?_) fun names hnames => .pure (getD_nil hnames)
  exact (yields_keyword _).bind fun _ _ => (Yields.accept _).bind fun _ _ => (yields_anyName named).separated

lemma yields_unionMembers : Yields L unionMembers fun names => ∀ s ∈ names, s ≠ "" := by
  refine Yields.bind (Yields.optional ?_) fun names hnames => .pure (getD_nil hnames)
  exact (yields_punctuator _).bind fun _ _ => (Yields.accept _).bind fun _ _ => (yields_anyName named).separated

lemma yields_fieldDefinitions :
    Yields L fieldDefinitions fun fs => ∀ f ∈ fs, Grounded L f.check f.openings :=
  .block (yields_fieldDefinition named) maxDepth

lemma yields_typeBody (k : TypeKeyword) :
    Yields L (typeBody k) fun (ds, body) =>
      Grounded L (body.check ds) (ds.flatMap (·.openings) ++ body.openings) := by
  have hds : Yields L (directives maxDepth) fun ds => ∀ d ∈ ds, Grounded L d.check d.openings :=
    yields_directives named maxDepth
  cases k with
  | scalar =>
    refine hds.bind fun ds hds => .pure ?_
    change Grounded L (ds.forM Directive.check) (ds.flatMap (·.openings) ++ [])
    rw [List.append_nil]
    exact .list hds
  | type | interface =>
    refine (yields_interfaces named).bind fun names hnames => hds.bind fun ds hds => ?_
    refine (yields_fieldDefinitions named).bind fun fields hfields => .pure ?_
    exact (Grounded.names hnames).bind ((Grounded.list hds).bind (.list hfields))
  | union =>
    refine hds.bind fun ds hds => (yields_unionMembers named).bind fun names hnames => .pure ?_
    exact (Grounded.list hds).bind (.names hnames)
  | enum =>
    refine hds.bind fun ds hds => (Yields.block (yields_enumValue named) _).bind fun values hvalues => .pure ?_
    exact (Grounded.list hds).bind (.list hvalues)
  | input =>
    refine hds.bind fun ds hds => (yields_inputValues named _ _ _).bind fun fields hfields => .pure ?_
    exact (Grounded.list hds).bind (.list hfields)

omit named in
lemma yields_typeKeyword : Yields L typeKeyword fun (mark, _) => Opening.IsToken L ⟨mark, none⟩ := by
  refine Yields.next.bind fun t ht => ?_
  split
  · split
    · exact .pure ⟨_, ht, rfl, nofun⟩
    · exact .fail
  · exact .fail

lemma yields_typeDefinition (description : Option String) :
    Yields L (typeDefinition description) fun d => Grounded L d.check d.openings := by
  refine yields_typeKeyword.bind fun (mark, k) hmark => (yields_anyName named).bind fun name hname => ?_
  refine (yields_typeBody named k).bind fun (ds, body) hbody => .pure ?_
  exact .cons hmark ((Grounded.name hname).bind hbody)

lemma yields_typeExtension : Yields L typeExtension fun d => Grounded L d.check d.openings := by
  refine yields_typeKeyword.bind fun (mark, k) hmark => (yields_anyName named).bind fun name hname => ?_
  refine (yields_typeBody named k).bind fun (ds, body) hbody => ?_
  have hd : Grounded L (TypeExtension.mk mark name ds body).check (TypeExtension.mk mark name ds body).openings :=
    .cons hmark ((Grounded.name hname).bind hbody)
  dsimp only
  split
  · exact .pure hd
  · exact .fail

omit named in
lemma yields_directiveLocations : Yields L directiveLocations fun _ => True := by
  have hlocation : Yields L directiveLocation fun _ => True := by
    refine Yields.anyName.bind fun s _ => ?_
    split
    · exact .pure trivial
    · exact .fail
  have hsome : Yields L (do let _ ← accept (.punctuator .bar); separated .bar directiveLocation) fun _ => True :=
    (Yields.accept _).bind fun _ _ => hlocation.separated.mono fun _ _ => trivial
  exact hsome.optional.bind fun _ _ => .pure trivial

lemma yields_directiveDefinition (description : Option String) :
    Yields L (directiveDefinition description) fun d => Grounded L d.check d.openings := by
  refine (yields_keyword _).bind fun mark hmark => (yields_punctuator _).bind fun _ _ => ?_
  refine (yields_anyName named).bind fun name hname => (yields_inputValues named _ _ _).bind fun args hargs => ?_
  refine (Yields.accept _).bind fun repeatable _ => (yields_keyword _).bind fun _ _ => ?_
  refine yields_directiveLocations.bind fun locations _ => .pure ?_
  exact .cons hmark ((Grounded.name hname).bind (.list hargs))

lemma yields_rootType : Yields L rootType fun root => root.2 ≠ "" := by
  refine Yields.anyName.bind fun s _ => ?_
  split
  · exact (yields_punctuator _).bind fun _ _ => (yields_anyName named).bind fun name hname => .pure hname
  · exact .fail

omit named in
lemma yields_rootOf (p : String → Prop) (o : OperationType) {roots : List (OperationType × String)}
    (h : ∀ root ∈ roots, p root.2) : Yields L (rootOf o roots) fun type => ∀ s ∈ type, p s := by
  rw [rootOf]
  split
  · exact .pure nofun
  · next type hf =>
    refine .pure fun s hs => ?_
    have hm : (_, type) ∈ roots := List.mem_of_mem_filter (hf ▸ List.mem_singleton_self _)
    exact Option.some.inj hs ▸ h _ hm
  · exact .fail

omit named in
lemma forall_roots {d : SchemaDefinition} {p : String → Prop} (hquery : ∀ s ∈ d.query, p s)
    (hmutation : ∀ s ∈ d.mutation, p s) (hsubscription : ∀ s ∈ d.subscription, p s) :
    ∀ root ∈ d.roots, p root.2 := by
  intro root hroot
  obtain ⟨⟨o, type⟩, ho, he⟩ := List.mem_filterMap.mp hroot
  obtain ⟨s, rfl, rfl⟩ := Option.map_eq_some_iff.mp he
  simp only [List.mem_cons, Prod.mk.injEq, List.not_mem_nil, or_false] at ho
  rcases ho with ⟨-, ho⟩ | ⟨-, ho⟩ | ⟨-, ho⟩
  · exact hquery s ho.symm
  · exact hmutation s ho.symm
  · exact hsubscription s ho.symm

lemma yields_schemaDefinition : Yields L schemaDefinition fun d => Grounded L d.check d.openings := by
  refine (yields_keyword _).bind fun mark hmark => (yields_directives named _).bind fun ds hds => ?_
  refine (yields_rootType named).enclosed.bind fun roots hroots => ?_
  refine (yields_rootOf (· ≠ "") _ hroots).bind fun query hquery => ?_
  refine (yields_rootOf (· ≠ "") _ hroots).bind fun mutation hmutation => ?_
  refine (yields_rootOf (· ≠ "") _ hroots).bind fun subscription hsubscription => .pure ?_
  refine .cons hmark ((Grounded.of_check (forM_list_eq_ok.mpr fun root hroot => ?_)).bind (.list hds))
  exact checkName_eq_ok.mpr (forall_roots hquery hmutation hsubscription root hroot)

lemma yields_schemaItem : Yields L schemaItem fun item => Grounded L item.check item.openings := by
  refine Yields.look.bind fun o _ => ?_
  split
  · exact (yields_schemaDefinition named).map fun _ h => h
  · exact (yields_keyword _).bind fun _ _ => (yields_typeExtension named).map fun _ h => h
  · refine yields_description.bind fun description _ => Yields.look.bind fun o _ => ?_
    split
    · exact (yields_directiveDefinition named _).map fun _ h => h
    · exact (yields_typeDefinition named _).map fun _ h => h

lemma yields_schemaDocument :
    Yields L schemaDocument fun items => ∀ item ∈ items, Grounded L item.check item.openings := by
  refine (yields_schemaItem named).bind fun first hfirst => ?_
  exact (yields_schemaItem named).many.bind fun others hothers =>
    .pure (List.forall_mem_cons.mpr ⟨hfirst, hothers⟩)

end GraphQLTree.Source.Grammar
