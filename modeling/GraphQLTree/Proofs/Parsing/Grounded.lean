import GraphQLTree.Proofs.Conversion.Places
import GraphQLTree.Proofs.Parsing.Yields

namespace GraphQLTree.Source

section Checks

variable {α : Type} {check : α → Check}

lemma checkName_eq_ok {s : String} : checkName s = .ok () ↔ s ≠ "" := by
  rw [checkName]
  split <;> simp_all

lemma check_bind_eq_ok {c d : Check} : (do c; d) = .ok () ↔ c = .ok () ∧ d = .ok () := by
  cases c with
  | error e => exact ⟨nofun, fun h => nomatch h.1⟩
  | ok u => exact ⟨fun h => ⟨rfl, h⟩, fun h => h.2⟩

lemma forM_list_eq_ok {as : List α} : as.forM check = .ok () ↔ ∀ a ∈ as, check a = .ok () := by
  induction as with
  | nil => exact ⟨fun _ => nofun, fun _ => rfl⟩
  | cons a as ih =>
    change (do check a; as.forM check) = _ ↔ _
    rw [check_bind_eq_ok, ih, List.forall_mem_cons]

lemma forM_option_eq_ok {o : Option α} : o.forM check = .ok () ↔ ∀ a ∈ o, check a = .ok () := by
  cases o with
  | none => exact ⟨fun _ => nofun, fun _ => rfl⟩
  | some a => exact ⟨fun h _ ha => Option.some.inj ha ▸ h, fun h => h a rfl⟩

lemma Value.checkAll_eq_ok {vs : List Value} : Value.checkAll vs = .ok () ↔ ∀ v ∈ vs, v.check = .ok () := by
  induction vs with
  | nil => exact ⟨fun _ => nofun, fun _ => Value.checkAll.eq_1⟩
  | cons v vs ih => rw [Value.checkAll, check_bind_eq_ok, ih, List.forall_mem_cons]

lemma Entry.checkAll_eq_ok {es : List Entry} : Entry.checkAll es = .ok () ↔ ∀ e ∈ es, e.check = .ok () := by
  induction es with
  | nil => exact ⟨fun _ => nofun, fun _ => Entry.checkAll.eq_1⟩
  | cons e es ih =>
    rcases e with ⟨key, value⟩
    rw [List.forall_mem_cons, ← ih, Entry.check, Entry.checkAll]
    simp only [check_bind_eq_ok, and_assoc]

end Checks

def Opening.IsToken (L : Lexeme → Prop) (o : Opening) : Prop :=
  ∃ t, L t ∧ t.mark = o.mark ∧ ∀ token ∈ o.token, t.token = token

/-- A construct whose names and types are in order, and which opens at tokens. -/
structure Grounded (L : Lexeme → Prop) (check : Check) (openings : List Opening) : Prop where
  checked : check = .ok ()
  opened : ∀ o ∈ openings, o.IsToken L

section Rules

variable {α : Type} {L : Lexeme → Prop} {c c' : Check} {os os' : List Opening}

lemma Opening.IsToken.of_token {t : Lexeme} {token : Token} (ht : L t) (hk : t.token = token) :
    Opening.IsToken L ⟨t.mark, some token⟩ :=
  ⟨t, ht, rfl, fun _ ho => hk.trans (Option.some.inj ho)⟩

lemma Opening.IsToken.bare {m : Mark} {token : Option Token} (h : Opening.IsToken L ⟨m, token⟩) :
    Opening.IsToken L ⟨m, none⟩ := by
  obtain ⟨t, ht, hm, -⟩ := h
  exact ⟨t, ht, hm, nofun⟩

lemma Grounded.of_check (h : c = .ok ()) : Grounded L c [] :=
  ⟨h, nofun⟩

lemma Grounded.name {s : String} (h : s ≠ "") : Grounded L (checkName s) [] :=
  .of_check (checkName_eq_ok.mpr h)

lemma Grounded.cons {o : Opening} (ho : o.IsToken L) (h : Grounded L c os) : Grounded L c (o :: os) :=
  ⟨h.checked, List.forall_mem_cons.mpr ⟨ho, h.opened⟩⟩

lemma Grounded.bind (h : Grounded L c os) (h' : Grounded L c' os') : Grounded L (do c; c') (os ++ os') :=
  ⟨check_bind_eq_ok.mpr ⟨h.checked, h'.checked⟩, List.forall_mem_append.mpr ⟨h.opened, h'.opened⟩⟩

lemma Grounded.swap (h : Grounded L c (os ++ os')) : Grounded L c (os' ++ os) :=
  ⟨h.checked, List.forall_mem_append.mpr (List.forall_mem_append.mp h.opened).symm⟩

lemma Grounded.list {as : List α} {check : α → Check} {openings : α → List Opening}
    (h : ∀ a ∈ as, Grounded L (check a) (openings a)) : Grounded L (as.forM check) (as.flatMap openings) :=
  ⟨forM_list_eq_ok.mpr fun a ha => (h a ha).checked, List.forall_mem_flatMap.mpr fun a ha => (h a ha).opened⟩

lemma Grounded.option {α : Type} {o : Option α} {check : α → Check} (h : ∀ a ∈ o, check a = .ok ()) :
    Grounded L (o.forM check) [] :=
  .of_check (forM_option_eq_ok.mpr h)

lemma Grounded.names {names : List String} (h : ∀ s ∈ names, s ≠ "") : Grounded L (names.forM checkName) [] :=
  .of_check (forM_list_eq_ok.mpr fun s hs => checkName_eq_ok.mpr (h s hs))

lemma Grounded.selections? {set : SelectionSet} (h : Grounded L set.check set.openings) :
    Grounded L set.check set.openings? := by
  rcases set with ⟨mark, _ | ⟨item, items⟩⟩
  · exact ⟨h.checked, by rw [SelectionSet.openings?]; exact nofun⟩
  · rw [SelectionSet.openings, Selection.openingsAll] at h
    rw [SelectionSet.openings?]
    exact h

lemma Grounded.field {mark : Mark} {aliasName : Option String} {name : String} {args : List Entry}
    {ds : List Directive} {set : SelectionSet}
    (hmark : Opening.IsToken L ⟨mark, some (.name (aliasName.getD name))⟩) (ha : ∀ s ∈ aliasName, s ≠ "")
    (hn : name ≠ "") (hargs : ∀ e ∈ args, e.check = .ok ()) (hds : ∀ d ∈ ds, Grounded L d.check d.openings)
    (hset : Grounded L set.check set.openings?) :
    Grounded L (Field.mk mark aliasName name args ds set).check (Field.mk mark aliasName name args ds set).openings := by
  -- The selections are checked first and open last.
  rw [Field.check, Field.openings]
  refine .cons hmark (.swap (hset.bind ?_))
  exact (Grounded.option fun s hs => checkName_eq_ok.mpr (ha s hs)).bind
    ((Grounded.name hn).bind ((Grounded.of_check (forM_list_eq_ok.mpr hargs)).bind (.list hds)))

lemma Grounded.selections {items : List Selection} (h : ∀ s ∈ items, Grounded L s.check s.openings) :
    Grounded L (Selection.checkAll items) (Selection.openingsAll items) := by
  induction items with
  | nil =>
    rw [Selection.checkAll, Selection.openingsAll]
    exact .of_check rfl
  | cons item items ih =>
    obtain ⟨hi, his⟩ := List.forall_mem_cons.mp h
    rw [Selection.checkAll, Selection.openingsAll]
    exact hi.bind (ih his)

end Rules

lemma Entry.mem_insert {e f : Entry} {fs : List Entry} (h : f ∈ Entry.insert e fs) : f = e ∨ f ∈ fs := by
  induction fs with
  | nil => exact .inl (List.mem_singleton.mp h)
  | cons g gs ih =>
    rw [Entry.insert] at h
    split at h
    · exact List.mem_cons.mp h
    · split at h
      · exact (List.mem_cons.mp h).imp_right (List.mem_cons_of_mem g)
      · rcases List.mem_cons.mp h with rfl | h
        · exact .inr List.mem_cons_self
        · exact (ih h).imp_right (List.mem_cons_of_mem g)

lemma Value.exists_ofEntries {p : Entry → Prop} {es : List Entry} (h : ∀ e ∈ es, p e) :
    ∃ kept, ofEntries es = .object kept ∧ ∀ e ∈ kept, p e := by
  refine ⟨_, rfl, ?_⟩
  suffices hk : ∀ kept : List Entry, (∀ e ∈ kept, p e) →
      ∀ e ∈ es.foldl (fun kept e => e.insert kept) kept, p e from hk [] nofun
  induction es with
  | nil => exact fun _ hk => hk
  | cons e es ih =>
    obtain ⟨he, hes⟩ := List.forall_mem_cons.mp h
    intro kept hk
    refine ih hes _ fun f hf => ?_
    rcases Entry.mem_insert hf with rfl | hf
    · exact he
    · exact hk f hf

lemma Value.check_ofEntries {es : List Entry} (h : ∀ e ∈ es, e.check = .ok ()) :
    (Value.ofEntries es).check = .ok () := by
  obtain ⟨kept, he, hk⟩ := exists_ofEntries h
  rw [he, check, Entry.checkAll_eq_ok]
  exact hk

namespace Grammar

open GraphQLTree.Source.Parser

variable {L : Lexeme → Prop}

lemma yields_here : Yields L here fun m => Opening.IsToken L ⟨m, none⟩ :=
  Yields.here.mono fun _ ⟨t, ht, hm⟩ => ⟨t, ht, hm, nofun⟩

lemma yields_punctuator (q : Punctuator) :
    Yields L (punctuator q) fun m => Opening.IsToken L ⟨m, some (.punctuator q)⟩ :=
  (Yields.punctuator q).mono fun _ ⟨_, ht, hm, hk⟩ => hm ▸ .of_token ht hk

lemma yields_keyword (s : String) : Yields L (keyword s) fun m => Opening.IsToken L ⟨m, none⟩ :=
  (Yields.keyword s).mono fun _ ⟨t, ht, hm, _⟩ => ⟨t, ht, hm, nofun⟩

lemma yields_marked {t : TypeExpr} (ht : t.check = .ok ()) (hn : t.isNonNull = false) :
    Yields L (marked t) fun t => t.check = .ok () := by
  -- There is one exclamation mark at most, so no marked type is marked again.
  refine (Yields.accept _).bind fun b _ => .pure ?_
  split
  · rw [TypeExpr.check, check_bind_eq_ok, TypeExpr.checkNullable, hn]
    exact ⟨ht, rfl⟩
  · exact ht

variable (named : ∀ t s, L t → t.token = .name s → s ≠ "")
include named

lemma yields_anyName : Yields L anyName (· ≠ "") :=
  Yields.anyName.mono fun _ ⟨t, ht, hs⟩ => named t _ ht hs

lemma yields_scalar (constant : Bool) : Yields L (scalar constant) fun v => v.check = .ok () := by
  refine Yields.next.bind fun t ht => ?_
  split
  · split
    · exact .fail
    · exact (yields_anyName named).map fun s hs => by rw [Value.check, checkName_eq_ok]; exact hs
  · exact .pure (by rw [Value.check]; rfl)
  · exact .pure (by rw [Value.check]; rfl)
  · exact .pure (by rw [Value.check]; rfl)
  · exact (Yields.unblocked _).map fun s _ => by rw [Value.check]; rfl
  · exact .pure (by rw [Value.check]; rfl)
  · exact .pure (by rw [Value.check]; rfl)
  · exact .pure (by rw [Value.check]; rfl)
  · exact .pure (by rw [Value.check]; rfl)
  · exact .fail

lemma yields_entry {value : Parser Value} (hv : Yields L value fun v => v.check = .ok ()) :
    Yields L (entry value) fun e => e.check = .ok () := by
  refine (yields_anyName named).bind fun key hkey => (Yields.punctuator _).bind fun _ _ => ?_
  exact hv.bind fun v hv => .pure (check_bind_eq_ok.mpr ⟨checkName_eq_ok.mpr hkey, hv⟩)

lemma yields_value (constant : Bool) (depth : Nat) :
    Yields L (value constant depth) fun v => v.check = .ok () := by
  induction depth with
  | zero => exact yields_scalar named constant
  | succ depth ih =>
    refine Yields.look.bind fun o _ => ?_
    split
    · exact ih.enclosed.map fun vs hvs => by rw [Value.check, Value.checkAll_eq_ok]; exact hvs
    · exact (yields_entry named ih).enclosed.map fun es hes => Value.check_ofEntries hes
    · exact yields_scalar named constant

lemma yields_defaultValue (depth : Nat) :
    Yields L (defaultValue depth) fun o => ∀ v ∈ o, v.check = .ok () :=
  ((Yields.punctuator _).bind fun _ _ => yields_value named true depth).optional

lemma yields_typeExpr (depth : Nat) : Yields L (typeExpr depth) fun t => t.check = .ok () := by
  have hnamed : Yields L (do marked (.named (← anyName))) fun t => t.check = .ok () :=
    (yields_anyName named).bind fun s hs => yields_marked (checkName_eq_ok.mpr hs) rfl
  induction depth with
  | zero => exact hnamed
  | succ depth ih =>
    refine (Yields.accept _).bind fun b _ => ?_
    split
    · exact ih.bind fun t ht => (Yields.punctuator _).bind fun _ _ => yields_marked ht rfl
    · exact hnamed

lemma yields_arguments (depth : Nat) : Yields L (arguments depth) fun es => ∀ e ∈ es, e.check = .ok () :=
  .block (fun depth => yields_entry named (yields_value named false depth)) depth

lemma yields_directive (depth : Nat) :
    Yields L (directive depth) fun d => Grounded L d.check d.openings := by
  refine (yields_punctuator _).bind fun mark hmark => (yields_anyName named).bind fun name hname => ?_
  refine (yields_arguments named depth).bind fun args hargs => .pure ?_
  exact .cons hmark ((Grounded.name hname).bind (.of_check (forM_list_eq_ok.mpr hargs)))

lemma yields_directives (depth : Nat) :
    Yields L (directives depth) fun ds => ∀ d ∈ ds, Grounded L d.check d.openings :=
  (yields_directive named depth).many

end Grammar

end GraphQLTree.Source
