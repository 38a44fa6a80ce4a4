import GraphQLTree.Proofs.Equality.Erasure
import GraphQLTree.Proofs.Signatures
import Mathlib.Data.List.Nodup

/-! The laws of updates: what is put into a field is found there, a later update takes the place of an
earlier one, updates of two fields do not depend on their order, and nothing else changes. -/

namespace GraphQLTree

section Fields

variable {x y : FieldName} {c d : Content} {fs before after : List (FieldName × Content)}

lemma setField_again : setField x d (setField x c fs) = setField x d fs := by
  rw [setField, setField, List.map_map]
  apply List.map_congr_left
  intro f _
  by_cases hx : f.1 = x <;> simp [hx]

lemma setField_comm (hxy : y ≠ x) : setField y d (setField x c fs) = setField x c (setField y d fs) := by
  rw [setField, setField, setField, setField, List.map_map, List.map_map]
  apply List.map_congr_left
  intro f _
  by_cases hx : f.1 = x
  · simp [hx, hxy.symm]
  · by_cases hy : f.1 = y <;> simp [hx, hy, hxy]

lemma setField_of_not_mem (h : x ∉ fs.map (·.1)) : setField x c fs = fs := by
  have hid : ∀ f ∈ fs, (if f.1 = x then (x, c) else f) = id f := fun f hf =>
    if_neg fun hx => h (List.mem_map.mpr ⟨f, hf, hx⟩)
  rw [setField, List.map_congr_left hid, List.map_id]

lemma setField_split (hb : x ∉ before.map (·.1)) (ha : x ∉ after.map (·.1)) :
    setField x d (before ++ (x, c) :: after) = before ++ (x, d) :: after := by
  have hs : setField x d (before ++ (x, c) :: after) =
      setField x d before ++ (x, d) :: setField x d after := by simp [setField]
  rw [hs, setField_of_not_mem hb, setField_of_not_mem ha]

lemma find?_split (hb : x ∉ before.map (·.1)) :
    (before ++ (x, c) :: after).find? (·.1 = x) = some (x, c) := by
  have hnone : before.find? (·.1 = x) = none := by
    rw [List.find?_eq_none]
    intro f hf hx
    exact hb (List.mem_map.mpr ⟨f, hf, by simpa using hx⟩)
  rw [List.find?_append, hnone, Option.none_or, List.find?_cons_of_pos (by simp)]

lemma find?_setField (hxy : y ≠ x) : (setField x c fs).find? (·.1 = y) = fs.find? (·.1 = y) := by
  induction fs with
  | nil => rfl
  | cons f fs ih =>
    by_cases hx : f.1 = x
    · have hy : f.1 ≠ y := fun hy => hxy (hy.symm.trans hx)
      simpa [setField, hx, hxy.symm] using ih
    · by_cases hy : f.1 = y
      · simp [setField, hy, hxy]
      · simpa [setField, hx, hy] using ih

lemma exists_split (hn : (fs.map (·.1)).Nodup) (hx : (x, c) ∈ fs) :
    ∃ before after, fs = before ++ (x, c) :: after ∧ x ∉ before.map (·.1) ∧ x ∉ after.map (·.1) := by
  obtain ⟨before, after, rfl⟩ := List.append_of_mem hx
  rw [List.map_append, List.map_cons, List.nodup_middle, List.nodup_cons, List.mem_append, not_or] at hn
  exact ⟨before, after, rfl, hn.1⟩

end Fields

namespace Node

variable {n m : Node} {x y : FieldName} {c d : Content}

section Fields

lemma get?_eq_fields (n : Node) (x : FieldName) : n.get? x = (n.fields.find? (·.1 = x)).map (·.2) := by
  rw [get?, slot?, fields, List.find?_map, Option.map_map]
  rfl

lemma nodup_fields (n : Node) : (n.fields.map (·.1)).Nodup := by
  have hnames {slots : List Slot} {fields : List (FieldName × FieldSort)}
      (h : List.Forall₂ Slot.Fits slots fields) : (slots.map Slot.entry).map (·.1) = fields.map (·.1) := by
    induction h with
    | nil => rfl
    | cons hs _ ih => exact congrArg₂ List.cons hs.field_eq ih
  rw [fields, hnames n.fits_slots]
  exact n.kind.nodup_signature

lemma fields_split (h : n.get? x = some c) :
    ∃ before after, n.fields = before ++ (x, c) :: after ∧ x ∉ before.map (·.1) ∧ x ∉ after.map (·.1) := by
  rw [get?_eq_fields] at h
  obtain ⟨⟨y, d⟩, hf, rfl⟩ := Option.map_eq_some_iff.mp h
  obtain rfl : y = x := by simpa using List.find?_some hf
  exact exists_split n.nodup_fields (List.mem_of_find?_eq_some hf)

lemma get?_cases (n : Node) (x : FieldName) :
    (n.get? x = none ∧ n.kind.sort? x = none) ∨
      ∃ c s, n.get? x = some c ∧ n.kind.sort? x = some s ∧ s.Takes c := by
  rw [get?]
  rcases n.slot?_cases x with ⟨hslot, hsort⟩ | ⟨slot, sort, hslot, hsort, hs⟩
  · exact .inl ⟨by rw [hslot, Option.map_none], hsort⟩
  · exact .inr ⟨slot.content, sort, by rw [hslot, Option.map_some], hsort, hs.takes_content⟩

lemma isSome_update_of_get? (h : n.get? x = some c) : (n.update x c).isSome = true := by
  rw [isSome_update_iff]
  rcases n.get?_cases x with ⟨hnone, -⟩ | ⟨d, s, hd, hsort, hs⟩
  · cases hnone.symm.trans h
  · obtain rfl : d = c := Option.some.inj (hd.symm.trans h)
    exact ⟨s, hsort, hs⟩

lemma exists_get?_of_update (h : (n.update x c).isSome = true) : ∃ d, n.get? x = some d := by
  obtain ⟨s, hs, -⟩ := isSome_update_iff.mp h
  rcases n.get?_cases x with ⟨-, hnone⟩ | ⟨d, _, hd, -, -⟩
  · cases hnone.symm.trans hs
  · exact ⟨d, hd⟩

end Fields

section Laws

def childrenBefore (n : Node) (x : FieldName) : List Node :=
  (n.fields.takeWhile (·.1 ≠ x)).flatMap (·.2.nodes)

def childrenAfter (n : Node) (x : FieldName) : List Node :=
  (n.fields.dropWhile (·.1 ≠ x)).tail.flatMap (·.2.nodes)

lemma children_split {before after : List (FieldName × Content)} (hf : n.fields = before ++ (x, c) :: after)
    (hb : x ∉ before.map (·.1)) :
    n.childrenBefore x = before.flatMap (·.2.nodes) ∧ n.childrenAfter x = after.flatMap (·.2.nodes) ∧
      n.children = n.childrenBefore x ++ c.nodes ++ n.childrenAfter x := by
  have hne : ∀ f ∈ before, decide (f.1 ≠ x) = true := fun f hf =>
    decide_eq_true fun hx => hb (List.mem_map.mpr ⟨f, hf, hx⟩)
  have hbefore : n.childrenBefore x = before.flatMap (·.2.nodes) := by
    rw [childrenBefore, hf, List.takeWhile_append_of_pos hne]
    simp
  have hafter : n.childrenAfter x = after.flatMap (·.2.nodes) := by
    rw [childrenAfter, hf, List.dropWhile_append_of_pos hne]
    simp
  refine ⟨hbefore, hafter, ?_⟩
  rw [children_eq_fields, hbefore, hafter, hf]
  simp

lemma valid_of_checked (hk : m.kind = n.kind) (h : ∀ y ∈ n.kind.checkedFields, m.get? y = n.get? y)
    (hn : n.Valid) : m.Valid := by
  cases SameKind.of_kind hk with
  | name a b =>
    have hv : some (Content.text a.value) = some (.text b.value) := h .value (.head _)
    have hab : a.value = b.value := Content.text.inj (Option.some.inj hv)
    exact fun ha => hn (hab.symm.trans ha)
  | nonNull t u =>
    have hv : some (Content.ofOne t) = some (.ofOne u) := h .innerType (.head _)
    obtain rfl : t = u := Content.ofOne_inj.mp (Option.some.inj hv)
    exact hn
  | schemaCoordinate a b =>
    have hd : some (Content.flag a.ofDirective) = some (.flag b.ofDirective) := h .ofDirective (.head _)
    have hm : some (Content.ofOptional a.member) = some (.ofOptional b.member) := h .memberName (.tail _ (.head _))
    have ha : some (Content.ofOptional a.argument) = some (.ofOptional b.argument) :=
      h .argumentName (.tail _ (.tail _ (.head _)))
    rcases a with ⟨_, name, _, _, l⟩
    simp only [Option.some.injEq, Content.flag.injEq, Content.ofOptional_inj] at hd hm ha
    subst hd hm ha
    exact (SchemaCoordinate.Shaped.withName hn name).withLocation l
  | _ => trivial

lemma get?_of_fields (hf : m.fields = setField x c n.fields) (hy : y ≠ x) : m.get? y = n.get? y := by
  rw [get?_eq_fields, get?_eq_fields, hf, find?_setField hy]

lemma ok_of_update (hn : n.Valid) (h : n.update x c = some (.ok m)) :
    m.kind = n.kind ∧ m.fields = setField x c n.fields ∧ m.Valid := by
  obtain ⟨p, hk, hf, hp⟩ := exists_accepted_of_update hn h
  rcases p.accepted_cases with ⟨ha, hv⟩ | ⟨e, ha, -⟩
  · obtain rfl : m = p := Except.ok.inj (hp.trans ha)
    exact ⟨hk, hf, hv⟩
  · cases hp.trans ha

lemma update_eq_ok (hn : n.Valid) (hs : (n.update x c).isSome = true) (hk : m.kind = n.kind)
    (hf : m.fields = setField x c n.fields) (hm : m.Valid) : n.update x c = some (.ok m) := by
  obtain ⟨r, hr⟩ := Option.isSome_iff_exists.mp hs
  obtain ⟨p, hpk, hpf, rfl⟩ := exists_accepted_of_update hn hr
  obtain rfl : p = m := eq_of_fields (hpk.trans hk.symm) (hpf.trans hf.symm)
  rw [hr, p.accepted_eq_ok_iff.mpr hm]

lemma update_congr (hn : n.Valid) (hm : m.Valid) (hk : m.kind = n.kind)
    (hf : setField x c m.fields = setField x c n.fields) : m.update x c = n.update x c := by
  have hs : (m.update x c).isSome = true ↔ (n.update x c).isSome = true := by
    rw [isSome_update_iff, isSome_update_iff, hk]
  cases hr : n.update x c with
  | none =>
    rw [hr] at hs
    exact Option.not_isSome_iff_eq_none.mp fun h => nomatch hs.mp h
  | some r =>
    rw [hr] at hs
    obtain ⟨r', hr'⟩ := Option.isSome_iff_exists.mp (hs.mpr rfl)
    obtain ⟨p, hpk, hpf, rfl⟩ := exists_accepted_of_update hn hr
    obtain ⟨q, hqk, hqf, rfl⟩ := exists_accepted_of_update hm hr'
    obtain rfl : q = p := eq_of_fields (hqk.trans (hk.trans hpk.symm)) (hqf.trans (hf.trans hpf.symm))
    exact hr'

variable {p q r : Node}

lemma exists_fields_of_update (hn : n.Valid) (h : n.update x c = some (.ok m)) :
    ∃ old before after, n.get? x = some old ∧ n.fields = before ++ (x, old) :: after ∧
      m.fields = before ++ (x, c) :: after ∧ x ∉ before.map (·.1) := by
  obtain ⟨-, hf, -⟩ := ok_of_update hn h
  obtain ⟨old, hold⟩ := exists_get?_of_update (h ▸ rfl : (n.update x c).isSome = true)
  obtain ⟨before, after, hsplit, hb, ha⟩ := fields_split hold
  exact ⟨old, before, after, hold, hsplit, by rw [hf, hsplit, setField_split hb ha], hb⟩

lemma get?_of_update (hn : n.Valid) (h : n.update x c = some (.ok m)) : m.get? x = some c := by
  obtain ⟨_, before, after, -, -, hf, hb⟩ := exists_fields_of_update hn h
  rw [get?_eq_fields, hf, find?_split hb, Option.map_some]

lemma children_of_update (hn : n.Valid) (h : n.update x c = some (.ok m)) :
    m.children = n.childrenBefore x ++ c.nodes ++ n.childrenAfter x := by
  obtain ⟨_, before, after, -, hf, hf', hb⟩ := exists_fields_of_update hn h
  obtain ⟨hbefore, hafter, -⟩ := children_split hf hb
  obtain ⟨hbefore', hafter', hchildren⟩ := children_split hf' hb
  rw [hchildren, hbefore', hafter', hbefore, hafter]

lemma children_eq_of_update (hn : n.Valid) (h : n.update x c = some (.ok m))
    (hplain : ∀ s ∈ n.kind.sort? x, s.holdsNodes = false) : m.children = n.children := by
  obtain ⟨s, hs, hc⟩ := isSome_update_iff.mp (h ▸ rfl : (n.update x c).isSome = true)
  obtain ⟨old, _, _, hold, hf, -, hb⟩ := exists_fields_of_update hn h
  obtain ⟨s', hs', hold⟩ := isSome_update_iff.mp (isSome_update_of_get? hold)
  rw [children_of_update hn h, (children_split hf hb).2.2, hc.nodes_eq (hplain s hs),
    hold.nodes_eq (hplain s' hs')]

lemma eq_of_updates (hn : n.Valid) (hy : y ≠ x) (hm : n.update x c = some (.ok m))
    (hp : m.update y d = some (.ok p)) (hq : n.update y d = some (.ok q)) (hr : q.update x c = some (.ok r)) :
    p = r := by
  obtain ⟨hmk, hmf, hmv⟩ := ok_of_update hn hm
  obtain ⟨hpk, hpf, -⟩ := ok_of_update hmv hp
  obtain ⟨hqk, hqf, hqv⟩ := ok_of_update hn hq
  obtain ⟨hrk, hrf, -⟩ := ok_of_update hqv hr
  apply eq_of_fields
  · rw [hpk, hmk, hrk, hqk]
  · rw [hpf, hmf, hrf, hqf, setField_comm hy]

lemma exists_updates (hn : n.Valid) (hcoordinate : n.kind ≠ .schemaCoordinate) (hy : y ≠ x)
    (hm : n.update x c = some (.ok m)) (hp : m.update y d = some (.ok p)) :
    ∃ q, n.update y d = some (.ok q) ∧ q.update x c = some (.ok p) := by
  obtain ⟨hmk, hmf, hmv⟩ := ok_of_update hn hm
  obtain ⟨hpk, hpf, hpv⟩ := ok_of_update hmv hp
  have hsy : (n.update y d).isSome = true := by
    rw [isSome_update_iff, ← hmk, ← isSome_update_iff, hp]
    rfl
  obtain ⟨e, he⟩ := Option.isSome_iff_exists.mp hsy
  obtain ⟨q, hqk, hqf, rfl⟩ := exists_accepted_of_update hn he
  have hk : p.kind = q.kind := by rw [hpk, hmk, hqk]
  have hf : p.fields = setField x c q.fields := by rw [hpf, hmf, hqf, setField_comm hy]
  have hqv : q.Valid := by
    -- No two fields are checked: what is checked of `q` stands in `p` as well, or else in `n`.
    by_cases hcheck : y ∈ n.kind.checkedFields
    · refine valid_of_checked hk.symm (fun z hz => ?_) hpv
      have hzy : z = y := Kind.eq_of_mem_checkedFields hcoordinate (hmk ▸ hpk ▸ hz) hcheck
      exact (get?_of_fields hf (hzy ▸ hy)).symm
    · exact valid_of_checked hqk (fun z hz => get?_of_fields hqf fun hzy => hcheck (hzy ▸ hz)) hn
  have hsx : (q.update x c).isSome = true := by
    rw [isSome_update_iff, hqk, ← isSome_update_iff, hm]
    rfl
  exact ⟨q, he.trans (congrArg some (q.accepted_eq_ok_iff.mpr hqv)), update_eq_ok hqv hsx hk hf hpv⟩

structure Updated (n : Node) (x : FieldName) (c : Content) (m : Node) : Prop where
  kind_eq : m.kind = n.kind
  get?_eq : m.get? x = some c
  get?_other : ∀ y, y ≠ x → m.get? y = n.get? y
  location_eq : x ≠ .location → m.location = n.location
  update_again : ∀ d, m.update x d = n.update x d
  update_comm : ∀ y d p q r, y ≠ x → m.update y d = some (.ok p) → n.update y d = some (.ok q) →
    q.update x c = some (.ok r) → p = r
  update_reordered : n.kind ≠ .schemaCoordinate → ∀ y d p, y ≠ x → m.update y d = some (.ok p) →
    ∃ q, n.update y d = some (.ok q) ∧ q.update x c = some (.ok p)
  children_eq : m.children = n.childrenBefore x ++ c.nodes ++ n.childrenAfter x
  children_same : (∀ s ∈ n.kind.sort? x, s.holdsNodes = false) → m.children = n.children

lemma Updated.of_update (hn : n.Valid) (h : n.update x c = some (.ok m)) : Updated n x c m := by
  obtain ⟨hk, hf, hm⟩ := ok_of_update hn h
  constructor
  case kind_eq => exact hk
  case get?_eq => exact get?_of_update hn h
  case get?_other => exact fun y hy => get?_of_fields hf hy
  case location_eq => exact fun hx => location_of_fields hf hx
  case update_again => exact fun d => update_congr hn hm hk (by rw [hf, setField_again])
  case update_comm => exact fun y d p q r hy => eq_of_updates hn hy h
  case update_reordered => exact fun hcoordinate y d p hy => exists_updates hn hcoordinate hy h
  case children_eq => exact children_of_update hn h
  case children_same => exact children_eq_of_update hn h

lemma update_self (hn : n.Valid) (h : n.get? x = some c) : n.update x c = some (.ok n) := by
  obtain ⟨before, after, hsplit, hb, ha⟩ := fields_split h
  refine update_eq_ok hn (isSome_update_of_get? h) rfl ?_ hn
  rw [hsplit, setField_split hb ha]

lemma ok_of_unchecked (hn : n.Valid) {r : Except TreeError Node} (h : n.update x c = some r)
    (hx : x ∉ n.kind.checkedFields) : ∃ m, r = .ok m := by
  obtain ⟨m, hk, hf, rfl⟩ := exists_accepted_of_update hn h
  have hm : m.Valid := valid_of_checked hk (fun y hy => get?_of_fields hf fun hyx => hx (hyx ▸ hy)) hn
  exact ⟨m, m.accepted_eq_ok_iff.mpr hm⟩

/-- A field takes what its sort says and nothing else. What it takes is never refused, unless the field is
checked; what it holds is never refused and leaves the node as it is. -/
theorem update_laws (hn : n.Valid) :
    (∀ x c, (n.update x c).isSome = true ↔ ∃ s ∈ n.kind.sort? x, s.Takes c) ∧
    (∀ x c r, n.update x c = some r → x ∉ n.kind.checkedFields → ∃ m, r = .ok m) ∧
    (∀ x, ∀ s ∈ n.kind.sort? x, ∃ c, s.Takes c ∧ n.get? x = some c ∧ n.update x c = some (.ok n) ∧
      n.children = n.childrenBefore x ++ c.nodes ++ n.childrenAfter x) ∧
    ∀ x c m, n.update x c = some (.ok m) → Updated n x c m := by
  refine ⟨fun x c => isSome_update_iff, fun x c r => ok_of_unchecked hn, ?_, fun x c m => Updated.of_update hn⟩
  intro x s hs
  rcases n.get?_cases x with ⟨-, hnone⟩ | ⟨c, s', hc, hs', htakes⟩
  · cases hnone.symm.trans hs
  · obtain rfl : s' = s := Option.some.inj (hs'.symm.trans hs)
    have hself : n.update x c = some (.ok n) := update_self hn hc
    exact ⟨c, htakes, hc, hself, children_of_update hn hself⟩

/-- The name of a directive becomes that of a type and then takes a member. Taken as a directive, it cannot
have one. -/
theorem update_laws_coordinate :
    let name : Name := ⟨"date", none⟩
    let directive : Node := .schemaCoordinate ⟨true, name, none, none, none⟩
    let type : Node := .schemaCoordinate ⟨false, name, none, none, none⟩
    let member : Node := .schemaCoordinate ⟨false, name, some name, none, none⟩
    let c : Content := .ofOptional (some name)
    directive.Valid ∧ Updated directive .ofDirective (.flag false) type ∧
      type.update .memberName c = some (.ok member) ∧ ∃ e, directive.update .memberName c = some (.error e) := by
  intro name directive type member c
  have hv : directive.Valid := SchemaCoordinate.Shaped.directive _ _
  exact ⟨hv, (update_laws hv).2.2.2 _ _ _ rfl, rfl, _, rfl⟩

end Laws

end Node

end GraphQLTree
