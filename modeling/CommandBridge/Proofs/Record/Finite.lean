import CommandBridge.Proofs.Json.Reading
import CommandBridge.Proofs.Record.Fields

/-! Every float in a record that is read is finite. -/
namespace CommandBridge.Record

open Json (Body)

/-- Every value in the fields that holds no others satisfies `p`. -/
def BodyLeaves (p : Json → Prop) : Body → Prop
  | .members ms => ∀ m ∈ ms, m.2.Leaves p
  | .items js => ∀ j ∈ js, j.Leaves p

theorem mem_of_single? {name : String} {ms : List (String × Json)} {j : Json}
    (h : Json.single? name ms = some (some j)) : ∃ m ∈ ms, m.2 = j := by
  rw [Json.single?] at h
  split at h
  · cases h
  · rename_i m hm
    cases h
    exact ⟨m, (List.mem_filter.mp (hm ▸ List.mem_singleton_self m)).1, rfl⟩
  · cases h

theorem leaves_arguments? {p : Json → Prop} {b : Body} {names : List String}
    {values : List (Option Json)} (hb : BodyLeaves p b) (h : b.arguments? names = some values)
    {j : Json} (hj : some j ∈ values) : j.Leaves p := by
  cases b with
  | members ms =>
    obtain ⟨name, -, hname⟩ := exists_of_mapM h _ hj
    obtain ⟨m, hm, rfl⟩ := mem_of_single? hname
    exact hb m hm
  | items js =>
    obtain ⟨-, heq⟩ := Option.ite_none_right_eq_some.mp h
    rw [← Option.some.inj heq] at hj
    obtain ⟨n, -, hn⟩ := List.mem_map.mp hj
    exact hb j (List.mem_of_getElem? hn)

theorem exists_of_required? {α : Type} {f : Json → Option α} {value : Option Json} {a : α}
    (h : Json.required? f value = some a) : ∃ j, value = some j ∧ f j = some a := by
  cases value with
  | none => cases h
  | some j => exact ⟨j, rfl, h⟩

theorem exists_of_one? {b : Body} {value : Option Json} (h : ofBody?.one? b = some value) :
    ∃ values, b.arguments? ["value"] = some values ∧ value ∈ values := by
  obtain ⟨values, hvalues, h⟩ := Option.bind_eq_some_iff.mp h
  split at h
  · cases h
    exact ⟨_, hvalues, List.mem_singleton_self _⟩
  · cases h

theorem kind_of_ofBody? {sub : Json → Option Record} {k : Kind} {b : Body} {r : Record}
    (h : ofBody? sub k b = some r) : r.kind = k := by
  cases k with
  | null =>
    cases b with
    | members ms => cases h; rfl
    | items js =>
      obtain ⟨-, heq⟩ := Option.ite_none_right_eq_some.mp h
      cases heq
      rfl
  | string | bool | int | float | dateTime | guid =>
    obtain ⟨value, -, h⟩ := Option.bind_eq_some_iff.mp h
    obtain ⟨a, -, rfl⟩ := Option.map_eq_some_iff.mp h
    rfl
  | enum | collection | object =>
    obtain ⟨values, -, h⟩ := Option.bind_eq_some_iff.mp h
    split at h
    · simp only [Option.bind_eq_bind, Option.bind_eq_some_iff, Option.pure_def,
        Option.some.injEq] at h
      grind [kind]
    · cases h

theorem isFinite_of_float? {j : Json} {x : Decimal.Binary64} (hj : j.Leaves Json.InRange)
    (h : float? j = some x) : x.isFinite = true := by
  cases j with
  | float y =>
    cases h
    exact hj
  | int i =>
    obtain ⟨hlow, hhigh⟩ : -(2 ^ 63) ≤ i ∧ i < 2 ^ 64 := hj
    cases h
    exact Decimal.Binary64.isFinite_ofNat (n := i.natAbs) (by omega)
  | _ => cases h

theorem finite_of_ofBody? {sub : Json → Option Record} {k : Kind} {b : Body} {x : Decimal.Binary64}
    (hb : BodyLeaves Json.InRange b) (h : ofBody? sub k b = some (float x)) :
    x.isFinite = true := by
  obtain rfl : Kind.float = k := kind_of_ofBody? h
  obtain ⟨value, hvalue, h⟩ := Option.bind_eq_some_iff.mp h
  obtain ⟨a, ha, heq⟩ := Option.map_eq_some_iff.mp h
  obtain ⟨j, rfl, hj⟩ := exists_of_required? ha
  obtain ⟨values, hvalues, hmem⟩ := exists_of_one? hvalue
  cases heq
  exact isFinite_of_float? (leaves_arguments? hb hvalues hmem) hj

theorem exists_of_list? {α : Type} {p : Json → Prop} {f : Json → Option α} {value : Option Json}
    {l : List α} (hvalue : ∀ j, value = some j → j.Leaves p)
    (h : Json.default? [] (Json.list? f) value = some l) :
    ∀ a ∈ l, ∃ j, j.Leaves p ∧ f j = some a := by
  cases value with
  | none =>
    cases h
    exact List.forall_mem_nil _
  | some j =>
    cases j with
    | array js =>
      intro a ha
      obtain ⟨k, hk, hfk⟩ := exists_of_mapM h a ha
      exact ⟨k, Json.itemLeaves_iff.mp (hvalue _ rfl) k hk, hfk⟩
    | _ => cases h

theorem bodyLeaves_of_ofJson? {p : Json → Prop} {j : Json} {b : Body} (hj : j.Leaves p)
    (h : Body.ofJson? j = some b) : BodyLeaves p b := by
  cases j with
  | object ms =>
    cases h
    exact Json.memberLeaves_iff.mp hj
  | array js =>
    cases h
    exact Json.itemLeaves_iff.mp hj
  | _ => cases h

theorem exists_of_optional? {sub : Json → Option Record} {value : Option Json} {r : Record}
    (h : Json.optional? sub value = some (some r)) : ∃ j, value = some j ∧ sub j = some r := by
  rw [Json.optional?.eq_def] at h
  split at h
  · cases h
  · cases h
  · obtain ⟨a, ha, heq⟩ := Option.map_eq_some_iff.mp h
    cases heq
    exact ⟨_, rfl, ha⟩

theorem value_of_propertyOf? {p : Json → Prop} {sub : Json → Option Record} {j : Json}
    {q : Property Record} {r : Record} (hj : j.Leaves p) (h : propertyOf? sub j = some q)
    (hr : q.value = some r) : ∃ k, k.Leaves p ∧ sub k = some r := by
  obtain ⟨b, hb, h⟩ := Option.bind_eq_some_iff.mp h
  obtain ⟨values, hvalues, h⟩ := Option.bind_eq_some_iff.mp h
  split at h
  · obtain ⟨name, -, h⟩ := Option.bind_eq_some_iff.mp h
    obtain ⟨value, hvalue, h⟩ := Option.bind_eq_some_iff.mp h
    obtain ⟨error, -, h⟩ := Option.bind_eq_some_iff.mp h
    cases h
    obtain rfl : value = some r := hr
    obtain ⟨k, rfl, hk⟩ := exists_of_optional? hvalue
    exact ⟨k, leaves_arguments? (bodyLeaves_of_ofJson? hj hb) hvalues (by simp), hk⟩
  · cases h

theorem parts_of_ofBody? {p : Json → Prop} {sub : Json → Option Record} {k : Kind} {b : Body}
    {r : Record} (hb : BodyLeaves p b) (h : ofBody? sub k b = some r) :
    ∀ q ∈ r.parts, ∃ j, j.Leaves p ∧ sub j = some q := by
  have hkind := kind_of_ofBody? h
  cases r with
  | collection items =>
    obtain rfl : Kind.collection = k := hkind
    obtain ⟨values, hvalues, h⟩ := Option.bind_eq_some_iff.mp h
    split at h
    · obtain ⟨l, hl, heq⟩ := Option.bind_eq_some_iff.mp h
      cases heq
      refine exists_of_list? (fun j hj => ?_) hl
      exact leaves_arguments? hb hvalues (hj ▸ List.mem_singleton_self _)
    · cases h
  | object text typeNames ps =>
    obtain rfl : Kind.object = k := hkind
    obtain ⟨values, hvalues, h⟩ := Option.bind_eq_some_iff.mp h
    split at h
    · obtain ⟨_, -, h⟩ := Option.bind_eq_some_iff.mp h
      obtain ⟨_, -, h⟩ := Option.bind_eq_some_iff.mp h
      obtain ⟨l, hl, heq⟩ := Option.bind_eq_some_iff.mp h
      cases heq
      intro r hr
      obtain ⟨q, hq, hvalue⟩ := List.mem_filterMap.mp hr
      obtain ⟨j, hj, hproperty⟩ := exists_of_list? (p := p) (fun j hj =>
        leaves_arguments? hb hvalues (by simp [hj])) hl q hq
      exact value_of_propertyOf? hj hproperty hvalue
    · cases h
  | _ => exact List.forall_mem_nil _

theorem eq_or_mem_parts_of_mem_atoms {r a : Record} (h : a ∈ r.atoms) :
    a = r ∨ ∃ p ∈ r.parts, a ∈ p.atoms := by
  cases r with
  | collection items => exact .inr (mem_itemAtoms.mp h)
  | object text typeNames ps => exact .inr (mem_propertyAtoms.mp h)
  | _ => exact .inl (List.mem_singleton.mp h)

/-- The floats in a record that is made of values as the reader gives them. -/
theorem finite_atoms_of_ofBody? {sub : Json → Option Record} {k : Kind} {b : Body} {r : Record}
    {x : Decimal.Binary64}
    (hsub : ∀ {j r}, j.Leaves Json.InRange → sub j = some r → float x ∈ r.atoms →
      x.isFinite = true)
    (hb : BodyLeaves Json.InRange b) (h : ofBody? sub k b = some r) (hx : float x ∈ r.atoms) :
    x.isFinite = true := by
  rcases eq_or_mem_parts_of_mem_atoms hx with rfl | ⟨p, hp, hx⟩
  · exact finite_of_ofBody? hb h
  · obtain ⟨j, hj, hread⟩ := parts_of_ofBody? hb h p hp
    exact hsub hj hread hx

theorem bodyLeaves_of_splitKind? {p : Json → Prop} {j k : Json} {b : Body} (hj : j.Leaves p)
    (h : splitKind? j = some (k, b)) : BodyLeaves p b := by
  rw [splitKind?.eq_def] at h
  split at h
  · obtain ⟨value, -, h⟩ := Option.bind_eq_some_iff.mp h
    split at h
    · cases h
      exact fun m hm => Json.memberLeaves_iff.mp hj m (List.mem_filter.mp hm).1
    · cases h
  · cases h
    exact fun i hi => Json.itemLeaves_iff.mp hj i (List.mem_cons_of_mem _ hi)
  · cases h

theorem finite_of_ofJsonWithin? {levels : Nat} {j : Json} {r : Record} {x : Decimal.Binary64}
    (hj : j.Leaves Json.InRange) (h : ofJsonWithin? levels j = some r) (hx : float x ∈ r.atoms) :
    x.isFinite = true := by
  induction levels generalizing j r with
  | zero => cases h
  | succ levels ih =>
    obtain ⟨⟨k, b⟩, hsplit, h⟩ := Option.bind_eq_some_iff.mp h
    obtain ⟨kind, -, h⟩ := Option.bind_eq_some_iff.mp h
    exact finite_atoms_of_ofBody? ih (bodyLeaves_of_splitKind? hj hsplit) h hx

theorem finite_of_finish {kind : Option Kind} {b : Body} {height : Nat} {s rest : List Char}
    {r : Record} (hb : BodyLeaves Json.InRange b) (h : finish kind b height s = .ok (r, rest))
    {x : Decimal.Binary64} (hx : float x ∈ r.atoms) : x.isFinite = true := by
  rw [finish] at h
  split at h
  · rename_i hbody
    obtain ⟨k, -, hbody⟩ := Option.bind_eq_some_iff.mp hbody
    cases h
    exact finite_atoms_of_ofBody? finite_of_ofJsonWithin? hb hbody hx
  · cases h

theorem exists_of_bind {ε α β : Type} {a : Except ε α} {f : α → Except ε β} {b : β}
    (h : a >>= f = .ok b) : ∃ c, a = .ok c ∧ f c = .ok b := by
  cases a with
  | error e => cases h
  | ok c => exact ⟨c, rfl, h⟩

theorem readMember_keeps {depth : Nat} {acc acc' : Draft (String × Json)} {name : String}
    {s rest : List Char} (hacc : ∀ m ∈ acc.others, m.2.Leaves Json.InRange)
    (h : readMember depth acc name s = .ok (acc', rest)) :
    ∀ m ∈ acc'.others, m.2.Leaves Json.InRange := by
  rw [readMember] at h
  split at h
  · split at h
    · cases h
    · obtain ⟨_, -, h⟩ := exists_of_bind h
      obtain ⟨_, -, h⟩ := exists_of_bind h
      cases h
      exact hacc
  · obtain ⟨_, hmember, h⟩ := exists_of_bind h
    cases h
    exact Json.inRange_of_consMember Json.inRange_of_value hacc hmember

theorem readItem_keeps {depth : Nat} {acc acc' : Draft Json} {s rest : List Char}
    (hacc : ∀ j ∈ acc.others, j.Leaves Json.InRange)
    (h : readItem depth acc s = .ok (acc', rest)) :
    ∀ j ∈ acc'.others, j.Leaves Json.InRange := by
  rw [readItem] at h
  split at h
  · obtain ⟨_, -, h⟩ := exists_of_bind h
    cases h
    exact List.forall_mem_nil _
  · obtain ⟨_, hitem, h⟩ := exists_of_bind h
    cases h
    exact Json.inRange_of_consItem Json.inRange_of_value hacc hitem

theorem finite_of_reader {depth : Nat} {s rest : List Char} {r : Record}
    (h : reader depth s = .ok (r, rest)) {x : Decimal.Binary64} (hx : float x ∈ r.atoms) :
    x.isFinite = true := by
  rw [reader] at h
  split at h
  · cases depth with
    | zero => cases h
    | succ depth =>
      obtain ⟨⟨p, u⟩, hread, h⟩ := exists_of_bind h
      have hothers := Json.members_keeps (P := fun p => ∀ m ∈ p.others, m.2.Leaves Json.InRange)
        readMember_keeps (List.forall_mem_nil _) hread
      exact finite_of_finish (b := .members p.others.reverse)
        (fun m hm => hothers m (List.mem_reverse.mp hm)) h hx
  · cases depth with
    | zero => cases h
    | succ depth =>
      obtain ⟨⟨p, u⟩, hread, h⟩ := exists_of_bind h
      have hothers := Json.elements_keeps (P := fun p => ∀ j ∈ p.others, j.Leaves Json.InRange)
        readItem_keeps (List.forall_mem_nil _) hread
      exact finite_of_finish (b := .items p.others.reverse)
        (fun j hj => hothers j (List.mem_reverse.mp hj)) h hx
  · split at h <;> cases h

end CommandBridge.Record
