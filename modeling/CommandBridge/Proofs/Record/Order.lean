import CommandBridge.Proofs.Json.Order
import CommandBridge.Proofs.Record.Fields

/-! Records are read alike whatever the order of the members, and with any number of levels that is
enough. -/
namespace CommandBridge.Record

open Json (Body BodyMatches Matches MemberRel Permuted)

/-- The record that a value gives when `sub` reads the records inside it. -/
def ofLevel? (sub : Json → Option Record) (j : Json) : Option Record :=
  (splitKind? j).bind fun p => (Kind.ofJson? p.1).bind fun kind => ofBody? sub kind p.2

theorem ofJsonWithin?_succ (n : Nat) (j : Json) :
    ofJsonWithin? (n + 1) j = ofLevel? (ofJsonWithin? n) j := rfl

section
variable {R : Json → Json → Prop} {sub sub' : Json → Option Record} {j k : Json} {b b' : Body}

theorem string?_eq (h : Matches R j k) : j.string? = k.string? :=
  Json.leaf_eq (fun _ => rfl) (fun _ => rfl) h

theorem ofJson?_kind_eq (h : Matches R j k) : Kind.ofJson? j = Kind.ofJson? k :=
  Json.leaf_eq (fun _ => rfl) (fun _ => rfl) h

theorem body_rel (h : Matches R j k) :
    Option.Rel (BodyMatches R) (Body.ofJson? j) (Body.ofJson? k) := by
  cases h with
  | array h => exact .some (.items h)
  | object h hp => exact .some (.members h hp)
  | leaf h =>
    cases j with
    | array | object => cases h
    | _ => exact .none

theorem splitKind?_rel (h : Matches R j k) :
    Option.Rel (fun p q => R p.1 q.1 ∧ BodyMatches R p.2 q.2) (splitKind? j) (splitKind? k) := by
  cases h with
  | array h =>
    cases h with
    | nil => exact .none
    | cons hkind h => exact .some ⟨hkind, .items h⟩
  | object h hp =>
    refine bind_rel (Json.single?_rel h hp "kind") fun kind kind' hkind => ?_
    obtain ⟨others, ho, hothers⟩ := Json.exists_filter_rel h hp (· != "kind")
    cases hkind with
    | none => exact .none
    | some hkind => exact .some ⟨hkind, .members ho hothers⟩
  | leaf h =>
    cases j with
    | array | object => cases h
    | _ => exact .none

theorem one?_rel (h : BodyMatches R b b') :
    Option.Rel (Option.Rel R) (ofBody?.one? b) (ofBody?.one? b') := by
  refine bind_rel (Json.arguments?_rel h ["value"]) fun values values' hvalues => ?_
  rcases hvalues with _ | ⟨hvalue, _ | ⟨-, -⟩⟩
  · exact .none
  · exact .some hvalue
  · exact .none

variable (hR : ∀ j k, R j k → Matches R j k)

include hR

theorem propertyOf?_eq (hsub : ∀ j k, R j k → sub j = sub' k) (h : Matches R j k) :
    propertyOf? sub j = propertyOf? sub' k := by
  have hstring : ∀ j k, R j k → j.string? = k.string? := fun j k h => string?_eq (hR j k h)
  refine bind_eq (body_rel h) fun b b' hb => ?_
  refine bind_eq (Json.arguments?_rel hb _) fun values values' hvalues => ?_
  rcases hvalues with _ | ⟨hname, _ | ⟨hvalue, _ | ⟨herror, _ | ⟨-, -⟩⟩⟩⟩
  · rfl
  · rfl
  · rfl
  · dsimp only
    rw [Json.required?_eq hstring hname, Json.optional?_eq hR hsub hvalue,
      Json.optional?_eq hR hstring herror]
  · rfl

/-- A record is read off related bodies alike if the records inside it are. -/
theorem ofBody?_eq (hsub : ∀ j k, R j k → sub j = sub' k) (h : BodyMatches R b b') (kind : Kind) :
    ofBody? sub kind b = ofBody? sub' kind b' := by
  have hstring : ∀ j k, R j k → j.string? = k.string? := fun j k h => string?_eq (hR j k h)
  have hleaf {α : Type} {f : Json → Option α} (harray : ∀ js, f (.array js) = none)
      (hobject : ∀ ms, f (.object ms) = none) (j k : Json) (h : R j k) : f j = f k :=
    Json.leaf_eq harray hobject (hR j k h)
  cases kind with
  | null =>
    cases h with
    | members => rfl
    | items h =>
      cases h with
      | nil => rfl
      | cons => rfl
  | string | bool | int | float | dateTime | guid =>
    refine bind_eq (one?_rel h) fun value value' hvalue => ?_
    rw [Json.required?_eq (hleaf (fun _ => rfl) fun _ => rfl) hvalue]
  | enum =>
    refine bind_eq (Json.arguments?_rel h _) fun values values' hvalues => ?_
    rcases hvalues with _ | ⟨hname, _ | ⟨hvalue, _ | ⟨-, -⟩⟩⟩
    · rfl
    · rfl
    · dsimp only
      rw [Json.required?_eq hstring hname,
        Json.optional?_eq hR (hleaf (fun _ => rfl) fun _ => rfl) hvalue]
    · rfl
  | collection =>
    refine bind_eq (Json.arguments?_rel h _) fun values values' hvalues => ?_
    rcases hvalues with _ | ⟨hitems, _ | ⟨-, -⟩⟩
    · rfl
    · dsimp only
      rw [Json.default?_eq (fun j k h => Json.list?_eq hsub (hR j k h)) [] hitems]
    · rfl
  | object =>
    have hproperty : ∀ j k, R j k → propertyOf? sub j = propertyOf? sub' k :=
      fun j k h => propertyOf?_eq hR hsub (hR j k h)
    refine bind_eq (Json.arguments?_rel h _) fun values values' hvalues => ?_
    rcases hvalues with _ | ⟨htext, _ | ⟨hnames, _ | ⟨hproperties, _ | ⟨-, -⟩⟩⟩⟩
    · rfl
    · rfl
    · rfl
    · dsimp only
      rw [Json.default?_eq hstring "" htext,
        Json.default?_eq (fun j k h => Json.list?_eq hstring (hR j k h)) [] hnames,
        Json.default?_eq (fun j k h => Json.list?_eq hproperty (hR j k h)) [] hproperties]
    · rfl

theorem ofLevel?_eq (hsub : ∀ j k, R j k → sub j = sub' k) (h : Matches R j k) :
    ofLevel? sub j = ofLevel? sub' k := by
  refine bind_eq (splitKind?_rel h) fun p q hpq => ?_
  rw [ofJson?_kind_eq (hR _ _ hpq.1)]
  exact congrArg _ (funext fun kind => ofBody?_eq hR hsub hpq.2 kind)

end

/-- Values of at most that height, each with itself. -/
def Low (n : Nat) (j k : Json) : Prop := j = k ∧ j.height ≤ n

section
variable {n n' : Nat} {j k : Json}

theorem bodyMatches_members {ms : List (String × Json)} (h : Json.membersHeight ms ≤ n) :
    BodyMatches (Low n) (.members ms) (.members ms) := by
  refine .members (Json.forall₂_memberRel_same fun m hm => ⟨rfl, ?_⟩) (.refl ms)
  exact Nat.le_trans (Json.height_le_membersHeight hm) h

theorem bodyMatches_items {js : List Json} (h : Json.itemsHeight js ≤ n) :
    BodyMatches (Low n) (.items js) (.items js) := by
  refine .items (List.forall₂_same.mpr fun j hj => ⟨rfl, ?_⟩)
  exact Nat.le_trans (Json.height_le_itemsHeight hj) h

theorem matches_low (h : j.height ≤ n + 1) : Matches (Low n) j j := by
  cases j with
  | array js =>
    cases bodyMatches_items (Nat.le_of_succ_le_succ h) with
    | items h => exact .array h
  | object ms =>
    cases bodyMatches_members (Nat.le_of_succ_le_succ h) with
    | members h hp => exact .object h hp
  | _ => exact .leaf rfl

theorem low_matches (j k : Json) (h : Low n j k) : Matches (Low n) j k := by
  obtain ⟨rfl, h⟩ := h
  exact matches_low (Nat.le_succ_of_le h)

theorem ofJsonWithin?_of_height_eq_zero (h : j.height = 0) : ofJsonWithin? n j = none := by
  cases n with
  | zero => rfl
  | succ n =>
    cases j with
    | array | object => cases h
    | _ => rfl

theorem ofJsonWithin?_eq (h : j.height ≤ n) (h' : j.height ≤ n') :
    ofJsonWithin? n j = ofJsonWithin? n' j := by
  induction n generalizing n' j with
  | zero =>
    have hzero := Nat.le_zero.mp h
    rw [ofJsonWithin?_of_height_eq_zero hzero, ofJsonWithin?_of_height_eq_zero hzero]
  | succ n ih =>
    cases n' with
    | zero =>
      have hzero := Nat.le_zero.mp h'
      rw [ofJsonWithin?_of_height_eq_zero hzero, ofJsonWithin?_of_height_eq_zero hzero]
    | succ n' =>
      rw [ofJsonWithin?_succ, ofJsonWithin?_succ]
      refine ofLevel?_eq (R := Low (min n n')) low_matches ?_ (matches_low (by omega))
      rintro j _ ⟨rfl, hj⟩
      exact ih (Nat.le_trans hj (Nat.min_le_left n n')) (Nat.le_trans hj (Nat.min_le_right n n'))

theorem ofJsonWithin?_eq_ofJson? (h : j.height ≤ n) : ofJsonWithin? n j = ofJson? j :=
  ofJsonWithin?_eq h (Nat.le_refl _)

theorem ofJsonWithin?_low (j k : Json) (h : Low n j k) : ofJsonWithin? n j = ofJson? k := by
  obtain ⟨rfl, h⟩ := h
  exact ofJsonWithin?_eq_ofJson? h

theorem ofBody?_low {b : Body} (h : BodyMatches (Low n) b b) (kind : Kind) :
    ofBody? (ofJsonWithin? n) kind b = ofBody? ofJson? kind b :=
  ofBody?_eq low_matches ofJsonWithin?_low h kind

/-- The records inside a record are read as it is. -/
theorem ofJson?_eq (j : Json) : ofJson? j = ofLevel? ofJson? j := by
  rw [← ofJsonWithin?_eq_ofJson? (Nat.le_succ j.height), ofJsonWithin?_succ]
  exact ofLevel?_eq low_matches ofJsonWithin?_low (matches_low (Nat.le_succ j.height))

theorem ofJsonWithin?_permuted (n : Nat) (j k : Json) (h : Permuted j k) :
    ofJsonWithin? n j = ofJsonWithin? n k := by
  induction n generalizing j k with
  | zero => rfl
  | succ n ih => exact ofLevel?_eq (fun _ _ h => h.matches) ih h.matches

theorem ofJson?_permuted (h : Permuted j k) : ofJson? j = ofJson? k := by
  rw [← ofJsonWithin?_eq_ofJson? (Nat.le_max_left j.height k.height),
    ← ofJsonWithin?_eq_ofJson? (Nat.le_max_right j.height k.height)]
  exact ofJsonWithin?_permuted _ j k h

theorem ofNamedJson?_permuted (h : Permuted j k) : ofNamedJson? j = ofNamedJson? k := by
  refine bind_eq (splitKind?_rel h.matches) fun p q hpq => ?_
  dsimp only
  rw [string?_eq hpq.1.matches, ofJson?_permuted h]

end

end CommandBridge.Record
