import CommandBridge.Json.Fields
import CommandBridge.Proofs.Lists
import Mathlib.Data.List.Perm.Basic

/-! Values that differ in the order of their members, and what is read off them. -/
namespace CommandBridge.Json

/-- Members of one name with related values. -/
inductive MemberRel (R : Json → Json → Prop) : String × Json → String × Json → Prop where
  | mk {name : String} {j k : Json} (h : R j k) : MemberRel R (name, j) (name, k)

/-- Related part by part, members in any order. A value without parts is related to itself alone. -/
inductive Matches (R : Json → Json → Prop) : Json → Json → Prop where
  | leaf {j : Json} (h : j.height = 0) : Matches R j j
  | array {js ks : List Json} (h : List.Forall₂ R js ks) : Matches R (.array js) (.array ks)
  | object {ms ls ks : List (String × Json)} (h : List.Forall₂ (MemberRel R) ms ls)
      (hp : ls.Perm ks) : Matches R (.object ms) (.object ks)

/-- The members of any objects stand in another order, at any depth. -/
inductive Permuted : Json → Json → Prop where
  | refl (j : Json) : Permuted j j
  | parts {j k : Json} (h : Matches Permuted j k) : Permuted j k

/-- Fields with related values. -/
inductive BodyMatches (R : Json → Json → Prop) : Body → Body → Prop where
  | members {ms ls ks : List (String × Json)} (h : List.Forall₂ (MemberRel R) ms ls)
      (hp : ls.Perm ks) : BodyMatches R (.members ms) (.members ks)
  | items {js ks : List Json} (h : List.Forall₂ R js ks) : BodyMatches R (.items js) (.items ks)

section
variable {R : Json → Json → Prop} {α : Type} {f g : Json → Option α} {j k : Json}
variable {a b : Option Json} {ms ls ks : List (String × Json)} {js is : List Json}

theorem forall₂_memberRel_same (h : ∀ m ∈ ms, R m.2 m.2) : List.Forall₂ (MemberRel R) ms ms :=
  List.forall₂_same.mpr fun m hm => .mk (h m hm)

theorem Permuted.matches (h : Permuted j k) : Matches Permuted j k := by
  cases h with
  | parts h => exact h
  | refl =>
    cases j with
    | array js => exact .array (List.forall₂_same.mpr fun i _ => .refl i)
    | object ms => exact .object (forall₂_memberRel_same fun m _ => .refl m.2) (.refl ms)
    | _ => exact .leaf rfl

theorem exists_filter_rel (h : List.Forall₂ (MemberRel R) ms ls) (hp : ls.Perm ks)
    (p : String → Bool) : ∃ fs, List.Forall₂ (MemberRel R) (ms.filter (p ·.1)) fs ∧
      fs.Perm (ks.filter (p ·.1)) := by
  refine ⟨ls.filter (p ·.1), List.rel_filter ?_ h, hp.filter _⟩
  rintro _ _ ⟨_⟩
  exact Iff.rfl

theorem single?_rel (h : List.Forall₂ (MemberRel R) ms ls) (hp : ls.Perm ks) (name : String) :
    Option.Rel (Option.Rel R) (single? name ms) (single? name ks) := by
  obtain ⟨fs, hf, hfs⟩ := exists_filter_rel h hp (· == name)
  rw [single?, single?]
  generalize ms.filter (·.1 == name) = found at hf
  generalize ks.filter (·.1 == name) = found' at hfs
  cases hf with
  | nil =>
    obtain rfl := hfs.nil_eq
    exact .some .none
  | cons hm hrest =>
    cases hrest with
    | nil =>
      obtain rfl := List.singleton_perm.mp hfs
      obtain ⟨hjk⟩ := hm
      exact .some (.some hjk)
    | cons =>
      have hlength := hfs.length_eq
      rcases found' with _ | ⟨_, _ | ⟨_, _⟩⟩
      · cases hlength
      · cases hlength
      · exact .none

theorem getElem?_rel (h : List.Forall₂ R js is) (n : Nat) : Option.Rel R js[n]? is[n]? := by
  induction h generalizing n with
  | nil => exact .none
  | cons hjk _ ih =>
    cases n with
    | zero => exact .some hjk
    | succ n => exact ih n

theorem arguments?_rel {body body' : Body} (h : BodyMatches R body body') (names : List String) :
    Option.Rel (List.Forall₂ (Option.Rel R)) (body.arguments? names) (body'.arguments? names) := by
  cases h with
  | members h hp =>
    refine mapM_rel (S := Eq) ?_ (List.forall₂_refl names)
    rintro name _ rfl
    exact single?_rel h hp name
  | items h =>
    rw [Body.arguments?, Body.arguments?, h.length_eq]
    split
    · refine .some (List.forall₂_map_left_iff.mpr (List.forall₂_map_right_iff.mpr ?_))
      exact List.forall₂_same.mpr fun n _ => getElem?_rel h n
    · exact .none

theorem required?_eq (hfg : ∀ j k, R j k → f j = g k) (h : Option.Rel R a b) :
    required? f a = required? g b := by
  cases h with
  | none => rfl
  | some h => exact hfg _ _ h

theorem default?_eq (hfg : ∀ j k, R j k → f j = g k) (d : α) (h : Option.Rel R a b) :
    default? d f a = default? d g b := by
  cases h with
  | none => rfl
  | some h => exact hfg _ _ h

theorem list?_eq (hfg : ∀ j k, R j k → f j = g k) (h : Matches R j k) :
    list? f j = list? g k := by
  cases h with
  | leaf h =>
    cases j with
    | array => cases h
    | _ => rfl
  | array h => exact mapM_eq hfg h
  | object => rfl

theorem optional?_eq (hR : ∀ j k, R j k → Matches R j k) (hfg : ∀ j k, R j k → f j = g k)
    (h : Option.Rel R a b) : optional? f a = optional? g b := by
  cases h with
  | none => rfl
  | @some j k h =>
    have hmap : (f j).map some = (g k).map some := by rw [hfg j k h]
    cases hR j k h with
    | leaf =>
      cases j with
      | null => rfl
      | _ => exact hmap
    | array | object => exact hmap

/-- What is read off values without parts alone. -/
theorem leaf_eq (harray : ∀ js, f (.array js) = none) (hobject : ∀ ms, f (.object ms) = none)
    (h : Matches R j k) : f j = f k := by
  cases h with
  | leaf => rfl
  | array => rw [harray, harray]
  | object => rw [hobject, hobject]

end

end CommandBridge.Json
