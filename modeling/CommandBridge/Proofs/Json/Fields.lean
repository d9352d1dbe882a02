import CommandBridge.Json.Fields
import CommandBridge.Proofs.Lists

/-! One more member among the fields of an object. -/
namespace CommandBridge.Json

section
variable {name other : String} {names : List String} {ms ms' : List (String × Json)}

theorem single?_insert_other (h : other ≠ name) (v : Json) (ms ms' : List (String × Json)) :
    single? name (ms ++ (other, v) :: ms') = single? name (ms ++ ms') := by
  simp [single?, h]

theorem single?_insert (name : String) (v : Json) (ms ms' : List (String × Json)) :
    single? name (ms ++ (name, v) :: ms') =
      (single? name (ms ++ ms')).bind fun found =>
        if found.isSome then none else some (some v) := by
  have hfilter : (ms ++ (name, v) :: ms').filter (·.1 == name) =
      ms.filter (·.1 == name) ++ (name, v) :: ms'.filter (·.1 == name) := by
    rw [List.filter_append]
    exact congrArg _ (List.filter_cons_of_pos (beq_self_eq_true name))
  rw [single?, single?, hfilter, List.filter_append]
  generalize ms.filter (·.1 == name) = found
  generalize ms'.filter (·.1 == name) = found'
  rcases found with _ | ⟨m, _ | ⟨m', found⟩⟩ <;>
    rcases found' with _ | ⟨l, _ | ⟨l', found'⟩⟩ <;> rfl

theorem single?_cons (name : String) (v : Json) (ms : List (String × Json)) :
    single? name ((name, v) :: ms) =
      (single? name ms).bind fun found => if found.isSome then none else some (some v) :=
  single?_insert name v [] ms

theorem single?_cons_other (h : other ≠ name) (v : Json) (ms : List (String × Json)) :
    single? name ((other, v) :: ms) = single? name ms :=
  single?_insert_other h v [] ms

theorem single?_twice (h : 2 ≤ ms.countP (·.1 == name)) : single? name ms = none := by
  rw [List.countP_eq_length_filter] at h
  rw [single?]
  generalize ms.filter (·.1 == name) = found at h
  rcases found with _ | ⟨m, _ | ⟨m', found⟩⟩
  · exact absurd h (by decide)
  · exact absurd h (by simp)
  · rfl

theorem arguments?_insert_other (h : other ∉ names) (v : Json) (ms ms' : List (String × Json)) :
    (Body.members (ms ++ (other, v) :: ms')).arguments? names =
      (Body.members (ms ++ ms')).arguments? names := by
  refine mapM_eq (S := fun a b => a = b ∧ a ∈ names) ?_
    (List.forall₂_same.mpr fun a ha => ⟨rfl, ha⟩)
  rintro name _ ⟨rfl, hname⟩
  refine single?_insert_other ?_ v ms ms'
  rintro rfl
  exact h hname

theorem arguments?_twice (hname : name ∈ names) (h : 2 ≤ ms.countP (·.1 == name)) :
    (Body.members ms).arguments? names = none :=
  mapM_eq_none hname (single?_twice h)

theorem arguments?_insert (hnames : names.Nodup) (hname : name ∈ names)
    (habsent : single? name (ms ++ ms') = some none) (v : Json) :
    (Body.members (ms ++ (name, v) :: ms')).arguments? names =
      ((Body.members (ms ++ ms')).arguments? names).map (·.set (names.idxOf name) (some v)) := by
  induction names with
  | nil => cases hname
  | cons a names ih =>
    obtain ⟨ha, hnames⟩ := List.nodup_cons.mp hnames
    simp only [Body.arguments?, List.mapM_cons] at ih ⊢
    by_cases hne : a = name
    · subst hne
      have hrest := arguments?_insert_other ha v ms ms'
      simp only [Body.arguments?] at hrest
      rw [single?_insert, habsent, hrest, List.idxOf_cons_self]
      cases names.mapM (single? · (ms ++ ms')) <;> rfl
    · have hmem : name ∈ names := (List.mem_cons.mp hname).resolve_left (Ne.symm hne)
      rw [single?_insert_other (Ne.symm hne), ih hnames hmem, List.idxOf_cons_ne _ hne]
      cases single? a (ms ++ ms') with
      | none => rfl
      | some found => cases names.mapM (single? · (ms ++ ms')) <;> rfl

theorem length_of_arguments? {b : Body} {values : List (Option Json)}
    (h : b.arguments? names = some values) : values.length = names.length := by
  cases b with
  | members ms => exact length_of_mapM h
  | items js =>
    obtain ⟨-, h⟩ := Option.ite_none_right_eq_some.mp h
    rw [← Option.some.inj h, List.length_map, List.length_range]

end

end CommandBridge.Json
