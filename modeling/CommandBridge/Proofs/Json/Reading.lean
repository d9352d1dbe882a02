import CommandBridge.Proofs.Json.RoundTrip

/-! What is read off JSON text: every number in it is in range. -/
namespace CommandBridge.Json

section Folding

variable {τ : Type} {P : τ → Prop}

/-- What every element keeps, the whole array keeps. -/
theorem elements_keeps {item : τ → Reader τ}
    (hitem : ∀ {acc acc' s rest}, P acc → item acc s = .ok (acc', rest) → P acc') {fuel : Nat}
    {first : Bool} {acc acc' : τ} {s rest : List Char} (hacc : P acc)
    (h : elements item fuel first acc s = .ok (acc', rest)) : P acc' := by
  induction fuel generalizing first acc s with
  | zero => exact absurd h (by simp [elements])
  | succ fuel ih =>
    simp -zeta only [elements] at h
    extract_lets next at h
    have hnext {t : List Char} (ht : next t = .ok (acc', rest)) : P acc' := by
      simp only [next] at ht
      split at ht
      · exact ih (hitem hacc ‹_›) ht
      · exact absurd ht (by simp)
    split at h
    · exact absurd h (by simp)
    · obtain ⟨rfl, -⟩ := Prod.mk.inj (Except.ok.inj h)
      exact hacc
    · split at h
      · exact hnext h
      · split at h
        · split at h
          · exact absurd h (by simp)
          · exact absurd h (by simp)
          · exact hnext h
        · exact absurd h (by simp)

/-- What every member keeps, the whole object keeps. -/
theorem members_keeps {member : τ → String → Reader τ}
    (hmember : ∀ {acc acc' name s rest}, P acc → member acc name s = .ok (acc', rest) → P acc')
    {fuel : Nat} {first : Bool} {acc acc' : τ} {s rest : List Char} (hacc : P acc)
    (h : members member fuel first acc s = .ok (acc', rest)) : P acc' := by
  induction fuel generalizing first acc s with
  | zero => exact absurd h (by simp [members, membersBy])
  | succ fuel ih =>
    simp -zeta only [members, membersBy] at h
    extract_lets next at h
    have hnext {t : List Char} (ht : next t = .ok (acc', rest)) : P acc' := by
      simp only [next] at ht
      split at ht
      · split at ht
        · exact ih (hmember hacc ‹_›) ht
        · exact absurd ht (by simp)
      · exact absurd ht (by simp)
    split at h
    · exact absurd h (by simp)
    · obtain ⟨rfl, -⟩ := Prod.mk.inj (Except.ok.inj h)
      exact hacc
    · split at h
      · split at h
        · exact hnext h
        · exact absurd h (by simp)
      · split at h
        · split at h
          · exact absurd h (by simp)
          · exact hnext h
          · exact absurd h (by simp)
        · exact absurd h (by simp)

end Folding

theorem eq_of_keyword {α : Type} {a b : α} {word s rest : List Char}
    (h : keyword a word s = .ok (b, rest)) : b = a := by
  induction word generalizing s with
  | nil =>
    obtain ⟨rfl, -⟩ := Prod.mk.inj (Except.ok.inj h)
    rfl
  | cons w word ih =>
    cases s with
    | nil => exact absurd h (by simp [keyword])
    | cons c s =>
      rw [keyword] at h
      split at h
      · exact ih h
      · exact absurd h (by simp)

theorem scalar_cases {s rest : List Char} {j : Json} (h : scalar s = .ok (j, rest)) :
    j = null ∨ (∃ b, j = bool b) ∨ (∃ t str, s = '"' :: t ∧ j = string str) ∨
      ∃ negative t, number negative t = .ok (j, rest) := by
  rw [scalar.eq_def] at h
  split at h
  · exact .inl (eq_of_keyword h)
  · exact .inr (.inl ⟨true, eq_of_keyword h⟩)
  · exact .inr (.inl ⟨false, eq_of_keyword h⟩)
  · exact .inr (.inr (.inr ⟨true, _, h⟩))
  · split at h
    · obtain ⟨rfl, -⟩ := Prod.mk.inj (Except.ok.inj h)
      exact .inr (.inr (.inl ⟨_, _, rfl, rfl⟩))
    · exact absurd h (by simp)
  · split at h
    · exact .inr (.inr (.inr ⟨false, _, h⟩))
    · exact absurd h (by simp)
  · exact absurd h (by simp)

theorem inRange_of_scalar {s rest : List Char} {j : Json} (h : scalar s = .ok (j, rest)) :
    j.Leaves InRange := by
  obtain rfl | ⟨b, rfl⟩ | ⟨t, str, -, rfl⟩ | ⟨negative, t, ht⟩ := scalar_cases h
  · trivial
  · trivial
  · trivial
  · have hj := (contained_number negative ht).1
    cases j <;> first | exact hj | exact hj.elim

theorem inRange_of_consItem {read : Reader Json}
    (hread : ∀ {j s rest}, read s = .ok (j, rest) → j.Leaves InRange) {acc acc' : List Json}
    {s rest : List Char} (hacc : ∀ j ∈ acc, j.Leaves InRange)
    (h : consItem read acc s = .ok (acc', rest)) : ∀ j ∈ acc', j.Leaves InRange := by
  rw [consItem] at h
  split at h
  · obtain ⟨rfl, -⟩ := Prod.mk.inj (Except.ok.inj h)
    exact List.forall_mem_cons.mpr ⟨hread ‹_›, hacc⟩
  · exact absurd h (by simp)

theorem inRange_of_consMember {read : Reader Json}
    (hread : ∀ {j s rest}, read s = .ok (j, rest) → j.Leaves InRange)
    {acc acc' : List (String × Json)} {name : String} {s rest : List Char}
    (hacc : ∀ m ∈ acc, m.2.Leaves InRange) (h : consMember read acc name s = .ok (acc', rest)) :
    ∀ m ∈ acc', m.2.Leaves InRange := by
  rw [consMember] at h
  split at h
  · exact absurd h (by simp)
  · split at h
    · obtain ⟨rfl, -⟩ := Prod.mk.inj (Except.ok.inj h)
      exact List.forall_mem_cons.mpr ⟨hread ‹_›, hacc⟩
    · exact absurd h (by simp)

theorem value_cases {depth : Nat} {s rest : List Char} {j : Json}
    (h : value depth s = .ok (j, rest)) :
    (∃ d t items, depth = d + 1 ∧ j = array items.reverse ∧
      elements (consItem (value d)) (t.length + 1) true [] t = .ok (items, rest)) ∨
    (∃ d t ms, depth = d + 1 ∧ j = object ms.reverse ∧
      members (consMember (value d)) (t.length + 1) true [] t = .ok (ms, rest)) ∨
    ∃ t, scalar t = .ok (j, rest) := by
  rw [value] at h
  split at h
  · split at h
    · exact absurd h (by simp)
    · split at h
      · obtain ⟨rfl, rfl⟩ := Prod.mk.inj (Except.ok.inj h)
        exact .inl ⟨_, _, _, rfl, rfl, ‹_›⟩
      · exact absurd h (by simp)
  · split at h
    · exact absurd h (by simp)
    · split at h
      · obtain ⟨rfl, rfl⟩ := Prod.mk.inj (Except.ok.inj h)
        exact .inr (.inl ⟨_, _, _, rfl, rfl, ‹_›⟩)
      · exact absurd h (by simp)
  · exact .inr (.inr ⟨_, h⟩)

theorem inRange_of_value {depth : Nat} {s rest : List Char} {j : Json}
    (h : value depth s = .ok (j, rest)) : j.Leaves InRange := by
  induction depth generalizing s rest j with
  | zero =>
    obtain ⟨d, _, _, hd, -⟩ | ⟨d, _, _, hd, -⟩ | ⟨t, ht⟩ := value_cases h
    · exact absurd hd.symm (Nat.succ_ne_zero d)
    · exact absurd hd.symm (Nat.succ_ne_zero d)
    · exact inRange_of_scalar ht
  | succ depth ih =>
    obtain ⟨_, t, items, ⟨⟩, rfl, hread⟩ | ⟨_, t, ms, ⟨⟩, rfl, hread⟩ | ⟨t, ht⟩ := value_cases h
    · have hitems := elements_keeps (P := fun acc => ∀ j ∈ acc, j.Leaves InRange)
        (inRange_of_consItem ih) (List.forall_mem_nil _) hread
      exact itemLeaves_iff.mpr fun j hj => hitems j (List.mem_reverse.mp hj)
    · have hmembers := members_keeps (P := fun acc => ∀ m ∈ acc, m.2.Leaves InRange)
        (inRange_of_consMember ih) (List.forall_mem_nil _) hread
      exact memberLeaves_iff.mpr fun m hm => hmembers m (List.mem_reverse.mp hm)
    · exact inRange_of_scalar ht

end CommandBridge.Json
