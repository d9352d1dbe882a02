import CommandBridge.Proofs.Json.Reading

/-! Two readers of which one sees what the other reads through a function: when their items or
members do so, their arrays and objects do. -/
namespace CommandBridge.Json

section Following

variable {τ υ : Type}

/-- What is read and the rest of the text, seen through a function that may have no result. -/
def through (φ : τ → Option υ) (x : Except Fault (τ × List Char)) : Option (υ × List Char) :=
  x.toOption.bind fun p => (φ p.1).map (·, p.2)

variable {φ : τ → Option υ}

theorem through_eq_none {x : Except Fault (τ × List Char)}
    (h : ∀ b rest, x = .ok (b, rest) → φ b = none) : through φ x = none := by
  cases x with
  | error e => rfl
  | ok p => exact congrArg (Option.map (·, p.2)) (h p.1 p.2 rfl)

theorem toOption_return (f : τ → υ) (x : Except Fault (τ × List Char)) :
    (x >>= fun p => return (f p.1, p.2)).toOption = through (fun b => some (f b)) x := by
  cases x <;> rfl

theorem through_map {α : Type} {f : α → υ} {ψ : τ → Option α}
    (x : Except Fault (τ × List Char)) :
    (through ψ x).map (fun p => (f p.1, p.2)) = through (fun b => (ψ b).map f) x := by
  cases x with
  | error e => rfl
  | ok p => cases hp : ψ p.1 <;> simp [through, Except.toOption, hp]

theorem through_consItem {φ : List Json → Option υ} (read : Reader Json) (acc : List Json)
    (s : List Char) :
    through φ (consItem read acc s) = through (fun j => φ (j :: acc)) (read s) := by
  rw [consItem]
  cases read s <;> rfl

theorem through_consMember {φ : List (String × Json) → Option υ} (read : Reader Json)
    (acc : List (String × Json)) (name : String) (s : List Char) :
    through φ (consMember read acc name s) =
      (colon s).toOption.bind fun p => through (fun j => φ ((name, j) :: acc)) (read p.2) := by
  rw [consMember]
  cases colon s with
  | error e => rfl
  | ok p =>
    obtain ⟨⟨⟩, s⟩ := p
    dsimp only [Except.toOption, Option.bind_some]
    cases read s <;> rfl

theorem through_ok (φ : τ → Option υ) (b : τ) (rest : List Char) :
    through φ (.ok (b, rest)) = (φ b).map (·, rest) := rfl

/-- What both readers read, or that neither does. -/
theorem through_cases {x : Except Fault (υ × List Char)} {y : Except Fault (τ × List Char)}
    (h : x.toOption = through φ y) :
    (∃ a b rest, x = .ok (a, rest) ∧ y = .ok (b, rest) ∧ φ b = some a) ∨
    (∃ e, x = .error e) ∧ ∀ b rest, y = .ok (b, rest) → φ b = none := by
  cases y with
  | error e =>
    cases x with
    | error e' => exact .inr ⟨⟨e', rfl⟩, fun _ _ h => nomatch h⟩
    | ok => cases h
  | ok p =>
    obtain ⟨b, rest⟩ := p
    rw [through_ok] at h
    cases hb : φ b with
    | none =>
      rw [hb] at h
      cases x with
      | error e =>
        refine .inr ⟨⟨e, rfl⟩, ?_⟩
        rintro _ _ ⟨⟩
        exact hb
      | ok => cases h
    | some a =>
      rw [hb] at h
      cases x with
      | error => cases h
      | ok q =>
        cases h
        exact .inl ⟨a, b, rest, rfl, rfl, hb⟩

theorem complete_eq {read : Reader τ} {read' : Reader υ} {s : List Char}
    (h : (read' s).toOption = through φ (read s)) :
    (complete read' s).toOption = (complete read s).toOption.bind φ := by
  rw [complete, complete]
  obtain ⟨a, b, rest, ha, hb, hab⟩ | ⟨⟨e, he⟩, hnone⟩ := through_cases h
  · rw [ha, hb]
    dsimp only
    split
    · exact hab.symm
    · rfl
  · rw [he]
    cases hread : read s with
    | error => rfl
    | ok p =>
      dsimp only
      split
      · exact (hnone p.1 p.2 hread).symm
      · rfl

/-- One step after which both readers go on. -/
theorem through_step {x : Except Fault (υ × List Char)} {y : Except Fault (τ × List Char)}
    {f : υ → Reader υ} {g : τ → Reader τ}
    (hsome : ∀ a b rest, φ b = some a → (f a rest).toOption = through φ (g b rest))
    (hnone : ∀ b rest, φ b = none → through φ (g b rest) = none) :
    x.toOption = through φ y →
      Except.toOption (match x with
        | .ok (a, rest) => f a rest
        | .error e => .error e) =
      through φ (match y with
        | .ok (b, rest) => g b rest
        | .error e => .error e) := by
  intro h
  obtain ⟨a, b, rest, rfl, rfl, hab⟩ | ⟨⟨e, rfl⟩, hy⟩ := through_cases h
  · exact hsome a b rest hab
  · cases y with
    | error => rfl
    | ok p => exact (hnone p.1 p.2 (hy p.1 p.2 rfl)).symm

/-- Readers whose items follow one another read whole arrays alike. -/
theorem elements_follows {f : υ → Reader υ} {g : τ → Reader τ}
    (hsome : ∀ {a b s}, φ b = some a → (f a s).toOption = through φ (g b s))
    (hnone : ∀ {b b' s rest}, φ b = none → g b s = .ok (b', rest) → φ b' = none) {fuel : Nat}
    {first : Bool} {a : υ} {b : τ} {s : List Char} (h : φ b = some a) :
    (elements f fuel first a s).toOption = through φ (elements g fuel first b s) := by
  induction fuel generalizing first a b s with
  | zero => rfl
  | succ fuel ih =>
    simp -zeta only [elements]
    extract_lets next next'
    have hnext (t : List Char) : (next t).toOption = through φ (next' t) :=
      through_step (fun _ _ _ h => ih h) (fun _ _ h => through_eq_none fun _ _ =>
        elements_keeps (P := fun b => φ b = none) hnone h) (hsome h)
    split
    · rfl
    · simp [through, Except.toOption, h]
    · split
      · exact hnext _
      · split
        · split
          · rfl
          · rfl
          · exact hnext _
        · rfl

/-- Readers whose members follow one another read whole objects alike. -/
theorem members_follows {f : υ → String → Reader υ} {g : τ → String → Reader τ}
    (hsome : ∀ {a b name s}, φ b = some a → (f a name s).toOption = through φ (g b name s))
    (hnone : ∀ {b b' name s rest}, φ b = none → g b name s = .ok (b', rest) → φ b' = none)
    {fuel : Nat} {first : Bool} {a : υ} {b : τ} {s : List Char} (h : φ b = some a) :
    (members f fuel first a s).toOption = through φ (members g fuel first b s) := by
  induction fuel generalizing first a b s with
  | zero => rfl
  | succ fuel ih =>
    simp -zeta only [members, membersBy]
    extract_lets next next'
    have hnext (t : List Char) : (next t).toOption = through φ (next' t) := by
      simp only [next, next']
      split
      · exact through_step (fun _ _ _ h => ih h) (fun _ _ h => through_eq_none fun _ _ =>
          members_keeps (P := fun b => φ b = none) hnone h) (hsome h)
      · rfl
    split
    · rfl
    · simp [through, Except.toOption, h]
    · split
      · split
        · exact hnext _
        · rfl
      · split
        · split
          · rfl
          · exact hnext _
          · rfl
        · rfl

end Following

theorem string?_of_scaledNumber {negative : Bool} {significand : Nat} {power : Int}
    {s rest : List Char} {j : Json}
    (h : scaledNumber negative significand power s = .ok (j, rest)) :
    j.string? = none := by
  rw [scaledNumber] at h
  split at h
  · cases h
    rfl
  · cases h

theorem string?_of_exponentPart {negative : Bool} {significand : Nat} {power : Int}
    {s rest : List Char} {j : Json}
    (h : exponentPart negative significand power s = .ok (j, rest)) :
    j.string? = none := by
  grind [exponentPart.eq_def, string?_of_scaledNumber, string?]

theorem string?_of_afterDigits {negative : Bool} {significand : Nat} {power : Int}
    {s rest : List Char} {j : Json} (h : afterDigits negative significand power s = .ok (j, rest)) :
    j.string? = none := by
  rw [afterDigits.eq_def] at h
  split at h
  · exact string?_of_exponentPart h
  · exact string?_of_exponentPart h
  · exact string?_of_scaledNumber h

theorem string?_of_fractionPart {negative : Bool} {significand : Nat} {power : Int}
    {s rest : List Char} {j : Json}
    (h : fractionPart negative significand power s = .ok (j, rest)) :
    j.string? = none := by
  grind [fractionPart.eq_def, string?_of_afterDigits]

theorem string?_of_afterInteger {negative : Bool} {n : Nat}
    {s rest : List Char} {j : Json} (h : afterInteger negative n s = .ok (j, rest)) :
    j.string? = none := by
  grind [afterInteger.eq_def, string?_of_fractionPart, string?_of_exponentPart, string?]

theorem string?_of_number {negative : Bool}
    {s rest : List Char} {j : Json} (h : number negative s = .ok (j, rest)) :
    j.string? = none := by
  grind [number.eq_def, afterLongInteger, string?_of_fractionPart, string?_of_afterDigits,
    string?_of_afterInteger]

theorem string?_of_scalar {s rest : List Char} {j : Json} (hs : ∀ t, s ≠ '"' :: t)
    (h : scalar s = .ok (j, rest)) : j.string? = none := by
  obtain rfl | ⟨b, rfl⟩ | ⟨t, str, rfl, -⟩ | ⟨negative, t, ht⟩ := scalar_cases h
  · rfl
  · rfl
  · exact absurd rfl (hs t)
  · exact string?_of_number ht

theorem height_of_scalar {s rest : List Char} {j : Json} (h : scalar s = .ok (j, rest)) :
    j.height = 0 := by
  obtain rfl | ⟨b, rfl⟩ | ⟨t, str, -, rfl⟩ | ⟨negative, t, ht⟩ := scalar_cases h
  · rfl
  · rfl
  · rfl
  · have hj := (contained_number negative ht).1
    cases j with
    | array | object => exact hj.elim
    | _ => rfl

theorem value_scalar {depth : Nat} {s : List Char} (hbracket : ∀ t, skipSpace s ≠ '[' :: t)
    (hbrace : ∀ t, skipSpace s ≠ '\x7b' :: t) : value depth s = scalar (skipSpace s) := by
  rw [value]
  split
  · exact absurd ‹_› (hbracket _)
  · exact absurd ‹_› (hbrace _)
  · rfl

theorem value_array {depth : Nat} {s t : List Char} (hs : skipSpace s = '[' :: t) :
    value (depth + 1) s = (elements (consItem (value depth)) (t.length + 1) true [] t).map
      fun p => (array p.1.reverse, p.2) := by
  rw [value, hs]
  simp only
  cases elements (consItem (value depth)) (t.length + 1) true [] t <;> rfl

theorem value_object {depth : Nat} {s t : List Char} (hs : skipSpace s = '\x7b' :: t) :
    value (depth + 1) s = (members (consMember (value depth)) (t.length + 1) true [] t).map
      fun p => (object p.1.reverse, p.2) := by
  rw [value, hs]
  simp only
  cases members (consMember (value depth)) (t.length + 1) true [] t <;> rfl

theorem string?_of_value {depth : Nat} {s rest : List Char} {j : Json}
    (hs : ∀ t, skipSpace s ≠ '"' :: t) (h : value depth s = .ok (j, rest)) : j.string? = none := by
  rw [value] at h
  split at h
  · split at h
    · cases h
    · split at h
      · cases h
        rfl
      · cases h
  · split at h
    · cases h
    · split at h
      · cases h
        rfl
      · cases h
  · exact string?_of_scalar hs h

end CommandBridge.Json
