import CommandBridge.Json.Skipping
import CommandBridge.Proofs.Json.Number

/-! What is read can be passed over, and passing over a value does not depend on how deep it may be
nested. -/
namespace CommandBridge.Json

/-- What `read` reads is passed over by `skip`. -/
def Skips {α : Type} (read : Reader α) (skip : Reader Unit) : Prop :=
  ∀ ⦃s a rest⦄, read s = .ok (a, rest) → skip s = .ok ((), rest)

theorem dropDigits_takeDigits (limit n : Nat) (s : List Char) :
    (takeDigits limit n s).2.2.dropWhile Char.isDigit = s.dropWhile Char.isDigit := by
  induction s generalizing n with
  | nil => rfl
  | cons c s ih =>
    rw [takeDigits]
    split
    · rename_i h
      rw [List.dropWhile_cons_of_pos (Bool.and_eq_true_iff.mp h).1]
      exact ih _
    · rfl

theorem dropDigits_of_not {s : List Char} (h : startsWithDigit s = false) :
    s.dropWhile Char.isDigit = s := by
  cases s with
  | nil => rfl
  | cons c s => exact List.dropWhile_cons_of_neg (ne_true_of_eq_false h)

theorem skipDigits_of_wanted (read : Reader Json) {s rest : List Char} {j : Json}
    (h : digitsWanted read s = .ok (j, rest)) :
    skipDigits s = .ok ((), s.dropWhile Char.isDigit) ∧ read s = .ok (j, rest) := by
  cases s with
  | nil => cases h
  | cons c s =>
    rw [digitsWanted] at h
    split at h
    · cases h
    · rename_i hc
      have hc : c.isDigit = true := by simpa using hc
      rw [skipDigits, if_pos hc, List.dropWhile_cons_of_pos hc]
      exact ⟨rfl, h⟩

theorem skips_scaledNumber (negative : Bool) (significand : Nat) (power : Int) :
    Skips (scaledNumber negative significand power) fun s => .ok ((), s) := by
  intro s j rest h
  rw [scaledNumber] at h
  split at h
  · cases h
    rfl
  · cases h

theorem skips_exponentDigits (down negative : Bool) (significand : Nat) (power : Int) :
    Skips (exponentDigits down negative significand power) skipDigits := by
  intro s j rest h
  obtain ⟨hskip, h⟩ := skipDigits_of_wanted _ h
  rw [hskip, ← dropDigits_takeDigits (Nat.pow 2 31) 0]
  rw [exponentEnd] at h
  split at h
  · split at h
    · cases h
      rfl
    · cases h
  · rename_i hdigit
    rw [dropDigits_of_not (eq_false_of_ne_true hdigit)]
    exact skips_scaledNumber _ _ _ h

theorem skips_exponentPart (negative : Bool) (significand : Nat) (power : Int) :
    Skips (exponentPart negative significand power) skipExponent := by
  intro s j rest h
  rw [exponentPart_eq] at h
  split at h
  · exact skips_exponentDigits _ _ _ _ h
  · exact skips_exponentDigits _ _ _ _ h
  · rename_i hplus hminus
    rw [skipExponent.eq_3 _ hplus hminus]
    exact skips_exponentDigits _ _ _ _ h

theorem skips_afterDigits (negative : Bool) (significand : Nat) (power : Int) :
    Skips (afterDigits negative significand power) skipAfterDigits := by
  intro s j rest h
  rw [afterDigits.eq_def] at h
  split at h
  · exact skips_exponentPart _ _ _ h
  · exact skips_exponentPart _ _ _ h
  · rename_i hlower hupper
    rw [skipAfterDigits.eq_3 _ hlower hupper]
    exact skips_scaledNumber _ _ _ h

theorem skips_fractionPart (negative : Bool) (significand : Nat) (power : Int) {s rest : List Char}
    {j : Json} (h : fractionPart negative significand power s = .ok (j, rest)) :
    skipAfterInteger ('.' :: s) = .ok ((), rest) := by
  obtain ⟨hskip, h⟩ := skipDigits_of_wanted (fun s =>
    afterDigits negative (takeDigits (Nat.pow 2 64) significand s).1
      (power - (takeDigits (Nat.pow 2 64) significand s).2.1)
      ((takeDigits (Nat.pow 2 64) significand s).2.2.dropWhile Char.isDigit)) h
  rw [dropDigits_takeDigits] at h
  rw [skipAfterInteger, hskip]
  exact skips_afterDigits _ _ _ h

theorem skips_afterInteger (negative : Bool) (n : Nat) :
    Skips (afterInteger negative n) skipAfterInteger := by
  intro s j rest h
  rw [afterInteger.eq_def] at h
  split at h
  · exact skips_fractionPart _ _ _ h
  · exact skips_exponentPart _ _ _ h
  · exact skips_exponentPart _ _ _ h
  · rename_i hpoint hlower hupper
    rw [skipAfterInteger.eq_2 _ hpoint, skipAfterDigits.eq_3 _ hlower hupper]
    split at h
    · cases h
      rfl
    · split at h <;> cases h <;> rfl

theorem skips_afterLongInteger (negative : Bool) (n : Nat) {s rest : List Char} {j : Json}
    (h : afterLongInteger negative n s = .ok (j, rest)) :
    skipAfterInteger (s.dropWhile Char.isDigit) = .ok ((), rest) := by
  rw [afterLongInteger] at h
  split at h
  · rename_i t ht
    rw [ht]
    exact skips_fractionPart _ _ _ h
  · rename_i hpoint
    rw [skipAfterInteger.eq_2 _ hpoint]
    exact skips_afterDigits _ _ _ h

theorem skips_number (negative : Bool) : Skips (number negative) skipNumber := by
  intro s j rest h
  rw [number.eq_def] at h
  split at h
  · cases h
  · rw [skipNumber]
    split at h
    · cases h
    · rename_i hdigit
      rw [if_neg hdigit]
      exact skips_afterInteger _ _ h
  · rename_i c s hzero
    obtain ⟨hskip, h⟩ := skipDigits_of_wanted (s := c :: s) (fun s =>
      if startsWithDigit (takeDigits (Nat.pow 2 64) 0 s).2.2 then
        afterLongInteger negative (takeDigits (Nat.pow 2 64) 0 s).1
          (takeDigits (Nat.pow 2 64) 0 s).2.2
      else afterInteger negative (takeDigits (Nat.pow 2 64) 0 s).1
        (takeDigits (Nat.pow 2 64) 0 s).2.2) h
    have hzero' (t : List Char) (ht : c :: s = '0' :: t) : False := hzero (List.cons.inj ht).1
    rw [skipNumber.eq_2 _ hzero', hskip, ← dropDigits_takeDigits (Nat.pow 2 64) 0]
    split at h
    · exact skips_afterLongInteger _ _ h
    · rename_i hdigit
      rw [dropDigits_of_not (eq_false_of_ne_true hdigit)]
      exact skips_afterInteger _ _ h

theorem exists_of_consChar {c : Char} {read : Except Fault (List Char × List Char)}
    {cs rest : List Char} (h : consChar c read = .ok (cs, rest)) : ∃ ds, read = .ok (ds, rest) := by
  cases read with
  | ok p =>
    cases h
    exact ⟨p.1, rfl⟩
  | error => cases h

theorem skipString_quad {a b c d : Char} {n : Nat} (h : hexQuad? a b c d = some n)
    (s : List Char) : skipString ('\\' :: 'u' :: a :: b :: c :: d :: s) = skipString s := by
  rw [skipString, h]

theorem skipString_of_ne {c : Char} (hquote : c ≠ '"') (hescape : c ≠ '\\')
    (hcontrol : ¬c.toNat < 0x20) (s : List Char) : skipString (c :: s) = skipString s := by
  rw [skipString.eq_def]
  split <;> grind

theorem skips_stringBody {s cs rest : List Char} (h : stringBody s = .ok (cs, rest)) :
    skipString s = .ok ((), rest) := by
  fun_induction stringBody s generalizing cs rest
  case case2 =>
    cases h
    rfl
  case case6 hn _ _ _ _ _ _ _ _ hm _ ih =>
    obtain ⟨ds, hds⟩ := exists_of_consChar h
    rw [skipString_quad hn, skipString_quad hm, ih hds]
  case case12 hn _ _ ih =>
    obtain ⟨ds, hds⟩ := exists_of_consChar h
    rw [skipString_quad hn, ih hds]
  case case25 s hquote _ _ hescape hlast hcontrol ih =>
    obtain ⟨ds, hds⟩ := exists_of_consChar h
    rw [skipString_of_ne hquote ?_ hcontrol, ih hds]
    rintro rfl
    cases s with
    | nil => exact hlast rfl rfl
    | cons c s => exact hescape c s rfl rfl
  case case14 ih | case15 ih | case16 ih | case17 ih | case18 ih | case19 ih | case20 ih |
      case21 ih =>
    obtain ⟨ds, hds⟩ := exists_of_consChar h
    exact ih hds
  all_goals cases h

theorem skips_stringRest : Skips stringRest skipString := by
  intro s str rest h
  rw [stringRest] at h
  split at h
  · cases h
    exact skips_stringBody ‹_›
  · cases h

theorem skips_keyword {α : Type} (a : α) (word : List Char) :
    Skips (keyword a word) (keyword () word) := by
  intro s b rest h
  induction word generalizing s with
  | nil =>
    cases h
    rfl
  | cons w word ih =>
    cases s with
    | nil => cases h
    | cons c s =>
      rw [keyword] at h ⊢
      split at h
      · rename_i hc
        rw [if_pos hc]
        exact ih h
      · cases h

theorem skips_scalar : Skips scalar skipScalar := by
  intro s j rest h
  rw [scalar.eq_def] at h
  split at h
  · exact skips_keyword _ _ h
  · exact skips_keyword _ _ h
  · exact skips_keyword _ _ h
  · exact skips_number _ h
  · split at h
    · cases h
      exact skips_stringRest ‹_›
    · cases h
  · rename_i c s hnull htrue hfalse hminus hquote
    rw [skipScalar.eq_6 _ _ hnull htrue hfalse hminus hquote]
    split at h
    · rename_i hdigit
      rw [if_pos hdigit]
      exact skips_number _ h
    · cases h
  · cases h

section Folding

variable {τ ν : Type}

theorem elements_skips {item : τ → Reader τ} {skip : Reader Unit}
    (hitem : ∀ acc, Skips (item acc) skip) {fuel : Nat} {first : Bool} {acc : τ} :
    Skips (elements item fuel first acc) (elements (fun _ => skip) fuel first ()) := by
  intro s acc' rest h
  induction fuel generalizing first acc s with
  | zero => cases h
  | succ fuel ih =>
    revert h
    simp -zeta only [elements]
    extract_lets next next'
    have hnext {t : List Char} (ht : next t = .ok (acc', rest)) : next' t = .ok ((), rest) := by
      simp only [next, next'] at ht ⊢
      split at ht
      · rw [hitem acc ‹_›]
        exact ih ht
      · cases ht
    split
    · exact nofun
    · rintro ⟨⟩
      rfl
    · split
      · exact hnext
      · split
        · split
          · exact nofun
          · exact nofun
          · exact hnext
        · exact nofun

theorem membersBy_skips {name : Reader ν} {skipName : Reader Unit} {member : τ → ν → Reader τ}
    {skip : Reader Unit} (hname : Skips name skipName)
    (hmember : ∀ acc k, Skips (member acc k) skip)
    {fuel : Nat} {first : Bool} {acc : τ} :
    Skips (membersBy name member fuel first acc)
      (membersBy skipName (fun _ _ => skip) fuel first ()) := by
  intro s acc' rest h
  induction fuel generalizing first acc s with
  | zero => cases h
  | succ fuel ih =>
    revert h
    simp -zeta only [membersBy]
    extract_lets next next'
    have hnext {t : List Char} (ht : next t = .ok (acc', rest)) : next' t = .ok ((), rest) := by
      simp only [next, next'] at ht ⊢
      split at ht
      · rw [hname ‹_›]
        dsimp only
        split at ht
        · rw [hmember _ _ ‹_›]
          exact ih ht
        · cases ht
      · cases ht
    split
    · exact nofun
    · rintro ⟨⟩
      rfl
    · split
      · split
        · exact hnext
        · exact nofun
      · split
        · split
          · exact nofun
          · exact hnext
          · exact nofun
        · exact nofun

end Folding

theorem skips_consItem {read : Reader Json} {skip : Reader Unit} (h : Skips read skip)
    (acc : List Json) : Skips (consItem read acc) skip := by
  intro s js rest hread
  rw [consItem] at hread
  split at hread
  · cases hread
    exact h ‹_›
  · cases hread

theorem skips_consMember {read : Reader Json} {skip : Reader Unit} (h : Skips read skip)
    (acc : List (String × Json)) (k : String) :
    Skips (consMember read acc k) (skipMember skip) := by
  intro s ms rest
  rw [consMember, skipMember]
  cases colon s with
  | error => exact nofun
  | ok p =>
    dsimp only
    intro hread
    split at hread
    · cases hread
      exact h ‹_›
    · cases hread

theorem skipWithin_array {depth : Nat} {s t : List Char} (h : skipSpace s = '[' :: t) :
    skipWithin (depth + 1) s =
      elements (fun _ => skipWithin depth) (t.length + 1) true () t := by
  rw [skipWithin]
  simp only [h]

theorem skipWithin_object {depth : Nat} {s t : List Char} (h : skipSpace s = '\x7b' :: t) :
    skipWithin (depth + 1) s =
      membersBy skipString (fun _ _ => skipMember (skipWithin depth)) (t.length + 1) true () t := by
  rw [skipWithin]
  simp only [h]

theorem skipWithin_scalar {depth : Nat} {s : List Char} (harray : ∀ t, skipSpace s ≠ '[' :: t)
    (hobject : ∀ t, skipSpace s ≠ '\x7b' :: t) : skipWithin depth s = skipScalar (skipSpace s) := by
  rw [skipWithin]
  split
  · exact absurd ‹_› (harray _)
  · exact absurd ‹_› (hobject _)
  · rfl

/-- What is read is passed over, whatever deeper nesting is allowed there. -/
theorem skips_value_within {depth n : Nat} (hdepth : depth ≤ n) :
    Skips (value depth) (skipWithin n) := by
  induction depth generalizing n with
  | zero =>
    intro s j rest h
    rw [value] at h
    split at h
    · cases h
    · cases h
    · rename_i harray hobject
      rw [skipWithin_scalar harray hobject]
      exact skips_scalar h
  | succ depth ih =>
    obtain ⟨n, rfl⟩ : ∃ m, n = m + 1 := ⟨n - 1, by omega⟩
    have hskips := ih (Nat.le_of_succ_le_succ hdepth)
    intro s j rest h
    rw [value] at h
    split at h
    · rename_i t hs
      rw [skipWithin_array hs]
      dsimp only at h
      split at h
      · cases h
        exact elements_skips (skips_consItem hskips) ‹_›
      · cases h
    · rename_i t hs
      rw [skipWithin_object hs]
      dsimp only at h
      split at h
      · cases h
        exact membersBy_skips skips_stringRest (skips_consMember hskips) ‹_›
      · cases h
    · rename_i harray hobject
      rw [skipWithin_scalar harray hobject]
      exact skips_scalar h

/-- What is left of a text is a part of it. -/
def Shrinks {α : Type} (read : Reader α) : Prop :=
  ∀ ⦃s a rest⦄, read s = .ok (a, rest) → rest.length ≤ s.length

theorem length_of_skipSpace {s t : List Char} (h : skipSpace s = t) : t.length ≤ s.length :=
  h ▸ (List.dropWhile_suffix isSpace).length_le

theorem lt_of_skipSpace {s t : List Char} {c : Char} (h : skipSpace s = c :: t) :
    t.length < s.length := length_of_skipSpace h

theorem shrinks_skipDigits : Shrinks skipDigits := by
  intro s a rest h
  cases s with
  | nil => cases h
  | cons c s =>
    rw [skipDigits] at h
    split at h
    · cases h
      exact Nat.le_succ_of_le (List.dropWhile_suffix Char.isDigit).length_le
    · cases h

theorem shrinks_skipAfterDigits : Shrinks skipAfterDigits := by
  intro s a rest h
  grind [skipAfterDigits.eq_def, skipExponent.eq_def, shrinks_skipDigits, Shrinks]

theorem shrinks_skipAfterInteger : Shrinks skipAfterInteger := by
  intro s a rest h
  grind [skipAfterInteger.eq_def, shrinks_skipAfterDigits, shrinks_skipDigits, Shrinks]

theorem shrinks_skipNumber : Shrinks skipNumber := by
  intro s a rest h
  grind [skipNumber.eq_def, shrinks_skipAfterInteger, shrinks_skipDigits, Shrinks]

theorem shrinks_skipString : Shrinks skipString := by
  intro s a rest h
  fun_induction skipString s <;> grind

theorem shrinks_keyword {α : Type} (a : α) (word : List Char) : Shrinks (keyword a word) := by
  intro s b rest h
  fun_induction keyword a word s <;> grind

theorem shrinks_skipScalar : Shrinks skipScalar := by
  intro s a rest h
  grind [skipScalar.eq_def, shrinks_skipNumber, shrinks_skipString, shrinks_keyword, Shrinks]

section Folding

variable {τ ν : Type}

theorem elements_shrinks {item : τ → Reader τ} (hitem : ∀ acc, Shrinks (item acc)) {fuel : Nat}
    {first : Bool} {acc : τ} : Shrinks (elements item fuel first acc) := by
  intro s acc' rest h
  induction fuel generalizing first acc s with
  | zero => cases h
  | succ fuel ih =>
    simp -zeta only [elements] at h
    extract_lets next at h
    have hnext {t : List Char} (ht : next t = .ok (acc', rest)) : rest.length ≤ t.length := by
      simp only [next] at ht
      split at ht
      · exact Nat.le_trans (ih ht) (hitem _ ‹_›)
      · cases ht
    split at h
    · cases h
    · cases h
      exact Nat.le_of_lt (lt_of_skipSpace ‹_›)
    · have hs := lt_of_skipSpace ‹_›
      split at h
      · exact Nat.le_trans (hnext h) hs
      · split at h
        · split at h
          · cases h
          · cases h
          · have ht := lt_of_skipSpace ‹_›
            have := hnext h
            simp only [List.length_cons] at this
            omega
        · cases h

theorem membersBy_shrinks {name : Reader ν} {member : τ → ν → Reader τ} (hname : Shrinks name)
    (hmember : ∀ acc k, Shrinks (member acc k)) {fuel : Nat} {first : Bool} {acc : τ} :
    Shrinks (membersBy name member fuel first acc) := by
  intro s acc' rest h
  induction fuel generalizing first acc s with
  | zero => cases h
  | succ fuel ih =>
    simp -zeta only [membersBy] at h
    extract_lets next at h
    have hnext {t : List Char} (ht : next t = .ok (acc', rest)) : rest.length ≤ t.length := by
      simp only [next] at ht
      split at ht
      · have hread := hname ‹_›
        split at ht
        · exact Nat.le_trans (ih ht) (Nat.le_trans (hmember _ _ ‹_›) hread)
        · cases ht
      · cases ht
    split at h
    · cases h
    · cases h
      exact Nat.le_of_lt (lt_of_skipSpace ‹_›)
    · have hs := lt_of_skipSpace ‹_›
      split at h
      · split at h
        · exact Nat.le_trans (hnext h) (Nat.le_of_lt hs)
        · cases h
      · split at h
        · split at h
          · cases h
          · have ht := lt_of_skipSpace ‹_›
            have := hnext h
            omega
          · cases h
        · cases h

theorem elements_congr {item item' : τ → Reader τ} (hitem : ∀ acc, Shrinks (item acc)) {n : Nat}
    (heq : ∀ acc t, t.length ≤ n → item acc t = item' acc t) {fuel : Nat} {first : Bool} {acc : τ}
    {s : List Char} (hs : s.length ≤ n) :
    elements item fuel first acc s = elements item' fuel first acc s := by
  induction fuel generalizing first acc s with
  | zero => rfl
  | succ fuel ih =>
    simp -zeta only [elements]
    extract_lets next next'
    have hnext {t : List Char} (ht : t.length ≤ n) : next t = next' t := by
      simp only [next, next']
      rw [← heq acc t ht]
      split
      · exact ih (Nat.le_trans (hitem _ ‹_›) ht)
      · rfl
    split
    · rfl
    · rfl
    · have hc := lt_of_skipSpace ‹_›
      split
      · exact hnext (Nat.le_trans hc hs)
      · split
        · split
          · rfl
          · rfl
          · have ht := lt_of_skipSpace ‹_›
            exact hnext (Nat.le_trans ht (by omega))
        · rfl

theorem membersBy_congr {name : Reader ν} {member member' : τ → ν → Reader τ}
    (hname : Shrinks name) (hmember : ∀ acc k, Shrinks (member acc k)) {n : Nat}
    (heq : ∀ acc k t, t.length ≤ n → member acc k t = member' acc k t) {fuel : Nat} {first : Bool}
    {acc : τ} {s : List Char} (hs : s.length ≤ n) :
    membersBy name member fuel first acc s = membersBy name member' fuel first acc s := by
  induction fuel generalizing first acc s with
  | zero => rfl
  | succ fuel ih =>
    simp -zeta only [membersBy]
    extract_lets next next'
    have hnext {t : List Char} (ht : t.length ≤ n) : next t = next' t := by
      simp only [next, next']
      split
      · have hk := Nat.le_trans (hname ‹_›) ht
        rw [← heq _ _ _ hk]
        split
        · exact ih (Nat.le_trans (hmember _ _ ‹_›) hk)
        · rfl
      · rfl
    split
    · rfl
    · rfl
    · have hc := lt_of_skipSpace ‹_›
      split
      · split
        · exact hnext (by omega)
        · rfl
      · split
        · split
          · rfl
          · have ht := lt_of_skipSpace ‹_›
            exact hnext (by omega)
          · rfl
        · rfl

end Folding

theorem lt_of_colon {s t : List Char} (h : colon s = .ok ((), t)) : t.length < s.length := by
  rw [colon] at h
  split at h
  · cases h
  · cases h
    exact lt_of_skipSpace ‹_›
  · cases h

theorem shrinks_skipMember {skip : Reader Unit} (h : Shrinks skip) : Shrinks (skipMember skip) := by
  intro s a rest hread
  rw [skipMember] at hread
  split at hread
  · cases hread
  · exact Nat.le_trans (h hread) (Nat.le_of_lt (lt_of_colon ‹_›))

theorem skipMember_congr {skip skip' : Reader Unit} {n : Nat}
    (heq : ∀ t, t.length ≤ n → skip t = skip' t) {s : List Char} (hs : s.length ≤ n) :
    skipMember skip s = skipMember skip' s := by
  rw [skipMember, skipMember]
  split
  · rfl
  · exact heq _ (Nat.le_trans (Nat.le_of_lt (lt_of_colon ‹_›)) hs)

theorem shrinks_skipWithin (depth : Nat) : Shrinks (skipWithin depth) := by
  induction depth with
  | zero =>
    intro s a rest h
    rw [skipWithin] at h
    split at h
    · cases h
    · cases h
    · exact Nat.le_trans (shrinks_skipScalar h) (length_of_skipSpace rfl)
  | succ depth ih =>
    intro s a rest h
    rw [skipWithin] at h
    split at h
    · exact Nat.le_trans (elements_shrinks (fun _ => ih) h)
        (Nat.le_of_lt (lt_of_skipSpace ‹_›))
    · exact Nat.le_trans (membersBy_shrinks shrinks_skipString (fun _ _ => shrinks_skipMember ih) h)
        (Nat.le_of_lt (lt_of_skipSpace ‹_›))
    · exact Nat.le_trans (shrinks_skipScalar h) (length_of_skipSpace rfl)

theorem skipWithin_congr {s : List Char} {n m : Nat} (hn : s.length ≤ n) (hm : s.length ≤ m) :
    skipWithin n s = skipWithin m s := by
  induction n generalizing s m with
  | zero =>
    obtain rfl := List.eq_nil_of_length_eq_zero (Nat.eq_zero_of_le_zero hn)
    cases m <;> rfl
  | succ n ih =>
    by_cases harray : ∃ t, skipSpace s = '[' :: t
    · obtain ⟨t, ht⟩ := harray
      have hlt := lt_of_skipSpace ht
      obtain ⟨m, rfl⟩ : ∃ k, m = k + 1 := ⟨m - 1, by omega⟩
      rw [skipWithin_array ht, skipWithin_array ht]
      exact elements_congr (fun _ => shrinks_skipWithin n)
        (fun _ u hu => ih (by omega) (by omega)) (Nat.le_refl t.length)
    · by_cases hobject : ∃ t, skipSpace s = '\x7b' :: t
      · obtain ⟨t, ht⟩ := hobject
        have hlt := lt_of_skipSpace ht
        obtain ⟨m, rfl⟩ : ∃ k, m = k + 1 := ⟨m - 1, by omega⟩
        rw [skipWithin_object ht, skipWithin_object ht]
        exact membersBy_congr shrinks_skipString
          (fun _ _ => shrinks_skipMember (shrinks_skipWithin n))
          (fun _ _ u hu => skipMember_congr (fun v hv => ih (by omega) (by omega)) hu)
          (Nat.le_refl t.length)
      · rw [skipWithin_scalar (not_exists.mp harray) (not_exists.mp hobject),
          skipWithin_scalar (not_exists.mp harray) (not_exists.mp hobject)]

/-- There are never more containers than characters. -/
theorem skipWithin_eq {s : List Char} {n : Nat} (h : s.length ≤ n) : skipWithin n s = skip s :=
  skipWithin_congr h (Nat.le_refl _)

/-- What is read is passed over. -/
theorem skips_value (depth : Nat) : Skips (value depth) skip := by
  intro s j rest h
  rw [← skipWithin_eq (Nat.le_max_left s.length depth)]
  exact skips_value_within (Nat.le_max_right s.length depth) h

end CommandBridge.Json
