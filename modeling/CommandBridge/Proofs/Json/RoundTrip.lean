import CommandBridge.Proofs.Json.Number

/-! A JSON value is read back from its text when each value in it that holds no others is. -/
namespace CommandBridge.Json

theorem hexValue?_hexDigit : ∀ d < 16, hexValue? (hexDigit d) = some d := by decide

/-- A control character is written with two zeros in front. -/
theorem hexQuad?_control {n : Nat} (h : n < 32) :
    hexQuad? '0' '0' (hexDigit (n / 16)) (hexDigit (n % 16)) = some n := by
  have hzero : hexValue? '0' = some 0 := rfl
  simp only [hexQuad?, hzero, hexValue?_hexDigit _ (show n / 16 < 16 by omega),
    hexValue?_hexDigit _ (Nat.mod_lt n (by decide)), Option.bind_eq_bind, Option.bind_some]
  exact congrArg some (by omega)

theorem stringBody_escapeChar (c : Char) (s : List Char) :
    stringBody (escapeChar c ++ s) = consChar c (stringBody s) := by
  fun_cases escapeChar c
  case case8 hc =>
    have hlow : isLowSurrogate c.toNat = false := by simp [isLowSurrogate]; omega
    have hhigh : isHighSurrogate c.toNat = false := by simp [isHighSurrogate]; omega
    simp only [List.cons_append, List.nil_append, stringBody, hexQuad?_control hc, hlow, hhigh,
      Char.ofNat_toNat, Bool.false_eq_true, if_false]
  case case9 hc =>
    simp only [List.cons_append, List.nil_append]
    rw [stringBody.eq_def]
    split <;> grind
  all_goals rfl

theorem stringBody_printed (cs s : List Char) :
    stringBody (cs.flatMap escapeChar ++ '"' :: s) = .ok (cs, s) := by
  induction cs with
  | nil => rfl
  | cons c cs ih => rw [List.flatMap_cons, List.append_assoc, stringBody_escapeChar, ih, consChar]

theorem printString_append (s : String) (rest : List Char) :
    printString s ++ rest = '"' :: (s.toList.flatMap escapeChar ++ '"' :: rest) := by
  rw [printString, List.cons_append, List.cons_append, List.append_assoc, List.singleton_append]

theorem stringRest_printed (s : String) (rest : List Char) :
    stringRest (s.toList.flatMap escapeChar ++ '"' :: rest) = .ok (s, rest) := by
  rw [stringRest, stringBody_printed]
  simp only [String.ofList_toList]

theorem skipSpace_cons {c : Char} (h : isSpace c = false) (s : List Char) :
    skipSpace (c :: s) = c :: s :=
  List.dropWhile_cons_of_neg (by simp [h])

/-- Values start with a character of their own. -/
theorem exists_print_cons (j : Json) :
    ∃ c s, j.print = c :: s ∧ isSpace c = false ∧ c ≠ ']' := by
  have hnumeral : ∀ s, Numeral s → ∃ c t, s = c :: t ∧ isSpace c = false ∧ c ≠ ']' := by
    intro s hs
    obtain ⟨c, t, rfl, hc⟩ := hs.head
    refine ⟨c, t, rfl, isSpace_of_isNumeral (hs.all c List.mem_cons_self), ?_⟩
    rintro rfl
    exact absurd hc (by decide)
  cases j with
  | null => exact ⟨_, _, by rw [print], rfl, by decide⟩
  | bool b => cases b <;> exact ⟨_, _, by rw [print], rfl, by decide⟩
  | int i => exact hnumeral _ (by rw [print]; exact numeral_intDigits i)
  | float x =>
    rw [print, printFloat]
    split
    · exact hnumeral _ (numeral_writeFinite x)
    · exact ⟨_, _, rfl, rfl, by decide⟩
  | string s => exact ⟨_, _, by rw [print, printString, List.cons_append], rfl, by decide⟩
  | array items => exact ⟨_, _, by rw [print], rfl, by decide⟩
  | object members => exact ⟨_, _, by rw [print], rfl, by decide⟩

theorem complete_eq_ok {α : Type} {read : Reader α} {s : List Char} {a : α} :
    complete read s = .ok a ↔ ∃ rest, read s = .ok (a, rest) ∧ skipSpace rest = [] := by
  rw [complete]
  split
  · rename_i b rest hread
    rw [hread]
    constructor
    · intro h
      split at h
      · rename_i hblank
        exact ⟨rest, by rw [Except.ok.inj h], List.isEmpty_iff.mp hblank⟩
      · exact absurd h (by simp)
    · rintro ⟨rest, hok, hblank⟩
      obtain ⟨rfl, rfl⟩ := Prod.mk.inj (Except.ok.inj hok)
      rw [if_pos (List.isEmpty_iff.mpr hblank)]
  · rename_i e hread
    rw [hread]
    exact ⟨fun h => absurd h (by simp), fun ⟨_, h, _⟩ => absurd h (by simp)⟩

/-- The value alone is read back from its text. -/
def Rereads (j : Json) : Prop := parse j.compact = .ok j

theorem value_of_ne {c : Char} (hspace : isSpace c = false) (harray : c ≠ '[')
    (hobject : c ≠ '\x7b') (depth : Nat) (s : List Char) :
    value depth (c :: s) = scalar (c :: s) := by
  rw [value, skipSpace_cons hspace]
  split
  · exact absurd (List.cons.inj ‹_›).1 harray
  · exact absurd (List.cons.inj ‹_›).1 hobject
  · rfl

theorem Numeral.value_append {s : List Char} (h : Numeral s) (depth : Nat) (rest : List Char) :
    value depth (s ++ rest) = scalar (s ++ rest) := by
  obtain ⟨c, t, rfl, hc⟩ := h.head
  refine value_of_ne (isSpace_of_isNumeral (h.all c List.mem_cons_self)) ?_ ?_ depth (t ++ rest)
  all_goals
    rintro rfl
    exact absurd hc (by decide)

/-- A number that is read back is also read where a text goes on behind it. -/
theorem Numeral.value_print {j : Json} (h : Numeral j.print) (hj : j.Rereads) (depth : Nat)
    {rest : List Char} (hrest : Ended rest) : value depth (j.print ++ rest) = .ok (j, rest) := by
  rw [Rereads, parse, compact, String.toList_ofList] at hj
  obtain ⟨r, hread, hblank⟩ := complete_eq_ok.mp hj
  have hvalue := h.value_append maxDepth []
  rw [List.append_nil] at hvalue
  rw [hvalue] at hread
  obtain ⟨-, hsuffix, happend⟩ := h.contained hread
  have hr : r = [] := by
    cases r with
    | nil => rfl
    | cons c t =>
      have hc : isNumeral c = true := h.all c (hsuffix.mem List.mem_cons_self)
      rw [skipSpace_cons (isSpace_of_isNumeral hc)] at hblank
      exact absurd hblank (List.cons_ne_nil c t)
  rw [h.value_append, happend rest hrest, hr, List.nil_append]

mutual

/-- Every value in `j` that holds no others satisfies `p`. -/
def Leaves (p : Json → Prop) : Json → Prop
  | array items => ItemLeaves p items
  | object members => MemberLeaves p members
  | j => p j

def ItemLeaves (p : Json → Prop) : List Json → Prop
  | [] => True
  | j :: js => j.Leaves p ∧ ItemLeaves p js

def MemberLeaves (p : Json → Prop) : List (String × Json) → Prop
  | [] => True
  | (_, j) :: ms => j.Leaves p ∧ MemberLeaves p ms

end

theorem itemLeaves_iff {p : Json → Prop} {js : List Json} :
    ItemLeaves p js ↔ ∀ j ∈ js, j.Leaves p := by
  induction js with
  | nil => simp [ItemLeaves]
  | cons j js ih => rw [ItemLeaves, ih, List.forall_mem_cons]

theorem memberLeaves_iff {p : Json → Prop} {ms : List (String × Json)} :
    MemberLeaves p ms ↔ ∀ m ∈ ms, m.2.Leaves p := by
  induction ms with
  | nil => simp [MemberLeaves]
  | cons m ms ih => rw [MemberLeaves, ih, List.forall_mem_cons]

theorem height_le_itemsHeight {j : Json} {js : List Json} (h : j ∈ js) :
    j.height ≤ itemsHeight js := by
  induction js with
  | nil => exact absurd h List.not_mem_nil
  | cons k ks ih =>
    rcases List.mem_cons.mp h with rfl | h
    · exact Nat.le_max_left _ _
    · exact Nat.le_trans (ih h) (Nat.le_max_right _ _)

theorem height_le_membersHeight {m : String × Json} {ms : List (String × Json)} (h : m ∈ ms) :
    m.2.height ≤ membersHeight ms := by
  induction ms with
  | nil => exact absurd h List.not_mem_nil
  | cons n ns ih =>
    rcases List.mem_cons.mp h with rfl | h
    · exact Nat.le_max_left _ _
    · exact Nat.le_trans (ih h) (Nat.le_max_right _ _)

theorem itemsHeight_le {n : Nat} {js : List Json} (h : ∀ j ∈ js, j.height ≤ n) :
    itemsHeight js ≤ n := by
  induction js with
  | nil => exact Nat.zero_le n
  | cons j js ih =>
    obtain ⟨hj, hjs⟩ := List.forall_mem_cons.mp h
    exact Nat.max_le.mpr ⟨hj, ih hjs⟩

theorem membersHeight_le {n : Nat} {ms : List (String × Json)} (h : ∀ m ∈ ms, m.2.height ≤ n) :
    membersHeight ms ≤ n := by
  induction ms with
  | nil => exact Nat.zero_le n
  | cons m ms ih =>
    obtain ⟨hm, hms⟩ := List.forall_mem_cons.mp h
    exact Nat.max_le.mpr ⟨hm, ih hms⟩

/-- The value is read off the front of a text that goes on behind it. -/
def ReadsOff (depth : Nat) (j : Json) : Prop :=
  ∀ rest, Ended rest → value depth (j.print ++ rest) = .ok (j, rest)

theorem ReadsOff.rereads {j : Json} (h : j.ReadsOff maxDepth) : j.Rereads := by
  rw [Rereads, parse, compact, String.toList_ofList]
  refine complete_eq_ok.mpr ⟨[], ?_, rfl⟩
  have hread := h [] Ended.nil
  rwa [List.append_nil] at hread

theorem readsOff_string (s : String) (depth : Nat) : (string s).ReadsOff depth := by
  intro rest _
  rw [print, printString_append, value_of_ne rfl (by decide) (by decide), scalar,
    stringRest_printed]

theorem rereads_string (s : String) : (string s).Rereads := (readsOff_string s maxDepth).rereads

section Folding

variable {τ : Type}

theorem elements_close {item : τ → Reader τ} {fuel : Nat} (first : Bool) (acc : τ)
    (rest : List Char) : elements item (fuel + 1) first acc (']' :: rest) = .ok (acc, rest) := rfl

theorem elements_first {item : τ → Reader τ} {fuel : Nat} {acc mid : τ} {c : Char}
    {s rest : List Char} (hspace : isSpace c = false) (hclose : c ≠ ']')
    (hitem : item acc (c :: s) = .ok (mid, rest)) :
    elements item (fuel + 1) true acc (c :: s) = elements item fuel false mid rest := by
  rw [elements, skipSpace_cons hspace]
  split
  · exact absurd ‹_› (List.cons_ne_nil c s)
  · exact absurd (List.cons.inj ‹_›).1 hclose
  · rename_i heq
    obtain ⟨rfl, rfl⟩ := List.cons.inj heq
    simp only [if_true, hitem]

theorem elements_comma {item : τ → Reader τ} {fuel : Nat} {acc : τ} {c : Char} {s : List Char}
    (hspace : isSpace c = false) (hclose : c ≠ ']') :
    elements item (fuel + 1) false acc (',' :: c :: s) =
      elements item (fuel + 1) true acc (c :: s) := by
  rw [elements, elements, skipSpace_cons rfl, skipSpace_cons hspace]
  split
  · exact absurd ‹_› (List.cons_ne_nil _ _)
  · exact absurd (List.cons.inj ‹_›).1 (by decide)
  · rename_i heq
    obtain ⟨rfl, rfl⟩ := List.cons.inj heq
    simp only [Bool.false_eq_true, if_false, beq_self_eq_true, if_true, skipSpace_cons hspace]

theorem exists_printItems_cons (j : Json) (js : List Json) :
    ∃ c s, printItems (j :: js) = c :: s ∧ isSpace c = false ∧ c ≠ ']' := by
  obtain ⟨c, s, hprint, hc⟩ := exists_print_cons j
  cases js with
  | nil => exact ⟨c, s ++ [']'], by rw [printItems, hprint, List.cons_append], hc⟩
  | cons k ks =>
    refine ⟨c, s ++ ',' :: printItems (k :: ks), ?_, hc⟩
    rw [printItems, hprint, List.cons_append]
    exact fun h => List.cons_ne_nil k ks h

/-- Folding `item` over printed values leads from `acc` to `acc'`. -/
def FoldsItems (item : τ → Reader τ) (acc : τ) : List Json → τ → Prop
  | [], acc' => acc = acc'
  | j :: js, acc' => ∃ mid, (∀ rest, Ended rest → item acc (j.print ++ rest) = .ok (mid, rest)) ∧
      FoldsItems item mid js acc'

theorem ended_of_mem {c : Char} (h : c ∈ [',', ']', '\x7d']) (s : List Char) : Ended (c :: s) := by
  refine Ended.cons ?_
  simp only [List.mem_cons, List.not_mem_nil, or_false] at h
  rcases h with rfl | rfl | rfl <;> decide

theorem elements_print {item : τ → Reader τ} {js : List Json} {acc acc' : τ} {fuel : Nat}
    (h : FoldsItems item acc js acc') (hfuel : js.length < fuel) (rest : List Char) :
    elements item fuel true acc (printItems js ++ rest) = .ok (acc', rest) := by
  induction js generalizing acc fuel with
  | nil =>
    obtain ⟨fuel, rfl⟩ := Nat.exists_eq_add_one.mpr hfuel
    cases h
    rfl
  | cons j js ih =>
    obtain ⟨fuel, rfl⟩ := Nat.exists_eq_add_one.mpr (Nat.zero_lt_of_lt hfuel)
    obtain ⟨mid, hitem, hjs⟩ := h
    have hfuel : js.length < fuel := Nat.lt_of_succ_lt_succ hfuel
    obtain ⟨c, s, hprint, hspace, hclose⟩ := exists_print_cons j
    have hstep : ∀ tail, Ended tail →
        elements item (fuel + 1) true acc (j.print ++ tail) =
          elements item fuel false mid tail := by
      intro tail htail
      have hread := hitem tail htail
      rw [hprint, List.cons_append] at hread ⊢
      exact elements_first hspace hclose hread
    cases js with
    | nil =>
      cases hjs
      obtain ⟨fuel, rfl⟩ := Nat.exists_eq_add_one.mpr hfuel
      rw [printItems, List.append_assoc, List.singleton_append,
        hstep _ (ended_of_mem (by decide) rest), elements_close]
    | cons k ks =>
      have hread := ih hjs hfuel
      obtain ⟨fuel, rfl⟩ := Nat.exists_eq_add_one.mpr (Nat.zero_lt_of_lt hfuel)
      obtain ⟨d, t, hnext, hspace, hclose⟩ := exists_printItems_cons k ks
      rw [printItems, List.append_assoc, List.cons_append, hstep _ (ended_of_mem (by decide) _),
        hnext, List.cons_append, elements_comma hspace hclose, ← List.cons_append, ← hnext, hread]
      exact fun h => List.cons_ne_nil k ks h

theorem members_close {member : τ → String → Reader τ} {fuel : Nat} (first : Bool) (acc : τ)
    (rest : List Char) :
    members member (fuel + 1) first acc ('\x7d' :: rest) = .ok (acc, rest) := rfl

theorem members_first {member : τ → String → Reader τ} {fuel : Nat} {acc mid : τ} {k : String}
    {s rest : List Char} (hmember : member acc k s = .ok (mid, rest)) :
    members member (fuel + 1) true acc (printString k ++ s) =
      members member fuel false mid rest := by
  rw [printString_append, members, membersBy, skipSpace_cons rfl]
  split
  · exact absurd ‹_› (List.cons_ne_nil _ _)
  · exact absurd (List.head_eq_of_cons_eq ‹_›) (by decide)
  · obtain ⟨rfl, rfl⟩ := List.cons.inj ‹_›
    simp only [if_true, beq_self_eq_true, stringRest_printed, hmember]

theorem members_comma {member : τ → String → Reader τ} {fuel : Nat} {acc : τ} (s : List Char) :
    members member (fuel + 1) false acc (',' :: '"' :: s) =
      members member (fuel + 1) true acc ('"' :: s) := rfl

theorem exists_printMembers_cons (m : String × Json) (ms : List (String × Json)) :
    ∃ s, printMembers (m :: ms) = '"' :: s := by
  have hquote : ∀ t, ∃ s, printString m.1 ++ t = '"' :: s := fun t => ⟨_, printString_append m.1 t⟩
  cases ms with
  | nil =>
    rw [printMembers, List.append_assoc]
    exact hquote _
  | cons n ns =>
    rw [printMembers, List.append_assoc]
    · exact hquote _
    · exact fun h => List.cons_ne_nil n ns h

/-- Folding `member` over printed values behind their names leads from `acc` to `acc'`. -/
def FoldsMembers (member : τ → String → Reader τ) (acc : τ) : List (String × Json) → τ → Prop
  | [], acc' => acc = acc'
  | (k, j) :: ms, acc' =>
    ∃ mid, (∀ rest, Ended rest → member acc k (':' :: (j.print ++ rest)) = .ok (mid, rest)) ∧
      FoldsMembers member mid ms acc'

theorem members_print {member : τ → String → Reader τ} {ms : List (String × Json)} {acc acc' : τ}
    {fuel : Nat} (h : FoldsMembers member acc ms acc') (hfuel : ms.length < fuel)
    (rest : List Char) :
    members member fuel true acc (printMembers ms ++ rest) = .ok (acc', rest) := by
  induction ms generalizing acc fuel with
  | nil =>
    obtain ⟨fuel, rfl⟩ := Nat.exists_eq_add_one.mpr hfuel
    cases h
    rfl
  | cons m ms ih =>
    obtain ⟨k, j⟩ := m
    obtain ⟨fuel, rfl⟩ := Nat.exists_eq_add_one.mpr (Nat.zero_lt_of_lt hfuel)
    obtain ⟨mid, hmember, hms⟩ := h
    have hfuel : ms.length < fuel := Nat.lt_of_succ_lt_succ hfuel
    have hstep : ∀ tail, Ended tail →
        members member (fuel + 1) true acc (printString k ++ ':' :: j.print ++ tail) =
          members member fuel false mid tail := by
      intro tail htail
      rw [List.append_assoc, List.cons_append, members_first (hmember tail htail)]
    cases ms with
    | nil =>
      cases hms
      obtain ⟨fuel, rfl⟩ := Nat.exists_eq_add_one.mpr hfuel
      rw [printMembers, List.append_assoc, List.singleton_append,
        hstep _ (ended_of_mem (by decide) rest), members_close]
    | cons m ms =>
      have hread := ih hms hfuel
      obtain ⟨fuel, rfl⟩ := Nat.exists_eq_add_one.mpr (Nat.zero_lt_of_lt hfuel)
      obtain ⟨s, hnext⟩ := exists_printMembers_cons m ms
      rw [printMembers, List.append_assoc, List.cons_append, hstep _ (ended_of_mem (by decide) _),
        hnext, List.cons_append, members_comma, ← List.cons_append, ← hnext, hread]
      exact fun h => List.cons_ne_nil m ms h

end Folding

theorem foldsItems_consItem {depth : Nat} {js : List Json} (h : ∀ j ∈ js, j.ReadsOff depth)
    (acc : List Json) : FoldsItems (consItem (value depth)) acc js (js.reverse ++ acc) := by
  induction js generalizing acc with
  | nil => rfl
  | cons j js ih =>
    obtain ⟨hj, hjs⟩ := List.forall_mem_cons.mp h
    refine ⟨j :: acc, fun rest hrest => by rw [consItem, hj rest hrest], ?_⟩
    rw [List.reverse_cons, List.append_assoc, List.singleton_append]
    exact ih hjs (j :: acc)

theorem consMember_print {read : Reader Json} {j j' : Json} {rest : List Char}
    (h : read (j.print ++ rest) = .ok (j', rest)) (acc : List (String × Json)) (k : String) :
    consMember read acc k (':' :: (j.print ++ rest)) = .ok ((k, j') :: acc, rest) := by
  have hcolon : colon (':' :: (j.print ++ rest)) = .ok ((), j.print ++ rest) := rfl
  rw [consMember, hcolon]
  simp only [h]

theorem foldsMembers_consMember {depth : Nat} {ms : List (String × Json)}
    (h : ∀ m ∈ ms, m.2.ReadsOff depth) (acc : List (String × Json)) :
    FoldsMembers (consMember (value depth)) acc ms (ms.reverse ++ acc) := by
  induction ms generalizing acc with
  | nil => rfl
  | cons m ms ih =>
    obtain ⟨hm, hms⟩ := List.forall_mem_cons.mp h
    refine ⟨m :: acc, fun rest hrest => consMember_print (hm rest hrest) acc m.1, ?_⟩
    rw [List.reverse_cons, List.append_assoc, List.singleton_append]
    exact ih hms (m :: acc)

theorem length_le_printItems (js : List Json) : js.length ≤ (printItems js).length := by
  induction js with
  | nil => exact Nat.zero_le _
  | cons j js ih =>
    obtain ⟨c, s, hprint, -⟩ := exists_print_cons j
    cases js with
    | nil => simp [printItems, hprint]
    | cons k ks =>
      simp only [printItems, hprint, List.length_append, List.length_cons] at ih ⊢
      omega

theorem length_le_printMembers (ms : List (String × Json)) :
    ms.length ≤ (printMembers ms).length := by
  induction ms with
  | nil => exact Nat.zero_le _
  | cons m ms ih =>
    cases ms with
    | nil =>
      simp only [printMembers, List.length_append, List.length_cons, List.length_nil]
      omega
    | cons n ns =>
      simp only [printMembers, List.length_append, List.length_cons] at ih ⊢
      omega

theorem readsOff_array {depth : Nat} {js : List Json} (h : ∀ j ∈ js, j.ReadsOff depth) :
    (array js).ReadsOff (depth + 1) := by
  intro rest _
  have hfuel : js.length < (printItems js ++ rest).length + 1 := by
    have := length_le_printItems js
    rw [List.length_append]
    omega
  rw [print, List.cons_append, value, skipSpace_cons rfl]
  simp only [elements_print (foldsItems_consItem h []) hfuel rest, List.append_nil,
    List.reverse_reverse]

theorem readsOff_object {depth : Nat} {ms : List (String × Json)}
    (h : ∀ m ∈ ms, m.2.ReadsOff depth) : (object ms).ReadsOff (depth + 1) := by
  intro rest _
  have hfuel : ms.length < (printMembers ms ++ rest).length + 1 := by
    have := length_le_printMembers ms
    rw [List.length_append]
    omega
  rw [print, List.cons_append, value, skipSpace_cons rfl]
  simp only [members_print (foldsMembers_consMember h []) hfuel rest, List.append_nil,
    List.reverse_reverse]

theorem numeral_print_int (i : Int) : Numeral (int i).print := by
  rw [print]
  exact numeral_intDigits i

theorem numeral_print_float {x : Decimal.Binary64} (h : x.isFinite = true) :
    Numeral (float x).print := by
  rw [print, printFloat, if_pos h]
  exact numeral_writeFinite x

/-- Without a finite value it would be read back as null. -/
theorem isFinite_of_rereads {x : Decimal.Binary64} (h : (float x).Rereads) : x.isFinite = true := by
  cases hx : x.isFinite with
  | true => rfl
  | false =>
    have hnull : compact (float x) = compact null := by
      simp only [compact, print, printFloat, hx, Bool.false_eq_true, if_false]
    have hread : parse (compact null) = .ok null := rfl
    rw [Rereads, hnull, hread] at h
    exact absurd (Except.ok.inj h) (by simp)

mutual

theorem readsOff : ∀ (j : Json) {depth : Nat}, j.Leaves Rereads → j.height ≤ depth →
    j.ReadsOff depth
  | null, depth, _, _ => fun _ _ => value_of_ne rfl (by decide) (by decide) depth _
  | bool true, depth, _, _ => fun _ _ => value_of_ne rfl (by decide) (by decide) depth _
  | bool false, depth, _, _ => fun _ _ => value_of_ne rfl (by decide) (by decide) depth _
  | int i, depth, h, _ => fun rest hrest =>
    Numeral.value_print (numeral_print_int i) h depth hrest
  | float x, depth, h, _ => fun rest hrest =>
    Numeral.value_print (numeral_print_float (isFinite_of_rereads h)) h depth hrest
  | string s, depth, _, _ => readsOff_string s depth
  | array items, depth, h, hheight => by
    obtain ⟨depth, rfl⟩ : ∃ d, depth = d + 1 := ⟨depth - 1, by rw [height] at hheight; omega⟩
    exact readsOff_array (itemsReadOff items h (Nat.le_of_succ_le_succ hheight))
  | object members, depth, h, hheight => by
    obtain ⟨depth, rfl⟩ : ∃ d, depth = d + 1 := ⟨depth - 1, by rw [height] at hheight; omega⟩
    exact readsOff_object (membersReadOff members h (Nat.le_of_succ_le_succ hheight))

theorem itemsReadOff : ∀ (js : List Json) {depth : Nat}, ItemLeaves Rereads js →
    itemsHeight js ≤ depth → ∀ j ∈ js, j.ReadsOff depth
  | [], _, _, _ => List.forall_mem_nil _
  | j :: js, _, h, hheight => List.forall_mem_cons.mpr
    ⟨readsOff j h.1 (Nat.le_trans (Nat.le_max_left _ _) hheight),
      itemsReadOff js h.2 (Nat.le_trans (Nat.le_max_right _ _) hheight)⟩

theorem membersReadOff : ∀ (ms : List (String × Json)) {depth : Nat}, MemberLeaves Rereads ms →
    membersHeight ms ≤ depth → ∀ m ∈ ms, m.2.ReadsOff depth
  | [], _, _, _ => List.forall_mem_nil _
  | (_, j) :: ms, _, h, hheight => List.forall_mem_cons.mpr
    ⟨readsOff j h.1 (Nat.le_trans (Nat.le_max_left _ _) hheight),
      membersReadOff ms h.2 (Nat.le_trans (Nat.le_max_right _ _) hheight)⟩

end

/-- What is not nested too deep is read back when each value in it that holds no others is. -/
theorem rereads_of_leaves {j : Json} (h : j.Leaves Rereads) (hheight : j.height ≤ maxDepth) :
    j.Rereads :=
  (readsOff j h hheight).rereads

theorem rereads_int {i : Int} (h : (int i).InRange) : (int i).Rereads := by
  rw [Rereads, parse, compact, String.toList_ofList, print]
  refine complete_eq_ok.mpr ⟨[], ?_, rfl⟩
  have hvalue := (numeral_intDigits i).value_append maxDepth []
  rw [List.append_nil] at hvalue
  rw [hvalue, scalar_intDigits h]

theorem rereads_null : null.Rereads := rfl

theorem rereads_bool (b : Bool) : (bool b).Rereads := by
  cases b <;> rfl

/-- Each value in `j` that holds no others is read back, and containers are nested at most `n`
deep. -/
structure Fits (n : Nat) (j : Json) : Prop where
  leaves : j.Leaves Rereads
  height_le : j.height ≤ n

theorem Fits.mono {n m : Nat} {j : Json} (h : j.Fits n) (hle : n ≤ m) : j.Fits m :=
  ⟨h.leaves, Nat.le_trans h.height_le hle⟩

theorem Fits.rereads {n : Nat} {j : Json} (h : j.Fits n) (hn : n ≤ maxDepth) : j.Rereads :=
  rereads_of_leaves h.leaves (Nat.le_trans h.height_le hn)

theorem fits_string (s : String) : (string s).Fits 0 := ⟨rereads_string s, Nat.zero_le _⟩

theorem fits_array {n : Nat} {js : List Json} (h : ∀ j ∈ js, j.Fits n) : (array js).Fits (n + 1) :=
  ⟨itemLeaves_iff.mpr fun j hj => (h j hj).leaves,
    Nat.succ_le_succ (itemsHeight_le fun j hj => (h j hj).height_le)⟩

theorem fits_object {n : Nat} {ms : List (String × Json)} (h : ∀ m ∈ ms, m.2.Fits n) :
    (object ms).Fits (n + 1) :=
  ⟨memberLeaves_iff.mpr fun m hm => (h m hm).leaves,
    Nat.succ_le_succ (membersHeight_le fun m hm => (h m hm).height_le)⟩

end CommandBridge.Json
