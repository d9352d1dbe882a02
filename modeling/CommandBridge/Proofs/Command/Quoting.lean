import CommandBridge.Command.Quoting

/-! Text cut at the separators that stand outside quotes, and quotes taken off. -/
namespace CommandBridge.Command

/-- Text whose quotes are closed and that holds no separator outside them. -/
structure Whole (isSeparator : Char → Bool) (s : List Char) : Prop where
  single : pieces isSeparator none s = [s]
  shut : openQuote none s = none

instance (isSeparator : Char → Bool) (s : List Char) : Decidable (Whole isSeparator s) :=
  decidable_of_iff (pieces isSeparator none s = [s] ∧ openQuote none s = none)
    ⟨fun h => ⟨h.1, h.2⟩, fun h => ⟨h.single, h.shut⟩⟩

section
variable {isSeparator isOther : Char → Bool} {q : Option Char} {c : Char} {s t l : List Char}
variable {ps : List (List Char)}

theorem pieces_cons (h : (q.isNone && isSeparator c) = false) :
    pieces isSeparator q (c :: s) =
      (pieces isSeparator (quoteAfter q c) s).modifyHead (c :: ·) := by
  rw [pieces, if_neg (by simp [h])]
  cases hp : pieces isSeparator (quoteAfter q c) s with
  | nil => exact absurd hp (pieces_ne_nil _ _ _)
  | cons p ps => rfl

theorem pieces_separator (h : isSeparator c = true) :
    pieces isSeparator none (c :: s) = [] :: pieces isSeparator none s := by
  simp [pieces, h]

theorem pieces_single_cons : pieces isSeparator q (c :: s) = [c :: s] ↔
    (q.isNone && isSeparator c) = false ∧ pieces isSeparator (quoteAfter q c) s = [s] := by
  cases hc : q.isNone && isSeparator c with
  | true => simp [pieces, hc]
  | false =>
    rw [pieces_cons hc]
    cases hp : pieces isSeparator (quoteAfter q c) s with
    | nil => simp
    | cons p ps => simp

theorem pieces_append (hs : pieces isSeparator q s = [s]) :
    pieces isSeparator q (s ++ t) =
      (pieces isSeparator (openQuote q s) t).modifyHead (s ++ ·) := by
  induction s generalizing q with
  | nil => exact (congrFun List.modifyHead_id _).symm
  | cons c s ih =>
    obtain ⟨hc, hs⟩ := pieces_single_cons.mp hs
    rw [List.cons_append, pieces_cons hc, ih hs, List.modifyHead_modifyHead]
    rfl

theorem Whole.append (hs : Whole isSeparator s) (ht : Whole isSeparator t) :
    Whole isSeparator (s ++ t) where
  single := by simp [pieces_append hs.single, hs.shut, ht.single]
  shut := by rw [openQuote_append, hs.shut, ht.shut]

theorem whole_nil : Whole isSeparator [] := ⟨rfl, rfl⟩

theorem whole_singleton (hc : isSeparator c = false) (hq : isQuote c = false) :
    Whole isSeparator [c] := ⟨by simp [pieces, hc], by simp [quoteAfter, hq]⟩

theorem whole_of_forall (h : ∀ c ∈ s, isSeparator c = false ∧ isQuote c = false) :
    Whole isSeparator s := by
  induction s with
  | nil => exact whole_nil
  | cons c s ih =>
    obtain ⟨hc, hs⟩ := List.forall_mem_cons.mp h
    exact (whole_singleton hc.1 hc.2).append (ih hs)

/-- Between quotes nothing separates. -/
theorem pieces_inside {q : Char} (h : q ∉ s) : pieces isSeparator (some q) s = [s] ∧
    openQuote (some q) s = some q := by
  induction s with
  | nil => exact ⟨rfl, rfl⟩
  | cons c s ih =>
    simp only [List.mem_cons, not_or] at h
    obtain ⟨hp, ho⟩ := ih h.2
    have hq : quoteAfter (some q) c = some q := by simp [quoteAfter, Ne.symm h.1]
    exact ⟨by simp [pieces_cons, hq, hp], by rw [openQuote_cons, hq, ho]⟩

theorem whole_quoted {q : Char} (hq : isQuote q = true) (hs : isSeparator q = false)
    (h : q ∉ s) : Whole isSeparator (q :: s ++ [q]) := by
  obtain ⟨hp, ho⟩ : pieces isSeparator (some q) s = [s] ∧ openQuote (some q) s = some q :=
    pieces_inside h
  have hopen : quoteAfter none q = some q := by simp [quoteAfter, hq]
  refine ⟨?_, ?_⟩
  · rw [List.cons_append, pieces_cons (by simp [hs]), hopen, pieces_append hp, ho]
    simp [pieces]
  · rw [List.cons_append, openQuote_cons, hopen, openQuote_append, ho]
    simp [quoteAfter]

/-- A separator outside quotes cuts the text in two. -/
theorem pieces_append_separator (hsep : ∀ c, isSeparator c = true → isQuote c = false)
    (hs : openQuote q s = none) (hc : isSeparator c = true) :
    pieces isSeparator q (s ++ c :: t) = pieces isSeparator q s ++ pieces isSeparator none t := by
  induction s generalizing q with
  | nil =>
    obtain rfl : q = none := hs
    exact pieces_separator hc
  | cons d s ih =>
    rw [openQuote_cons] at hs
    cases hd : q.isNone && isSeparator d with
    | true =>
      obtain ⟨hq, hd⟩ := (Bool.and_eq_true _ _).mp hd
      obtain rfl := Option.isNone_iff_eq_none.mp hq
      have hafter : quoteAfter none d = none := by simp [quoteAfter, hsep d hd]
      rw [hafter] at hs
      rw [List.cons_append, pieces_separator hd, pieces_separator hd, ih hs]
      rfl
    | false =>
      rw [List.cons_append, pieces_cons hd, pieces_cons hd, ih hs]
      cases hp : pieces isSeparator (quoteAfter q d) s with
      | nil => exact absurd hp (pieces_ne_nil _ _ _)
      | cons p ps => rfl

theorem Whole.pieces_separator (hs : Whole isSeparator s)
    (hsep : ∀ c, isSeparator c = true → isQuote c = false) (hc : isSeparator c = true) :
    pieces isSeparator none (s ++ c :: t) = s :: pieces isSeparator none t := by
  rw [pieces_append_separator hsep hs.shut hc, hs.single]
  rfl

/-! ### What the pieces hold -/

/-- What is in one piece with the text after it is so without that text. -/
theorem pieces_single_of_append (h : pieces isSeparator q (s ++ t) = [s ++ t]) :
    pieces isSeparator q s = [s] := by
  induction s generalizing q with
  | nil => rfl
  | cons c s ih =>
    obtain ⟨hc, hs⟩ := pieces_single_cons.mp h
    exact pieces_single_cons.mpr ⟨hc, ih hs⟩

theorem quoteAfter_separator (hsep : ∀ c, isSeparator c = true → isQuote c = false)
    (hc : (q.isNone && isSeparator c) = true) : q = none ∧ quoteAfter q c = none := by
  obtain ⟨hq, hc⟩ := (Bool.and_eq_true _ _).mp hc
  obtain rfl := Option.isNone_iff_eq_none.mp hq
  exact ⟨rfl, by simp [quoteAfter, hsep c hc]⟩

/-- No piece is cut further, or leaves a quote open, if the whole text leaves none open. -/
theorem pieces_whole (hsep : ∀ c, isSeparator c = true → isQuote c = false)
    (h : openQuote q s = none) : ∃ p ps, pieces isSeparator q s = p :: ps ∧
      pieces isSeparator q p = [p] ∧ openQuote q p = none ∧ ∀ t ∈ ps, Whole isSeparator t := by
  induction s generalizing q with
  | nil => exact ⟨[], [], rfl, rfl, h, by simp⟩
  | cons c s ih =>
    rw [openQuote_cons] at h
    obtain ⟨p, ps, hp, hsingle, hshut, hps⟩ := ih h
    cases hc : q.isNone && isSeparator c with
    | true =>
      obtain ⟨rfl, hafter⟩ := quoteAfter_separator hsep hc
      rw [hafter] at hp hsingle hshut
      have hcut : isSeparator c = true := by simpa using hc
      refine ⟨[], p :: ps, by rw [pieces_separator hcut, hp], rfl, rfl, ?_⟩
      exact List.forall_mem_cons.mpr ⟨⟨hsingle, hshut⟩, hps⟩
    | false =>
      refine ⟨c :: p, ps, by rw [pieces_cons hc, hp]; rfl, ?_, hshut, hps⟩
      exact pieces_single_cons.mpr ⟨hc, hsingle⟩

/-- What other separators do not cut they do not cut in the pieces either. -/
theorem pieces_single (hsep : ∀ c, isSeparator c = true → isQuote c = false)
    (h : pieces isOther q s = [s]) : ∃ p ps, pieces isSeparator q s = p :: ps ∧
      pieces isOther q p = [p] ∧ ∀ t ∈ ps, pieces isOther none t = [t] := by
  induction s generalizing q with
  | nil => exact ⟨[], [], rfl, rfl, by simp⟩
  | cons c s ih =>
    obtain ⟨ho, hs⟩ := pieces_single_cons.mp h
    obtain ⟨p, ps, hp, hsingle, hps⟩ := ih hs
    cases hc : q.isNone && isSeparator c with
    | true =>
      obtain ⟨rfl, hafter⟩ := quoteAfter_separator hsep hc
      rw [hafter] at hp hsingle
      have hcut : isSeparator c = true := by simpa using hc
      refine ⟨[], p :: ps, by rw [pieces_separator hcut, hp], rfl, ?_⟩
      exact List.forall_mem_cons.mpr ⟨hsingle, hps⟩
    | false =>
      refine ⟨c :: p, ps, by rw [pieces_cons hc, hp]; rfl, ?_, hps⟩
      exact pieces_single_cons.mpr ⟨ho, hsingle⟩

theorem whole_of_mem_pieces (hsep : ∀ c, isSeparator c = true → isQuote c = false)
    (h : openQuote none s = none) (ht : t ∈ pieces isSeparator none s) : Whole isSeparator t := by
  obtain ⟨p, ps, hp, hsingle, hshut, hps⟩ := pieces_whole hsep h
  rw [hp] at ht
  rcases List.mem_cons.mp ht with rfl | ht
  · exact ⟨hsingle, hshut⟩
  · exact hps t ht

theorem single_of_mem_pieces (hsep : ∀ c, isSeparator c = true → isQuote c = false)
    (h : pieces isOther none s = [s]) (ht : t ∈ pieces isSeparator none s) :
    pieces isOther none t = [t] := by
  obtain ⟨p, ps, hp, hsingle, hps⟩ := pieces_single hsep h
  rw [hp] at ht
  rcases List.mem_cons.mp ht with rfl | ht
  · exact hsingle
  · exact hps t ht

/-- Every character but a separator is in some piece. -/
theorem mem_pieces (hs : c ∈ s) (hc : isSeparator c = false) :
    ∃ t ∈ pieces isSeparator q s, c ∈ t := by
  induction s generalizing q with
  | nil => exact nomatch hs
  | cons d s ih =>
    cases hd : q.isNone && isSeparator d with
    | true =>
      obtain ⟨hq, hd⟩ := (Bool.and_eq_true _ _).mp hd
      obtain rfl := Option.isNone_iff_eq_none.mp hq
      have hne : c ≠ d := by
        rintro rfl
        exact Bool.false_ne_true (hc.symm.trans hd)
      obtain ⟨t, ht, hct⟩ := ih (q := none) (List.mem_of_ne_of_mem hne hs)
      exact ⟨t, by rw [pieces_separator hd]; exact List.mem_cons_of_mem _ ht, hct⟩
    | false =>
      rw [pieces_cons hd]
      cases hp : pieces isSeparator (quoteAfter q d) s with
      | nil => exact absurd hp (pieces_ne_nil _ _ _)
      | cons p ps =>
        rcases List.mem_cons.mp hs with rfl | hs
        · exact ⟨c :: p, List.mem_cons_self, List.mem_cons_self⟩
        · obtain ⟨t, ht, hct⟩ := ih (q := quoteAfter q d) hs
          rw [hp] at ht
          rcases List.mem_cons.mp ht with rfl | ht
          · exact ⟨d :: t, List.mem_cons_self, List.mem_cons_of_mem _ hct⟩
          · exact ⟨t, List.mem_cons_of_mem _ ht, hct⟩

theorem sublist_of_mem_pieces (ht : t ∈ pieces isSeparator q s) : t.Sublist s := by
  induction s generalizing q t with
  | nil =>
    obtain rfl := List.mem_singleton.mp ht
    exact .slnil
  | cons c s ih =>
    cases hc : q.isNone && isSeparator c with
    | true =>
      obtain ⟨hq, hc⟩ := (Bool.and_eq_true _ _).mp hc
      obtain rfl := Option.isNone_iff_eq_none.mp hq
      rw [pieces_separator hc] at ht
      rcases List.mem_cons.mp ht with rfl | ht
      · exact List.nil_sublist _
      · exact (ih ht).cons c
    | false =>
      rw [pieces_cons hc] at ht
      cases hp : pieces isSeparator (quoteAfter q c) s with
      | nil => exact absurd hp (pieces_ne_nil _ _ _)
      | cons p ps =>
        rw [hp] at ht
        rcases List.mem_cons.mp ht with rfl | ht
        · exact (ih (hp ▸ List.mem_cons_self)).cons_cons c
        · exact (ih (hp ▸ List.mem_cons_of_mem _ ht)).cons c

/-! ### The last piece -/

/-- What stands behind the last separator outside quotes, and the pieces before it. -/
structure Ends (isSeparator : Char → Bool) (s : List Char) (ps : List (List Char))
    (l : List Char) : Prop where
  single : pieces isSeparator none l = [l]
  quote : openQuote none s = openQuote none l
  cut : ∀ t, pieces isSeparator none (s ++ t) = ps ++ pieces isSeparator none (l ++ t)

theorem last_separator (hsep : ∀ c, isSeparator c = true → isQuote c = false) (q : Option Char)
    (s : List Char) : pieces isSeparator q s = [s] ∨ ∃ a c l, s = a ++ c :: l ∧
      isSeparator c = true ∧ openQuote q a = none ∧ pieces isSeparator none l = [l] := by
  induction s generalizing q with
  | nil => exact .inl rfl
  | cons d s ih =>
    cases hd : q.isNone && isSeparator d with
    | true =>
      obtain ⟨rfl, hafter⟩ := quoteAfter_separator hsep hd
      have hcut : isSeparator d = true := by simpa using hd
      rcases ih none with hs | ⟨a, c, l, rfl, hc, ha, hl⟩
      · exact .inr ⟨[], d, s, rfl, hcut, rfl, hs⟩
      · exact .inr ⟨d :: a, c, l, rfl, hc, by rwa [openQuote_cons, hafter], hl⟩
    | false =>
      rcases ih (quoteAfter q d) with hs | ⟨a, c, l, rfl, hc, ha, hl⟩
      · exact .inl (pieces_single_cons.mpr ⟨hd, hs⟩)
      · exact .inr ⟨d :: a, c, l, rfl, hc, ha, hl⟩

theorem exists_ends (hsep : ∀ c, isSeparator c = true → isQuote c = false) (s : List Char) :
    ∃ ps l, Ends isSeparator s ps l := by
  rcases last_separator hsep none s with hs | ⟨a, c, l, rfl, hc, ha, hl⟩
  · exact ⟨[], s, hs, rfl, fun t => rfl⟩
  · refine ⟨pieces isSeparator none a, l, hl, ?_, fun t => ?_⟩
    · rw [openQuote_append, ha, openQuote_cons]
      simp [quoteAfter, hsep c hc]
    · rw [List.append_assoc, List.cons_append, pieces_append_separator hsep ha hc]

theorem Ends.pieces_eq (h : Ends isSeparator s ps l) : pieces isSeparator none s = ps ++ [l] := by
  simpa [h.single] using h.cut []

/-- The piece that the text behind the end goes on with. -/
theorem Ends.append (h : Ends isSeparator s ps l) (t : List Char) :
    pieces isSeparator none (s ++ t) =
      ps ++ (pieces isSeparator (openQuote none s) t).modifyHead (l ++ ·) := by
  rw [h.cut, pieces_append h.single, h.quote]

theorem pieces_closing (q : Option Char) : pieces isSeparator q q.toList = [q.toList] := by
  cases q <;> simp [pieces]

theorem Ends.closed (h : Ends isSeparator s ps l) :
    pieces isSeparator none (closed s) = ps ++ [Command.closed l] := by
  rw [Command.closed, h.append, pieces_closing, Command.closed, h.quote]
  rfl

theorem head_of_pieces {p : List Char} (h : pieces isSeparator q s = p :: ps) :
    ∀ c ∈ p.head?, c ∈ s.head? := by
  cases s with
  | nil =>
    obtain ⟨rfl, -⟩ := List.cons.inj h
    exact fun c hc => hc
  | cons d s =>
    cases hd : q.isNone && isSeparator d with
    | true =>
      obtain ⟨hq, hd⟩ := (Bool.and_eq_true _ _).mp hd
      obtain rfl := Option.isNone_iff_eq_none.mp hq
      rw [pieces_separator hd] at h
      obtain ⟨rfl, -⟩ := List.cons.inj h
      exact fun c hc => nomatch hc
    | false =>
      rw [pieces_cons hd] at h
      cases hp : pieces isSeparator (quoteAfter q d) s with
      | nil => exact absurd hp (pieces_ne_nil _ _ _)
      | cons p' rest =>
        rw [hp] at h
        obtain ⟨rfl, -⟩ := List.cons.inj h
        exact fun c hc => hc

end

/-- A quote that is open at the end was open before, or stands in the text. -/
theorem openQuote_eq_some {q₀ : Option Char} {q : Char} {s : List Char}
    (h : openQuote q₀ s = some q) : q₀ = some q ∨ q ∈ s ∧ isQuote q = true := by
  induction s generalizing q₀ with
  | nil => exact .inl h
  | cons c s ih =>
    rcases ih h with hq | ⟨hq, hquote⟩
    · unfold quoteAfter at hq
      split at hq
      · split at hq
        · exact nomatch hq
        · exact .inl hq
      · split at hq
        · obtain rfl := Option.some.inj hq
          exact .inr ⟨List.mem_cons_self, ‹_›⟩
        · exact nomatch hq
    · exact .inr ⟨List.mem_cons_of_mem c hq, hquote⟩

theorem openQuote_closed (s : List Char) : openQuote none (closed s) = none := by
  rw [closed, openQuote_append]
  cases openQuote none s with
  | none => rfl
  | some q => simp [quoteAfter]

theorem stripQuotes?_eq_some_iff {s t : List Char} :
    stripQuotes? s = some t ↔ ∃ q, isQuote q = true ∧ q ∉ t ∧ s = q :: t ++ [q] := by
  constructor
  · intro h
    cases s with
    | nil => exact nomatch h
    | cons q s =>
      simp only [stripQuotes?, Option.ite_none_right_eq_some, Bool.and_eq_true, beq_iff_eq,
        Bool.not_eq_true', Option.some.injEq] at h
      obtain ⟨⟨⟨hq, hlast⟩, hinner⟩, rfl⟩ := h
      refine ⟨q, hq, by simpa using hinner, ?_⟩
      obtain ⟨t, rfl⟩ := List.getLast?_eq_some_iff.mp hlast
      simp
  · rintro ⟨q, hq, hinner, rfl⟩
    simp [stripQuotes?, hq, hinner]

theorem unquote_quoted {q : Char} {s : List Char} (hq : isQuote q = true) (h : q ∉ s) :
    unquote (q :: s ++ [q]) = s := by
  rw [unquote, stripQuotes?_eq_some_iff.mpr ⟨q, hq, h, rfl⟩]
  rfl

/-- Only a quote at the start of the text is taken off. -/
theorem stripQuotes?_of_head {c : Char} {s : List Char} (h : isQuote c = false) :
    stripQuotes? (c :: s) = none := by simp [stripQuotes?, h]

end CommandBridge.Command
