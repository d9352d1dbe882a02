import CommandBridge.Proofs.Command.Literal

/-! Which values are restored from their display: those, and only those, that some literal stands
for. -/
namespace CommandBridge.Command

open Text

theorem quotes_mem_of_not_quotable {s : String} (h : ¬ Quotable s) {q : Char}
    (hq : isQuote q = true) : q ∈ s.toList := by
  obtain ⟨hsingle, hdouble⟩ := not_or.mp h
  rcases (Bool.or_eq_true _ _).mp hq with hq | hq
  · obtain rfl := beq_iff_eq.mp hq
    exact Decidable.not_not.mp hsingle
  · obtain rfl := beq_iff_eq.mp hq
    exact Decidable.not_not.mp hdouble

theorem quote_of_not_quotable {s : String} (h : ¬ Quotable s) :
    quote s.toList = '"' :: s.toList ++ ['"'] := by
  have hs : '\'' ∈ s.toList := quotes_mem_of_not_quotable h rfl
  simp [quote, hs]

theorem needsQuotes_of_not_quotable {s : String} (h : ¬ Quotable s) :
    needsQuotes s.toList = true := by
  have hs : '\'' ∈ s.toList := quotes_mem_of_not_quotable h rfl
  have hany : s.toList.any (fun c => isBlank c || c == ',' || c == '|' || isQuote c) = true :=
    List.any_eq_true.mpr ⟨'\'', hs, rfl⟩
  rw [needsQuotes, hany, Bool.or_true]

/-- Text that begins one character late what it begins as well is that character over and over. -/
theorem eq_of_prefix_cons {s t : List Char} {c : Char} (h : s <+: c :: (s ++ t)) :
    ∀ d ∈ s, d = c := by
  induction s generalizing c with
  | nil => exact fun d hd => nomatch hd
  | cons a s ih =>
    obtain ⟨rfl, hrest⟩ := List.cons_prefix_cons.mp h
    exact List.forall_mem_cons.mpr ⟨rfl, ih hrest⟩

theorem prefix_of_pieces {isSeparator : Char → Bool} {q : Option Char} {s p : List Char}
    {ps : List (List Char)} (h : pieces isSeparator q s = p :: ps) : p <+: s := by
  induction s generalizing q p ps with
  | nil =>
    obtain ⟨rfl, -⟩ := List.cons.inj h
    exact List.nil_prefix
  | cons c s ih =>
    cases hc : q.isNone && isSeparator c with
    | true =>
      obtain ⟨hq, hc⟩ := (Bool.and_eq_true _ _).mp hc
      obtain rfl := Option.isNone_iff_eq_none.mp hq
      rw [pieces_separator hc] at h
      obtain ⟨rfl, -⟩ := List.cons.inj h
      exact List.nil_prefix
    | false =>
      rw [pieces_cons hc] at h
      cases hp : pieces isSeparator (quoteAfter q c) s with
      | nil => exact absurd hp (pieces_ne_nil _ _ _)
      | cons p' ps' =>
        rw [hp] at h
        obtain ⟨rfl, -⟩ := List.cons.inj h
        exact List.cons_prefix_cons.mpr ⟨rfl, ih hp⟩

theorem trim_prefix {c : Char} (hc : isBlank c = false) (s : List Char) :
    trim (c :: s) <+: c :: s := by
  rw [trim, List.dropWhile_cons_of_neg (by simp [hc]), trimEnd, dropEndWhile]
  exact List.reverse_suffix.mp (by simpa using List.dropWhile_suffix _)

/-- A text with both kinds of quote is no item where it stands in quotes: the quote before it would
have to be its own first character, and so would every character of it. -/
theorem unquote_ne_of_not_quotable {s : String} (h : ¬ Quotable s) {p z : List Char}
    (hp : '"' :: p <+: quote s.toList ++ z) : unquote (trim ('"' :: p)) ≠ s.toList := by
  intro hs
  cases hstrip : stripQuotes? (trim ('"' :: p)) with
  | some t =>
    obtain ⟨q, hq, hmem, -⟩ := stripQuotes?_eq_some_iff.mp hstrip
    rw [unquote, hstrip, Option.getD_some] at hs
    exact hmem (hs ▸ quotes_mem_of_not_quotable h hq)
  | none =>
    rw [unquote, hstrip, Option.getD_none] at hs
    have hprefix : s.toList <+: '"' :: p := hs ▸ trim_prefix rfl p
    have hlate : s.toList <+: '"' :: (s.toList ++ '"' :: z) := by
      have hwhole := hprefix.trans hp
      rwa [quote_of_not_quotable h, List.append_assoc] at hwhole
    have hsingle : '\'' ∈ s.toList := quotes_mem_of_not_quotable h rfl
    exact absurd (eq_of_prefix_cons hlate _ hsingle) (by decide)

theorem splitList_ne_cons {s : String} (h : ¬ Quotable s) (z : List Char) (rest : List String) :
    splitList (quote s.toList ++ z) ≠ s :: rest := by
  intro hs
  have hquote : quote s.toList ++ z = '"' :: (s.toList ++ '"' :: z) := by
    simp [quote_of_not_quotable h]
  obtain ⟨p, ps, hp⟩ : ∃ p ps, pieces isComma none (quote s.toList ++ z) = ('"' :: p) :: ps := by
    rw [hquote, pieces_cons (by decide)]
    cases hp : pieces isComma (quoteAfter none '"') (s.toList ++ '"' :: z) with
    | nil => exact absurd hp (pieces_ne_nil _ _ _)
    | cons p ps => exact ⟨p, ps, rfl⟩
  have hitem : listItem? ('"' :: p) = some (String.ofList (unquote (trim ('"' :: p)))) :=
    listItem?_of_mem List.mem_cons_self rfl
  rw [splitList, hp, List.filterMap_cons_some hitem] at hs
  obtain ⟨hs, -⟩ := List.cons.inj hs
  refine unquote_ne_of_not_quotable h (prefix_of_pieces hp) ?_
  rw [← hs, String.toList_ofList]

/-- A list is read back item by item, so the first text that no quote can hold is where the reading
departs from it. -/
theorem quotable_of_splitList {items : List String}
    (h : splitList ([','].intercalate (items.map printItem)) = items) :
    ∀ s ∈ items, Quotable s := by
  induction items with
  | nil => exact fun s hs => nomatch hs
  | cons s items ih =>
    have hs : Quotable s := Decidable.byContradiction fun hn => by
      obtain ⟨z, hz⟩ : ∃ z, [','].intercalate ((s :: items).map printItem) =
          quote s.toList ++ z := by
        have hprint : printItem s = quote s.toList := by
          rw [printItem, if_pos (needsQuotes_of_not_quotable hn)]
        rw [List.map_cons, hprint]
        cases items.map printItem with
        | nil => exact ⟨[], by simp⟩
        | cons u us => exact ⟨[','] ++ [','].intercalate (u :: us), by
            rw [List.intercalate_cons_cons, List.append_assoc]⟩
      exact splitList_ne_cons hn z items (hz ▸ h)
    refine List.forall_mem_cons.mpr ⟨hs, ?_⟩
    cases items with
    | nil => exact fun u hu => nomatch hu
    | cons u items =>
      have hshows := shows_printItem hs
      rw [List.map_cons, List.map_cons, List.intercalate_cons_cons, List.append_assoc,
        List.singleton_append, splitList_comma (hshows.whole separates_comma),
        hshows.listItem?] at h
      exact ih (List.cons.inj h).2

theorem displayable_of_list {items : List String}
    (h : literal (Value.list items).print = .list items) : (Value.list items).Displayable := by
  obtain ⟨hcomma, hsplit⟩ := list_of_literal h
  rw [Value.print_list] at hcomma hsplit
  cases items with
  | nil => exact absurd hcomma (by decide)
  | cons s rest =>
    rw [(firm_printItems [','] (List.cons_ne_nil s rest)).trim] at hcomma hsplit
    have hquotable := quotable_of_splitList hsplit.symm
    refine ⟨?_, hquotable⟩
    cases rest with
    | nil =>
      have hwhole := (shows_printItem (hquotable s List.mem_cons_self)).whole separates_comma
      simp [hasComma, hwhole.single] at hcomma
    | cons u rest => simp

theorem displayable_of_string {s : String}
    (h : literal (Value.string s).print = .string s) : (Value.string s).Displayable := by
  refine Decidable.byContradiction fun hn => ?_
  have hprint : printString s = '"' :: s.toList ++ ['"'] := by
    rw [printString, needsQuotes_of_not_quotable hn, Bool.true_or, if_pos rfl,
      quote_of_not_quotable hn]
  have hstrip : stripQuotes? ('"' :: s.toList ++ ['"']) = none := by
    simp [stripQuotes?, quotes_mem_of_not_quotable hn (q := '"') rfl]
  have hmem : '"' ∈ '"' :: s.toList ++ ['"'] := List.mem_cons_self
  rw [Value.print_string, hprint, literal, (firm_quoted rfl s.toList).trim,
    literalOfTrimmed_of_mem hmem (by decide), hstrip] at h
  dsimp only at h
  split at h
  · cases h
  · cases hread : Decimal.readInt64? ('"' :: s.toList ++ ['"']) with
    | some n =>
      rw [hread] at h
      cases h
    | none =>
      -- the text that is read has its quotes still on
      rw [hread] at h
      have hlength := congrArg List.length (congrArg String.toList (Value.string.inj h))
      simp only [String.toList_ofList, List.length_append, List.length_cons,
        List.length_nil] at hlength
      omega

/-- A value is restored from its display if and only if it is no list of fewer than two items and
holds no text with both kinds of quote. -/
theorem ofText_display_iff (v : Value) : Value.ofText v.display = v ↔ v.Displayable := by
  rw [Value.ofText, Value.display, String.toList_ofList]
  constructor
  · intro h
    cases v with
    | null | bool | int => trivial
    | string s => exact displayable_of_string h
    | list items => exact displayable_of_list h
  · exact literal_print

example : (Value.string "+7").display = "'+7'" ∧ (Value.list ["", "-1"]).display = "'','-1'" ∧
    Value.ofText (Value.int Int64.minValue).display = .int Int64.minValue := by decide +kernel

end CommandBridge.Command
