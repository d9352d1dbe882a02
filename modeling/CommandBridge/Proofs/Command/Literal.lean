import CommandBridge.Command.Printer
import CommandBridge.Proofs.Command.Quoting
import CommandBridge.Proofs.Decimal.Integer

/-! Printed values are literals for the same values. -/
namespace CommandBridge.Command

open Text

/-- Text that some quote can hold. -/
def Quotable (s : String) : Prop := '\'' ∉ s.toList ∨ '"' ∉ s.toList

instance (s : String) : Decidable (Quotable s) :=
  inferInstanceAs (Decidable ('\'' ∉ s.toList ∨ '"' ∉ s.toList))

/-- The values that a literal can stand for. A list of fewer than two items has no comma. -/
def Value.Displayable : Value → Prop
  | .string s => Quotable s
  | .list items => 2 ≤ items.length ∧ ∀ s ∈ items, Quotable s
  | _ => True

instance : DecidablePred Value.Displayable
  | .string s => inferInstanceAs (Decidable (Quotable s))
  | .list items => inferInstanceAs (Decidable (2 ≤ items.length ∧ ∀ s ∈ items, Quotable s))
  | .null | .bool _ | .int _ => isTrue trivial

@[simp] theorem Value.print_string (s : String) : (Value.string s).print = printString s := rfl

@[simp] theorem Value.print_list (items : List String) :
    (Value.list items).print = [','].intercalate (items.map printItem) := rfl

/-- White space, commas and bars are what separates. -/
def Separates (isSeparator : Char → Bool) : Prop :=
  ∀ c, isSeparator c = true → isBlank c = true ∨ c = ',' ∨ c = '|'

theorem separates_blank : Separates isBlank := fun _ h => .inl h

theorem separates_comma : Separates isComma := fun _ h => .inr (.inl (beq_iff_eq.mp h))

theorem separates_bar : Separates (· == '|') := fun _ h => .inr (.inr (beq_iff_eq.mp h))

theorem isBlank_of_isQuote {c : Char} (h : isQuote c = true) : isBlank c = false := by
  rcases (Bool.or_eq_true _ _).mp h with h | h
  · obtain rfl := beq_iff_eq.mp h
    decide
  · obtain rfl := beq_iff_eq.mp h
    decide

theorem Separates.not_quote {isSeparator : Char → Bool} (h : Separates isSeparator) (c : Char)
    (hc : isSeparator c = true) : isQuote c = false := by
  rw [Bool.eq_false_iff]
  intro hq
  rcases h c hc with hb | rfl | rfl
  · exact absurd hb (Bool.eq_false_iff.mp (isBlank_of_isQuote hq))
  · exact absurd hq (by decide)
  · exact absurd hq (by decide)

/-! ### Text without padding -/

/-- What may stand around an item or a value. -/
def isPadding (c : Char) : Bool := c == ',' || isBlank c

/-- Text that starts and ends with something else than padding. -/
structure Firm (s : List Char) : Prop where
  first : ∃ c, s.head? = some c ∧ isPadding c = false
  last : ∃ c, s.getLast? = some c ∧ isPadding c = false

theorem Firm.ne_nil {s : List Char} (h : Firm s) : s ≠ [] := by
  rintro rfl
  exact nomatch h.first

theorem Firm.around {s t : List Char} (hs : Firm s) (m : List Char) (ht : Firm t) :
    Firm (s ++ m ++ t) := by
  obtain ⟨c, hc, hfirst⟩ := hs.first
  obtain ⟨d, hd, hlast⟩ := ht.last
  exact ⟨⟨c, by simp [hc], hfirst⟩, ⟨d, by simp [hd], hlast⟩⟩

theorem Firm.intercalate (sep : List Char) {texts : List (List Char)} (hne : texts ≠ [])
    (h : ∀ t ∈ texts, Firm t) : Firm (sep.intercalate texts) := by
  induction texts with
  | nil => exact absurd rfl hne
  | cons t texts ih =>
    obtain ⟨ht, hrest⟩ := List.forall_mem_cons.mp h
    cases texts with
    | nil => simpa using ht
    | cons u texts =>
      rw [List.intercalate_cons_cons]
      exact ht.around sep (ih (List.cons_ne_nil _ _) hrest)

theorem firm_of_forall {s : List Char} (hne : s ≠ []) (h : ∀ c ∈ s, isPadding c = false) :
    Firm s where
  first := ⟨s.head hne, List.head?_eq_some_head hne, h _ (List.head_mem hne)⟩
  last := ⟨s.getLast hne, List.getLast?_eq_some_getLast hne, h _ (List.getLast_mem hne)⟩

theorem isPadding_of_isQuote {q : Char} (hq : isQuote q = true) : isPadding q = false := by
  have hcomma : q ≠ ',' := by
    rintro rfl
    exact absurd hq (by decide)
  simp [isPadding, hcomma, isBlank_of_isQuote hq]

theorem firm_quoted {q : Char} (hq : isQuote q = true) (s : List Char) : Firm (q :: s ++ [q]) where
  first := ⟨q, rfl, isPadding_of_isQuote hq⟩
  last := ⟨q, List.getLast?_concat, isPadding_of_isQuote hq⟩

theorem Firm.trim {s : List Char} (h : Firm s) : trim s = s := by
  obtain ⟨c, hc, hfirst⟩ := h.first
  obtain ⟨d, hd, hlast⟩ := h.last
  obtain ⟨t, rfl⟩ := List.head?_eq_some_iff.mp hc
  have hblank : isBlank c = false := (Bool.or_eq_false_iff.mp hfirst).2
  rw [Text.trim, List.dropWhile_cons_of_neg (by simp [hblank])]
  exact dropEndWhile_of_getLast? hd (Bool.or_eq_false_iff.mp hlast).2

theorem trim_blank {c : Char} (h : isBlank c = true) (s : List Char) : trim (c :: s) = trim s := by
  simp [trim, h]

theorem mem_dropWhile {p : Char → Bool} {c : Char} {s : List Char} (h : c ∈ s) (hc : p c = false) :
    c ∈ s.dropWhile p := by
  rw [← List.takeWhile_append_dropWhile (p := p) (l := s)] at h
  rcases List.mem_append.mp h with h | h
  · exact nomatch hc.symm.trans (List.all_eq_true.mp List.all_takeWhile c h)
  · exact h

theorem mem_trim {c : Char} {s : List Char} (h : c ∈ s) (hc : isBlank c = false) : c ∈ trim s := by
  rw [trim, trimEnd, dropEndWhile, List.mem_reverse]
  exact mem_dropWhile (List.mem_reverse.mpr (mem_dropWhile h hc)) hc

/-! ### Plain and quoted text -/

/-- A character that needs no quotes around it. -/
def isPlain (c : Char) : Bool := !(isBlank c || c == ',' || c == '|' || isQuote c)

theorem isPlain_iff {c : Char} :
    isPlain c = true ↔ isBlank c = false ∧ c ≠ ',' ∧ c ≠ '|' ∧ isQuote c = false := by
  simp [isPlain, and_assoc]

/-- Text that no quote is needed for, unless it reads as a literal for something else. -/
structure Plain (s : List Char) : Prop where
  ne_nil : s ≠ []
  all : s.all isPlain = true

theorem Plain.char {s : List Char} (h : Plain s) {c : Char} (hc : c ∈ s) :
    isBlank c = false ∧ c ≠ ',' ∧ c ≠ '|' ∧ isQuote c = false :=
  isPlain_iff.mp (List.all_eq_true.mp h.all c hc)

theorem Plain.whole {isSeparator : Char → Bool} {s : List Char} (h : Plain s)
    (hsep : Separates isSeparator) : Whole isSeparator s := by
  refine whole_of_forall fun c hc => ?_
  obtain ⟨hblank, hcomma, hbar, hquote⟩ := h.char hc
  refine ⟨?_, hquote⟩
  rw [Bool.eq_false_iff]
  intro hs
  rcases hsep c hs with hb | hb | hb
  · exact absurd hb (Bool.eq_false_iff.mp hblank)
  · exact hcomma hb
  · exact hbar hb

theorem Plain.firm {s : List Char} (h : Plain s) : Firm s := by
  refine firm_of_forall h.ne_nil fun c hc => ?_
  obtain ⟨hblank, hcomma, -, -⟩ := h.char hc
  simp [isPadding, hblank, hcomma]

theorem Plain.stripQuotes? {s : List Char} (h : Plain s) : stripQuotes? s = none := by
  cases s with
  | nil => exact absurd rfl h.ne_nil
  | cons c s => exact stripQuotes?_of_head (h.char List.mem_cons_self).2.2.2

theorem plain_of_needsQuotes {s : List Char} (h : needsQuotes s = false) : Plain s := by
  obtain ⟨hstart, hany⟩ := Bool.or_eq_false_iff.mp h
  obtain ⟨hne, -⟩ := Bool.or_eq_false_iff.mp hstart
  refine ⟨List.isEmpty_eq_false_iff.mp hne, List.all_eq_true.mpr fun c hc => ?_⟩
  rw [isPlain, Bool.not_eq_true']
  exact Bool.eq_false_iff.mpr (List.any_eq_false.mp hany c hc)

theorem plain_int64Digits (i : Int64) : Plain (Decimal.int64Digits i) where
  ne_nil := by
    obtain ⟨c, hc, -⟩ := Decimal.exists_isDigit_mem_int64Digits i
    exact List.ne_nil_of_mem hc
  all := by
    have hchars : "-0123456789".toList.all isPlain = true := by decide
    refine List.all_eq_true.mpr fun c hc => ?_
    exact List.all_eq_true.mp hchars c (Decimal.mem_int64Digits hc)

/-- The ways to show a text: as it is, or in a quote that it does not hold. -/
inductive Shows (s : List Char) : List Char → Prop where
  | bare (h : needsQuotes s = false) : Shows s s
  | quoted {q : Char} (hq : isQuote q = true) (h : q ∉ s) : Shows s (q :: s ++ [q])

theorem quote_eq {s : String} (h : Quotable s) :
    ∃ q, isQuote q = true ∧ q ∉ s.toList ∧ quote s.toList = q :: s.toList ++ [q] := by
  by_cases hs : '\'' ∈ s.toList
  · have hd : '"' ∉ s.toList := h.resolve_left fun hn => hn hs
    exact ⟨'"', rfl, hd, by simp [quote, hs]⟩
  · exact ⟨'\'', rfl, hs, by simp [quote, hs]⟩

theorem shows_quote {s : String} (h : Quotable s) : Shows s.toList (quote s.toList) := by
  obtain ⟨q, hq, hs, heq⟩ := quote_eq h
  exact heq ▸ .quoted hq hs

theorem shows_printItem {s : String} (h : Quotable s) : Shows s.toList (printItem s) := by
  rw [printItem]
  split
  · exact shows_quote h
  · rename_i hbare
    exact .bare (Bool.eq_false_iff.mpr hbare)

theorem shows_printString {s : String} (h : Quotable s) : Shows s.toList (printString s) := by
  rw [printString]
  split
  · exact shows_quote h
  · rename_i hbare
    simp only [Bool.or_eq_true, not_or] at hbare
    exact .bare (by simpa using hbare.1)

section
variable {s t : List Char}

theorem Shows.whole {isSeparator : Char → Bool} (h : Shows s t) (hsep : Separates isSeparator) :
    Whole isSeparator t := by
  cases h with
  | bare h => exact (plain_of_needsQuotes h).whole hsep
  | quoted hq h =>
    refine whole_quoted hq ?_ h
    rw [Bool.eq_false_iff]
    exact fun hs => absurd hq (Bool.eq_false_iff.mp (hsep.not_quote _ hs))

theorem Shows.firm (h : Shows s t) : Firm t := by
  cases h with
  | bare h => exact (plain_of_needsQuotes h).firm
  | quoted hq _ => exact firm_quoted hq s

theorem Shows.unquote (h : Shows s t) : unquote t = s := by
  cases h with
  | bare h => simp [Command.unquote, (plain_of_needsQuotes h).stripQuotes?]
  | quoted hq h => exact unquote_quoted hq h

/-- The text is one item of a list. -/
theorem Shows.listItem? (h : Shows s t) : listItem? t = some (String.ofList s) := by
  have hne : t.isEmpty = false := List.isEmpty_eq_false_iff.mpr h.firm.ne_nil
  simp [Command.listItem?, h.firm.trim, hne, h.unquote]

end

/-! ### Lists -/

theorem Whole.intercalate {isSeparator : Char → Bool} {sep : List Char} {texts : List (List Char)}
    (hsep : Whole isSeparator sep) (h : ∀ t ∈ texts, Whole isSeparator t) :
    Whole isSeparator (sep.intercalate texts) := by
  induction texts with
  | nil => exact whole_nil
  | cons t texts ih =>
    obtain ⟨ht, hrest⟩ := List.forall_mem_cons.mp h
    cases texts with
    | nil => simpa using ht
    | cons u texts =>
      rw [List.intercalate_cons_cons]
      exact (ht.append hsep).append (ih hrest)

theorem splitList_comma {t s : List Char} (ht : Whole isComma t) :
    splitList (t ++ ',' :: s) = (listItem? t).toList ++ splitList s := by
  rw [splitList, ht.pieces_separator separates_comma.not_quote rfl]
  cases h : listItem? t <;> simp [splitList, h]

theorem splitList_whole {t : List Char} (ht : Whole isComma t) :
    splitList t = (listItem? t).toList := by
  rw [splitList, ht.single]
  cases h : listItem? t <;> simp [h]

theorem hasComma_append {t : List Char} (ht : Whole isComma t) (s : List Char) :
    hasComma (t ++ ',' :: s) = true := by
  have hrest : 0 < (pieces isComma none s).length := List.length_pos_iff.mpr (pieces_ne_nil _ _ _)
  simpa [hasComma, ht.pieces_separator separates_comma.not_quote (c := ',') rfl] using hrest

/-- A piece with anything but white space in it is an item. -/
theorem listItem?_of_mem {c : Char} {piece : List Char} (h : c ∈ piece) (hc : isBlank c = false) :
    listItem? piece = some (String.ofList (unquote (trim piece))) := by
  have hne : (trim piece).isEmpty = false :=
    List.isEmpty_eq_false_iff.mpr (List.ne_nil_of_mem (mem_trim h hc))
  simp [listItem?, hne]

/-- White space before an item does not count. -/
theorem splitList_blank {c : Char} (hc : isBlank c = true) (s : List Char) :
    splitList (c :: s) = splitList s := by
  have hcomma : isComma c = false := by
    rw [Bool.eq_false_iff]
    intro h
    obtain rfl := beq_iff_eq.mp h
    exact absurd hc (by decide)
  have hquote : isQuote c = false := separates_blank.not_quote c hc
  have hafter : quoteAfter none c = none := by simp [quoteAfter, hquote]
  rw [splitList, pieces_cons (by simp [hcomma]), hafter, splitList]
  cases pieces isComma none s with
  | nil => rfl
  | cons p ps => simp [List.filterMap_cons, listItem?, trim_blank hc]

theorem splitList_padding {pad : List Char} (hpad : allBlank pad = true) (s : List Char) :
    splitList (pad ++ s) = splitList s := by
  induction pad with
  | nil => rfl
  | cons c pad ih =>
    obtain ⟨hc, hpad⟩ := (Bool.and_eq_true _ _).mp hpad
    rw [List.cons_append, splitList_blank hc, ih hpad]

theorem firm_printItem (s : String) : Firm (printItem s) := by
  rw [printItem]
  split
  · unfold quote
    dsimp only
    split <;> exact firm_quoted rfl _
  · rename_i hbare
    exact (plain_of_needsQuotes (Bool.eq_false_iff.mpr hbare)).firm

theorem firm_printItems {items : List String} (sep : List Char) (hne : items ≠ []) :
    Firm (sep.intercalate (items.map printItem)) := by
  apply Firm.intercalate
  · simpa using hne
  · intro t ht
    obtain ⟨s, -, rfl⟩ := List.mem_map.mp ht
    exact firm_printItem s

/-- A list of items is read back, also when white space follows the commas. -/
theorem splitList_printed {items : List String} (pad : List Char)
    (hpad : allBlank pad = true) (h : ∀ s ∈ items, Quotable s) :
    splitList ((',' :: pad).intercalate (items.map printItem)) = items := by
  induction items with
  | nil => rfl
  | cons s items ih =>
    obtain ⟨hs, hitems⟩ := List.forall_mem_cons.mp h
    have hshows := shows_printItem hs
    have hwhole := hshows.whole separates_comma
    cases items with
    | nil => simp [splitList_whole hwhole, hshows.listItem?]
    | cons u items =>
      have hrest := ih hitems
      simp only [List.map_cons] at hrest
      simp only [List.map_cons, List.intercalate_cons_cons, List.append_assoc, List.cons_append]
      rw [splitList_comma hwhole, splitList_padding hpad, hrest, hshows.listItem?]
      simp

/-! ### Literals -/

/-- A character outside the markers tells text from all of them. -/
theorem literalOfTrimmed_of_mem {c : Char} {s : List Char} (hc : c ∈ s)
    (h : ∀ m ∈ ["$true", "$false", "$null"], c.toLower ∉ m.toList) :
    literalOfTrimmed s =
      match stripQuotes? s with
      | some inner => .string (String.ofList inner)
      | none =>
        if hasComma s then .list (splitList s)
        else
          match Decimal.readInt64? s with
          | some n => .int n
          | none => .string (String.ofList s) := by
  have hmarker {m : String} (hm : m ∈ ["$true", "$false", "$null"])
      (hlower : m.toList.map Char.toLower = m.toList) :
      sameCharsIgnoringAsciiCase s m.toList = false := by
    rw [sameCharsIgnoringAsciiCase, hlower, beq_eq_false_iff_ne]
    intro hs
    exact h m hm (hs ▸ List.mem_map_of_mem hc)
  rw [literalOfTrimmed, hmarker (by simp) (by decide), hmarker (by simp) (by decide),
    hmarker (by simp) (by decide)]
  rfl

theorem literal_quoted {q : Char} {s : List Char} (hq : isQuote q = true) (h : q ∉ s) :
    literal (q :: s ++ [q]) = .string (String.ofList s) := by
  have hmarkers : ∀ m ∈ ["$true", "$false", "$null"], q.toLower ∉ m.toList := by
    rcases (Bool.or_eq_true _ _).mp hq with hq | hq
    · obtain rfl := beq_iff_eq.mp hq
      decide
    · obtain rfl := beq_iff_eq.mp hq
      decide
  have hmem : q ∈ q :: s ++ [q] := List.mem_cons_self
  rw [literal, (firm_quoted hq s).trim, literalOfTrimmed_of_mem hmem hmarkers,
    stripQuotes?_eq_some_iff.mpr ⟨q, hq, h, rfl⟩]

theorem literal_printString {s : String} (h : Quotable s) :
    literal (printString s) = .string s := by
  rw [printString]
  split
  · obtain ⟨q, hq, hs, heq⟩ := quote_eq h
    rw [heq, literal_quoted hq hs, String.ofList_toList]
  · rename_i hbare
    simp only [Bool.or_eq_true, decide_eq_true_eq, not_or, Decidable.not_not] at hbare
    exact hbare.2

theorem literal_int64Digits (i : Int64) : literal (Decimal.int64Digits i) = .int i := by
  have hplain := plain_int64Digits i
  obtain ⟨c, hc, hdigit⟩ := Decimal.exists_isDigit_mem_int64Digits i
  have hmarkers : ∀ m ∈ ["$true", "$false", "$null"], c.toLower ∉ m.toList := by
    have hdigits : "0123456789".toList.all (fun c =>
        decide (∀ m ∈ ["$true", "$false", "$null"], c.toLower ∉ m.toList)) = true := by decide
    exact of_decide_eq_true (List.all_eq_true.mp hdigits c (Decimal.mem_of_isDigit hdigit))
  have hcomma : hasComma (Decimal.int64Digits i) = false := by
    simp [hasComma, (hplain.whole separates_comma).single]
  rw [literal, hplain.firm.trim, literalOfTrimmed_of_mem hc hmarkers, hplain.stripQuotes?, hcomma,
    Decimal.readInt64?_int64Digits]
  rfl

/-- Text with a comma outside quotes is not wrapped in one pair of quotes. -/
theorem stripQuotes?_of_hasComma {s : List Char} (h : hasComma s = true) :
    stripQuotes? s = none := by
  cases hs : stripQuotes? s with
  | none => rfl
  | some t =>
    obtain ⟨q, hq, ht, rfl⟩ := stripQuotes?_eq_some_iff.mp hs
    have hwhole := (Shows.quoted hq ht).whole separates_comma
    rw [hasComma, hwhole.single] at h
    exact absurd h (by simp)

theorem literal_list {items : List String} (hlength : 2 ≤ items.length)
    (h : ∀ s ∈ items, Quotable s) :
    literal ([','].intercalate (items.map printItem)) = .list items := by
  have hitems := splitList_printed [] rfl h
  have hfirm := firm_printItems [','] (List.ne_nil_of_length_pos (by omega) : items ≠ [])
  obtain ⟨hcomma, hmem⟩ : hasComma ([','].intercalate (items.map printItem)) = true ∧
      ',' ∈ [','].intercalate (items.map printItem) := by
    match items, hlength with
    | s :: u :: rest, _ =>
      have hwhole := (shows_printItem (h s List.mem_cons_self)).whole separates_comma
      simp only [List.map_cons, List.intercalate_cons_cons, List.append_assoc, List.cons_append,
        List.nil_append]
      exact ⟨hasComma_append hwhole _, by simp⟩
  rw [literal, hfirm.trim, literalOfTrimmed_of_mem hmem (by decide),
    stripQuotes?_of_hasComma hcomma, hcomma, hitems]
  rfl

/-- Only text with a comma outside quotes is a list. -/
theorem list_of_literal {s : List Char} {items : List String} (h : literal s = .list items) :
    hasComma (trim s) = true ∧ items = splitList (trim s) := by
  unfold literal literalOfTrimmed at h
  split at h
  · exact nomatch h
  · split at h
    · exact nomatch h
    · split at h
      · exact nomatch h
      · split at h
        · exact nomatch h
        · split at h
          · exact ⟨‹_›, (Value.list.inj h).symm⟩
          · split at h <;> exact nomatch h

/-! ### Values -/

theorem literal_print {v : Value} (h : v.Displayable) : literal v.print = v := by
  cases v with
  | null => decide
  | bool b => cases b <;> decide
  | int i => exact literal_int64Digits i
  | string s => exact literal_printString h
  | list items => exact literal_list h.1 h.2

theorem Value.Displayable.firm {v : Value} (h : v.Displayable) : Firm v.print := by
  cases v with
  | null => exact Plain.firm ⟨by decide, by decide⟩
  | bool b => cases b <;> exact Plain.firm ⟨by decide, by decide⟩
  | int i => exact (plain_int64Digits i).firm
  | string s => exact (shows_printString h).firm
  | list items => exact firm_printItems _ (List.ne_nil_of_length_pos (by have := h.1; omega))

/-- Only commas separate inside a printed value. -/
theorem Value.Displayable.whole {v : Value} {isSeparator : Char → Bool} (h : v.Displayable)
    (hsep : Separates isSeparator) (hcomma : isSeparator ',' = false) :
    Whole isSeparator v.print := by
  cases v with
  | null => exact Plain.whole ⟨by decide, by decide⟩ hsep
  | bool b => cases b <;> exact Plain.whole ⟨by decide, by decide⟩ hsep
  | int i => exact (plain_int64Digits i).whole hsep
  | string s => exact (shows_printString h).whole hsep
  | list items =>
    apply Whole.intercalate (whole_singleton hcomma rfl)
    intro t ht
    obtain ⟨s, hs, rfl⟩ := List.mem_map.mp ht
    exact (shows_printItem (h.2 s hs)).whole hsep

end CommandBridge.Command
