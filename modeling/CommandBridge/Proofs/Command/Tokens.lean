import CommandBridge.Command.Compile
import CommandBridge.Proofs.Command.Literal
import Mathlib.Data.List.TakeWhile

/-! Printed stages as lists of tokens. A stage prints as its tokens with one blank before each, and
the tokens of that text are the same again. -/
namespace CommandBridge.Command

open Text

/-- The tokens of one stage. -/
def tokens (s : List Char) : List (List Char) := (pieces isBlank none s).filter (· ≠ [])

/-- Text that neither blanks nor bars cut. -/
structure IsToken (t : List Char) : Prop where
  ne_nil : t ≠ []
  blank : Whole isBlank t
  bar : Whole (· == '|') t

instance (t : List Char) : Decidable (IsToken t) :=
  decidable_of_iff (t ≠ [] ∧ Whole isBlank t ∧ Whole (· == '|') t)
    ⟨fun h => ⟨h.1, h.2.1, h.2.2⟩, fun h => ⟨h.ne_nil, h.blank, h.bar⟩⟩

section
variable {c : Char} {s t : List Char}

theorem tokens_cons_blank (hc : isBlank c = true) (s : List Char) : tokens (c :: s) = tokens s := by
  rw [tokens, pieces_separator hc]
  exact List.filter_cons_of_neg (by simp)

@[simp] theorem tokens_blank (s : List Char) : tokens (' ' :: s) = tokens s :=
  tokens_cons_blank rfl s

/-- A blank that stands in no quote parts the tokens before it from those after it. -/
theorem tokens_append_blank (h : openQuote none s = none) (hc : isBlank c = true) (t : List Char) :
    tokens (s ++ c :: t) = tokens s ++ tokens t := by
  rw [tokens, pieces_append_separator separates_blank.not_quote h hc, List.filter_append]
  rfl

theorem tokens_append (h : openQuote none s = none) (t : List Char) :
    tokens (s ++ ' ' :: t) = tokens s ++ tokens t := tokens_append_blank h rfl t

theorem IsToken.tokens_self (ht : IsToken t) : tokens t = [t] := by
  rw [tokens, ht.blank.single]
  simp [ht.ne_nil]

end

/-- Tokens with a blank before each. -/
def spaced (ts : List (List Char)) : List Char := ts.flatMap (' ' :: ·)

theorem tokens_spaced {ts : List (List Char)} (h : ∀ t ∈ ts, IsToken t) :
    tokens (spaced ts) = ts := by
  induction ts with
  | nil => rfl
  | cons t ts ih =>
    obtain ⟨ht, hts⟩ := List.forall_mem_cons.mp h
    have htail := ih hts
    cases ts with
    | nil => simpa [spaced] using ht.tokens_self
    | cons u ts =>
      simp only [spaced, List.flatMap_cons, List.cons_append, tokens_blank] at htail ⊢
      rw [tokens_append ht.blank.shut, ht.tokens_self, htail]
      rfl

theorem whole_spaced {ts : List (List Char)} (h : ∀ t ∈ ts, IsToken t) :
    Whole (· == '|') (spaced ts) := by
  induction ts with
  | nil => exact whole_nil
  | cons t ts ih =>
    obtain ⟨ht, hts⟩ := List.forall_mem_cons.mp h
    have hblank : Whole (· == '|') [' '] := whole_singleton rfl rfl
    exact (hblank.append ht.bar).append (ih hts)

theorem spaced_eq_joinTokens {ts : List (List Char)} (h : ts ≠ []) :
    spaced ts = ' ' :: joinTokens ts := by
  induction ts with
  | nil => exact absurd rfl h
  | cons t ts ih =>
    cases ts with
    | nil => simp [spaced, joinTokens]
    | cons u ts =>
      have htail := ih (List.cons_ne_nil _ _)
      simp only [spaced, joinTokens, List.flatMap_cons, List.intercalate_cons_cons,
        List.append_assoc, List.cons_append, List.nil_append] at htail ⊢
      rw [htail]

/-! ### The stages of a command line -/

section
variable {s : List Char}

theorem scan_eq (s : List Char) : scan s = (pieces (· == '|') none (closed s)).map tokens := rfl

theorem closed_of_shut (h : openQuote none s = none) : closed s = s := by
  rw [closed, h]
  exact List.append_nil s

/-- The text behind the bar is closed as if it stood alone. -/
theorem closed_append_bar (h : openQuote none s = none) (t : List Char) :
    closed (s ++ '|' :: t) = s ++ '|' :: closed t := by
  have hquote : openQuote none (s ++ '|' :: t) = openQuote none t := by
    rw [openQuote_append, h]
    rfl
  rw [closed, hquote, closed]
  simp

theorem scan_append_bar (h : openQuote none s = none) (t : List Char) :
    scan (s ++ '|' :: t) = scan s ++ scan t := by
  rw [scan_eq, scan_eq, scan_eq, closed_append_bar h, closed_of_shut h,
    pieces_append_separator separates_bar.not_quote h rfl, List.map_append]

theorem scan_blank (s : List Char) : scan (' ' :: s) = scan s := by
  have hclosed : closed (' ' :: s) = ' ' :: closed s := rfl
  have hafter : quoteAfter none ' ' = none := rfl
  rw [scan_eq, hclosed, pieces_cons rfl, hafter, scan_eq]
  cases hp : pieces (· == '|') none (closed s) with
  | nil => exact absurd hp (pieces_ne_nil _ _ _)
  | cons t ts => simp

theorem scan_whole (h : Whole (· == '|') s) : scan s = [tokens s] := by
  rw [scan_eq, closed_of_shut h.shut, h.single]
  rfl

end

/-! ### The tokens of a parameter -/

/-- A name without a value is a switch. -/
def Value.tokens : Value → List (List Char)
  | .bool true => []
  | v => [v.print]

/-- Every item but the last has its comma. -/
def itemTokens : List String → List (List Char)
  | [] => []
  | [s] => [printItem s]
  | s :: t :: rest => (printItem s ++ [',']) :: itemTokens (t :: rest)

def Parameter.tokens : Parameter → List (List Char)
  | .named key v => ('-' :: key.toList) :: v.tokens
  | .positional values => itemTokens values

/-- A stage name that is one token and no quoted text. -/
def IsWord (s : String) : Prop :=
  s.toList ≠ [] ∧ ∀ c ∈ s.toList, isBlank c = false ∧ c ≠ '|' ∧ isQuote c = false

instance (s : String) : Decidable (IsWord s) :=
  @instDecidableAnd _ _ _ (List.decidableBAll _ _)

/-- A name that a dash marks as one, and that no colon cuts. -/
def IsKey (s : String) : Prop :=
  s.toList.head?.any isLetter = true ∧
    ∀ c ∈ s.toList, c ≠ ':' ∧ isBlank c = false ∧ c ≠ '|' ∧ isQuote c = false

instance (s : String) : Decidable (IsKey s) :=
  @instDecidableAnd _ _ _ (List.decidableBAll _ _)

def Parameter.Displayable : Parameter → Prop
  | .named key v => IsKey key ∧ v.Displayable
  | .positional values => values ≠ [] ∧ ∀ s ∈ values, Quotable s

instance : DecidablePred Parameter.Displayable
  | .named key v => inferInstanceAs (Decidable (IsKey key ∧ v.Displayable))
  | .positional values =>
    inferInstanceAs (Decidable (values ≠ [] ∧ ∀ s ∈ values, Quotable s))

/-- Behind a dash it is one token, marked as a name, and the whole of it is the key. -/
structure IsPlainKey (key : String) : Prop where
  letter : key.toList.head?.any isLetter = true
  colon : ':' ∉ key.toList
  token : IsToken ('-' :: key.toList)

/-- A parameter of which all that is printed is read as it was meant. -/
def Parameter.Readable : Parameter → Prop
  | .named key v => IsPlainKey key ∧ v.Displayable
  | .positional values => values ≠ [] ∧ ∀ s ∈ values, Quotable s

theorem itemTokens_join (items : List String) :
    joinTokens (itemTokens items) = ", ".toList.intercalate (items.map printItem) := by
  induction items with
  | nil => rfl
  | cons s items ih =>
    cases items with
    | nil => simp [itemTokens, joinTokens]
    | cons t items =>
      have htail : ", ".toList = [',', ' '] := rfl
      cases hts : itemTokens (t :: items) with
      | nil => cases items <;> simp [itemTokens] at hts
      | cons u ts =>
        rw [joinTokens, hts] at ih
        simp only [List.map_cons] at ih
        simp [itemTokens, joinTokens, hts, ih, htail]

theorem itemTokens_ne_nil {items : List String} (h : items ≠ []) : itemTokens items ≠ [] := by
  match items, h with
  | [_], _ => simp [itemTokens]
  | _ :: _ :: _, _ => simp [itemTokens]

theorem Parameter.Readable.print_eq_spaced {p : Parameter} (h : p.Readable) :
    p.print = spaced p.tokens := by
  cases p with
  | named key v =>
    have hdash : " -".toList = [' ', '-'] := rfl
    cases v with
    | bool b => cases b <;> simp [print, tokens, Value.tokens, spaced, hdash]
    | _ => simp [print, tokens, Value.tokens, spaced, hdash]
  | positional values =>
    rw [print, tokens, spaced_eq_joinTokens (itemTokens_ne_nil h.1), itemTokens_join]

theorem isToken_word {s : List Char} (hne : s ≠ [])
    (h : ∀ c ∈ s, isBlank c = false ∧ c ≠ '|' ∧ isQuote c = false) : IsToken s where
  ne_nil := hne
  blank := whole_of_forall fun c hc => ⟨(h c hc).1, (h c hc).2.2⟩
  bar := whole_of_forall fun c hc => ⟨by simpa using (h c hc).2.1, (h c hc).2.2⟩

theorem IsWord.isToken {s : String} (h : IsWord s) : IsToken s.toList := isToken_word h.1 h.2

theorem IsWord.stripQuotes? {s : String} (h : IsWord s) : stripQuotes? s.toList = none := by
  obtain ⟨c, t, hs⟩ := List.exists_cons_of_ne_nil h.1
  rw [hs]
  exact stripQuotes?_of_head (h.2 c (hs ▸ List.mem_cons_self)).2.2

theorem IsKey.plain {key : String} (h : IsKey key) : IsPlainKey key where
  letter := h.1
  colon hc := (h.2 ':' hc).1 rfl
  token := by
    apply isToken_word (List.cons_ne_nil _ _)
    intro c hc
    rcases List.mem_cons.mp hc with rfl | hc
    · decide
    · exact (h.2 c hc).2

theorem Parameter.Displayable.readable {p : Parameter} (h : p.Displayable) : p.Readable := by
  cases p with
  | named key v => exact ⟨h.1.plain, h.2⟩
  | positional values => exact h

theorem Value.Displayable.isToken {v : Value} (h : v.Displayable) : IsToken v.print where
  ne_nil := h.firm.ne_nil
  blank := h.whole separates_blank rfl
  bar := h.whole separates_bar rfl

theorem Shows.isToken {s t : List Char} (h : Shows s t) : IsToken t where
  ne_nil := h.firm.ne_nil
  blank := h.whole separates_blank
  bar := h.whole separates_bar

theorem IsToken.comma {t : List Char} (h : IsToken t) : IsToken (t ++ [',']) where
  ne_nil := by simp
  blank := h.blank.append (whole_singleton rfl rfl)
  bar := h.bar.append (whole_singleton rfl rfl)

theorem isToken_item {items : List String} (h : ∀ s ∈ items, Quotable s) :
    ∀ t ∈ itemTokens items, IsToken t := by
  induction items with
  | nil => exact fun _ ht => nomatch ht
  | cons s items ih =>
    obtain ⟨hs, hitems⟩ := List.forall_mem_cons.mp h
    have hshown := (shows_printItem hs).isToken
    cases items with
    | nil => exact List.forall_mem_singleton.mpr hshown
    | cons u items => exact List.forall_mem_cons.mpr ⟨hshown.comma, ih hitems⟩

theorem Value.Displayable.isToken_of_mem {v : Value} (h : v.Displayable) :
    ∀ t ∈ v.tokens, IsToken t := by
  intro t ht
  rw [Value.tokens.eq_def] at ht
  split at ht
  · exact nomatch ht
  · obtain rfl := List.mem_singleton.mp ht
    exact h.isToken

theorem Parameter.Readable.isToken {p : Parameter} (h : p.Readable) :
    ∀ t ∈ p.tokens, IsToken t := by
  cases p with
  | named key v => exact List.forall_mem_cons.mpr ⟨h.1.token, h.2.isToken_of_mem⟩
  | positional values => exact isToken_item h.2

/-! ### Names and values told apart -/

theorem isParameterName_of_letter {s : List Char} (h : s.head?.any isLetter = true)
    (t : List Char) : isParameterName ('-' :: s ++ t) = true := by
  obtain ⟨c, hc, hletter⟩ := (Option.any_eq_true _ _).mp h
  obtain ⟨rest, rfl⟩ := List.head?_eq_some_iff.mp hc
  exact hletter

theorem isParameterName_key {key : String} (h : IsPlainKey key) :
    isParameterName ('-' :: key.toList) = true := by
  simpa using isParameterName_of_letter h.letter []

theorem isParameterName_of_head {c : Char} (s : List Char) (h : c ≠ '-') :
    isParameterName (c :: s) = false := by
  rw [isParameterName.eq_def]
  split
  · rename_i heq
    cases heq
    exact absurd rfl h
  · rfl

/-- Shown text does not start with a dash, whatever follows it. -/
theorem Shows.not_name {s t : List Char} (h : Shows s t) (u : List Char) :
    isParameterName (t ++ u) = false := by
  cases h with
  | bare h =>
    have hplain := plain_of_needsQuotes h
    cases s with
    | nil => exact absurd rfl hplain.ne_nil
    | cons c s =>
      apply isParameterName_of_head
      rintro rfl
      exact absurd h (by simp [needsQuotes])
  | quoted hq _ =>
    apply isParameterName_of_head
    rintro rfl
    exact absurd hq (by decide)

theorem int64Digits_not_name (i : Int64) : isParameterName (Decimal.int64Digits i) = false := by
  have hdigits : "0123456789".toList.all (fun c => !isLetter c && c != '-') = true := by decide
  rw [Decimal.int64Digits, Decimal.intDigits]
  cases hs : Decimal.digits i.toInt.natAbs with
  | nil => exact absurd hs (Decimal.digits_ne_nil _)
  | cons c s =>
    have hdigit := Decimal.isDigit_of_mem_digits (hs ▸ List.mem_cons_self)
    have hc := List.all_eq_true.mp hdigits c (Decimal.mem_of_isDigit hdigit)
    obtain ⟨hletter, hdash⟩ := (Bool.and_eq_true _ _).mp hc
    split
    · exact (Bool.not_eq_true' _).mp hletter
    · exact isParameterName_of_head s (bne_iff_ne.mp hdash)

theorem Value.Displayable.not_name {v : Value} (h : v.Displayable) :
    isParameterName v.print = false := by
  cases v with
  | null => decide
  | bool b => cases b <;> decide
  | int i => exact int64Digits_not_name i
  | string s =>
    have hshows := (shows_printString h).not_name []
    rwa [List.append_nil] at hshows
  | list items =>
    match items, h with
    | s :: t :: rest, h =>
      have hshows := shows_printItem (h.2 s List.mem_cons_self)
      rw [print_list, List.map_cons, List.map_cons, List.intercalate_cons_cons, List.append_assoc]
      exact hshows.not_name _

theorem item_not_name {items : List String} (h : ∀ s ∈ items, Quotable s) :
    ∀ t ∈ itemTokens items, isParameterName t = false := by
  induction items with
  | nil => exact fun _ ht => nomatch ht
  | cons s items ih =>
    obtain ⟨hs, hitems⟩ := List.forall_mem_cons.mp h
    have hshows := shows_printItem hs
    cases items with
    | nil =>
      have hlast := hshows.not_name []
      rw [List.append_nil] at hlast
      exact List.forall_mem_singleton.mpr hlast
    | cons u items => exact List.forall_mem_cons.mpr ⟨hshows.not_name _, ih hitems⟩

theorem Value.Displayable.not_name_of_mem {v : Value} (h : v.Displayable) :
    ∀ t ∈ v.tokens, isParameterName t = false := by
  intro t ht
  rw [Value.tokens.eq_def] at ht
  split at ht
  · exact nomatch ht
  · obtain rfl := List.mem_singleton.mp ht
    exact h.not_name

/-! ### Tokens read back -/

theorem groupTokens_values {ts : List (List Char)} (h : ∀ t ∈ ts, isParameterName t = false)
    (rest : List (List Char)) :
    groupTokens (ts ++ rest) = (ts ++ (groupTokens rest).1, (groupTokens rest).2) := by
  induction ts with
  | nil => rfl
  | cons t ts ih =>
    obtain ⟨ht, hts⟩ := List.forall_mem_cons.mp h
    rw [List.cons_append, groupTokens, ih hts]
    simp [ht]

theorem groupTokens_name {t : List Char} (h : isParameterName t = true) (ts : List (List Char)) :
    groupTokens (t :: ts) = ([], (t, (groupTokens ts).1) :: (groupTokens ts).2) := by
  simp [groupTokens, h]

theorem groupTokens_append {t : List Char} (h : isParameterName t = true)
    (ts us : List (List Char)) :
    groupTokens (ts ++ t :: us) = ((groupTokens ts).1,
      (groupTokens ts).2 ++ (t, (groupTokens us).1) :: (groupTokens us).2) := by
  induction ts with
  | nil => exact groupTokens_name h us
  | cons u ts ih =>
    cases hu : isParameterName u with
    | true => rw [List.cons_append, groupTokens_name hu, groupTokens_name hu, ih]; rfl
    | false => simp [groupTokens, hu, ih]

theorem not_colon_of_mem {key : List Char} (h : ':' ∉ key) : ∀ c ∈ key, (c != ':') = true :=
  fun _ hc => bne_iff_ne.mpr fun hx => h (hx ▸ hc)

theorem splitParameter_key {key : List Char} (h : ':' ∉ key) :
    splitParameter ('-' :: key) = (key, none) := by
  have hdrop : key.dropWhile (· != ':') = [] :=
    List.dropWhile_eq_nil_iff.mpr (not_colon_of_mem h)
  have htake : key.takeWhile (· != ':') = key :=
    List.takeWhile_eq_self_iff.mpr (not_colon_of_mem h)
  simp [splitParameter, hdrop, htake]

theorem valueOfTokens_tokens {v : Value} (h : v.Displayable) : valueOfTokens v.tokens = v := by
  rw [Value.tokens.eq_def]
  split
  · rfl
  · obtain ⟨c, hc, hlast⟩ := h.firm.last
    have htrim : trimSeparators (joinTokens [v.print]) = v.print := by
      rw [joinTokens, List.intercalate_singleton]
      exact dropEndWhile_of_getLast? hc hlast
    rw [valueOfTokens, htrim]
    split
    · exact absurd ‹_› h.firm.ne_nil
    · exact literal_print h

theorem namedParameter_tokens {key : String} {v : Value} (hkey : ':' ∉ key.toList)
    (hv : v.Displayable) : namedParameter ('-' :: key.toList, v.tokens) = .named key v := by
  simp [namedParameter, splitParameter_key hkey, valueOfTokens_tokens hv]

theorem positionalParameters_tokens {items : List String} (hne : items ≠ [])
    (h : ∀ s ∈ items, Quotable s) :
    positionalParameters (itemTokens items) = [.positional items] := by
  have hread := splitList_printed [' '] rfl h
  rw [positionalParameters, itemTokens_join]
  rw [show ", ".toList = [',', ' '] from rfl, hread]
  cases items with
  | nil => exact absurd rfl hne
  | cons s items => rfl

end CommandBridge.Command
