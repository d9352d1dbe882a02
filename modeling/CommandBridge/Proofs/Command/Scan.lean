import CommandBridge.Proofs.Command.Image

/-! Scanning keeps all of a command line but the separators outside quotes, and what it gives is
scanned again from its tokens with plain separators between them. -/
namespace CommandBridge.Command

open Text

/-- Each character with the quote it stands in, when `q` is open at the start. -/
def withQuotes : Option Char → List Char → List (Option Char × Char)
  | _, [] => []
  | q, c :: s => (q, c) :: withQuotes (quoteAfter q c) s

/-- A character that stands in no quote and satisfies `p`. -/
def isOutside (p : Char → Bool) (x : Option Char × Char) : Bool := x.1.isNone && p x.2

def countOutside (p : Char → Bool) (q : Option Char) (s : List Char) : Nat :=
  (withQuotes q s).countP (isOutside p)

def removeOutside (p : Char → Bool) (q : Option Char) (s : List Char) : List Char :=
  ((withQuotes q s).filter (!isOutside p ·)).map (·.2)

/-- What ends a token. -/
def endsToken (c : Char) : Bool := isBlank c || c == '|'

/-- Tokens with a blank between them, and stages with a bar between blanks. -/
def joinStages (stages : List (List (List Char))) : List Char :=
  " | ".toList.intercalate (stages.map joinTokens)

section
variable {p : Char → Bool} {q : Option Char} {c : Char} {s t : List Char}

theorem removeOutside_cons (h : (q.isNone && p c) = false) :
    removeOutside p q (c :: s) = c :: removeOutside p (quoteAfter q c) s := by
  simp only [removeOutside, withQuotes, List.filter_cons, isOutside, h, Bool.not_false, if_true,
    List.map_cons]

theorem removeOutside_separator (h : (q.isNone && p c) = true) :
    removeOutside p q (c :: s) = removeOutside p (quoteAfter q c) s := by
  simp only [removeOutside, withQuotes, List.filter_cons, isOutside, h, Bool.not_true,
    Bool.false_eq_true, if_false]

theorem withQuotes_append (q : Option Char) (s t : List Char) :
    withQuotes q (s ++ t) = withQuotes q s ++ withQuotes (openQuote q s) t := by
  induction s generalizing q with
  | nil => rfl
  | cons c s ih => simp [withQuotes, ih]

theorem removeOutside_closed (p : Char → Bool) (s : List Char) :
    removeOutside p none (closed s) = removeOutside p none s ++ (openQuote none s).toList := by
  unfold closed removeOutside
  rw [withQuotes_append, List.filter_append, List.map_append]
  cases openQuote none s <;> rfl

theorem countOutside_closed (p : Char → Bool) (s : List Char) :
    countOutside p none (closed s) = countOutside p none s := by
  unfold closed countOutside
  rw [withQuotes_append, List.countP_append]
  cases openQuote none s <;> rfl

/-! ### What the pieces are made of -/

theorem flatten_pieces (hp : ∀ c, p c = true → isQuote c = false) (q : Option Char)
    (s : List Char) : (pieces p q s).flatten = removeOutside p q s := by
  induction s generalizing q with
  | nil => rfl
  | cons c s ih =>
    cases hc : q.isNone && p c with
    | true =>
      obtain ⟨rfl, hafter⟩ := quoteAfter_separator hp hc
      rw [removeOutside_separator hc, hafter, ← ih]
      rw [pieces_separator (by simpa using hc)]
      rfl
    | false =>
      rw [removeOutside_cons hc, ← ih, pieces_cons hc]
      cases hps : pieces p (quoteAfter q c) s with
      | nil => exact absurd hps (pieces_ne_nil _ _ _)
      | cons t ts => rfl

theorem length_pieces (hp : ∀ c, p c = true → isQuote c = false) (q : Option Char)
    (s : List Char) : (pieces p q s).length = countOutside p q s + 1 := by
  induction s generalizing q with
  | nil => rfl
  | cons c s ih =>
    cases hc : q.isNone && p c with
    | true =>
      obtain ⟨rfl, hafter⟩ := quoteAfter_separator hp hc
      rw [pieces_separator (by simpa using hc), List.length_cons, ih, countOutside, countOutside,
        withQuotes, hafter, List.countP_cons_of_pos (a := (none, c)) hc]
    | false =>
      have hstays : ¬ isOutside p (q, c) = true := by simpa [isOutside] using hc
      rw [pieces_cons hc, List.length_modifyHead, ih, countOutside, countOutside, withQuotes,
        List.countP_cons_of_neg hstays]

/-- Text is in one piece if nothing outside quotes cuts it. -/
theorem countOutside_eq_zero (hp : ∀ c, p c = true → isQuote c = false)
    (h : pieces p none s = [s]) : countOutside p none s = 0 := by
  have hlength := length_pieces hp none s
  rw [h, List.length_singleton] at hlength
  omega

/-- Taking the bars out first and the blanks out of what is between them leaves the same. -/
theorem flatMap_pieces_bar (q : Option Char) (s : List Char) : ∃ t ts,
    pieces (· == '|') q s = t :: ts ∧
      removeOutside isBlank q t ++ ts.flatMap (removeOutside isBlank none) =
        removeOutside endsToken q s := by
  induction s generalizing q with
  | nil => exact ⟨[], [], rfl, rfl⟩
  | cons c s ih =>
    obtain ⟨t, ts, hts, hrest⟩ := ih (quoteAfter q c)
    cases hbar : q.isNone && c == '|' with
    | true =>
      obtain ⟨rfl, hafter⟩ := quoteAfter_separator separates_bar.not_quote hbar
      have hend : ((none : Option Char).isNone && endsToken c) = true := by
        simp at hbar
        simp [endsToken, hbar]
      rw [hafter] at hts hrest
      have hcut : (c == '|') = true := by simpa using hbar
      refine ⟨[], t :: ts, ?_, ?_⟩
      · rw [@pieces_separator (· == '|') c s hcut, hts]
      · rw [removeOutside_separator hend, hafter, ← hrest]
        rfl
    | false =>
      refine ⟨c :: t, ts, by rw [@pieces_cons (· == '|') q c s hbar, hts]; rfl, ?_⟩
      cases hblank : q.isNone && isBlank c with
      | true =>
        have hend : (q.isNone && endsToken c) = true := by
          simp at hblank
          simp [endsToken, hblank]
        rw [removeOutside_separator hblank, removeOutside_separator hend, hrest]
      | false =>
        have hend : (q.isNone && endsToken c) = false := by
          cases hq : q.isNone with
          | false => rfl
          | true =>
            simp only [hq, Bool.true_and] at hbar hblank
            simp [endsToken, hbar, hblank]
        rw [removeOutside_cons hblank, removeOutside_cons hend, List.cons_append, hrest]

theorem flatten_tokens (s : List Char) : (tokens s).flatten = removeOutside isBlank none s := by
  rw [tokens, List.flatten_filter_ne_nil, flatten_pieces separates_blank.not_quote]

/-- The tokens are the closed text without the separators outside quotes. -/
theorem flatten_scan (s : List Char) : (scan s).flatten.flatten =
    removeOutside endsToken none s ++ (openQuote none s).toList := by
  obtain ⟨t, ts, hts, hflat⟩ := flatMap_pieces_bar none (closed s)
  rw [← removeOutside_closed, ← hflat, scan_eq, hts]
  have hstage (stages : List (List Char)) : (stages.map tokens).flatten.flatten =
      stages.flatMap (removeOutside isBlank none) := by
    induction stages with
    | nil => rfl
    | cons stage stages ih => simp [flatten_tokens, ih]
  rw [hstage]
  rfl

theorem length_scan (s : List Char) : (scan s).length = countOutside (· == '|') none s + 1 := by
  rw [scan_eq, List.length_map, length_pieces separates_bar.not_quote, countOutside_closed]

end

/-! ### Scanning again -/

section
variable {ts : List (List Char)} {stages : List (List (List Char))}

theorem whole_joinTokens (h : ∀ t ∈ ts, IsToken t) : Whole (· == '|') (joinTokens ts) := by
  cases ts with
  | nil => exact whole_nil
  | cons t ts =>
    have hspaced := whole_spaced h
    rw [spaced_eq_joinTokens (List.cons_ne_nil t ts)] at hspaced
    exact ⟨(pieces_single_cons.mp hspaced.single).2, hspaced.shut⟩

theorem tokens_joinTokens (h : ∀ t ∈ ts, IsToken t) : tokens (joinTokens ts) = ts := by
  cases ts with
  | nil => rfl
  | cons t ts =>
    rw [← tokens_blank, ← spaced_eq_joinTokens (List.cons_ne_nil t ts), tokens_spaced h]

theorem joinStages_cons_cons (ts us : List (List Char)) (stages : List (List (List Char))) :
    joinStages (ts :: us :: stages) =
      (joinTokens ts ++ [' ']) ++ '|' :: ' ' :: joinStages (us :: stages) := by
  have hbar : " | ".toList = [' ', '|', ' '] := rfl
  simp [joinStages, hbar]

/-- Tokens are scanned from the text that is joined from them. -/
theorem scan_joinStages (hne : stages ≠ []) (h : ∀ ts ∈ stages, ∀ t ∈ ts, IsToken t) :
    scan (joinStages stages) = stages := by
  induction stages with
  | nil => exact absurd rfl hne
  | cons ts stages ih =>
    obtain ⟨hts, hstages⟩ := List.forall_mem_cons.mp h
    have hwhole := whole_joinTokens hts
    cases stages with
    | nil =>
      rw [joinStages, List.map_singleton, List.intercalate_singleton, scan_whole hwhole,
        tokens_joinTokens hts]
    | cons us stages =>
      have hblank := hwhole.append (whole_singleton (c := ' ') rfl rfl)
      rw [joinStages_cons_cons, scan_append_bar hblank.shut, scan_blank,
        ih (List.cons_ne_nil _ _) hstages, scan_whole hblank, tokens_append hwhole.shut,
        tokens_joinTokens hts]
      simp [tokens, pieces]

end

/-- Nothing of a command line is lost but the separators outside quotes. Bars outside quotes count
the stages, no token could be cut further, and a scan is restored from its tokens. -/
theorem scan_lossless (s : List Char) :
    (scan s).flatten.flatten = removeOutside endsToken none s ++ (openQuote none s).toList ∧
    (scan s).length = countOutside (· == '|') none s + 1 ∧
    (∀ ts ∈ scan s, ∀ t ∈ ts, t ≠ [] ∧ openQuote none t = none ∧
      countOutside isBlank none t = 0 ∧ countOutside (· == '|') none t = 0) ∧
    scan (joinStages (scan s)) = scan s := by
  have htoken : ∀ ts ∈ scan s, ∀ t ∈ ts, IsToken t := fun ts hts t ht =>
    isToken_of_mem_scan hts ht
  refine ⟨flatten_scan s, length_scan s, ?_, ?_⟩
  · intro ts hts t ht
    have h := htoken ts hts t ht
    refine ⟨h.ne_nil, h.blank.shut, ?_, ?_⟩
    · exact countOutside_eq_zero separates_blank.not_quote h.blank.single
    · exact countOutside_eq_zero separates_bar.not_quote h.bar.single
  · apply scan_joinStages
    · intro hnil
      have hlength := length_scan s
      rw [hnil, List.length_nil] at hlength
      omega
    · exact htoken

/-- It ends inside a quote. -/
def unfinished : List Char := "Get 'a |b'|x -y \"c | ".toList

def unfinishedTokens : List (List (List Char)) :=
  [["Get".toList, "'a |b'".toList], ["x".toList, "-y".toList, "\"c | \"".toList]]

/-- The bars and the blanks in quotes are text. -/
theorem scan_lossless_unfinished :
    scan unfinished = unfinishedTokens ∧
    (scan unfinished).flatten.flatten = removeOutside endsToken none unfinished ++ ['"'] ∧
    (scan unfinished).length = 2 ∧
    ["Get".toList, "'a |b'".toList] ∈ scan unfinished ∧
    "'a |b'".toList ∈ ["Get".toList, "'a |b'".toList] ∧
    countOutside isBlank none "'a |b'".toList = 0 ∧
    scan (joinStages unfinishedTokens) = unfinishedTokens := by
  obtain ⟨hflat, hlength, htoken, hagain⟩ := scan_lossless unfinished
  have hscan : scan unfinished = unfinishedTokens := by decide
  have hstage : ["Get".toList, "'a |b'".toList] ∈ scan unfinished :=
    hscan ▸ List.mem_cons_self
  have hmem : "'a |b'".toList ∈ ["Get".toList, "'a |b'".toList] := by decide
  obtain ⟨-, -, hblank, -⟩ := htoken _ hstage _ hmem
  rw [hscan] at hagain
  exact ⟨hscan, hflat, hlength, hstage, hmem, hblank, hagain⟩

end CommandBridge.Command
