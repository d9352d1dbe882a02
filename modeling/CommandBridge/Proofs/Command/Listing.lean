import CommandBridge.Proofs.Command.Image
import CommandBridge.Proofs.Command.Stages

/-! Lists with any separators. Commas and white space around the items of a list do not count, as
long as a comma stands between any two of them. -/
namespace CommandBridge.Command

open Text

/-- White space between the parts of a stage. -/
def IsGap (gap : List Char) : Prop := gap ≠ [] ∧ allBlank gap = true

instance (gap : List Char) : Decidable (IsGap gap) := instDecidableAnd

/-- A string of a list as it is written, with what separates it from the next one. -/
structure Entry where
  value : String
  text : List Char
  separator : List Char
  shows_text : Shows value.toList text
  padding : ∀ c ∈ separator, isPadding c = true

def listText (entries : List Entry) : List Char := entries.flatMap fun e => e.text ++ e.separator

/-- Bare if it needs no quotes, and quoted otherwise. -/
def Entry.printed (s : String) (h : Quotable s) (separator : List Char)
    (padding : ∀ c ∈ separator, isPadding c = true) : Entry :=
  ⟨s, printItem s, separator, shows_printItem h, padding⟩

/-- The text of a list, read character by character outside its items. An item may come next where
`fresh` holds, which is before the first item and behind a comma. -/
inductive Listing : Bool → List String → List Char → Prop where
  | nil {fresh : Bool} : Listing fresh [] []
  | padding {fresh : Bool} {values : List String} {c : Char} {s : List Char}
      (hc : isPadding c = true) (rest : Listing (fresh || c == ',') values s) :
      Listing fresh values (c :: s)
  | item {values : List String} {v : String} {t s : List Char} (shown : Shows v.toList t)
      (rest : Listing false values s) : Listing true (v :: values) (t ++ s)

section
variable {c : Char} {s t gap : List Char} {fresh : Bool} {values : List String}

/-! ### White space between tokens -/

/-- Text that no blank cuts is the start of one token. -/
theorem tokens_whole_append (ht : Whole isBlank t) (hne : t ≠ []) (s : List Char) :
    ∃ p us, tokens (t ++ s) = (t ++ p) :: us ∧ tokens s = [p].filter (· ≠ []) ++ us := by
  cases hp : pieces isBlank none s with
  | nil => exact absurd hp (pieces_ne_nil _ _ _)
  | cons p ps =>
    refine ⟨p, ps.filter (· ≠ []), ?_, ?_⟩
    · rw [tokens, pieces_append ht.single, ht.shut, hp, List.modifyHead_cons,
        List.filter_cons_of_pos (by simp [hne])]
    · rw [tokens, hp, ← List.filter_append]
      rfl

/-- Joining its tokens leaves text as it is up to the next blank. -/
theorem joinTokens_append (ht : Whole isBlank t) (hne : t ≠ []) (s : List Char) :
    ∃ gap, (gap = [] ∨ gap = [' ']) ∧
      joinTokens (tokens (t ++ s)) = t ++ (gap ++ joinTokens (tokens s)) := by
  obtain ⟨p, us, hts, hs⟩ := tokens_whole_append ht hne s
  rw [hts, hs]
  cases p with
  | cons c p =>
    refine ⟨[], .inl rfl, ?_⟩
    cases us <;> simp [joinTokens]
  | nil =>
    cases us with
    | nil => exact ⟨[], .inl rfl, by simp [joinTokens]⟩
    | cons u us => exact ⟨[' '], .inr rfl, by simp [joinTokens]⟩

theorem IsToken.tokens_append_gap (ht : IsToken t) (hgap : IsGap gap) (s : List Char) :
    tokens (t ++ (gap ++ s)) = t :: tokens s := by
  have hskip : ∀ gap : List Char, allBlank gap = true → tokens (gap ++ s) = tokens s := by
    intro gap hgap
    induction gap with
    | nil => rfl
    | cons c gap ih =>
      obtain ⟨hc, hgap⟩ := (Bool.and_eq_true _ _).mp hgap
      rw [List.cons_append, tokens_cons_blank hc, ih hgap]
  obtain ⟨hne, hblank⟩ := hgap
  obtain ⟨c, gap, rfl⟩ := List.exists_cons_of_ne_nil hne
  obtain ⟨hc, hblank⟩ := (Bool.and_eq_true _ _).mp hblank
  rw [List.cons_append, tokens_append_blank ht.blank.shut hc, ht.tokens_self, hskip gap hblank]
  rfl

theorem whole_gap (h : allBlank gap = true) : Whole (· == '|') gap := by
  refine whole_of_forall fun c hc => ?_
  have hblank : isBlank c = true := List.all_eq_true.mp h c hc
  refine ⟨?_, separates_blank.not_quote c hblank⟩
  rw [beq_eq_false_iff_ne]
  rintro rfl
  exact absurd hblank (by decide)

/-! ### Listings -/

theorem not_comma_of_blank (h : isBlank c = true) : (c == ',') = false := by
  rw [beq_eq_false_iff_ne]
  rintro rfl
  exact absurd h (by decide)

theorem Listing.blank (hc : isBlank c = true) (h : Listing fresh values s) :
    Listing fresh values (c :: s) := by
  refine .padding (by simp [isPadding, hc]) ?_
  rwa [not_comma_of_blank hc, Bool.or_false]

theorem Listing.padding_append {pad : List Char} (hpad : ∀ c ∈ pad, isPadding c = true)
    (h : Listing (fresh || pad.any (· == ',')) values s) : Listing fresh values (pad ++ s) := by
  induction pad generalizing fresh with
  | nil => simpa using h
  | cons c pad ih =>
    obtain ⟨hc, hpad⟩ := List.forall_mem_cons.mp hpad
    refine .padding hc (ih hpad ?_)
    rwa [List.any_cons, ← Bool.or_assoc] at h

theorem listing_listText {entries : List Entry}
    (hcomma : ∀ e ∈ entries.dropLast, ',' ∈ e.separator) :
    Listing true (entries.map (·.value)) (listText entries) := by
  induction entries with
  | nil => exact .nil
  | cons e entries ih =>
    rw [listText, List.flatMap_cons, List.append_assoc]
    refine .item e.shows_text (.padding_append e.padding ?_)
    cases entries with
    | nil => exact .nil
    | cons e' entries =>
      obtain ⟨he, hrest⟩ := List.forall_mem_cons.mp hcomma
      have hany : e.separator.any (· == ',') = true := List.any_eq_true.mpr ⟨',', he, rfl⟩
      rw [hany, Bool.or_true]
      exact ih hrest

theorem Listing.eq_nil (h : Listing fresh values []) : values = [] := by
  generalize hs : ([] : List Char) = s at h
  cases h with
  | nil => rfl
  | padding => cases hs
  | item shown => exact absurd (List.append_eq_nil_iff.mp hs.symm).1 shown.firm.ne_nil

theorem Listing.whole (h : Listing fresh values s) : Whole (· == '|') s := by
  induction h with
  | nil => exact whole_nil
  | @padding _ _ c _ hc _ ih =>
    refine Whole.append (s := [c]) (whole_singleton ?_ ?_) ih
    · rw [beq_eq_false_iff_ne]
      rintro rfl
      exact absurd hc (by decide)
    · rcases (Bool.or_eq_true _ _).mp hc with hcomma | hblank
      · exact separates_comma.not_quote c hcomma
      · exact separates_blank.not_quote c hblank
  | item shown _ ih => exact (shown.whole separates_bar).append ih

/-- No token of a list is the name of a parameter. -/
theorem Listing.not_name (h : Listing fresh values s) :
    ∀ t ∈ tokens s, isParameterName t = false := by
  have hstep {t s : List Char} (ht : Whole isBlank t) (hne : t ≠ [])
      (hname : ∀ p, isParameterName (t ++ p) = false)
      (ih : ∀ u ∈ tokens s, isParameterName u = false) :
      ∀ u ∈ tokens (t ++ s), isParameterName u = false := by
    obtain ⟨p, us, hts, hs⟩ := tokens_whole_append ht hne s
    rw [hts]
    refine List.forall_mem_cons.mpr ⟨hname p, fun u hu => ih u ?_⟩
    exact hs ▸ List.mem_append_right _ hu
  induction h with
  | nil => exact fun _ ht => nomatch ht
  | @padding _ _ c s hc _ ih =>
    rcases (Bool.or_eq_true _ _).mp hc with hcomma | hblank
    · obtain rfl := beq_iff_eq.mp hcomma
      exact hstep (t := [',']) (whole_singleton rfl rfl) (List.cons_ne_nil _ _)
        (fun p => isParameterName_of_head p (by decide)) ih
    · rwa [tokens_cons_blank hblank]
  | item shown _ ih =>
    exact hstep (shown.whole separates_blank) shown.firm.ne_nil shown.not_name ih

/-- A list stays the same when its tokens are joined again. -/
theorem Listing.joinTokens (h : Listing fresh values s) :
    Listing fresh values (joinTokens (tokens s)) := by
  have hgap {fresh : Bool} {values : List String} {gap s : List Char}
      (hgap : gap = [] ∨ gap = [' ']) (h : Listing fresh values s) :
      Listing fresh values (gap ++ s) := by
    rcases hgap with rfl | rfl
    · exact h
    · exact h.blank rfl
  induction h with
  | nil => exact .nil
  | @padding fresh _ c s hc _ ih =>
    rcases (Bool.or_eq_true _ _).mp hc with hcomma | hblank
    · obtain rfl := beq_iff_eq.mp hcomma
      obtain ⟨gap, hgaps, heq⟩ :=
        joinTokens_append (t := [',']) (whole_singleton rfl rfl) (List.cons_ne_nil _ _) s
      rw [List.singleton_append, List.singleton_append] at heq
      rw [heq]
      exact .padding hc (hgap hgaps ih)
    · rw [not_comma_of_blank hblank, Bool.or_false] at ih
      rwa [tokens_cons_blank hblank]
  | @item _ _ t s shown _ ih =>
    obtain ⟨gap, hgaps, heq⟩ :=
      joinTokens_append (shown.whole separates_blank) shown.firm.ne_nil s
    rw [heq]
    exact .item shown (hgap hgaps ih)

theorem dropEndWhile_cons (p : Char → Bool) (c : Char) (s : List Char) :
    dropEndWhile p (c :: s) = if dropEndWhile p s = [] ∧ p c = true then []
      else c :: dropEndWhile p s := by
  unfold dropEndWhile
  rw [List.reverse_cons, List.dropWhile_append]
  cases hs : s.reverse.dropWhile p with
  | nil => cases hc : p c <;> simp [hc]
  | cons d ds => simp

theorem Listing.dropEndWhile {p : Char → Bool} (hp : ∀ c, p c = true → isPadding c = true)
    (h : Listing fresh values s) : Listing fresh values (dropEndWhile p s) := by
  induction h with
  | nil => exact .nil
  | padding hc _ ih =>
    rw [dropEndWhile_cons]
    split
    · rename_i hnil
      rw [hnil.1] at ih
      rw [ih.eq_nil]
      exact .nil
    · exact .padding hc ih
  | @item _ _ t s shown _ ih =>
    obtain ⟨c, hc, hlast⟩ := shown.firm.last
    have hstays : Text.dropEndWhile p t = t := by
      refine dropEndWhile_of_getLast? hc (Bool.eq_false_iff.mpr fun hx => ?_)
      rw [hp c hx] at hlast
      cases hlast
    rw [dropEndWhile_append hstays]
    exact .item shown ih

theorem Listing.dropWhile (h : Listing fresh values s) :
    Listing fresh values (s.dropWhile isBlank) := by
  induction h with
  | nil => exact .nil
  | @padding fresh _ c s hc rest ih =>
    cases hblank : isBlank c with
    | true =>
      rw [not_comma_of_blank hblank, Bool.or_false] at ih
      rwa [List.dropWhile_cons_of_pos hblank]
    | false =>
      rw [List.dropWhile_cons_of_neg (by simp [hblank])]
      exact .padding hc rest
  | @item _ _ t s shown rest _ =>
    obtain ⟨c, hc, hfirst⟩ := shown.firm.first
    obtain ⟨u, rfl⟩ := List.head?_eq_some_iff.mp hc
    rw [List.cons_append, List.dropWhile_cons_of_neg (by simp [(Bool.or_eq_false_iff.mp hfirst).2])]
    exact .item shown rest

theorem Listing.trim (h : Listing fresh values s) : Listing fresh values (trim s) :=
  h.dropWhile.dropEndWhile fun _ hc => (Bool.or_eq_true _ _).mpr (.inr hc)

theorem Listing.trimSeparators (h : Listing fresh values s) :
    Listing fresh values (trimSeparators s) := h.dropEndWhile fun _ hc => hc

/-! ### Items -/

theorem trim_concat_blank (hc : isBlank c = true) (s : List Char) :
    Text.trim (s ++ [c]) = Text.trim s := by
  unfold Text.trim trimEnd Text.dropEndWhile
  rw [List.dropWhile_append]
  split
  · rename_i hnil
    simp [List.isEmpty_iff.mp hnil, hc]
  · simp [hc]

/-- The items behind an unfinished one, of which `t` has been read. Where an item may come next,
none is unfinished. -/
theorem Listing.splitList_append (h : Listing fresh values s) (ht : Whole isComma t)
    (hblank : fresh = true → allBlank t = true) :
    splitList (t ++ s) = (listItem? t).toList ++ values := by
  induction h generalizing t with
  | nil => simpa using splitList_whole ht
  | @padding fresh values c s hc _ ih =>
    rcases (Bool.or_eq_true _ _).mp hc with hcomma | hc
    · obtain rfl := beq_iff_eq.mp hcomma
      rw [splitList_comma ht]
      exact congrArg _ (ih (t := []) whole_nil fun _ => rfl)
    · have hitem : listItem? (t ++ [c]) = listItem? t := by
        rw [listItem?, listItem?, trim_concat_blank hc]
      have hwhole : Whole isComma (t ++ [c]) :=
        ht.append (whole_singleton (not_comma_of_blank hc) (separates_blank.not_quote c hc))
      rw [List.append_cons, ih hwhole, hitem]
      rw [not_comma_of_blank hc, Bool.or_false]
      intro hfresh
      simpa [allBlank, hc] using hblank hfresh
  | @item _ _ u s shown _ ih =>
    have hnone : listItem? t = none := by
      have hskip := splitList_padding (hblank rfl) []
      rw [List.append_nil, splitList_whole ht] at hskip
      exact Option.toList_eq_nil_iff.mp hskip
    have hrest := ih (shown.whole separates_comma) fun h => absurd h Bool.false_ne_true
    rw [splitList_padding (hblank rfl), hrest, shown.listItem?, hnone, String.ofList_toList]
    rfl

theorem Listing.splitList (h : Listing true values s) : splitList s = values :=
  h.splitList_append whole_nil fun _ => rfl

theorem pieces_single_of_notMem {p : Char → Bool} {q : Option Char} (h : ∀ c ∈ s, p c = false) :
    pieces p q s = [s] := by
  induction s generalizing q with
  | nil => rfl
  | cons c s ih =>
    obtain ⟨hc, hs⟩ := List.forall_mem_cons.mp h
    exact pieces_single_cons.mpr ⟨by simp [hc], ih hs⟩

/-- Text of several items is a list. -/
theorem literal_of_splitList (h : 2 ≤ (Command.splitList (Text.trim s)).length) :
    literal s = .list (Command.splitList (Text.trim s)) := by
  have hcomma : hasComma (Text.trim s) = true :=
    decide_eq_true (Nat.lt_of_lt_of_le h (List.length_filterMap_le _ _))
  have hmem : ',' ∈ Text.trim s := by
    by_contra hno
    have hsingle : pieces isComma none (Text.trim s) = [Text.trim s] :=
      pieces_single_of_notMem fun c hc => beq_eq_false_iff_ne.mpr fun hx => hno (hx ▸ hc)
    rw [hasComma, hsingle] at hcomma
    exact absurd hcomma (by simp)
  rw [literal, literalOfTrimmed_of_mem hmem (by decide), stripQuotes?_of_hasComma hcomma, hcomma]
  rfl

theorem Listing.positionalParameters (h : Listing true values s) (hne : values ≠ []) :
    positionalParameters (tokens s) = [.positional values] := by
  rw [Command.positionalParameters, h.joinTokens.splitList]
  split
  · exact absurd rfl hne
  · rfl

theorem Listing.valueOfTokens (h : Listing true values s) (hlength : 2 ≤ values.length) :
    valueOfTokens (tokens s) = .list values := by
  have htrimmed := h.joinTokens.trimSeparators
  have hitems := htrimmed.trim.splitList
  rw [Command.valueOfTokens]
  split
  · rename_i hnil
    rw [hnil] at htrimmed
    rw [htrimmed.eq_nil] at hlength
    exact absurd hlength (by decide)
  · rw [literal_of_splitList (by rwa [hitems]), hitems]

/-! ### Commands with a list -/

/-- A stage that is a name and tokens behind it. -/
theorem compileChars_word {name : String} {rest : List Char} (hname : IsWord name)
    (hgap : IsGap gap) (hrest : Whole (· == '|') rest) :
    compileChars (name.toList ++ (gap ++ rest)) =
      [⟨name, positionalParameters (groupTokens (tokens rest)).1 ++
        (groupTokens (tokens rest)).2.map namedParameter⟩] := by
  have htoken := hname.isToken
  have hbare : unquote name.toList = name.toList := by simp [unquote, hname.stripQuotes?]
  have hbuild : buildStage (name.toList :: tokens rest) =
      some ⟨name, positionalParameters (groupTokens (tokens rest)).1 ++
        (groupTokens (tokens rest)).2.map namedParameter⟩ := by
    refine buildStage_eq_some_iff.mpr ⟨_, _, rfl, ?_, ?_⟩
    · rw [hbare]
      exact htoken.not_allBlank
    · rw [hbare, String.ofList_toList]
  rw [compileChars_whole (htoken.bar.append ((whole_gap hgap.2).append hrest)),
    htoken.tokens_append_gap hgap, hbuild]
  rfl

theorem Listing.compileChars_named {name key : String} {gap' : List Char}
    (h : Listing true values s) (hlength : 2 ≤ values.length) (hname : IsWord name)
    (hkey : IsKey key) (hgap : IsGap gap) (hgap' : IsGap gap') :
    compileChars (name.toList ++ (gap ++ ('-' :: key.toList ++ (gap' ++ s)))) =
      [⟨name, [.named key (.list values)]⟩] := by
  have hplain := hkey.plain
  have hgroups : groupTokens (tokens s) = (tokens s, []) := by
    simpa [groupTokens] using groupTokens_values h.not_name []
  have hread : namedParameter ('-' :: key.toList, tokens s) = .named key (.list values) := by
    simp [namedParameter, splitParameter_key hplain.colon, h.valueOfTokens hlength]
  rw [compileChars_word hname hgap (hplain.token.bar.append ((whole_gap hgap'.2).append h.whole)),
    hplain.token.tokens_append_gap hgap', groupTokens_name (isParameterName_key hplain), hgroups]
  have hnone : Command.positionalParameters [] = [] := rfl
  simp [hread, hnone]

theorem Listing.compileChars_positional {name : String} (h : Listing true values s)
    (hne : values ≠ []) (hname : IsWord name) (hgap : IsGap gap) :
    compileChars (name.toList ++ (gap ++ s)) = [⟨name, [.positional values]⟩] := by
  have hgroups : groupTokens (tokens s) = (tokens s, []) := by
    simpa [groupTokens] using groupTokens_values h.not_name []
  rw [compileChars_word hname hgap h.whole, hgroups, h.positionalParameters hne]
  rfl

/-- A list compiles to its strings, behind a key and as the values without a name, whatever commas
and white space stand before it, between its strings and after it, as long as a comma stands between
any two of them. -/
theorem compile_listText {name key : String} {gap gap' lead : List Char} {entries : List Entry}
    (hname : IsWord name) (hkey : IsKey key) (hgap : IsGap gap) (hgap' : IsGap gap')
    (hlead : ∀ c ∈ lead, isPadding c = true) (hlength : 2 ≤ entries.length)
    (hcomma : ∀ e ∈ entries.dropLast, ',' ∈ e.separator) :
    compile (String.ofList
        (name.toList ++ (gap ++ ('-' :: key.toList ++ (gap' ++ (lead ++ listText entries)))))) =
      [⟨name, [.named key (.list (entries.map (·.value)))]⟩] ∧
    compile (String.ofList (name.toList ++ (gap ++ (lead ++ listText entries)))) =
      [⟨name, [.positional (entries.map (·.value))]⟩] := by
  have hlisting : Listing true (entries.map (·.value)) (lead ++ listText entries) :=
    .padding_append hlead (listing_listText hcomma)
  have hvalues : 2 ≤ (entries.map (·.value)).length := by rwa [List.length_map]
  rw [compile, compile, String.toList_ofList, String.toList_ofList]
  constructor
  · exact hlisting.compileChars_named hvalues hname hkey hgap hgap'
  · exact hlisting.compileChars_positional (List.ne_nil_of_length_pos (by omega)) hname hgap

end

def columnEntries : List Entry :=
  [.printed "a,|b" (by decide) ",, ".toList (List.all_eq_true.mp rfl),
    ⟨"x", "\"x\"".toList, "\t,".toList, .quoted (q := '"') rfl (by decide),
      List.all_eq_true.mp rfl⟩,
    .printed "" (by decide) ",\u00a0".toList (List.all_eq_true.mp rfl),
    .printed "it's -y" (by decide) "\u2003,".toList (List.all_eq_true.mp rfl),
    .printed "42" (by decide) " , ".toList (List.all_eq_true.mp rfl)]

/-- There is no white space between some of the strings, and commas only in front. -/
theorem compile_listText_columns :
    "Get -Names\t, 'a,|b',, \"x\"\t,'',\u00a0\"it's -y\"\u2003,42 , ".toList =
      "Get".toList ++ (" ".toList ++ ('-' :: "Names".toList ++ ("\t".toList ++
        (", ".toList ++ listText columnEntries)))) ∧
    compile (String.ofList ("Get".toList ++ (" ".toList ++ ('-' :: "Names".toList ++
        ("\t".toList ++ (", ".toList ++ listText columnEntries)))))) =
      [⟨"Get", [.named "Names" (.list ["a,|b", "x", "", "it's -y", "42"])]⟩] ∧
    compile (String.ofList ("Get".toList ++ (" ".toList ++
        (", ".toList ++ listText columnEntries)))) =
      [⟨"Get", [.positional ["a,|b", "x", "", "it's -y", "42"]]⟩] := by
  have hname : IsWord "Get" := by decide
  have hkey : IsKey "Names" := by decide
  have hgap : IsGap " ".toList := by decide
  have hgap' : IsGap "\t".toList := by decide
  have hlead : ∀ c ∈ ", ".toList, isPadding c = true := List.all_eq_true.mp rfl
  have hcomma : ∀ e ∈ columnEntries.dropLast, ',' ∈ e.separator := by
    simp [columnEntries, Entry.printed]
  exact ⟨by decide, compile_listText hname hkey hgap hgap' hlead (by decide) hcomma⟩

end CommandBridge.Command
