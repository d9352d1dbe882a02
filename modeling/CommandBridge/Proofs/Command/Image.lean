import CommandBridge.Proofs.Command.RoundTrip

/-! What command lines compile to: which tokens are scanned, and which keys and values are made of
them. -/
namespace CommandBridge.Command

open Text

theorem mem_tokens {s t : List Char} : t ∈ tokens s ↔ t ∈ pieces isBlank none s ∧ t ≠ [] := by
  simp [tokens, List.mem_filter]

/-- Whatever is scanned comes in tokens. -/
theorem isToken_of_mem_scan {s t : List Char} {ts : List (List Char)} (hts : ts ∈ scan s)
    (ht : t ∈ ts) : IsToken t := by
  rw [scan_eq] at hts
  obtain ⟨stage, hstage, rfl⟩ := List.mem_map.mp hts
  have hwhole : Whole (· == '|') stage :=
    whole_of_mem_pieces separates_bar.not_quote (openQuote_closed s) hstage
  obtain ⟨hpiece, hne⟩ := mem_tokens.mp ht
  have hblank : Whole isBlank t := whole_of_mem_pieces separates_blank.not_quote hwhole.shut hpiece
  have hbar := single_of_mem_pieces separates_blank.not_quote hwhole.single hpiece
  exact ⟨hne, hblank, ⟨hbar, hblank.shut⟩⟩

/-! ### Names of parameters -/

theorem mem_groupTokens {ts : List (List Char)} {g : List Char × List (List Char)}
    (h : g ∈ (groupTokens ts).2) : isParameterName g.1 = true ∧ g.1 ∈ ts := by
  induction ts with
  | nil => exact nomatch h
  | cons t ts ih =>
    cases ht : isParameterName t with
    | true =>
      rw [groupTokens_name ht] at h
      rcases List.mem_cons.mp h with rfl | h
      · exact ⟨ht, List.mem_cons_self⟩
      · exact (ih h).imp_right (List.mem_cons_of_mem t)
    | false =>
      have hsame : (groupTokens (t :: ts)).2 = (groupTokens ts).2 := by simp [groupTokens, ht]
      rw [hsame] at h
      exact (ih h).imp_right (List.mem_cons_of_mem t)

theorem splitParameter_fst (t : List Char) :
    (splitParameter t).1 = (t.drop 1).takeWhile (· != ':') := by
  unfold splitParameter
  dsimp only
  split <;> rfl

/-- What every key is, whatever quotes it holds. -/
structure IsKeyText (key : List Char) : Prop where
  letter : key.head?.any isLetter = true
  colon : ':' ∉ key
  blank : pieces isBlank none ('-' :: key) = ['-' :: key]
  bar : pieces (· == '|') none ('-' :: key) = ['-' :: key]

theorem isKeyText_of_isToken {t : List Char} (ht : IsToken t) (hn : isParameterName t = true) :
    IsKeyText (splitParameter t).1 := by
  rw [splitParameter_fst]
  rw [isParameterName.eq_def] at hn
  split at hn
  · rename_i c rest
    have hc : c ≠ ':' := by
      rintro rfl
      exact absurd hn (by decide)
    have hbody : ('-' :: c :: rest).drop 1 = c :: rest := rfl
    have hsplit : '-' :: c :: rest =
        ('-' :: (c :: rest).takeWhile (· != ':')) ++ (c :: rest).dropWhile (· != ':') := by
      rw [List.cons_append, List.takeWhile_append_dropWhile]
    have hblank := ht.blank.single
    have hbar := ht.bar.single
    rw [hsplit] at hblank hbar
    rw [hbody]
    refine ⟨by simp [hc, hn], fun hm => ?_, pieces_single_of_append hblank,
      pieces_single_of_append hbar⟩
    exact absurd (List.mem_takeWhile_imp hm) (by simp)
  · cases hn

/-- A key is read again unless it leaves a quote open, which happens where a colon cuts a token
inside quotes. -/
theorem IsKeyText.plain {key : String} (h : IsKeyText key.toList)
    (hshut : openQuote none key.toList = none) : IsPlainKey key where
  letter := h.letter
  colon := h.colon
  token := ⟨List.cons_ne_nil _ _, ⟨h.blank, hshut⟩, ⟨h.bar, hshut⟩⟩

/-! ### Values of parameters -/

/-- Text with anything but commas and white space in it has an item. -/
theorem splitList_ne_nil {c : Char} {s : List Char} (h : c ∈ s) (hc : isPadding c = false) :
    splitList s ≠ [] := by
  obtain ⟨hcomma, hblank⟩ := Bool.or_eq_false_iff.mp hc
  obtain ⟨piece, hpiece, hmem⟩ : ∃ t ∈ pieces isComma none s, c ∈ t := mem_pieces h hcomma
  exact List.ne_nil_of_mem (List.mem_filterMap.mpr ⟨piece, hpiece, listItem?_of_mem hmem hblank⟩)

theorem exists_mem_dropEndWhile {p : Char → Bool} {s : List Char} (h : dropEndWhile p s ≠ []) :
    ∃ c ∈ dropEndWhile p s, p c = false := by
  have hne : s.reverse.dropWhile p ≠ [] := by simpa [dropEndWhile] using h
  refine ⟨(s.reverse.dropWhile p).head hne, ?_, ?_⟩
  · exact List.mem_reverse.mpr (List.head_mem hne)
  · simpa using List.head_dropWhile_not p hne

/-- A list is never empty: without the commas at its end some item is left. -/
theorem valueOfTokens_list_ne_nil {ts : List (List Char)} {items : List String}
    (h : valueOfTokens ts = .list items) : items ≠ [] := by
  unfold valueOfTokens at h
  split at h
  · exact nomatch h
  · rename_i s hs
    obtain ⟨c, hmem, hc⟩ := exists_mem_dropEndWhile hs
    have hblank : isBlank c = false := (Bool.or_eq_false_iff.mp hc).2
    rw [(list_of_literal h).2]
    exact splitList_ne_nil (mem_trim hmem hblank) hc

/-- The value is none of those that are documented not to be restored. -/
def Value.Restorable : Value → Prop
  | .string s => Quotable s
  | .list items => items.length ≠ 1 ∧ ∀ s ∈ items, Quotable s
  | _ => True

instance : DecidablePred Value.Restorable
  | .string s => inferInstanceAs (Decidable (Quotable s))
  | .list items => inferInstanceAs (Decidable (items.length ≠ 1 ∧ ∀ s ∈ items, Quotable s))
  | .null | .bool _ | .int _ => isTrue trivial

theorem valueOfTokens_displayable {ts : List (List Char)} (h : (valueOfTokens ts).Restorable) :
    (valueOfTokens ts).Displayable := by
  cases hv : valueOfTokens ts with
  | null | bool | int => trivial
  | string s => rwa [hv] at h
  | list items =>
    rw [hv] at h
    have hne := List.length_pos_iff.mpr (valueOfTokens_list_ne_nil hv)
    have hone : items.length ≠ 1 := h.1
    exact ⟨by omega, h.2⟩

/-! ### Stages -/

def Parameter.Restorable : Parameter → Prop
  | .named _ v => v.Restorable
  | .positional values => ∀ s ∈ values, Quotable s

instance : DecidablePred Parameter.Restorable
  | .named _ v => inferInstanceAs (Decidable v.Restorable)
  | .positional values => inferInstanceAs (Decidable (∀ s ∈ values, Quotable s))

theorem positionalParameters_cases (ts : List (List Char)) : positionalParameters ts = [] ∨
    ∃ values, values ≠ [] ∧ positionalParameters ts = [.positional values] := by
  unfold positionalParameters
  split
  · exact .inl rfl
  · rename_i hne
    exact .inr ⟨_, fun h => hne h, rfl⟩

theorem exists_of_mem_named {groups : List (List Char × List (List Char))} {p : Parameter}
    (h : p ∈ groups.map namedParameter) : ∃ key v, p = .named key v := by
  obtain ⟨g, -, rfl⟩ := List.mem_map.mp h
  exact ⟨_, _, rfl⟩

/-- Values without a name stand in front, and all in one list. -/
theorem tail_named (ts : List (List Char)) (groups : List (List Char × List (List Char))) :
    ∀ p ∈ (positionalParameters ts ++ groups.map namedParameter).tail,
      ∃ key v, p = .named key v := by
  intro p hp
  rcases positionalParameters_cases ts with hx | ⟨values, -, hx⟩
  · rw [hx, List.nil_append] at hp
    exact exists_of_mem_named (List.mem_of_mem_tail hp)
  · rw [hx, List.singleton_append, List.tail_cons] at hp
    exact exists_of_mem_named hp

theorem buildStage_eq_some_iff {ts : List (List Char)} {st : Stage} :
    buildStage ts = some st ↔ ∃ t us, ts = t :: us ∧ allBlank (unquote t) = false ∧
      st = ⟨String.ofList (unquote t), positionalParameters (groupTokens us).1 ++
        (groupTokens us).2.map namedParameter⟩ := by
  cases ts with
  | nil => simp [buildStage]
  | cons t us =>
    cases hb : allBlank (unquote t) with
    | true => simp [buildStage, hb]
    | false =>
      rw [buildStage, if_neg (by simp [hb])]
      simp [hb, @eq_comm _ _ st]

/-- All that is printed of a parameter is read as it was meant, if no quote is open. -/
def Parameter.Legible : Parameter → Prop
  | .named key v => IsKeyText key.toList ∧ v.Displayable
  | .positional values => values ≠ [] ∧ ∀ s ∈ values, Quotable s

/-- What a command line compiles to, apart from the names of stages. -/
theorem legible_of_buildStage {ts : List (List Char)} {st : Stage} (ht : ∀ t ∈ ts, IsToken t)
    (hb : buildStage ts = some st) (hp : ∀ p ∈ st.parameters, p.Restorable) :
    (∀ p ∈ st.parameters, p.Legible) ∧ ∀ p ∈ st.parameters.tail, ∃ key v, p = .named key v := by
  obtain ⟨t, us, rfl, -, rfl⟩ := buildStage_eq_some_iff.mp hb
  have hnamed : ∀ p ∈ (groupTokens us).2.map namedParameter, p.Legible := by
    intro p hm
    have hrestorable := hp p (List.mem_append_right _ hm)
    obtain ⟨g, hg, rfl⟩ := List.mem_map.mp hm
    obtain ⟨hn, hmem⟩ := mem_groupTokens hg
    refine ⟨?_, valueOfTokens_displayable hrestorable⟩
    show IsKeyText (String.ofList (splitParameter g.1).1).toList
    rw [String.toList_ofList]
    exact isKeyText_of_isToken (ht g.1 (List.mem_cons_of_mem _ hmem)) hn
  refine ⟨?_, tail_named _ _⟩
  rcases positionalParameters_cases (groupTokens us).1 with hx | ⟨values, hne, hx⟩
  · simp only [hx, List.nil_append]
    exact hnamed
  · simp only [hx, List.cons_append, List.nil_append] at hp ⊢
    exact List.forall_mem_cons.mpr ⟨⟨hne, hp _ List.mem_cons_self⟩, hnamed⟩

end CommandBridge.Command
