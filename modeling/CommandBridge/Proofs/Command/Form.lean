import CommandBridge.Proofs.Command.Scan
import CommandBridge.Proofs.Lists

/-! The form of compiled stages: a name, one list of values in front if there are any, and one named
parameter for each name among the tokens. -/
namespace CommandBridge.Command

open Text

/-! ### Names and values among the tokens -/

theorem isParameterName_iff {t : List Char} :
    isParameterName t = true ↔ ∃ c u, t = '-' :: c :: u ∧ isLetter c = true := by
  constructor
  · intro h
    rw [isParameterName.eq_def] at h
    split at h
    · exact ⟨_, _, rfl, h⟩
    · cases h
  · rintro ⟨c, u, rfl, hc⟩
    exact hc

/-- The text between the dash and the first colon, or the end. -/
def keyText (token : List Char) : List Char := (token.drop 1).takeWhile (· != ':')

theorem keyText_ne_nil {t : List Char} (h : isParameterName t = true) : keyText t ≠ [] := by
  obtain ⟨c, u, rfl, hc⟩ := isParameterName_iff.mp h
  have hcolon : c ≠ ':' := by
    rintro rfl
    exact absurd hc (by decide)
  simp [keyText, hcolon]

theorem groupTokens_fst (ts : List (List Char)) :
    (groupTokens ts).1 = ts.takeWhile (!isParameterName ·) := by
  induction ts with
  | nil => rfl
  | cons t ts ih => cases ht : isParameterName t <;> simp [groupTokens, ht, ih]

theorem groupTokens_names (ts : List (List Char)) :
    (groupTokens ts).2.map (·.1) = ts.filter isParameterName := by
  induction ts with
  | nil => rfl
  | cons t ts ih => cases ht : isParameterName t <;> simp [groupTokens, ht, ih]

/-! ### Values without a name -/

theorem removeOutside_comma_of_forall {t : List Char} (h : ∀ c ∈ t, c = ',') :
    removeOutside isComma none t = [] := by
  induction t with
  | nil => rfl
  | cons c t ih =>
    obtain ⟨rfl, ht⟩ := List.forall_mem_cons.mp h
    rw [removeOutside_separator rfl]
    exact ih ht

theorem comma_of_removeOutside {t : List Char} (h : removeOutside isComma none t = []) :
    ∀ c ∈ t, c = ',' := by
  intro c hc
  by_contra hne
  obtain ⟨piece, hpiece, hmem⟩ : ∃ piece ∈ pieces isComma none t, c ∈ piece :=
    mem_pieces hc (by simpa [isComma] using hne)
  have hflat : c ∈ (pieces isComma none t).flatten := List.mem_flatten.mpr ⟨piece, hpiece, hmem⟩
  rw [flatten_pieces separates_comma.not_quote, h] at hflat
  cases hflat

/-- A token of nothing but commas and blanks has no blanks either: it has no quote to hold them. -/
theorem IsToken.comma_of_padding {t : List Char} (ht : IsToken t)
    (h : ∀ c ∈ t, isPadding c = true) : ∀ c ∈ t, c = ',' := by
  intro c hc
  rcases (Bool.or_eq_true _ _).mp (h c hc) with hcomma | hblank
  · exact beq_iff_eq.mp hcomma
  · obtain ⟨a, z, rfl⟩ := List.append_of_mem hc
    have hshut : openQuote none a = none := by
      cases ha : openQuote none a with
      | none => rfl
      | some q =>
        obtain ⟨hq, hquote⟩ := (openQuote_eq_some ha).resolve_left (by simp)
        have hpad := h q (List.mem_append_left _ hq)
        rw [isPadding_of_isQuote hquote] at hpad
        cases hpad
    have hcut := ht.blank.single
    rw [pieces_append_separator separates_blank.not_quote hshut hblank] at hcut
    have hlength := congrArg List.length hcut
    have hfront := List.length_pos_iff.mpr (pieces_ne_nil isBlank none a)
    have hback := List.length_pos_iff.mpr (pieces_ne_nil isBlank none z)
    simp only [List.length_append, List.length_singleton] at hlength
    omega

/-- Nothing but padding has no items. -/
theorem splitList_eq_nil {s : List Char} (h : ∀ c ∈ s, isPadding c = true) : splitList s = [] := by
  induction s with
  | nil => rfl
  | cons c s ih =>
    obtain ⟨hc, hs⟩ := List.forall_mem_cons.mp h
    rcases (Bool.or_eq_true _ _).mp hc with hcomma | hblank
    · obtain rfl := beq_iff_eq.mp hcomma
      have hnone : splitList ([] ++ ',' :: s) = splitList s := splitList_comma whole_nil
      exact hnone.trans (ih hs)
    · rw [splitList_blank hblank, ih hs]

/-- Tokens have an item among them unless they are commas. -/
theorem splitList_joinTokens_ne_nil {ts : List (List Char)} (h : ∀ t ∈ ts, IsToken t) :
    splitList (joinTokens ts) ≠ [] ↔ ∃ t ∈ ts, removeOutside isComma none t ≠ [] := by
  constructor
  · intro hne
    by_contra hnone
    simp only [not_exists, not_and, ne_eq, not_not] at hnone
    refine hne (splitList_eq_nil fun c hc => ?_)
    rcases mem_intercalate hc with hblank | ⟨t, ht, hct⟩
    · obtain rfl := List.mem_singleton.mp hblank
      rfl
    · obtain rfl := comma_of_removeOutside (hnone t ht) c hct
      rfl
  · rintro ⟨t, ht, hne⟩
    obtain ⟨c, hc, hpad⟩ : ∃ c ∈ t, isPadding c = false := by
      by_contra hnone
      simp only [not_exists, not_and, Bool.not_eq_false] at hnone
      exact hne (removeOutside_comma_of_forall ((h t ht).comma_of_padding hnone))
    exact splitList_ne_nil (mem_intercalate_of_mem ht hc) hpad

/-! ### Stages -/

def Parameter.key? : Parameter → Option String
  | .named key _ => some key
  | .positional _ => none

/-- What a stage is, made of tokens of which the first is its name. -/
structure Formed (ts : List (List Char)) (st : Stage) : Prop where
  name : allBlank st.name.toList = false
  /-- There is one named parameter for each name among the tokens, in the same order. -/
  keys : st.parameters.filterMap Parameter.key? =
    (ts.tail.filter isParameterName).map fun t => String.ofList (keyText t)
  key : ∀ t ∈ ts.tail, isParameterName t = true → keyText t ≠ []
  /-- Values without a name come first, and all in one list. -/
  first : ∀ p ∈ st.parameters.tail, ∃ key v, p = .named key v
  values : ∀ vs, .positional vs ∈ st.parameters → vs ≠ []
  positional : (∃ vs, .positional vs ∈ st.parameters) ↔
    ∃ t ∈ ts.tail.takeWhile (!isParameterName ·), removeOutside isComma none t ≠ []
  items : ∀ key vs, .named key (.list vs) ∈ st.parameters → vs ≠ []

theorem keys_named (groups : List (List Char × List (List Char))) :
    (groups.map namedParameter).filterMap Parameter.key? =
      (groups.map (·.1)).map fun t => String.ofList (keyText t) := by
  rw [List.filterMap_map, List.map_map, ← List.filterMap_eq_map]
  refine List.filterMap_congr fun g _ => ?_
  exact congrArg (fun key => some (String.ofList key)) (splitParameter_fst g.1)

theorem mem_positionalParameters {ts : List (List Char)} {p : Parameter}
    (h : p ∈ positionalParameters ts) : ∃ vs, vs ≠ [] ∧ p = .positional vs := by
  rcases positionalParameters_cases ts with hx | ⟨vs, hne, hx⟩
  · rw [hx] at h
    cases h
  · rw [hx] at h
    exact ⟨vs, hne, List.mem_singleton.mp h⟩

theorem positionalParameters_eq_nil_iff {ts : List (List Char)} :
    positionalParameters ts = [] ↔ splitList (joinTokens ts) = [] := by
  unfold positionalParameters
  split
  · exact ⟨fun _ => ‹_›, fun _ => rfl⟩
  · exact ⟨nofun, fun h => absurd h ‹_›⟩

theorem exists_positional_iff {ts : List (List Char)}
    {groups : List (List Char × List (List Char))} :
    (∃ vs, .positional vs ∈ positionalParameters ts ++ groups.map namedParameter) ↔
      splitList (joinTokens ts) ≠ [] := by
  rw [ne_eq, ← positionalParameters_eq_nil_iff]
  constructor
  · rintro ⟨vs, hvs⟩ hnil
    rw [hnil, List.nil_append] at hvs
    obtain ⟨_, _, heq⟩ := exists_of_mem_named hvs
    cases heq
  · intro hne
    obtain ⟨vs, -, hx⟩ := (positionalParameters_cases ts).resolve_left hne
    exact ⟨vs, by simp [hx]⟩

theorem formed_of_buildStage {ts : List (List Char)} {st : Stage} (ht : ∀ t ∈ ts, IsToken t)
    (hb : buildStage ts = some st) : Formed ts st := by
  obtain ⟨t, us, rfl, hname, rfl⟩ := buildStage_eq_some_iff.mp hb
  refine ⟨?_, ?_, fun _ _ => keyText_ne_nil, tail_named _ _, ?_, ?_, ?_⟩
  · rwa [String.toList_ofList]
  · have hnone : (positionalParameters (groupTokens us).1).filterMap Parameter.key? = [] :=
      List.filterMap_eq_nil_iff.mpr fun p hp => by
        obtain ⟨vs, -, rfl⟩ := mem_positionalParameters hp
        rfl
    rw [List.filterMap_append, hnone, List.nil_append, keys_named, groupTokens_names,
      List.tail_cons]
  · intro vs hp
    rcases List.mem_append.mp hp with hp | hp
    · obtain ⟨us, hne, heq⟩ := mem_positionalParameters hp
      obtain rfl := Parameter.positional.inj heq
      exact hne
    · obtain ⟨_, _, heq⟩ := exists_of_mem_named hp
      cases heq
  · have hvalues : ∀ u ∈ (groupTokens us).1, IsToken u := by
      rw [groupTokens_fst]
      exact fun u hu => ht u (List.mem_cons_of_mem t ((List.takeWhile_sublist _).subset hu))
    rw [exists_positional_iff, splitList_joinTokens_ne_nil hvalues, groupTokens_fst, List.tail_cons]
  · intro key vs hp
    rcases List.mem_append.mp hp with hp | hp
    · obtain ⟨_, -, heq⟩ := mem_positionalParameters hp
      cases heq
    · obtain ⟨g, -, hg⟩ := List.mem_map.mp hp
      exact valueOfTokens_list_ne_nil (Parameter.named.inj hg).2

/-! ### Where names are cut -/

section
variable {split split' : List Char → List Char × Option (List Char)}

/-- A named parameter whose token `split` cuts. -/
def namedParameterBy (split : List Char → List Char × Option (List Char))
    (group : List Char × List (List Char)) : Parameter :=
  .named (String.ofList (split group.1).1) (valueOfTokens ((split group.1).2.toList ++ group.2))

def buildStageBy (split : List Char → List Char × Option (List Char)) :
    List (List Char) → Option Stage
  | [] => none
  | first :: rest =>
    if allBlank (unquote first) then none
    else some ⟨String.ofList (unquote first), positionalParameters (groupTokens rest).1 ++
      (groupTokens rest).2.map (namedParameterBy split)⟩

theorem buildStageBy_splitParameter (ts : List (List Char)) :
    buildStageBy splitParameter ts = buildStage ts := by cases ts <;> rfl

/-- Only tokens that start with a dash are cut. -/
theorem buildStageBy_congr (h : ∀ t, t.head? = some '-' → split t = split' t)
    (ts : List (List Char)) : buildStageBy split ts = buildStageBy split' ts := by
  cases ts with
  | nil => rfl
  | cons t us =>
    have hgroups : (groupTokens us).2.map (namedParameterBy split) =
        (groupTokens us).2.map (namedParameterBy split') := by
      refine List.map_congr_left fun g hg => ?_
      obtain ⟨c, rest, heq, -⟩ := isParameterName_iff.mp (mem_groupTokens hg).1
      rw [namedParameterBy, namedParameterBy, h g.1 (by simp [heq])]
    rw [buildStageBy, buildStageBy, hgroups]

end

/-! ### Pipelines -/

/-- The first token is not blank when its quotes are taken off. -/
def isNamed (ts : List (List Char)) : Bool := ts.head?.any fun t => !allBlank (unquote t)

theorem isNamed_eq (ts : List (List Char)) : isNamed ts = (buildStage ts).isSome := by
  cases ts with
  | nil => rfl
  | cons t us => cases hb : allBlank (unquote t) <;> simp [isNamed, buildStage, hb]

theorem forall₂_buildStage {stages : List (List (List Char))}
    (h : ∀ ts ∈ stages, ∀ t ∈ ts, IsToken t) :
    List.Forall₂ Formed (stages.filter isNamed) (stages.filterMap buildStage) := by
  induction stages with
  | nil => exact .nil
  | cons ts stages ih =>
    obtain ⟨hts, hstages⟩ := List.forall_mem_cons.mp h
    cases hb : buildStage ts with
    | none =>
      rw [List.filterMap_cons_none hb, List.filter_cons_of_neg (by simp [isNamed_eq, hb])]
      exact ih hstages
    | some st =>
      rw [List.filterMap_cons_some hb, List.filter_cons_of_pos (by simp [isNamed_eq, hb])]
      exact .cons (formed_of_buildStage hts hb) (ih hstages)

/-- A command line compiles to one stage for each part of it that is named, each formed from its own
tokens, and these parts are at most one more than its bars. Only tokens that start with a dash are
cut into key and value. -/
theorem compile_formed (s : String) :
    List.Forall₂ Formed ((scan s.toList).filter isNamed) (compile s) ∧
    (compile s).length ≤ countOutside (· == '|') none s.toList + 1 ∧
    ∀ split : List Char → List Char × Option (List Char),
      (∀ t, t.head? = some '-' → split t = splitParameter t) →
        (scan s.toList).filterMap (buildStageBy split) = compile s := by
  refine ⟨?_, ?_, ?_⟩
  · exact forall₂_buildStage fun ts hts t ht => isToken_of_mem_scan hts ht
  · rw [← length_scan]
    exact List.length_filterMap_le buildStage _
  · intro split hsplit
    refine List.filterMap_congr fun ts _ => ?_
    rw [buildStageBy_congr hsplit, buildStageBy_splitParameter]

/-- Cuts tokens with a dash only. -/
def cutDashed (t : List Char) : List Char × Option (List Char) :=
  if t.head? = some '-' then splitParameter t else ([], none)

/-- A quoted comma is a value, a comma alone is none, and a quoted blank is no name. -/
theorem compile_formed_commas :
    compile "Get ',' , -Key:a:b,, '-x' -1 | ' ' x | Set , -On -é:" =
      [⟨"Get", [.positional [","], .named "Key" (.list ["a:b", "'-x' -1"])]⟩,
        ⟨"Set", [.named "On" (.bool true), .named "é" (.bool true)]⟩] ∧
    (scan "Get ',' , -Key:a:b,, '-x' -1 | ' ' x | Set , -On -é:".toList).filterMap
        (buildStageBy cutDashed) =
      compile "Get ',' , -Key:a:b,, '-x' -1 | ' ' x | Set , -On -é:" := by
  refine ⟨by decide, (compile_formed _).2.2 cutDashed fun t ht => ?_⟩
  rw [cutDashed, if_pos ht]

end CommandBridge.Command
