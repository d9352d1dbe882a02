import CommandBridge.Proofs.Command.Image

/-! Which command lines are restored from what their pipelines are displayed as. The names of stages
and the keys are displayed bare, so those that needed quotes are not. -/
namespace CommandBridge.Command

open Text

/-! ### Names that are read where they stand -/

theorem allBlank_append {s t : List Char} (h : allBlank s = false) :
    allBlank (s ++ t) = false := by
  rw [allBlank, List.all_append, ← allBlank, h, Bool.false_and]

/-- A token that an open quote goes on with is not blank if it would not be so when closed. -/
theorem not_blank_append {m : List Char} {q : Char} (hm : openQuote none m = some q)
    (h : allBlank (unquote (closed m)) = false) (z : List Char) :
    allBlank (unquote (m ++ z)) = false := by
  obtain ⟨hmem, hquote⟩ := (openQuote_eq_some hm).resolve_left (by simp)
  cases hs : stripQuotes? (m ++ z) with
  | none =>
    have hblank : allBlank m = false :=
      List.all_eq_false.mpr ⟨q, hmem, by simp [isBlank_of_isQuote hquote]⟩
    rw [unquote, hs]
    exact allBlank_append hblank
  | some inner =>
    obtain ⟨r, hr, hinner, heq⟩ := stripQuotes?_eq_some_iff.mp hs
    cases m with
    | nil => cases hmem
    | cons d m =>
      obtain ⟨rfl, heq⟩ := List.cons.inj heq
      have inside {s : List Char} (hx : d ∉ s) : openQuote none (d :: s) = some d := by
        obtain ⟨-, hopen⟩ : pieces isBlank (some d) s = [s] ∧ openQuote (some d) s = some d :=
          pieces_inside hx
        rw [openQuote_cons, quoteAfter, if_pos hr, hopen]
      have hpre : m <+: inner ++ [d] := ⟨z, heq⟩
      rcases List.prefix_concat_iff.mp hpre with rfl | ⟨a, rfl⟩
      · -- the quote at the end would have closed the one at the start
        rw [← List.cons_append, openQuote_append, inside hinner] at hm
        simp [quoteAfter] at hm
      · have hd : d ∉ m := fun hx => hinner (List.mem_append_left a hx)
        rw [closed, inside hd, Option.toList_some, unquote_quoted hr hd] at h
        rw [unquote, hs, Option.getD_some]
        exact allBlank_append h

/-- The first token of text that is a stage when it is closed begins that text, and is no blank,
whatever else the stage goes on with. -/
theorem tokens_append_head {l z : List Char} {st : Stage}
    (hl : buildStage (tokens (closed l)) = some st)
    (hz : openQuote none l = none → ∀ c ∈ z.head?, isBlank c = true) :
    ∃ t us, tokens (l ++ z) = t :: us ∧ allBlank (unquote t) = false ∧ ∃ c ∈ l, c ∈ t.head? := by
  obtain ⟨bs, m, hm⟩ := exists_ends separates_blank.not_quote l
  have begins {p : List Char} (hp : p ∈ bs ++ [m]) (hne : p ≠ []) (x : List Char) :
      ∃ c ∈ l, c ∈ (p ++ x).head? := by
    cases p with
    | nil => exact absurd rfl hne
    | cons c p =>
      rw [← hm.pieces_eq] at hp
      exact ⟨c, (sublist_of_mem_pieces hp).subset List.mem_cons_self, rfl⟩
  obtain ⟨t, us, ht, hblank, -⟩ := buildStage_eq_some_iff.mp hl
  rw [tokens, hm.closed, List.filter_append] at ht
  cases hp : pieces isBlank (openQuote none l) z with
  | nil => exact absurd hp (pieces_ne_nil _ _ _)
  | cons z₁ zs =>
    have happend : tokens (l ++ z) = bs.filter (· ≠ []) ++ ((m ++ z₁) :: zs).filter (· ≠ []) := by
      rw [tokens, hm.append, hp, List.filter_append]
      rfl
    cases hbs : bs.filter (· ≠ []) with
    | cons b bs' =>
      rw [hbs] at ht happend
      obtain ⟨rfl, -⟩ := List.cons.inj ht
      obtain ⟨hb, hne⟩ := List.mem_filter.mp (hbs ▸ List.mem_cons_self)
      obtain ⟨c, hc, hhead⟩ := begins (List.mem_append_left _ hb) (by simpa using hne) []
      exact ⟨b, _, happend, hblank, c, hc, by simpa using hhead⟩
    | nil =>
      rw [hbs, List.nil_append] at ht happend
      have hne : closed m ≠ [] := by
        intro hnil
        simp [hnil] at ht
      obtain ⟨rfl, -⟩ : closed m = t ∧ [] = us := by simpa [hne] using ht
      have hm' : m ≠ [] := by
        rintro rfl
        exact hne rfl
      refine ⟨m ++ z₁, _, by rw [happend, List.filter_cons_of_pos (by simp [hm'])], ?_,
        begins (by simp) hm' z₁⟩
      cases hq : openQuote none m with
      | some q => exact not_blank_append hq hblank z₁
      | none =>
        obtain rfl : z₁ = [] := by
          rw [hm.quote, hq] at hp hz
          cases z with
          | nil => exact (List.cons.inj hp).1.symm
          | cons c z =>
            rw [pieces_separator (hz rfl c rfl)] at hp
            exact (List.cons.inj hp).1.symm
        rw [closed, hq] at hblank
        exact hblank

/-- The stage that text is read as, whatever follows behind a blank, has a name that begins in that
text. -/
theorem compileChars_append_head {s x : List Char} (hs : compileChars s ≠ [])
    (hx : ∀ c ∈ x.head?, c = ' ') : ∃ t us st, t :: us ∈ scan (s ++ x) ∧
      (compileChars (s ++ x)).head? = some st ∧ st.name = String.ofList (unquote t) ∧
        ∃ c ∈ s, c ∈ t.head? := by
  obtain ⟨ps, l, hl⟩ := exists_ends separates_bar.not_quote s
  let z := x ++ (openQuote none (s ++ x)).toList
  have hclosed : closed (s ++ x) = s ++ z := List.append_assoc _ _ _
  have inside {p : List Char} (hp : p ∈ ps ++ [l]) : p ⊆ s := by
    rw [← hl.pieces_eq] at hp
    exact (sublist_of_mem_pieces hp).subset
  cases hp : pieces (· == '|') (openQuote none s) z with
  | nil => exact absurd hp (pieces_ne_nil _ _ _)
  | cons z₁ zs =>
    have hscan : scan (s ++ x) = ps.map tokens ++ tokens (l ++ z₁) :: zs.map tokens := by
      rw [scan_eq, hclosed, hl.append, hp]
      simp
    have hself : scan s = ps.map tokens ++ [tokens (closed l)] := by
      rw [scan_eq, hl.closed]
      simp
    cases hps : (ps.map tokens).filterMap buildStage with
    | cons st more =>
      have hst : st ∈ (ps.map tokens).filterMap buildStage := hps ▸ List.mem_cons_self
      obtain ⟨ts, hts, hbuild⟩ := List.mem_filterMap.mp hst
      obtain ⟨t, us, rfl, -, hname⟩ := buildStage_eq_some_iff.mp hbuild
      obtain ⟨p, hmem, htokens⟩ := List.mem_map.mp hts
      obtain ⟨ht, hne⟩ := mem_tokens.mp (htokens ▸ List.mem_cons_self : t ∈ tokens p)
      obtain ⟨c, t, rfl⟩ := List.exists_cons_of_ne_nil hne
      have hc : c ∈ p := (sublist_of_mem_pieces ht).subset List.mem_cons_self
      refine ⟨c :: t, us, st, hscan ▸ List.mem_append_left _ hts, ?_, by rw [hname],
        c, inside (List.mem_append_left _ hmem) hc, rfl⟩
      rw [compileChars, hscan, List.filterMap_append, hps]
      rfl
    | nil =>
      cases hb : buildStage (tokens (closed l)) with
      | none => exact absurd (by simp [compileChars, hself, hps, hb]) hs
      | some st =>
        have hz : openQuote none l = none → ∀ c ∈ z₁.head?, isBlank c = true := by
          intro hq c hc
          have hz := head_of_pieces hp c hc
          rw [← hl.quote] at hq
          cases x with
          | nil => simp [z, hq] at hz
          | cons d x =>
            obtain rfl : d = c := by simpa [z] using hz
            rw [hx d rfl]
            rfl
        obtain ⟨t, us, ht, hblank, c, hc, hhead⟩ := tokens_append_head hb hz
        obtain ⟨st', hbuild, hname⟩ : ∃ st', buildStage (tokens (l ++ z₁)) = some st' ∧
            st'.name = String.ofList (unquote t) :=
          ⟨_, buildStage_eq_some_iff.mpr ⟨t, us, ht, hblank, rfl⟩, rfl⟩
        refine ⟨t, us, st', ?_, ?_, hname, c, inside (by simp) hc, hhead⟩
        · rw [hscan, ht]
          simp
        · rw [compileChars, hscan, List.filterMap_append, hps, List.nil_append,
            List.filterMap_cons_some hbuild]
          rfl

/-- So a name that is read as it stands is a token without quotes around it. -/
theorem bare_of_read {name x : List Char} {st : Stage} (hname : compileChars name ≠ [])
    (hx : ∀ c ∈ x.head?, c = ' ') (h : (compileChars (name ++ x)).head? = some st)
    (hst : st.name = String.ofList name) : IsToken name ∧ stripQuotes? name = none := by
  obtain ⟨t, us, st', hscan, hread, hst', c, hc, hhead⟩ := compileChars_append_head hname hx
  obtain rfl := Option.some.inj (h.symm.trans hread)
  have hsame : name = unquote t := String.ofList_injective (hst.symm.trans hst')
  cases hstrip : stripQuotes? t with
  | none =>
    obtain rfl : name = t := by simpa [unquote, hstrip] using hsame
    exact ⟨isToken_of_mem_scan hscan List.mem_cons_self, hstrip⟩
  | some inner =>
    -- the quote in front of the name would be in the name itself
    obtain rfl : name = inner := by simpa [unquote, hstrip] using hsame
    obtain ⟨q, -, hq, rfl⟩ := stripQuotes?_eq_some_iff.mp hstrip
    obtain rfl : q = c := by simpa using hhead
    exact absurd hc hq

/-! ### Keys that leave a quote open -/

/-- Text that a quote is open in is in one piece with what follows. -/
theorem exists_pieces_open {isSeparator : Char → Bool} {s : List Char} {q : Char}
    (hs : pieces isSeparator none s = [s]) (hq : openQuote none s = some q) (c : Char)
    (t : List Char) : ∃ p ps, pieces isSeparator none (s ++ c :: t) = (s ++ c :: p) :: ps := by
  rw [pieces_append hs, hq, pieces_cons rfl]
  cases hp : pieces isSeparator (quoteAfter (some q) c) t with
  | nil => exact absurd hp (pieces_ne_nil _ _ _)
  | cons p ps => exact ⟨p, ps, rfl⟩

/-- One more named parameter is built in behind those of a stage. -/
theorem buildStage_append {s : Stage} (hs : s.Readable) {t : List Char}
    (ht : isParameterName t = true) (us : List (List Char)) :
    buildStage (s.tokens ++ t :: us) = some ⟨s.name, s.parameters ++
      namedParameter (t, (groupTokens us).1) :: (groupTokens us).2.map namedParameter⟩ := by
  have hname : unquote s.name.toList = s.name.toList := by simp [unquote, hs.bare]
  refine buildStage_eq_some_iff.mpr
    ⟨s.name.toList, s.parameters.flatMap Parameter.tokens ++ t :: us, rfl, ?_, ?_⟩
  · rw [hname]
    exact hs.name.not_allBlank
  · rw [hname, String.ofList_toList, groupTokens_append ht, List.map_append, ← List.append_assoc,
      hs.parameters_read]
    rfl

theorem splitParameter_ne {key : List Char} (hk : ':' ∉ key) {c : Char} (hc : c ≠ ':')
    (t : List Char) : (splitParameter ('-' :: key ++ c :: t)).1 ≠ key := by
  rw [splitParameter_fst, List.cons_append, List.drop_one, List.tail_cons,
    List.takeWhile_append_of_pos (not_colon_of_mem hk),
    List.takeWhile_cons_of_pos (by simpa using hc)]
  simp

/-- A key that leaves a quote open is read with more behind it. -/
theorem compileChars_open_key {s : Stage} (hs : s.Readable) {key : List Char} (hk : IsKeyText key)
    {q : Char} (hq : openQuote none key = some q) {y : List Char} (hy : ∀ c ∈ y.head?, c = ' ') :
    ∃ key' v ps, key' ≠ String.ofList key ∧
      (compileChars (s.print ++ ' ' :: '-' :: key ++ y)).head? =
        some ⟨s.name, s.parameters ++ .named key' v :: ps⟩ := by
  have hdash : openQuote none ('-' :: key) = some q := hq
  obtain ⟨c, z, hc, hz⟩ : ∃ c z, c ≠ ':' ∧ y ++ (openQuote (some q) y).toList = c :: z := by
    cases y with
    | nil =>
      obtain ⟨hmem, -⟩ := (openQuote_eq_some hq).resolve_left (by simp)
      exact ⟨q, [], fun hx => hk.colon (hx ▸ hmem), rfl⟩
    | cons c y =>
      obtain rfl : c = ' ' := hy c rfl
      exact ⟨' ', _, by decide, rfl⟩
  have hopen : openQuote none (s.print ++ ' ' :: '-' :: key) = some q := by
    rw [openQuote_append, hs.whole.shut]
    exact hq
  have hclosed : closed (s.print ++ ' ' :: '-' :: key ++ y) =
      s.print ++ ' ' :: ('-' :: key ++ c :: z) := by
    rw [closed, openQuote_append, hopen, List.append_assoc, hz]
    simp
  obtain ⟨w, ws, hw⟩ := exists_pieces_open hk.bar hdash c z
  have hpieces : pieces (· == '|') none (s.print ++ ' ' :: ('-' :: key ++ c :: z)) =
      (s.print ++ ' ' :: ('-' :: key ++ c :: w)) :: ws := by
    rw [pieces_append hs.whole.single, hs.whole.shut, pieces_cons (by rfl)]
    have hblank : quoteAfter none ' ' = none := rfl
    rw [hblank, hw]
    rfl
  obtain ⟨m, ms, hm⟩ := exists_pieces_open hk.blank hdash c w
  have htokens : tokens (s.print ++ ' ' :: ('-' :: key ++ c :: w)) =
      s.tokens ++ ('-' :: key ++ c :: m) :: ms.filter (· ≠ []) := by
    rw [tokens_append hs.whole.shut, hs.tokens_print, tokens, hm, List.filter_cons_of_pos (by simp)]
  have hname := isParameterName_of_letter hk.letter (c :: m)
  have hkey : String.ofList (splitParameter ('-' :: key ++ c :: m)).1 ≠ String.ofList key :=
    fun heq => splitParameter_ne hk.colon hc m (String.ofList_injective heq)
  have hbuild := buildStage_append hs hname (ms.filter (· ≠ []))
  have hread : (compileChars (s.print ++ ' ' :: '-' :: key ++ y)).head? =
      buildStage (s.tokens ++ ('-' :: key ++ c :: m) :: ms.filter (· ≠ [])) := by
    rw [compileChars, scan_eq, hclosed, hpieces, List.map_cons, htokens,
      List.filterMap_cons_some hbuild, hbuild]
    rfl
  exact ⟨_, _, _, hkey, hread.trans hbuild⟩

/-! ### What stands behind -/

theorem blank_append {s t : List Char} (hs : ∀ c ∈ s.head?, c = ' ') (ht : ∀ c ∈ t.head?, c = ' ') :
    ∀ c ∈ (s ++ t).head?, c = ' ' := by
  cases s with
  | nil => exact ht
  | cons d s => exact hs

theorem print_named (key : String) (v : Value) : ∃ x,
    (Parameter.named key v).print = ' ' :: '-' :: key.toList ++ x ∧ ∀ c ∈ x.head?, c = ' ' := by
  have hdash : " -".toList = [' ', '-'] := rfl
  unfold Parameter.print
  split
  · rename_i heq
    obtain ⟨rfl, -⟩ := Parameter.named.inj heq
    exact ⟨[], by simp [hdash], by simp⟩
  · rename_i heq
    obtain ⟨rfl, rfl⟩ := Parameter.named.inj heq
    exact ⟨' ' :: v.print, by simp [hdash], by simp⟩
  · rename_i heq
    exact nomatch heq

theorem blank_print (ps : List Parameter) : ∀ c ∈ (ps.flatMap Parameter.print).head?, c = ' ' := by
  induction ps with
  | nil => simp
  | cons p ps ih =>
    rw [List.flatMap_cons]
    refine blank_append ?_ ih
    cases p with
    | positional values => simp [Parameter.print]
    | named key v =>
      obtain ⟨x, hx, -⟩ := print_named key v
      simp [hx]

/-- What is printed behind the first stage is parted from it by a blank. -/
theorem printChars_cons (s : Stage) (p : Pipeline) :
    ∃ y, printChars (s :: p) = s.print ++ y ∧ ∀ c ∈ y.head?, c = ' ' := by
  cases p with
  | nil => exact ⟨[], by simp [printChars], by simp⟩
  | cons t p =>
    refine ⟨' ' :: '|' :: ' ' :: printChars (t :: p), ?_, by simp⟩
    simp [printChars_cons_cons]

/-! ### Pipelines -/

/-- No quote in the key is left open. -/
def Parameter.Shut : Parameter → Prop
  | .named key _ => openQuote none key.toList = none
  | .positional _ => True

instance : DecidablePred Parameter.Shut
  | .named key _ => inferInstanceAs (Decidable (openQuote none key.toList = none))
  | .positional _ => isTrue trivial

theorem exists_open_key {ps : List Parameter} (h : ¬ ∀ p ∈ ps, p.Shut) : ∃ as key v bs,
    ps = as ++ .named key v :: bs ∧ (∀ p ∈ as, p.Shut) ∧ openQuote none key.toList ≠ none := by
  induction ps with
  | nil => exact absurd (by simp) h
  | cons p ps ih =>
    by_cases hp : p.Shut
    · have hps : ¬ ∀ p ∈ ps, p.Shut := fun hx => h (List.forall_mem_cons.mpr ⟨hp, hx⟩)
      obtain ⟨as, key, v, bs, rfl, has, hkey⟩ := ih hps
      exact ⟨p :: as, key, v, bs, rfl, List.forall_mem_cons.mpr ⟨hp, has⟩, hkey⟩
    · cases p with
      | positional values => exact absurd trivial hp
      | named key v => exact ⟨[], key, v, ps, rfl, by simp, hp⟩

theorem Parameter.Legible.readable {p : Parameter} (h : p.Legible) (hs : p.Shut) : p.Readable := by
  cases p with
  | positional values => exact h
  | named key v => exact ⟨h.1.plain hs, h.2⟩

/-- A stage that can be read when it is printed, as far as that does not depend on its quotes. -/
structure Stage.Legible (s : Stage) : Prop where
  name : compileChars s.name.toList ≠ []
  parameters : ∀ p ∈ s.parameters, p.Legible
  named : ∀ p ∈ s.parameters.tail, ∃ key v, p = .named key v

/-- The name is a token without quotes around it, and no key leaves a quote open. -/
structure Stage.Bare (s : Stage) : Prop where
  name : IsToken s.name.toList
  unquoted : stripQuotes? s.name.toList = none
  keys : ∀ p ∈ s.parameters, p.Shut

instance (s : Stage) : Decidable s.Bare :=
  decidable_of_iff
    (IsToken s.name.toList ∧ stripQuotes? s.name.toList = none ∧ ∀ p ∈ s.parameters, p.Shut)
    ⟨fun h => ⟨h.1, h.2.1, h.2.2⟩, fun h => ⟨h.name, h.unquoted, h.keys⟩⟩

theorem Stage.Legible.readable {s : Stage} (h : s.Legible) (hb : s.Bare) : s.Readable where
  name := hb.name
  bare := hb.unquoted
  parameters p hp := (h.parameters p hp).readable (hb.keys p hp)
  named := h.named

/-- A stage is not read first where it is printed first, unless it can be printed bare. -/
theorem Stage.Legible.bare_of_read {s : Stage} (h : s.Legible) {p : Pipeline}
    (hread : (compileChars (printChars (s :: p))).head? = some s) : s.Bare := by
  obtain ⟨y, hprint, hy⟩ := printChars_cons s p
  obtain ⟨hname, hbare⟩ : IsToken s.name.toList ∧ stripQuotes? s.name.toList = none := by
    rw [hprint, Stage.print, List.append_assoc] at hread
    refine Command.bare_of_read h.name (blank_append (blank_print s.parameters) hy) hread ?_
    rw [String.ofList_toList]
  refine ⟨hname, hbare, ?_⟩
  by_contra hopen
  obtain ⟨ps, key, v, qs, hp, hshut, hkey⟩ := exists_open_key hopen
  obtain ⟨q, hq⟩ := Option.ne_none_iff_exists'.mp hkey
  have hfirst : Stage.Readable ⟨s.name, ps⟩ := by
    refine ⟨hname, hbare, fun r hr => ?_, fun r hr => h.named r ?_⟩
    · exact (h.parameters r (hp ▸ List.mem_append_left _ hr)).readable (hshut r hr)
    · rw [hp]
      cases ps with
      | nil => cases hr
      | cons r' ps => exact List.mem_append_left _ hr
  have htext : IsKeyText key.toList := (h.parameters (.named key v) (by simp [hp])).1
  obtain ⟨x, hvalue, hx⟩ := print_named key v
  have hsame : printChars (s :: p) = Stage.print ⟨s.name, ps⟩ ++ ' ' :: '-' :: key.toList ++
      (x ++ qs.flatMap Parameter.print ++ y) := by
    rw [hprint, Stage.print, Stage.print, hp, List.flatMap_append, List.flatMap_cons, hvalue]
    simp
  obtain ⟨key', v', qs', hne, hread'⟩ := compileChars_open_key hfirst htext hq
    (blank_append (blank_append hx (blank_print qs)) hy)
  rw [hsame, hread'] at hread
  have hparameters : ps ++ .named key' v' :: qs' = s.parameters :=
    congrArg Stage.parameters (Option.some.inj hread)
  rw [hp] at hparameters
  obtain ⟨hnamed, -⟩ := List.cons.inj (List.append_cancel_left hparameters)
  obtain ⟨rfl, -⟩ := Parameter.named.inj hnamed
  exact hne (String.ofList_toList).symm

/-- A pipeline is restored from what it is displayed as if and only if it can be printed bare. -/
theorem compile_display_iff {p : Pipeline} (h : ∀ s ∈ p, s.Legible) :
    compile (display p) = p ↔ ∀ s ∈ p, s.Bare := by
  constructor
  · rw [compile_display_eq]
    induction p with
    | nil => exact fun _ s hs => nomatch hs
    | cons s p ih =>
      obtain ⟨hs, hrest⟩ := List.forall_mem_cons.mp h
      intro hread
      have hbare := hs.bare_of_read (p := p) (by rw [hread]; rfl)
      refine List.forall_mem_cons.mpr ⟨hbare, ?_⟩
      cases p with
      | nil => exact fun s hs => nomatch hs
      | cons t p =>
        rw [printChars_cons_cons, compileChars_print_append (hs.readable hbare)] at hread
        exact ih hrest (List.cons.inj hread).2
  · intro hb
    exact compile_display_of_readable fun s hs => (h s hs).readable (hb s hs)

/-- A command whose values are all restorable is restored from what its pipeline is displayed as if
and only if every stage can be displayed without quotes around its name and in its keys. This leaves
aside names that are nothing when they are read alone, such as a bar. -/
theorem compile_display_compile (command : String)
    (hr : ∀ s ∈ compile command, ∀ p ∈ s.parameters, p.Restorable)
    (hn : ∀ s ∈ compile command, compile s.name ≠ []) :
    compile (display (compile command)) = compile command ↔ ∀ s ∈ compile command, s.Bare := by
  apply compile_display_iff
  intro s hs
  obtain ⟨ts, hts, hbuild⟩ := List.mem_filterMap.mp hs
  have hlegible := legible_of_buildStage (fun t => isToken_of_mem_scan hts) hbuild (hr s hs)
  exact ⟨hn s hs, hlegible.1, hlegible.2⟩

/-- A command with quotes around its values and in a key. -/
def quoted : String := "Get-Mailbox 'a b' -Name:\"it's\" -Li'mi't 5, | 'Select' x,y"

theorem compile_display_compile_quoted :
    compile quoted = [⟨"Get-Mailbox", [.positional ["a b"], .named "Name" (.string "it's"),
        .named "Li'mi't" (.int 5)]⟩, ⟨"Select", [.positional ["x", "y"]]⟩] ∧
      compile (display (compile quoted)) = compile quoted ∧
        compile (display (compile "'Get Mailbox'")) ≠ compile "'Get Mailbox'" := by
  refine ⟨by decide, ?_, ?_⟩
  · exact (compile_display_compile quoted (by decide) (by decide)).mpr (by decide)
  · exact (compile_display_compile "'Get Mailbox'" (by decide) (by decide)).not.mpr (by decide)

/-- A bar in a quoted name, and a colon in a quote that begins in a key, are not restored. -/
theorem not_restored :
    ((∀ s ∈ compile "'a|b'", ∀ p ∈ s.parameters, p.Restorable) ∧
      compile (display (compile "'a|b'")) ≠ compile "'a|b'") ∧
    (∀ s ∈ compile "A -a'b:c'", ∀ p ∈ s.parameters, p.Restorable) ∧
      compile (display (compile "A -a'b:c'")) ≠ compile "A -a'b:c'" := by
  refine ⟨⟨by decide, by decide⟩, by decide, by decide⟩

end CommandBridge.Command
