import CommandBridge.Command.Extra
import CommandBridge.Proofs.Command.Tokens
import Mathlib.Data.List.Basic

/-! Displayed pipelines compile to themselves, and described ones to themselves with the names of
their out-of-band parameters. -/
namespace CommandBridge.Command

open Text

/-- A list of positional values comes first, if there is one. -/
structure Stage.Displayable (s : Stage) : Prop where
  name : IsWord s.name
  parameters : ∀ p ∈ s.parameters, p.Displayable
  named : ∀ p ∈ s.parameters.tail, ∃ key v, p = .named key v

/-- A stage of which all that is printed is read as it was meant. -/
structure Stage.Readable (s : Stage) : Prop where
  name : IsToken s.name.toList
  bare : stripQuotes? s.name.toList = none
  parameters : ∀ p ∈ s.parameters, p.Readable
  named : ∀ p ∈ s.parameters.tail, ∃ key v, p = .named key v

theorem Stage.Displayable.readable {s : Stage} (h : s.Displayable) : s.Readable where
  name := h.name.isToken
  bare := h.name.stripQuotes?
  parameters p hp := (h.parameters p hp).readable
  named := h.named

namespace Stage

def tokens (s : Stage) : List (List Char) := s.name.toList :: s.parameters.flatMap Parameter.tokens

theorem Readable.isToken {s : Stage} (h : s.Readable) : ∀ t ∈ s.tokens, IsToken t := by
  intro t ht
  rcases List.mem_cons.mp ht with rfl | ht
  · exact h.name
  · obtain ⟨p, hp, ht⟩ := List.mem_flatMap.mp ht
    exact (h.parameters p hp).isToken t ht

theorem Readable.print_eq {s : Stage} (h : s.Readable) :
    s.print = s.name.toList ++ spaced (s.parameters.flatMap Parameter.tokens) := by
  rw [print, spaced, List.flatMap_assoc]
  congr 1
  exact List.flatMap_congr fun p hp => (h.parameters p hp).print_eq_spaced

theorem Readable.tokens_print {s : Stage} (h : s.Readable) : Command.tokens s.print = s.tokens := by
  have hspaced : ' ' :: s.print = spaced s.tokens := congrArg (' ' :: ·) h.print_eq
  rw [← tokens_blank, hspaced, tokens_spaced h.isToken]

/-- No bar cuts a printed stage. -/
theorem Readable.whole {s : Stage} (h : s.Readable) : Whole (· == '|') s.print := by
  obtain ⟨hname, hparameters⟩ := List.forall_mem_cons.mp h.isToken
  rw [h.print_eq]
  exact hname.bar.append (whole_spaced hparameters)

end Stage

theorem groupTokens_named {ps : List Parameter} (h : ∀ p ∈ ps, p.Readable)
    (hnamed : ∀ p ∈ ps, ∃ key v, p = .named key v) :
    (groupTokens (ps.flatMap Parameter.tokens)).1 = [] ∧
      (groupTokens (ps.flatMap Parameter.tokens)).2.map namedParameter = ps := by
  induction ps with
  | nil => exact ⟨rfl, rfl⟩
  | cons p ps ih =>
    obtain ⟨hp, hps⟩ := List.forall_mem_cons.mp h
    obtain ⟨⟨key, v, rfl⟩, hpsn⟩ := List.forall_mem_cons.mp hnamed
    obtain ⟨hvalues, hgroups⟩ := ih hps hpsn
    have hread := namedParameter_tokens hp.1.colon hp.2
    rw [List.flatMap_cons, Parameter.tokens, List.cons_append,
      groupTokens_name (isParameterName_key hp.1), groupTokens_values hp.2.not_name_of_mem,
      hvalues, List.append_nil]
    simp [hread, hgroups]

theorem Stage.Readable.parameters_read {s : Stage} (h : s.Readable) :
    positionalParameters (groupTokens (s.parameters.flatMap Parameter.tokens)).1 ++
      (groupTokens (s.parameters.flatMap Parameter.tokens)).2.map namedParameter =
        s.parameters := by
  obtain ⟨name, parameters⟩ := s
  have hall := h.parameters
  have htail := h.named
  cases parameters with
  | nil => rfl
  | cons p ps =>
    obtain ⟨hp, hps⟩ := List.forall_mem_cons.mp hall
    cases p with
    | named key v =>
      have hnamed : ∀ p ∈ Parameter.named key v :: ps, ∃ key v, p = .named key v :=
        List.forall_mem_cons.mpr ⟨⟨key, v, rfl⟩, htail⟩
      obtain ⟨hvalues, hgroups⟩ := groupTokens_named hall hnamed
      rw [hvalues, hgroups]
      rfl
    | positional values =>
      obtain ⟨hvalues, hgroups⟩ := groupTokens_named hps htail
      rw [List.flatMap_cons, Parameter.tokens, groupTokens_values (item_not_name hp.2), hvalues,
        hgroups, List.append_nil, positionalParameters_tokens hp.1 hp.2]
      rfl

theorem IsToken.not_allBlank {t : List Char} (h : IsToken t) : allBlank t = false := by
  cases t with
  | nil => exact absurd rfl h.ne_nil
  | cons c t =>
    cases hc : isBlank c with
    | false => simp [allBlank, hc]
    | true =>
      have hcut := h.blank.single
      rw [pieces_separator hc] at hcut
      exact absurd (List.cons.inj hcut).1 (List.cons_ne_nil c t).symm

/-- A stage is built again from its tokens. -/
theorem buildStage_tokens {s : Stage} (h : s.Readable) : buildStage s.tokens = some s := by
  have hread := h.parameters_read
  have hname : unquote s.name.toList = s.name.toList := by simp [unquote, h.bare]
  simp only [Stage.tokens, buildStage, hname, h.name.not_allBlank, hread, String.ofList_toList]
  rfl

/-! ### Pipelines -/

theorem compile_display_eq (p : Pipeline) : compile (display p) = compileChars (printChars p) := by
  rw [compile, display, String.toList_ofList]

theorem printChars_cons_cons (s t : Stage) (p : Pipeline) :
    printChars (s :: t :: p) = (s.print ++ [' ']) ++ '|' :: ' ' :: printChars (t :: p) := by
  have hbar : " | ".toList = [' ', '|', ' '] := rfl
  simp [printChars, hbar]

theorem compileChars_print {s : Stage} (h : s.Readable) : compileChars s.print = [s] := by
  rw [compileChars, scan_whole h.whole, h.tokens_print,
    List.filterMap_cons_some (buildStage_tokens h)]
  rfl

/-- A stage that is printed first is read first, and the rest as if it stood alone. -/
theorem compileChars_print_append {s : Stage} (h : s.Readable) (x : List Char) :
    compileChars ((s.print ++ [' ']) ++ '|' :: ' ' :: x) = s :: compileChars x := by
  have hwhole := h.whole.append (whole_singleton (c := ' ') rfl rfl)
  have htokens : tokens (s.print ++ [' ']) = s.tokens := by
    rw [tokens_append h.whole.shut, h.tokens_print]
    exact List.append_nil _
  rw [compileChars, scan_append_bar hwhole.shut, scan_blank, scan_whole hwhole, htokens,
    List.singleton_append, List.filterMap_cons_some (buildStage_tokens h)]
  rfl

theorem compile_display_of_readable {p : Pipeline} (h : ∀ s ∈ p, s.Readable) :
    compile (display p) = p := by
  rw [compile_display_eq]
  induction p with
  | nil => rfl
  | cons s p ih =>
    obtain ⟨hs, hrest⟩ := List.forall_mem_cons.mp h
    cases p with
    | nil => simpa [printChars] using compileChars_print hs
    | cons t p => rw [printChars_cons_cons, compileChars_print_append hs, ih hrest]

theorem compile_display {p : Pipeline} (h : ∀ s ∈ p, s.Displayable) : compile (display p) = p :=
  compile_display_of_readable fun s hs => (h s hs).readable

/-! ### Out-of-band parameters -/

/-- The stage with a mark for each of the names. -/
def Stage.withMarks (s : Stage) (names : List String) : Stage :=
  { s with parameters := s.parameters ++ names.map fun n => .named n (.string redactionMark) }

theorem displayable_mark {n : String} (h : IsKey n) :
    (Parameter.named n (.string redactionMark)).Displayable := ⟨h, .inl (by decide)⟩

theorem Stage.Displayable.withMarks {s : Stage} {names : List String} (h : s.Displayable)
    (hnames : ∀ n ∈ names, IsKey n) : (s.withMarks names).Displayable where
  name := h.name
  parameters := by
    intro p hp
    rcases List.mem_append.mp hp with hp | hp
    · exact h.parameters p hp
    · obtain ⟨n, hn, rfl⟩ := List.mem_map.mp hp
      exact displayable_mark (hnames n hn)
  named := by
    intro p hp
    have hmark : ∀ p ∈ names.map (fun n => Parameter.named n (.string redactionMark)),
        ∃ key v, p = .named key v := by
      intro p hp
      obtain ⟨n, -, rfl⟩ := List.mem_map.mp hp
      exact ⟨n, _, rfl⟩
    obtain ⟨name, parameters⟩ := s
    cases parameters with
    | nil => exact hmark p (List.mem_of_mem_tail hp)
    | cons q ps =>
      rcases List.mem_append.mp hp with hp | hp
      · exact h.named p hp
      · exact hmark p hp

theorem Stage.print_withMarks (s : Stage) (names : List String) :
    (s.withMarks names).print = s.print ++ names.flatMap fun n =>
      " -".toList ++ n.toList ++ ' ' :: redactionMark.toList := by
  have hmark : printString redactionMark = redactionMark.toList := by decide
  simp [withMarks, print, List.flatMap_map, Parameter.print, hmark]

theorem describe_eq_display (front : Pipeline) (last : Stage) (e : Extra) :
    describe (front ++ [last]) e = display (front ++ [last.withMarks e.names]) := by
  rw [describe, display]
  congr 1
  induction front with
  | nil => simp [printChars, Stage.print_withMarks]
  | cons s front ih =>
    cases front with
    | nil => simp [printChars, Stage.print_withMarks]
    | cons t front =>
      simp only [List.cons_append, printChars_cons_cons, List.append_assoc] at ih ⊢
      rw [ih]

/-- The command line of a pipeline that can be displayed stands for the pipeline, and with the
names of out-of-band parameters, in ascending order, for the pipeline that has them marked in its
last stage. -/
theorem compile_display_describe :
    (∀ p : Pipeline, (∀ s ∈ p, s.Displayable) → compile (display p) = p) ∧
      ∀ (front : Pipeline) (last : Stage) (e : Extra), (∀ s ∈ front ++ [last], s.Displayable) →
        (∀ n ∈ e.names, IsKey n) → e.names.Pairwise (· < ·) ∧
          compile (describe (front ++ [last]) e) = front ++ [last.withMarks e.names] := by
  refine ⟨fun p h => compile_display h, fun front last e h hnames => ⟨?_, ?_⟩⟩
  · exact List.pairwise_map.mpr e.ascending
  · rw [describe_eq_display]
    apply compile_display
    intro s hs
    rcases List.mem_append.mp hs with hs | hs
    · exact h s (List.mem_append_left _ hs)
    · obtain rfl := List.mem_singleton.mp hs
      exact (h last (by simp)).withMarks hnames

def mailboxes : Stage :=
  ⟨"Get-Mailbox", [.positional ["a b", "it's"], .named "Force" (.bool true),
    .named "Limit" (.int (-5))]⟩

def columns : Stage :=
  ⟨"Select", [.named "Names" (.list ["x|y", "-z"]), .named "Text" (.string "42")]⟩

def certificate : Extra :=
  .ofList [("Password", .secret ⟨"x"⟩), ("Certificate", .binary [1, 2])]

theorem displayable_mailboxes : mailboxes.Displayable where
  name := by decide
  parameters := by decide
  named := by simp [mailboxes]

theorem displayable_columns : columns.Displayable where
  name := by decide
  parameters := by decide
  named := by simp [columns]

theorem compile_display_describe_mailboxes :
    compile (display [mailboxes, columns]) = [mailboxes, columns] ∧
      compile (describe ([mailboxes] ++ [columns]) certificate) =
        [mailboxes, columns.withMarks ["Certificate", "Password"]] := by
  have h : ∀ s ∈ [mailboxes, columns], s.Displayable := by
    simp [displayable_mailboxes, displayable_columns]
  have hnames : certificate.names = ["Certificate", "Password"] := by decide
  refine ⟨compile_display_describe.1 _ h, ?_⟩
  rw [(compile_display_describe.2 [mailboxes] columns certificate h (by decide)).2, hnames]
  rfl

end CommandBridge.Command
