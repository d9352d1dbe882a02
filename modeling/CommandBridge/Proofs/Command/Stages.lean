import CommandBridge.Proofs.Command.RoundTrip

/-! A bar outside quotes joins pipelines: the stages on its two sides are those that the text on
each side compiles to by itself. -/
namespace CommandBridge.Command

open Text

/-- Text of one stage that has no token at all, or a blank name. -/
def Nameless (s : List Char) : Prop := ∀ name ∈ (tokens s).head?, allBlank (unquote name) = true

section
variable {s t : List Char}

theorem compileChars_append_bar (h : openQuote none s = none) (t : List Char) :
    compileChars (s ++ '|' :: t) = compileChars s ++ compileChars t := by
  unfold compileChars
  rw [scan_append_bar h, List.filterMap_append]

/-- Without a bar outside quotes there is one stage at most. -/
theorem compileChars_whole (h : Whole (· == '|') s) :
    compileChars s = (buildStage (tokens s)).toList := by
  rw [compileChars, scan_whole h]
  cases hb : buildStage (tokens s) with
  | none => simp [hb]
  | some x => simp [hb]

theorem buildStage_eq_none_iff {ts : List (List Char)} :
    buildStage ts = none ↔ ∀ name ∈ ts.head?, allBlank (unquote name) = true := by
  cases ts with
  | nil => simp [buildStage]
  | cons first rest => simp [buildStage]

theorem compileChars_nameless (h : Whole (· == '|') s) : compileChars s = [] ↔ Nameless s := by
  rw [compileChars_whole h, Option.toList_eq_nil_iff]
  exact buildStage_eq_none_iff

end

theorem compile_append_bar {s : String} (h : openQuote none s.toList = none) (t : String) :
    compile (s ++ "|" ++ t) = compile s ++ compile t := by
  have htext : (s ++ "|" ++ t).toList = s.toList ++ '|' :: t.toList := by simp
  unfold compile
  rw [htext, compileChars_append_bar h]

theorem compile_intercalate {stages : List String}
    (h : ∀ s ∈ stages, openQuote none s.toList = none) :
    compile ("|".intercalate stages) = stages.flatMap compile := by
  induction stages with
  | nil => rfl
  | cons s stages ih =>
    obtain ⟨hs, hstages⟩ := List.forall_mem_cons.mp h
    cases stages with
    | nil => simp
    | cons t stages =>
      rw [String.intercalate_cons_cons, compile_append_bar hs, ih hstages]
      rfl

/-- No stage has a part in another one. -/
theorem compile_intercalate_whole {stages : List String}
    (h : ∀ s ∈ stages, Whole (· == '|') s.toList) :
    compile ("|".intercalate stages) =
      stages.filterMap fun s => buildStage (tokens s.toList) := by
  rw [compile_intercalate fun s hs => (h s hs).shut, List.filterMap_eq_flatMap_toList]
  apply List.flatMap_congr
  intro s hs
  exact compileChars_whole (h s hs)

/-- Pipelines are joined by bars, stages come out in the order of their texts, each from its own
text, and a stage without a name leaves no trace. -/
theorem compile_pipes :
    (∀ s t : String, openQuote none s.toList = none →
      compile (s ++ "|" ++ t) = compile s ++ compile t) ∧
    (∀ stages : List String, (∀ s ∈ stages, Whole (· == '|') s.toList) →
      compile ("|".intercalate stages) =
        stages.filterMap fun s => buildStage (tokens s.toList)) ∧
    ∀ u : String, Whole (· == '|') u.toList → (compile u = [] ↔ Nameless u.toList) ∧
      (Nameless u.toList → ∀ s t : String, openQuote none s.toList = none →
        compile (s ++ "|" ++ u ++ "|" ++ t) = compile (s ++ "|" ++ t)) := by
  refine ⟨fun s t h => compile_append_bar h t, fun _ => compile_intercalate_whole, ?_⟩
  intro u hu
  refine ⟨compileChars_nameless hu, ?_⟩
  intro hn s t hs
  have hnone : compile u = [] := (compileChars_nameless hu).mpr hn
  have hshut : openQuote none (s ++ "|" ++ u).toList = none := by
    have htext : (s ++ "|" ++ u).toList = s.toList ++ '|' :: u.toList := by simp
    rw [htext, openQuote_append, hs]
    exact hu.shut
  rw [compile_append_bar hshut, compile_append_bar hs, compile_append_bar hs, hnone,
    List.append_nil]

/-- The bar in quotes is text, and the stage in the middle has nothing but a quoted blank for a
name. -/
theorem compile_pipes_blankBetween :
    openQuote none "Get-Mailbox 'a|b'".toList = none ∧
    compile ("Get-Mailbox 'a|b'" ++ "|" ++ " Select-Object Name -First '1") =
      compile "Get-Mailbox 'a|b'" ++ compile " Select-Object Name -First '1" ∧
    compile ("|".intercalate ["Get-Mailbox 'a|b'", " ' ' -Force", ""]) =
      [⟨"Get-Mailbox", [.positional ["a|b"]]⟩] ∧
    Nameless " ' ' -Force".toList ∧
    compile ("Get-Mailbox 'a|b'" ++ "|" ++ " ' ' -Force" ++ "|" ++ "Sort x") =
      compile ("Get-Mailbox 'a|b'" ++ "|" ++ "Sort x") := by
  obtain ⟨hjoin, hstages, hnameless⟩ := compile_pipes
  have hshut : openQuote none "Get-Mailbox 'a|b'".toList = none := by decide
  have hn : Nameless " ' ' -Force".toList := by
    intro name h
    obtain rfl := Option.some.inj h
    decide
  refine ⟨hshut, hjoin _ _ hshut, ?_, hn, (hnameless _ (by decide)).2 hn _ _ hshut⟩
  rw [hstages _ (by decide)]
  decide

end CommandBridge.Command
