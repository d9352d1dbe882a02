import CommandBridge.Proofs.Command.Image

/-! Values bound to their names by a colon, and values that follow their names. -/
namespace CommandBridge.Command

open Text

section
variable {key v : List Char}

/-- A value goes on to the end of the token, whatever colons it holds. -/
theorem splitParameter_bound (hkey : ':' ∉ key) (hv : v ≠ []) :
    splitParameter ('-' :: key ++ ':' :: v) = (key, some v) := by
  have hall := not_colon_of_mem hkey
  obtain ⟨c, rest, rfl⟩ := List.exists_cons_of_ne_nil hv
  simp [splitParameter, List.dropWhile_append_of_pos hall, List.takeWhile_append_of_pos hall]

theorem splitParameter_unbound (hkey : ':' ∉ key) :
    splitParameter ('-' :: key ++ [':']) = (key, none) := by
  have hall := not_colon_of_mem hkey
  simp [splitParameter, List.dropWhile_append_of_pos hall, List.takeWhile_append_of_pos hall]

theorem namedParameter_bound (hkey : ':' ∉ key) (hv : v ≠ []) (ts : List (List Char)) :
    namedParameter ('-' :: key ++ ':' :: v, ts) = namedParameter ('-' :: key, v :: ts) := by
  simp only [namedParameter, splitParameter_bound hkey hv, splitParameter_key hkey,
    Option.toList_some, Option.toList_none, List.singleton_append, List.nil_append]

theorem namedParameter_unbound (hkey : ':' ∉ key) (ts : List (List Char)) :
    namedParameter ('-' :: key ++ [':'], ts) = namedParameter ('-' :: key, ts) := by
  simp only [namedParameter, splitParameter_unbound hkey, splitParameter_key hkey]

end

/-- What stands before a parameter is the same whatever its tokens are, and so are the parameters
after it. -/
theorem buildStage_append_congr {before us vs : List (List Char)} {t u : List Char}
    (hne : before ≠ []) (ht : isParameterName t = true) (hu : isParameterName u = true)
    (hparameter : namedParameter (t, (groupTokens us).1) = namedParameter (u, (groupTokens vs).1))
    (hrest : (groupTokens us).2 = (groupTokens vs).2) :
    buildStage (before ++ t :: us) = buildStage (before ++ u :: vs) := by
  obtain ⟨name, values, rfl⟩ := List.exists_cons_of_ne_nil hne
  simp only [List.cons_append, buildStage, groupTokens_append ht, groupTokens_append hu,
    List.map_append, List.map_cons, hparameter, hrest]

/-- A value bound by a colon is the same as the value in the next token, and a colon without a value
is the same as none, whatever tokens follow. -/
theorem buildStage_colon {before : List (List Char)} (hbefore : before ≠ []) (key : List Char)
    (hletter : key.head?.any isLetter = true) (hcolon : ':' ∉ key) (after : List (List Char)) :
    (∀ v, v ≠ [] → isParameterName v = false →
      buildStage (before ++ ['-' :: key ++ ':' :: v] ++ after) =
        buildStage (before ++ ['-' :: key, v] ++ after)) ∧
    buildStage (before ++ ['-' :: key ++ [':']] ++ after) =
      buildStage (before ++ ['-' :: key] ++ after) := by
  have hname : isParameterName ('-' :: key) = true := by
    simpa using isParameterName_of_letter hletter []
  simp only [List.append_assoc, List.cons_append, List.nil_append]
  constructor
  · intro v hv hvalue
    have hgroups : groupTokens (v :: after) = (v :: (groupTokens after).1, (groupTokens after).2) :=
      groupTokens_values (List.forall_mem_singleton.mpr hvalue) after
    refine buildStage_append_congr hbefore (isParameterName_of_letter hletter _) hname ?_ ?_
    · rw [hgroups]
      exact namedParameter_bound hcolon hv _
    · rw [hgroups]
  · refine buildStage_append_congr hbefore (isParameterName_of_letter hletter _) hname ?_ rfl
    exact namedParameter_unbound hcolon _

/-- The value has colons, a comma and half of a quoted text in it, and a negative number follows. -/
theorem buildStage_colon_path :
    buildStage (["Set".toList, ",x".toList] ++ ["-Path:C:\\a:,'b".toList] ++
        ["c'".toList, "-1".toList, ",".toList, "-On:".toList]) =
      some ⟨"Set", [.positional ["x"], .named "Path" (.list ["C:\\a:", "'b c' -1"]),
        .named "On" (.bool true)]⟩ ∧
    buildStage (["Set".toList, ",x".toList] ++ ["-Path:C:\\a:,'b".toList] ++
        ["c'".toList, "-1".toList, ",".toList, "-On:".toList]) =
      buildStage (["Set".toList, ",x".toList] ++ ["-Path".toList, "C:\\a:,'b".toList] ++
        ["c'".toList, "-1".toList, ",".toList, "-On:".toList]) ∧
    buildStage (["Set".toList] ++ ["-On:".toList] ++ ["-1".toList, "-On".toList]) =
      buildStage (["Set".toList] ++ ["-On".toList] ++ ["-1".toList, "-On".toList]) := by
  refine ⟨by decide, ?_, ?_⟩
  · exact (buildStage_colon (List.cons_ne_nil _ _) "Path".toList (by decide) (by decide) _).1
      "C:\\a:,'b".toList (by decide) (by decide)
  · exact (buildStage_colon (List.cons_ne_nil _ _) "On".toList (by decide) (by decide) _).2

end CommandBridge.Command
