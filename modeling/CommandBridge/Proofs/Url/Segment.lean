import CommandBridge.Proofs.Url.Below

/-! The texts that are one segment of a path when they are put behind an address. -/
namespace CommandBridge.Url

/-- Nothing in the text ends a segment or is left out, and it is not dots. -/
def isOneSegment (s : List Char) : Bool :=
  s.all (fun c => !isSlash c && c != '?' && c != '#' && !isTabOrNewline c) &&
    !isDoubleDot (encode pathSet s) && !isSingleDot (encode pathSet s)

/-- The last character, if there is one, is not left out at the end of an address. -/
def endsVisibly (s : List Char) : Bool := s.getLast?.all isVisible

section
variable {s t : List Char} {path : List (List Char)}

theorem isOneSegment_iff : isOneSegment s = true ↔
    (∀ c ∈ s, isSlash c = false ∧ (c ≠ '?' ∧ c ≠ '#') ∧ isTabOrNewline c = false) ∧
      isDoubleDot (encode pathSet s) = false ∧ isSingleDot (encode pathSet s) = false := by
  simp [isOneSegment, and_assoc]

/-! ### What is left of a text -/

theorem splitTail_path (h : ∀ c ∈ s, c ≠ '?' ∧ c ≠ '#') : splitTail s = ⟨s, none, none⟩ := by
  have happend := splitTail_append h []
  rw [List.append_nil] at happend
  rw [happend]
  simp [splitTail]

theorem of_splitTail (hquery : (splitTail s).query = none)
    (hfragment : (splitTail s).fragment = none) : ∀ c ∈ s, c ≠ '?' ∧ c ≠ '#' := by
  have hhash : ∀ c ∈ s, (c != '#') = true := by
    rw [← List.dropWhile_eq_nil_iff]
    cases hrest : s.dropWhile (· != '#') with
    | nil => rfl
    | cons c rest => simp [splitTail, hrest] at hfragment
  have hbefore : s.takeWhile (· != '#') = s := List.takeWhile_eq_self_iff.mpr hhash
  have hmark : ∀ c ∈ s, (c != '?') = true := by
    rw [← List.dropWhile_eq_nil_iff]
    cases hrest : s.dropWhile (· != '?') with
    | nil => rfl
    | cons c rest => simp [splitTail, hbefore, hrest] at hquery
  exact fun c hc => ⟨bne_iff_ne.mp (hmark c hc), bne_iff_ne.mp (hhash c hc)⟩

theorem dropEnd_of_endsVisibly (h : endsVisibly s = true) : clean.dropEnd s = s := by
  cases hlast : s.getLast? with
  | none =>
    rw [List.getLast?_eq_none_iff.mp hlast]
    rfl
  | some c =>
    rw [endsVisibly, hlast, Option.all_some] at h
    exact Text.dropEndWhile_of_getLast? hlast (by simpa [isVisible] using h)

theorem dropEnd_sublist (s : List Char) : (clean.dropEnd s).Sublist s := by
  unfold clean.dropEnd
  have h := (List.dropWhile_suffix (l := s.reverse) clean.isControlOrSpace).sublist.reverse
  rwa [List.reverse_reverse] at h

theorem cleanEnd_sublist (s : List Char) : (cleanEnd s).Sublist s :=
  List.filter_sublist.trans (dropEnd_sublist s)

theorem cleanEnd_eq_self_iff :
    cleanEnd s = s ↔ (∀ c ∈ s, isTabOrNewline c = false) ∧ endsVisibly s = true := by
  constructor
  · intro h
    have hend : clean.dropEnd s = s := by
      apply (dropEnd_sublist s).eq_of_length_le
      calc s.length = (cleanEnd s).length := by rw [h]
        _ ≤ (clean.dropEnd s).length := List.length_filter_le _ _
    rw [cleanEnd, hend, List.filter_eq_self] at h
    refine ⟨fun c hc => by simpa using h c hc, ?_⟩
    unfold endsVisibly
    cases hlast : s.getLast? with
    | none => rfl
    | some c =>
      obtain ⟨r, rfl⟩ := List.getLast?_eq_some_iff.mp hlast
      cases hc : isVisible c with
      | true => exact hc
      | false =>
        have hlength := congrArg List.length hend
        have hle := (dropEnd_sublist r).length_le
        have hcontrol : clean.isControlOrSpace c = true := by simpa [isVisible] using hc
        have hdrop : clean.dropEnd (r ++ [c]) = clean.dropEnd r := by
          simp [clean.dropEnd, hcontrol]
        rw [hdrop, List.length_append, List.length_singleton] at hlength
        omega
  · rintro ⟨htab, hend⟩
    rw [cleanEnd, dropEnd_of_endsVisibly hend, List.filter_eq_self]
    exact fun c hc => by simpa using htab c hc

/-! ### Segments that come of it -/

theorem mem_encode_of_isSlash {c : Char} (h : isSlash c = true) (hc : c ∈ s) :
    c ∈ encode pathSet s := by
  have hclear : isClear pathSet c = true := by
    simp only [isSlash, Bool.or_eq_true, beq_iff_eq] at h
    rcases h with rfl | rfl <;> decide
  exact mem_encode_iff.mpr (.inl ⟨hc, hclear⟩)

theorem length_parent_le (path : List (List Char)) : (parent path).length ≤ path.length := by
  unfold parent
  split
  · exact le_rfl
  · rw [List.length_dropLast]
    omega

theorem resolveSegments_cons (hup : isDoubleDot s = false) (hhere : isSingleDot s = false)
    (rest : List (List Char)) :
    resolveSegments false path (s :: rest) = resolveSegments false (path ++ [s]) rest := by
  rw [resolveSegments, if_neg (by simp [hup]), if_neg (by simp [hhere]), normalSegment_false]

/-- At the end of a path dots leave an empty segment. -/
theorem of_resolveSegments_last (h : resolveSegments false path [s] = path ++ [t]) (ht : t ≠ []) :
    s = t ∧ isDoubleDot s = false ∧ isSingleDot s = false := by
  rw [resolveSegments] at h
  split at h
  · rw [resolveSegments_nil] at h
    have hlast : ([] : List Char) = t := by
      have hlast := congrArg List.getLast? h
      simpa using hlast
    exact absurd hlast.symm ht
  · split at h
    · rw [resolveSegments_nil] at h
      have hlast : ([] : List Char) = t := by simpa using h
      exact absurd hlast.symm ht
    · rename_i hup hhere
      rw [resolveSegments_nil, normalSegment_false] at h
      refine ⟨by simpa using h, by simpa using hup, by simpa using hhere⟩

/-- Before another segment they leave none. -/
theorem of_resolveSegments_before {after : List Char} (hafter : IsSegment after)
    (h : resolveSegments false path [s, after] = path ++ [t, after]) :
    s = t ∧ isDoubleDot s = false ∧ isSingleDot s = false := by
  have hresolve (path : List (List Char)) :
      resolveSegments false path [after] = path ++ [after] := by
    rw [resolveSegments_cons hafter.notUp hafter.notHere, resolveSegments_nil]
  rw [resolveSegments] at h
  have hlength := congrArg List.length h
  split at h
  · rename_i hup
    have hle := length_parent_le path
    simp [hup, hresolve] at hlength
    omega
  · split at h
    · rename_i hup hhere
      simp [hup, hhere, hresolve] at hlength
    · rename_i hup hhere
      rw [normalSegment_false, hresolve] at h
      refine ⟨by simpa using h, by simpa using hup, by simpa using hhere⟩

/-! ### One segment -/

theorem isSlash_of_encoded (h : IsSegment (encode pathSet s)) : ∀ c ∈ s, isSlash c = false := by
  intro c hc
  cases hslash : isSlash c with
  | false => rfl
  | true =>
    have hno := h.undivided c (mem_encode_of_isSlash hslash hc)
    exact absurd (hslash.symm.trans hno) Bool.noConfusion

theorem encode_eq_nil (h : encode pathSet s = []) : s = [] :=
  (eq_of_encode_eq (List.nil_sublist s) h.symm).symm

/-- A text at the end of an address is a segment of its own exactly if it is one segment and
nothing of its end is left out. -/
theorem resolved_last_iff (hpath : ∀ t ∈ path, IsSegment t) :
    (resolveSegments false path
        (((splitTail (cleanEnd s)).path.splitOnP isSlash).map (encode pathSet)) =
          path ++ [encode pathSet s] ∧
      (splitTail (cleanEnd s)).query = none ∧ (splitTail (cleanEnd s)).fragment = none) ↔
    isOneSegment s = true ∧ endsVisibly s = true := by
  constructor
  · rintro ⟨hresolved, hquery, hfragment⟩
    have hchar := of_splitTail hquery hfragment
    rw [splitTail_path hchar] at hresolved
    have hslash : ∀ c ∈ s, isSlash c = false := by
      apply isSlash_of_encoded
      apply isSegment_of_mem_resolved hpath (cleanEnd s)
      rw [hresolved]
      simp
    have hsub := cleanEnd_sublist s
    rw [List.splitOnP_eq_singleton fun c hc => hslash c (hsub.subset hc),
      List.map_singleton] at hresolved
    by_cases hs : s = []
    · subst hs
      decide
    · obtain ⟨hsame, hup, hhere⟩ :=
        of_resolveSegments_last hresolved fun hnil => hs (encode_eq_nil hnil)
      have hclean : cleanEnd s = s := eq_of_encode_eq hsub hsame
      rw [hclean] at hchar hup hhere
      obtain ⟨htab, hends⟩ := cleanEnd_eq_self_iff.mp hclean
      exact ⟨isOneSegment_iff.mpr ⟨fun c hc => ⟨hslash c hc, hchar c hc, htab c hc⟩, hup, hhere⟩,
        hends⟩
  · rintro ⟨hone, hends⟩
    obtain ⟨hchar, hup, hhere⟩ := isOneSegment_iff.mp hone
    have hclean : cleanEnd s = s :=
      cleanEnd_eq_self_iff.mpr ⟨fun c hc => (hchar c hc).2.2, hends⟩
    have htail : splitTail s = ⟨s, none, none⟩ := splitTail_path fun c hc => (hchar c hc).2.1
    rw [hclean, htail]
    dsimp only
    rw [List.splitOnP_eq_singleton fun c hc => (hchar c hc).1, List.map_singleton,
      resolveSegments_cons hup hhere, resolveSegments_nil]
    exact ⟨rfl, rfl, rfl⟩

theorem cleanEnd_before {after : List Char} (hafter : IsSegment after) (s : List Char) :
    cleanEnd (s ++ '/' :: after) = s.filter (!isTabOrNewline ·) ++ '/' :: after := by
  have hvisible : ∀ c ∈ '/' :: after, isVisible c = true := by
    intro c hc
    rcases List.mem_cons.mp hc with rfl | hc
    · decide
    · exact (hafter.char c hc).1
  have hends : endsVisibly (s ++ '/' :: after) = true := by
    unfold endsVisibly
    rw [List.getLast?_append_of_ne_nil _ (List.cons_ne_nil _ _)]
    rw [List.getLast?_eq_some_getLast (List.cons_ne_nil _ _), Option.all_some]
    exact hvisible _ (List.getLast_mem _)
  have hkept : ('/' :: after).filter (!isTabOrNewline ·) = '/' :: after :=
    List.filter_eq_self.mpr fun c hc => by rw [isTabOrNewline_of_isVisible (hvisible c hc)]; rfl
  rw [cleanEnd, dropEnd_of_endsVisibly hends, List.filter_append, hkept]

/-- Before another segment its end does not matter. -/
theorem resolved_before_iff (hpath : ∀ t ∈ path, IsSegment t) {after : List Char}
    (hafter : IsSegment after) :
    (resolveSegments false path
        (((splitTail (cleanEnd (s ++ '/' :: after))).path.splitOnP isSlash).map
          (encode pathSet)) = path ++ [encode pathSet s, after] ∧
      (splitTail (cleanEnd (s ++ '/' :: after))).query = none ∧
      (splitTail (cleanEnd (s ++ '/' :: after))).fragment = none) ↔
    isOneSegment s = true := by
  have hencoded : [encode pathSet after] = [after] := by rw [encode_of_isClear hafter.clear]
  have hsplit (r : List Char) (hr : ∀ c ∈ r, isSlash c = false) :
      (((r ++ '/' :: after).splitOnP isSlash).map (encode pathSet)) =
        [encode pathSet r, after] := by
    rw [List.splitOnP_append_cons_of_forall_mem hr '/' rfl,
      List.splitOnP_eq_singleton hafter.undivided, List.map_cons, List.map_singleton, hencoded]
  rw [cleanEnd_before hafter]
  constructor
  · rintro ⟨hresolved, hquery, hfragment⟩
    have hchar := of_splitTail hquery hfragment
    rw [splitTail_path hchar] at hresolved
    have hslash : ∀ c ∈ s, isSlash c = false := by
      apply isSlash_of_encoded
      apply isSegment_of_mem_resolved hpath (s.filter (!isTabOrNewline ·) ++ '/' :: after)
      rw [hresolved]
      simp
    have hsub : (s.filter (!isTabOrNewline ·)).Sublist s := List.filter_sublist
    rw [hsplit _ fun c hc => hslash c (hsub.subset hc)] at hresolved
    obtain ⟨hsame, hup, hhere⟩ := of_resolveSegments_before hafter hresolved
    have hkept := eq_of_encode_eq hsub hsame
    rw [hkept] at hchar hup hhere
    have htab := List.filter_eq_self.mp hkept
    exact isOneSegment_iff.mpr ⟨fun c hc => ⟨hslash c hc, hchar c (List.mem_append_left _ hc),
      by simpa using htab c hc⟩, hup, hhere⟩
  · intro hone
    obtain ⟨hchar, hup, hhere⟩ := isOneSegment_iff.mp hone
    have hkept : s.filter (!isTabOrNewline ·) = s :=
      List.filter_eq_self.mpr fun c hc => by rw [(hchar c hc).2.2]; rfl
    have hall : ∀ c ∈ s ++ '/' :: after, c ≠ '?' ∧ c ≠ '#' := by
      intro c hc
      rcases List.mem_append.mp hc with hc | hc
      · exact (hchar c hc).2.1
      · rcases List.mem_cons.mp hc with rfl | hc
        · decide
        · exact (hafter.char c hc).2
    rw [hkept, splitTail_path hall, hsplit s fun c hc => (hchar c hc).1,
      resolveSegments_cons hup hhere, resolveSegments_cons hafter.notUp hafter.notHere,
      resolveSegments_nil, List.append_assoc]
    exact ⟨rfl, rfl, rfl⟩

end

/-! ### Addresses that end in a text -/

section
variable {u : Url} {host s : List Char} {segments : List (List Char)}

theorem eq_below_iff (hhost : u.host = some host) {path : List (List Char)}
    {query fragment : Option (List Char)} :
    ((domainHost host).map fun h => { u with
        host := some h
        path := .segments path
        query := query
        fragment := fragment }) = .ok (u.below segments) ↔
      domainHost host = .ok host ∧
        path = u.ownSegments ++ segments ∧ query = none ∧ fragment = none := by
  unfold below
  cases hread : domainHost host with
  | error e => simp [Except.map]
  | ok h => simp [Except.map, Url.mk.injEq, hhost]

theorem readChars_eq_below_iff (hu : IsWeb u) (hquery : u.query = none)
    (hfragment : u.fragment = none) (hhost : u.host = some host)
    (hsegments : ∀ t ∈ segments, IsSegment t) (rest : List Char) (more : List (List Char)) :
    readChars (u.trimmed ++ (pathText (.segments segments) ++ '/' :: rest)) =
        .ok (u.below (segments ++ more)) ↔
      domainHost host = .ok host ∧
        resolveSegments false (u.ownSegments ++ segments)
            (((splitTail (cleanEnd rest)).path.splitOnP isSlash).map (encode pathSet)) =
          u.ownSegments ++ segments ++ more ∧
        (splitTail (cleanEnd rest)).query = none ∧ (splitTail (cleanEnd rest)).fragment = none := by
  rw [readChars_trimmed hu hquery hfragment hhost hsegments, eq_below_iff hhost,
    Option.map_eq_none_iff, Option.map_eq_none_iff, List.append_assoc]

theorem readChars_last_iff (hu : IsWeb u) (hquery : u.query = none) (hfragment : u.fragment = none)
    (hhost : u.host = some host) (hsegments : ∀ t ∈ segments, IsSegment t) (s : List Char) :
    readChars (u.trimmed ++ (pathText (.segments segments) ++ '/' :: s)) =
        .ok (u.below (segments ++ [encode pathSet s])) ↔
      domainHost host = .ok host ∧ isOneSegment s = true ∧ endsVisibly s = true := by
  rw [readChars_eq_below_iff hu hquery hfragment hhost hsegments,
    resolved_last_iff (isSegment_of_mem_append hu hsegments)]

theorem readChars_before_iff (hu : IsWeb u) (hquery : u.query = none)
    (hfragment : u.fragment = none) (hhost : u.host = some host)
    (hsegments : ∀ t ∈ segments, IsSegment t) {after : List Char} (hafter : IsSegment after)
    (s : List Char) :
    readChars (u.trimmed ++ (pathText (.segments segments) ++ '/' :: (s ++ '/' :: after))) =
        .ok (u.below (segments ++ [encode pathSet s, after])) ↔
      domainHost host = .ok host ∧ isOneSegment s = true := by
  rw [readChars_eq_below_iff hu hquery hfragment hhost hsegments,
    resolved_before_iff (isSegment_of_mem_append hu hsegments) hafter]

end

end CommandBridge.Url
