import CommandBridge.Proofs.Url.Reading
import Mathlib.Data.List.DropRight

/-! Text behind the address of a URL: it goes on with the path, unless a query or a fragment takes
it in. -/
namespace CommandBridge.Url

open Text

/-- The segments of a path without the empty ones at its end. -/
def ownSegments (u : Url) : List (List Char) :=
  match u.path with
  | .segments p => p.rdropWhile List.isEmpty
  | .opaquePath _ => []

/-- A URL with a longer path. -/
def below (u : Url) (segments : List (List Char)) : Url :=
  { u with path := .segments (u.ownSegments ++ segments), query := none, fragment := none }

/-- The host is read back as it is. -/
def KeepsHost (u : Url) : Prop := ∃ h, u.host = some h ∧ domainHost h = .ok h

/-- Text behind the address goes on with the path. -/
structure Extensible (u : Url) : Prop where
  query : u.query = none
  fragment : u.fragment = none
  host : u.KeepsHost

/-- The address of a URL without the slashes at its end. -/
def trimmed (u : Url) : List Char := dropEndWhile (· == '/') u.chars

section
variable {u : Url} {host : List Char} {p segments : List (List Char)}

theorem keepsHost_of_isPlainHost (hu : IsWeb u) (hhost : u.host = some host)
    (hplain : isPlainHost host = true) : u.KeepsHost :=
  ⟨host, hhost, (hu.isHost hhost).domainHost_eq_ok hplain⟩

/-! ### Slashes at the end -/

theorem pathText_append (p q : List (List Char)) :
    pathText (.segments (p ++ q)) = pathText (.segments p) ++ pathText (.segments q) :=
  List.flatMap_append

theorem dropEndWhile_pathText (h : ∀ s ∈ p, IsSegment s) :
    dropEndWhile (· == '/') (pathText (.segments p)) =
      pathText (.segments (p.rdropWhile List.isEmpty)) := by
  induction p using List.reverseRecOn with
  | nil => rfl
  | append_singleton p s ih =>
    cases hs : s.getLast? with
    | none =>
      rw [List.getLast?_eq_none_iff.mp hs, List.rdropWhile_concat_pos _ _ _ rfl,
        ← ih fun t ht => h t (List.mem_append_left _ ht), pathText_append]
      simp [dropEndWhile, pathText]
    | some c =>
      have hmem := List.mem_of_getLast? hs
      have hslash : (c == '/') = false := by
        have hundivided := (h s (by simp)).undivided c hmem
        simp only [isSlash, Bool.or_eq_false_iff] at hundivided
        exact hundivided.1
      have hne : ¬ s.isEmpty = true := by
        intro hempty
        rw [List.isEmpty_iff.mp hempty] at hmem
        exact absurd hmem List.not_mem_nil
      rw [List.rdropWhile_concat_neg _ _ _ hne]
      refine dropEndWhile_of_getLast? (c := c) ?_ hslash
      simp [pathText, List.getLast?_append, List.getLast?_cons, hs]

theorem dropEndWhile_origin (hu : IsWeb u) (hhost : u.host = some host) :
    dropEndWhile (· == '/') (u.scheme ++ ':' :: u.authority) = u.scheme ++ ':' :: u.authority := by
  have hh := hu.isHost hhost
  have hne : u.userinfo ++ (host ++ u.portText) ≠ [] := by simp [hh.ne_nil]
  obtain ⟨A, c, hA⟩ :=
    (List.eq_nil_or_concat' (u.userinfo ++ (host ++ u.portText))).resolve_left hne
  have hmem : c ∈ u.userinfo ++ (host ++ u.portText) := by simp [hA]
  obtain ⟨-, hslash, -⟩ := isInAuthority_iff.mp (hu.isInAuthority hh c hmem)
  refine dropEndWhile_of_getLast? (c := c) ?_ (by simpa using hslash)
  rw [authority_eq hhost, hA, List.getLast?_eq_some_iff]
  exact ⟨u.scheme ++ ':' :: '/' :: '/' :: A, by simp⟩

theorem trimmed_of_extensible (hu : IsWeb u) (hquery : u.query = none)
    (hfragment : u.fragment = none) (hhost : u.host = some host) :
    u.trimmed = u.scheme ++ ':' :: u.authority ++ pathText (.segments u.ownSegments) := by
  obtain ⟨p, hp, -, hsegments⟩ := hu.path
  unfold trimmed chars ownSegments
  rw [hquery, hfragment, hp]
  simp only [Option.map_none, Option.getD_none, List.append_nil]
  rw [dropEndWhile_append (dropEndWhile_origin hu hhost), dropEndWhile_pathText hsegments]

theorem isSegment_of_mem_ownSegments (hu : IsWeb u) : ∀ s ∈ u.ownSegments, IsSegment s := by
  obtain ⟨p, hp, -, hsegments⟩ := hu.path
  unfold ownSegments
  rw [hp]
  exact fun s hs => hsegments s ((List.rdropWhile_prefix _ _).subset hs)

theorem isSegment_of_mem_append (hu : IsWeb u) (hsegments : ∀ s ∈ segments, IsSegment s) :
    ∀ s ∈ u.ownSegments ++ segments, IsSegment s := by
  intro s hs
  rcases List.mem_append.mp hs with hs | hs
  · exact isSegment_of_mem_ownSegments hu s hs
  · exact hsegments s hs

/-! ### With more segments -/

theorem readChars_trimmed (hu : IsWeb u) (hquery : u.query = none) (hfragment : u.fragment = none)
    (hhost : u.host = some host) (hsegments : ∀ s ∈ segments, IsSegment s) (rest : List Char) :
    readChars (u.trimmed ++ (pathText (.segments segments) ++ '/' :: rest)) =
      (domainHost host).map fun h => { u with
        host := some h
        path := .segments (resolveSegments false (u.ownSegments ++ segments)
          (((splitTail (cleanEnd rest)).path.splitOnP isSlash).map (encode pathSet)))
        query := (splitTail (cleanEnd rest)).query.map (encode specialQuerySet)
        fragment := (splitTail (cleanEnd rest)).fragment.map (encode fragmentSet) } := by
  rw [trimmed_of_extensible hu hquery hfragment hhost, List.append_assoc,
    ← List.append_assoc (pathText (.segments u.ownSegments)), ← pathText_append,
    readChars_segments hu hhost (isSegment_of_mem_append hu hsegments)]

/-! ### Behind a query or a fragment -/

theorem path_splitTail {c : Char} (hc : c = '?' ∨ c = '#') (s : List Char) :
    (splitTail (c :: s)).path = [] := by
  rcases hc with rfl | rfl
  · simp [splitTail]
  · simp [splitTail]

theorem readChars_tail (hu : IsWeb u) (hhost : u.host = some host) {c : Char}
    (hc : c = '?' ∨ c = '#') (s : List Char) :
    readChars (u.scheme ++ ':' :: u.authority ++ (pathText u.path ++ c :: s)) =
      (domainHost host).map fun h => { u with
        host := some h
        query := (splitTail (c :: cleanEnd s)).query.map (encode specialQuerySet)
        fragment := (splitTail (c :: cleanEnd s)).fragment.map (encode fragmentSet) } := by
  obtain ⟨p, hp, hne, hsegments⟩ := hu.path
  obtain ⟨path, last, rfl⟩ := (List.eq_nil_or_concat' p).resolve_left hne
  have hpath : ∀ s ∈ path, IsSegment s := fun s hs => hsegments s (List.mem_append_left _ hs)
  have hlast : IsSegment last := hsegments last (by simp)
  have hvisible : ∀ d ∈ last ++ [c], isVisible d = true := by
    intro d hd
    rcases List.mem_append.mp hd with hd | hd
    · exact (hlast.char d hd).1
    · rw [List.mem_singleton.mp hd]
      rcases hc with rfl | rfl <;> decide
  have hclean : cleanEnd (last ++ c :: s) = last ++ c :: cleanEnd s := by
    have happend := cleanEnd_append hvisible s
    simpa using happend
  have hwhole : [last] = [last].map (encode pathSet) := by
    rw [List.map_singleton, encode_of_isClear hlast.clear]
  have hresolve : resolveSegments false path [last] = path ++ [last] := by
    have hone : ∀ s ∈ [last], IsSegment s := by simpa using hlast
    have happend : resolveSegments false path ([last] ++ []) = _ := resolveSegments_append hone []
    rwa [List.append_nil, resolveSegments_nil] at happend
  have htext : pathText u.path ++ c :: s =
      pathText (.segments path) ++ '/' :: (last ++ c :: s) := by
    rw [hp, pathText_append]
    simp [pathText]
  rw [htext, readChars_segments hu hhost hpath, hclean,
    splitTail_append fun d hd => (hlast.char d hd).2, path_splitTail hc]
  dsimp only
  rw [List.append_nil, List.splitOnP_eq_singleton hlast.undivided, ← hwhole, hresolve, ← hp]

theorem splitTail_query {q : List Char} (h : ∀ c ∈ q, c ≠ '#') (s : List Char) :
    splitTail ('?' :: (q ++ ['#'] ++ s)) = ⟨[], some q, some s⟩ := by
  have hq : ∀ c ∈ '?' :: q, (c != '#') = true := by
    intro c hc
    rcases List.mem_cons.mp hc with rfl | hc
    · decide
    · exact bne_iff_ne.mpr (h c hc)
  unfold splitTail
  rw [List.append_assoc, ← List.cons_append, List.takeWhile_append_of_pos hq,
    List.dropWhile_append_of_pos hq]
  simp

/-- A fragment takes in all that follows. -/
theorem readChars_trimmed_fragment (hu : IsWeb u) (hhost : u.host = some host) {f : List Char}
    (hfragment : u.fragment = some f) (s : List Char) :
    ∃ f', readChars (u.trimmed ++ s) =
      (domainHost host).map fun h => { u with host := some h, fragment := some f' } := by
  have htrimmed : u.trimmed = u.scheme ++ ':' :: u.authority ++ pathText u.path ++
      (u.query.map ('?' :: ·)).getD [] ++ ['#'] ++ dropEndWhile (· == '/') f := by
    rw [← dropEndWhile_append (dropEndWhile_of_getLast? List.getLast?_concat rfl), trimmed, chars,
      hfragment]
    simp
  rw [htrimmed]
  cases hquery : u.query with
  | none =>
    have htext := readChars_tail hu hhost (.inr rfl) (dropEndWhile (· == '/') f ++ s)
    refine ⟨encode fragmentSet (cleanEnd (dropEndWhile (· == '/') f ++ s)), ?_⟩
    simpa [splitTail, hquery] using htext
  | some q =>
    have hclear := hu.query q hquery
    have hnone : ∀ c ∈ q, c ≠ '#' := fun c hc => ne_of_isClear (by decide) (hclear c hc)
    have hvisible : ∀ c ∈ q ++ ['#'], isVisible c = true := by
      intro c hc
      rcases List.mem_append.mp hc with hc | hc
      · exact isVisible_of_isClear (by decide) (hclear c hc)
      · rw [List.mem_singleton.mp hc]
        decide
    have hclean := cleanEnd_append hvisible (dropEndWhile (· == '/') f ++ s)
    have htext := readChars_tail hu hhost (.inl rfl)
      (q ++ ['#'] ++ (dropEndWhile (· == '/') f ++ s))
    rw [hclean, splitTail_query hnone] at htext
    refine ⟨encode fragmentSet (cleanEnd (dropEndWhile (· == '/') f ++ s)), ?_⟩
    simpa [encode_of_isClear hclear, hquery] using htext

/-- Without one a query takes it in. -/
theorem readChars_trimmed_query (hu : IsWeb u) (hhost : u.host = some host) {q : List Char}
    (hquery : u.query = some q) (hfragment : u.fragment = none) (s : List Char) :
    ∃ q' f', readChars (u.trimmed ++ s) =
      (domainHost host).map fun h =>
        { u with host := some h, query := some q', fragment := f' } := by
  have htrimmed : u.trimmed = u.scheme ++ ':' :: u.authority ++ pathText u.path ++ ['?'] ++
      dropEndWhile (· == '/') q := by
    rw [← dropEndWhile_append (dropEndWhile_of_getLast? List.getLast?_concat rfl), trimmed, chars,
      hquery, hfragment]
    simp
  have htext := readChars_tail hu hhost (.inl rfl) (dropEndWhile (· == '/') q ++ s)
  generalize cleanEnd (dropEndWhile (· == '/') q ++ s) = rest at htext
  have hsome : (splitTail ('?' :: rest)).query = some (rest.takeWhile (· != '#')) := by
    simp [splitTail]
  rw [hsome] at htext
  rw [htrimmed]
  refine ⟨encode specialQuerySet (rest.takeWhile (· != '#')),
    (splitTail ('?' :: rest)).fragment.map (encode fragmentSet), ?_⟩
  simpa using htext

/-- Only the path of a URL without both is gone on with. -/
theorem of_readChars_trimmed (hu : IsWeb u) {s : List Char}
    (h : readChars (u.trimmed ++ s) = .ok (u.below segments)) :
    u.query = none ∧ u.fragment = none := by
  obtain ⟨host, hhost, -⟩ := hu.host
  cases hfragment : u.fragment with
  | some f =>
    obtain ⟨f', hread⟩ := readChars_trimmed_fragment hu hhost hfragment s
    rw [hread] at h
    cases hstable : domainHost host <;> simp [hstable, Except.map, below] at h
  | none =>
    cases hquery : u.query with
    | some q =>
      obtain ⟨q', f', hread⟩ := readChars_trimmed_query hu hhost hquery hfragment s
      rw [hread] at h
      cases hstable : domainHost host <;> simp [hstable, Except.map, below] at h
    | none => exact ⟨rfl, rfl⟩

end

end CommandBridge.Url
