import CommandBridge.Proofs.Url.Host
import CommandBridge.Proofs.Url.Percent
import Mathlib.Data.List.TakeDrop

/-! The normal form of a URL of the web: each of its parts is as reading leaves it. -/
namespace CommandBridge.Url

/-- A segment of a path that is read as it stands. -/
structure IsSegment (s : List Char) : Prop where
  clear : ∀ c ∈ s, isClear pathSet c = true
  undivided : ∀ c ∈ s, isSlash c = false
  notUp : isDoubleDot s = false
  notHere : isSingleDot s = false

def isWebScheme (scheme : List Char) : Prop := scheme = "http".toList ∨ scheme = "https".toList

structure IsWeb (u : Url) : Prop where
  scheme : isWebScheme u.scheme
  username : ∀ c ∈ u.username, isClear userinfoSet c = true
  password : ∀ c ∈ u.password, isClear userinfoSet c = true
  host : ∃ h, u.host = some h ∧ IsHost h
  port : ∀ n, u.port = some n → n ≤ 65535 ∧ usualPort? u.scheme ≠ some n
  path : ∃ p, u.path = .segments p ∧ p ≠ [] ∧ ∀ s ∈ p, IsSegment s
  query : ∀ q, u.query = some q → ∀ c ∈ q, isClear specialQuerySet c = true
  fragment : ∀ f, u.fragment = some f → ∀ c ∈ f, isClear fragmentSet c = true

theorem isSpecial_of_isWebScheme {scheme : List Char} (h : isWebScheme scheme) :
    isSpecial scheme = true := by
  rcases h with rfl | rfl <;> decide

theorem isFile_of_isWebScheme {scheme : List Char} (h : isWebScheme scheme) :
    isFile scheme = false := by
  rcases h with rfl | rfl <;> decide

/-! ### Paths -/

section
variable {scheme s : List Char} {path segments : List (List Char)}

theorem IsSegment.nil : IsSegment [] where
  clear _ hc := absurd hc List.not_mem_nil
  undivided _ hc := absurd hc List.not_mem_nil
  notUp := by decide
  notHere := by decide

theorem resolveSegments_nil (file : Bool) (path : List (List Char)) :
    resolveSegments file path [] = path := by
  rw [resolveSegments]

theorem normalSegment_false (path : List (List Char)) (segment : List Char) :
    normalSegment false path segment = segment := rfl

theorem parent_subset (path : List (List Char)) : parent path ⊆ path := by
  unfold parent
  split
  · exact List.Subset.refl path
  · exact List.dropLast_subset path

theorem isSegment_of_mem_resolveSegments (hpath : ∀ s ∈ path, IsSegment s)
    (h : ∀ s ∈ segments, (∀ c ∈ s, isClear pathSet c = true) ∧ ∀ c ∈ s, isSlash c = false) :
    ∀ s ∈ resolveSegments false path segments, IsSegment s := by
  induction segments generalizing path with
  | nil => rwa [resolveSegments_nil]
  | cons segment rest ih =>
    obtain ⟨⟨hclear, hundivided⟩, hrest⟩ := List.forall_mem_cons.mp h
    have hempty {path : List (List Char)} (hpath : ∀ s ∈ path, IsSegment s) :
        ∀ s ∈ if rest.isEmpty then path ++ [[]] else path, IsSegment s := by
      split
      · intro s hs
        rcases List.mem_append.mp hs with hs | hs
        · exact hpath s hs
        · exact List.mem_singleton.mp hs ▸ .nil
      · exact hpath
    rw [resolveSegments]
    split
    · exact ih (hempty fun s hs => hpath s (parent_subset path hs)) hrest
    · split
      · exact ih (hempty hpath) hrest
      · rename_i hup hhere
        apply ih _ hrest
        intro s hs
        rcases List.mem_append.mp hs with hs | hs
        · exact hpath s hs
        · rw [List.mem_singleton.mp hs, normalSegment_false]
          exact ⟨hclear, hundivided, by simpa using hup, by simpa using hhere⟩

theorem resolveSegments_ne_nil (file : Bool) (h : path ≠ [] ∨ segments ≠ []) :
    resolveSegments file path segments ≠ [] := by
  induction segments generalizing path with
  | nil =>
    rw [resolveSegments_nil]
    exact h.resolve_right fun hne => hne rfl
  | cons segment rest ih =>
    have hempty (path : List (List Char)) :
        (if rest.isEmpty then path ++ [[]] else path) ≠ [] ∨ rest ≠ [] := by
      cases rest with
      | nil => exact .inl (by simp)
      | cons t ts => exact .inr (List.cons_ne_nil t ts)
    rw [resolveSegments]
    split
    · exact ih (hempty (parent path))
    · split
      · exact ih (hempty path)
      · exact ih (.inl (by simp))

theorem isClear_of_mem_escapeChars : ∀ set ∈ [pathSet, userinfoSet, specialQuerySet, fragmentSet],
    ∀ c ∈ escapeChars, isClear set c = true := by
  simp only [List.forall_mem_cons]
  refine ⟨?_, ?_, ?_, ?_, List.forall_mem_nil _⟩ <;> exact List.all_eq_true.mp (by decide)

theorem isSlash_of_mem_escapeChars : ∀ c ∈ escapeChars, isSlash c = false :=
  List.all_iff_forall_prop.mp (by decide)

theorem isClear_pathSet_of_mem_encode {c : Char} (h : c ∈ encode pathSet s) :
    isClear pathSet c = true :=
  isClear_of_mem_encode (isClear_of_mem_escapeChars pathSet (by simp)) h

theorem readPath_web (h : isWebScheme scheme) (s : List Char) :
    readPath scheme s = resolveSegments false [] ((s.splitOnP isSlash).map (encode pathSet)) := by
  unfold readPath
  rw [isFile_of_isWebScheme h, isSpecial_of_isWebScheme h]
  rfl

theorem isSegment_of_mem_resolved (hpath : ∀ t ∈ path, IsSegment t) (s : List Char) :
    ∀ t ∈ resolveSegments false path ((s.splitOnP isSlash).map (encode pathSet)), IsSegment t := by
  apply isSegment_of_mem_resolveSegments hpath
  intro t ht
  obtain ⟨piece, hpiece, rfl⟩ := List.mem_map.mp ht
  refine ⟨fun c => isClear_pathSet_of_mem_encode, ?_⟩
  intro c hc
  rcases mem_encode hc with hc | hc
  · exact (mem_of_mem_splitOnP hpiece hc.1).2
  · exact isSlash_of_mem_escapeChars c hc

theorem isSegment_of_mem_readPath (h : isWebScheme scheme) :
    ∀ t ∈ readPath scheme s, IsSegment t := by
  rw [readPath_web h]
  exact isSegment_of_mem_resolved (fun s hs => absurd hs List.not_mem_nil) s

theorem readPath_ne_nil (h : isWebScheme scheme) (s : List Char) : readPath scheme s ≠ [] := by
  rw [readPath_web h]
  exact resolveSegments_ne_nil false (.inr (by simp [List.splitOnP_ne_nil]))

theorem exists_hierarchicalPath (h : isWebScheme scheme) (s : List Char) :
    ∃ p, hierarchicalPath scheme s = .segments p ∧ p ≠ [] ∧ ∀ t ∈ p, IsSegment t := by
  unfold hierarchicalPath
  split
  · rw [isSpecial_of_isWebScheme h]
    exact ⟨[[]], rfl, List.cons_ne_nil _ _, fun t ht => List.mem_singleton.mp ht ▸ .nil⟩
  · split
    · exact ⟨_, rfl, readPath_ne_nil h _, isSegment_of_mem_readPath h⟩
    · exact ⟨_, rfl, readPath_ne_nil h _, isSegment_of_mem_readPath h⟩

end

/-! ### Whole URLs -/

section
variable {scheme s : List Char} {u : Url}

theorem of_readPort {port : Option Nat} (h : readPort scheme s = .ok port) :
    ∀ n, port = some n → n ≤ 65535 ∧ usualPort? scheme ≠ some n := by
  rintro n rfl
  unfold readPort at h
  split at h
  · cases h
  · split at h
    · rename_i m _
      split at h
      · cases h
      · split at h
        · cases h
        · cases h
          exact ⟨by omega, by assumption⟩
    · cases h

theorem of_splitUserinfo {last : Bool} {username password rest : List Char}
    (h : splitUserinfo s last = .ok ((username, password), rest)) :
    (∀ c ∈ username, isClear userinfoSet c = true) ∧
      ∀ c ∈ password, isClear userinfoSet c = true := by
  have hclear (s : List Char) : ∀ c ∈ encode userinfoSet s, isClear userinfoSet c = true :=
    fun c => isClear_of_mem_encode (isClear_of_mem_escapeChars userinfoSet (by simp))
  unfold splitUserinfo at h
  split at h
  · rename_i user host _
    dsimp only [readUserinfo] at h
    split at h
    all_goals
      split at h
      · cases h
      · cases h
        exact ⟨hclear _, hclear _⟩
  · cases h
    exact ⟨fun c hc => absurd hc List.not_mem_nil, fun c hc => absurd hc List.not_mem_nil⟩

theorem withTail_web (h : isWebScheme u.scheme) (path : UrlPath) (t : Tail) :
    withTail u path t = { u with
      path := path
      query := t.query.map (encode specialQuerySet)
      fragment := t.fragment.map (encode fragmentSet) } := by
  rw [withTail, isSpecial_of_isWebScheme h]
  rfl

/-- What is read after the user name and the password of a URL whose scheme needs a host. -/
def onHost (scheme : List Char) (names : List Char × List Char) (hostAndPort : List Char)
    (t : Tail) : Except UrlFault Url := do
  let (hostText, portText) := splitPort false hostAndPort
  let (portDigits, afterPort) := (portText.drop 1).span (· != '\\')
  if hostText.isEmpty then .error .emptyHost
  else
    let host ← domainHost hostText
    let port ← readPort scheme portDigits
    let u := { bare scheme with username := names.1, password := names.2, host := some host, port }
    return withTail u (hierarchicalPath scheme (afterPort ++ t.path)) t

theorem afterSlashes_special (h : isSpecial scheme = true) (s : List Char) :
    afterSlashes scheme s =
      (splitUserinfo (s.takeWhile (!endsAuthority true ·))
        (s.dropWhile (!endsAuthority true ·)).isEmpty).bind fun r =>
          onHost scheme r.1 r.2 (splitTail (s.dropWhile (!endsAuthority true ·))) := by
  unfold afterSlashes onHost
  rw [h]
  dsimp only
  cases splitUserinfo (s.takeWhile (!endsAuthority true ·))
      (s.dropWhile (!endsAuthority true ·)).isEmpty with
  | error e => rfl
  | ok r =>
    dsimp only [Bind.bind, Except.bind]
    split
    · rfl
    · rename_i hspecial
      exact absurd rfl hspecial

theorem isWeb_of_onHost {names : List Char × List Char} {t : Tail} (hscheme : isWebScheme scheme)
    (husername : ∀ c ∈ names.1, isClear userinfoSet c = true)
    (hpassword : ∀ c ∈ names.2, isClear userinfoSet c = true)
    (h : onHost scheme names s t = .ok u) : IsWeb u := by
  unfold onHost at h
  dsimp only at h
  split at h
  · cases h
  · cases hhost : domainHost (splitPort false s).1 with
    | error e =>
      rw [hhost] at h
      cases h
    | ok host =>
      cases hport : readPort scheme
          ((((splitPort false s).2.drop 1).span (· != '\\')).1) with
      | error e =>
        rw [hhost, hport] at h
        cases h
      | ok port =>
        rw [hhost, hport] at h
        simp only [Bind.bind, Except.bind] at h
        rw [withTail_web hscheme] at h
        cases h
        refine ⟨hscheme, husername, hpassword, ⟨host, rfl, isHost_of_domainHost hhost⟩,
          of_readPort hport, exists_hierarchicalPath hscheme _, ?_, ?_⟩
        · intro q hq
          obtain ⟨q, -, rfl⟩ := Option.map_eq_some_iff.mp hq
          intro c hc
          exact isClear_of_mem_encode (isClear_of_mem_escapeChars specialQuerySet (by simp)) hc
        · intro f hf
          obtain ⟨f, -, rfl⟩ := Option.map_eq_some_iff.mp hf
          intro c hc
          exact isClear_of_mem_encode (isClear_of_mem_escapeChars fragmentSet (by simp)) hc

theorem isWeb_of_afterSlashes (hscheme : isWebScheme scheme)
    (h : afterSlashes scheme s = .ok u) : IsWeb u := by
  rw [afterSlashes_special (isSpecial_of_isWebScheme hscheme)] at h
  cases hnames : splitUserinfo (s.takeWhile (!endsAuthority true ·))
      (s.dropWhile (!endsAuthority true ·)).isEmpty with
  | error e =>
    rw [hnames] at h
    cases h
  | ok r =>
    obtain ⟨⟨username, password⟩, rest⟩ := r
    rw [hnames] at h
    obtain ⟨husername, hpassword⟩ := of_splitUserinfo hnames
    exact isWeb_of_onHost hscheme husername hpassword h

theorem scheme_afterSlashes (h : afterSlashes scheme s = .ok u) : u.scheme = scheme := by
  unfold afterSlashes at h
  simp only [bind, Except.bind] at h
  repeat' split at h
  all_goals cases h
  all_goals rfl

theorem scheme_fileUrl (h : fileUrl scheme s = .ok u) : u.scheme = scheme := by
  unfold fileUrl at h
  simp only [bind, Except.bind] at h
  repeat' split at h
  all_goals cases h
  all_goals rfl

/-- A URL of the web that has been read is in normal form. -/
theorem isWeb_of_readChars (h : readChars s = .ok u) (hscheme : isWebScheme u.scheme) :
    IsWeb u := by
  have hspecial := isSpecial_of_isWebScheme hscheme
  have hfile := isFile_of_isWebScheme hscheme
  unfold readChars at h
  split at h
  · cases h
  · rename_i scheme rest _
    split at h
    · rename_i hscheme
      rw [scheme_fileUrl h, hscheme] at hfile
      cases hfile
    · split at h
      · rw [scheme_afterSlashes h] at hscheme
        exact isWeb_of_afterSlashes hscheme h
      · rename_i hother
        split at h
        · rw [scheme_afterSlashes h] at hspecial
          exact absurd hspecial hother
        · cases h
          exact absurd hspecial hother
        · cases h
          exact absurd hspecial hother

end

end CommandBridge.Url
