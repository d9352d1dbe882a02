import CommandBridge.Proofs.Url.Normal
import CommandBridge.Text.Blank
import Mathlib.Data.List.TakeWhile

/-! A URL of the web with another path: its authority is read back, and then the path. -/
namespace CommandBridge.Url

/-- Neither a control nor a space. -/
def isVisible (c : Char) : Bool := !clean.isControlOrSpace c

/-- The end of a text as it is read. -/
def cleanEnd (s : List Char) : List Char := (clean.dropEnd s).filter (!isTabOrNewline ·)

section
variable {a b s user host scheme : List Char} {c : Char}

/-! ### Controls and spaces -/

theorem isTabOrNewline_of_isVisible (h : isVisible c = true) : isTabOrNewline c = false := by
  cases htab : isTabOrNewline c with
  | false => rfl
  | true =>
    simp only [isTabOrNewline, Bool.or_eq_true, beq_iff_eq] at htab
    rcases htab with (rfl | rfl) | rfl <;> exact absurd h (by decide)

theorem dropEnd_append (h : ∀ c ∈ a, isVisible c = true) (b : List Char) :
    clean.dropEnd (a ++ b) = a ++ clean.dropEnd b := by
  apply Text.dropEndWhile_append
  cases ha : a.getLast? with
  | none =>
    rw [List.getLast?_eq_none_iff.mp ha]
    rfl
  | some c =>
    have hc := h c (List.mem_of_getLast? ha)
    exact Text.dropEndWhile_of_getLast? ha (by simpa [isVisible] using hc)

theorem cleanEnd_append (h : ∀ c ∈ a, isVisible c = true) (b : List Char) :
    cleanEnd (a ++ b) = a ++ cleanEnd b := by
  have hkept : a.filter (!isTabOrNewline ·) = a :=
    List.filter_eq_self.mpr fun c hc => by rw [isTabOrNewline_of_isVisible (h c hc)]; rfl
  rw [cleanEnd, dropEnd_append h, List.filter_append, hkept, cleanEnd]

theorem clean_eq (h : ∀ c, s.head? = some c → isVisible c = true) : clean s = cleanEnd s := by
  have hstays : s.dropWhile clean.isControlOrSpace = s := by
    cases s with
    | nil => rfl
    | cons c s =>
      have hc := h c rfl
      exact List.dropWhile_cons_of_neg (by simpa [isVisible] using hc)
  rw [clean, hstays, cleanEnd]

/-! ### Where the parts of a URL end -/

theorem splitTail_append (h : ∀ c ∈ a, c ≠ '?' ∧ c ≠ '#') (b : List Char) :
    splitTail (a ++ b) = { splitTail b with path := a ++ (splitTail b).path } := by
  have hquery : ∀ c ∈ a, (c != '?') = true := fun c hc => bne_iff_ne.mpr (h c hc).1
  have hfragment : ∀ c ∈ a, (c != '#') = true := fun c hc => bne_iff_ne.mpr (h c hc).2
  unfold splitTail
  rw [List.takeWhile_append_of_pos hfragment, List.dropWhile_append_of_pos hfragment]
  dsimp only
  rw [List.takeWhile_append_of_pos hquery, List.dropWhile_append_of_pos hquery]

theorem splitScheme?_web (h : isWebScheme scheme) (rest : List Char) :
    splitScheme? (scheme ++ ':' :: rest) = some (scheme, rest) := by
  rcases h with rfl | rfl <;> rfl

theorem splitLastAt_append (h : '@' ∉ host) :
    splitLastAt (user ++ '@' :: host) = some (user, host) := by
  have hhost : ∀ c ∈ host.reverse, (c != '@') = true := by
    intro c hc
    refine bne_iff_ne.mpr ?_
    rintro rfl
    exact h (List.mem_reverse.mp hc)
  have hreverse : (user ++ '@' :: host).reverse = host.reverse ++ '@' :: user.reverse := by simp
  unfold splitLastAt
  dsimp only
  rw [hreverse, List.dropWhile_append_of_pos hhost, List.takeWhile_append_of_pos hhost]
  simp

theorem splitLastAt_eq_none (h : '@' ∉ s) : splitLastAt s = none := by
  have hall : s.reverse.dropWhile (· != '@') = [] := by
    rw [List.dropWhile_eq_nil_iff]
    intro c hc
    refine bne_iff_ne.mpr ?_
    rintro rfl
    exact h (List.mem_reverse.mp hc)
  unfold splitLastAt
  dsimp only
  rw [hall]

/-- Text with no colon and no bracket belongs to the host, and so does a colon in brackets. -/
theorem splitPort_append {inside : Bool}
    (h : ∀ c ∈ a, c ≠ '[' ∧ c ≠ ']' ∧ (inside = false → c ≠ ':')) (b : List Char) :
    splitPort inside (a ++ b) = (a ++ (splitPort inside b).1, (splitPort inside b).2) := by
  induction a with
  | nil => rfl
  | cons c a ih =>
    rw [List.forall_mem_cons] at h
    obtain ⟨⟨hopen, hclose, hcolon⟩, ha⟩ := h
    have hgoes : (c == ':' && !inside) = false := by
      cases inside with
      | true => exact Bool.and_false _
      | false => simpa using hcolon rfl
    rw [List.cons_append, splitPort, hgoes, if_neg Bool.false_ne_true,
      if_neg (by simpa using hopen), if_neg (by simpa using hclose), ih ha]
    rfl

/-! ### The characters of an authority -/

theorem isVisible_of_isDomainChar (h : isDomainChar c = true) : isVisible c = true := by
  simp only [isDomainChar, Bool.or_eq_true, Bool.and_eq_true, decide_eq_true_eq] at h
  simp only [isVisible, clean.isControlOrSpace, Bool.not_eq_true', decide_eq_false_iff_not]
  omega

theorem ne_of_isDomainChar {d : Char} (hd : d ∈ forbiddenInDomain) (h : isDomainChar c = true) :
    c ≠ d := by
  have hnone : ∀ d ∈ forbiddenInDomain, isDomainChar d = false :=
    List.all_iff_forall_prop.mp (by decide)
  rintro rfl
  exact Bool.false_ne_true ((hnone c hd).symm.trans h)

theorem isVisible_of_isClear {set : List Char} (hset : ' ' ∈ set) (h : isClear set c = true) :
    isVisible c = true := by
  simp only [isClear, Bool.not_eq_true', Bool.or_eq_false_iff, decide_eq_false_iff_not,
    List.contains_eq_mem] at h
  have hspace : c.toNat ≠ 0x20 := by
    intro heq
    have hc : c = ' ' := Char.toNat_inj.mp heq
    exact h.2 (hc ▸ hset)
  simp only [isVisible, clean.isControlOrSpace, Bool.not_eq_true', decide_eq_false_iff_not]
  omega

theorem ne_of_isClear {set : List Char} {d : Char} (hset : d ∈ set) (h : isClear set c = true) :
    c ≠ d := by
  simp only [isClear, Bool.not_eq_true', Bool.or_eq_false_iff, decide_eq_false_iff_not,
    List.contains_eq_mem] at h
  rintro rfl
  exact h.2 hset

/-- A character that can stand in an authority. -/
def isInAuthority (c : Char) : Bool := isVisible c && !endsAuthority true c

theorem isInAuthority_iff :
    isInAuthority c = true ↔ isVisible c = true ∧ c ≠ '/' ∧ c ≠ '?' ∧ c ≠ '#' ∧ c ≠ '\\' := by
  simp [isInAuthority, endsAuthority, and_assoc]

theorem isInAuthority_of_isDomainChar (h : isDomainChar c = true) : isInAuthority c = true :=
  isInAuthority_iff.mpr ⟨isVisible_of_isDomainChar h, ne_of_isDomainChar (by decide) h,
    ne_of_isDomainChar (by decide) h, ne_of_isDomainChar (by decide) h,
    ne_of_isDomainChar (by decide) h⟩

theorem isInAuthority_of_isClear (h : isClear userinfoSet c = true) : isInAuthority c = true :=
  isInAuthority_iff.mpr ⟨isVisible_of_isClear (by decide) h, ne_of_isClear (by decide) h,
    ne_of_isClear (by decide) h, ne_of_isClear (by decide) h, ne_of_isClear (by decide) h⟩

theorem IsHost.isInAuthority (h : IsHost host) : ∀ c ∈ host, isInAuthority c = true ∧ c ≠ '@' := by
  cases h with
  | address =>
    have haddress : ∀ c ∈ "0123456789abcdef:".toList, Url.isInAuthority c = true ∧ c ≠ '@' :=
      List.all_iff_forall_prop.mp (by decide)
    intro c hc
    rcases List.mem_append.mp hc with hc | hc
    · rcases List.mem_cons.mp hc with rfl | hc
      · decide
      · exact haddress c (mem_ipv6Text hc)
    · rw [List.mem_singleton.mp hc]
      decide
  | domain hne hdomain hnumber =>
    intro c hc
    exact ⟨isInAuthority_of_isDomainChar (hdomain c hc),
      ne_of_isDomainChar (by decide) (hdomain c hc)⟩

theorem IsHost.ne_nil (h : IsHost host) : host ≠ [] := by
  cases h with
  | address => exact List.cons_ne_nil _ _
  | domain hne hdomain hnumber => exact hne

theorem IsHost.splitPort (h : IsHost host) (hb : b = [] ∨ b.head? = some ':') :
    splitPort false (host ++ b) = (host, b) := by
  have hrest : Url.splitPort false b = ([], b) := by
    cases b with
    | nil => rfl
    | cons c b =>
      have hc : c = ':' := by simpa using hb
      rw [hc]
      rfl
  cases h with
  | @address gs =>
    have haddress : ∀ c ∈ "0123456789abcdef:".toList, c ≠ '[' ∧ c ≠ ']' :=
      List.all_iff_forall_prop.mp (by decide)
    have hinside : ∀ c ∈ ipv6Text gs, c ≠ '[' ∧ c ≠ ']' ∧ (true = false → c ≠ ':') := by
      intro c hc
      obtain ⟨hopens, hcloses⟩ := haddress c (mem_ipv6Text hc)
      exact ⟨hopens, hcloses, fun h => nomatch h⟩
    have hclose : Url.splitPort true (']' :: b) = ([']'], b) := by
      rw [Url.splitPort]
      simp [hrest]
    rw [List.append_assoc, List.cons_append, Url.splitPort]
    simp [splitPort_append hinside, hclose]
  | domain hne hdomain hnumber =>
    rw [splitPort_append, hrest, List.append_nil]
    intro c hc
    exact ⟨ne_of_isDomainChar (by decide) (hdomain c hc),
      ne_of_isDomainChar (by decide) (hdomain c hc),
      fun _ => ne_of_isDomainChar (by decide) (hdomain c hc)⟩

end

/-! ### Authorities -/

def portText (u : Url) : List Char := (u.port.map fun n => ':' :: Decimal.digits n).getD []

section
variable {u : Url} {host : List Char}

theorem authority_eq (h : u.host = some host) :
    u.authority = '/' :: '/' :: (u.userinfo ++ (host ++ u.portText)) := by
  rw [authority, h, portText]
  simp

theorem portText_cases (u : Url) : u.portText = [] ∨ u.portText.head? = some ':' := by
  unfold portText
  cases u.port with
  | none => exact .inl rfl
  | some n => exact .inr rfl

theorem isInAuthority_portText : ∀ c ∈ u.portText, isInAuthority c = true ∧ c ≠ '@' := by
  have hdigits : ∀ c ∈ "0123456789".toList, isInAuthority c = true ∧ c ≠ '@' :=
    List.all_iff_forall_prop.mp (by decide)
  unfold portText
  cases u.port with
  | none => exact fun c hc => absurd hc List.not_mem_nil
  | some n =>
    intro c hc
    rcases List.mem_cons.mp hc with rfl | hc
    · decide
    · exact hdigits c (Decimal.mem_of_isDigit (Decimal.isDigit_of_mem_digits hc))

theorem IsWeb.isInAuthority_userinfo (hu : IsWeb u) : ∀ c ∈ u.userinfo, isInAuthority c = true := by
  unfold userinfo
  split
  · exact fun c hc => absurd hc List.not_mem_nil
  · intro c hc
    simp only [List.mem_append, List.mem_singleton] at hc
    rcases hc with (hc | hc) | rfl
    · exact isInAuthority_of_isClear (hu.username c hc)
    · split at hc
      · exact absurd hc List.not_mem_nil
      · rcases List.mem_cons.mp hc with rfl | hc
        · decide
        · exact isInAuthority_of_isClear (hu.password c hc)
    · decide

theorem IsWeb.isInAuthority (hu : IsWeb u) (hh : IsHost host) :
    ∀ c ∈ u.userinfo ++ (host ++ u.portText), isInAuthority c = true := by
  intro c hc
  simp only [List.mem_append] at hc
  rcases hc with hc | hc | hc
  · exact hu.isInAuthority_userinfo c hc
  · exact (hh.isInAuthority c hc).1
  · exact (isInAuthority_portText c hc).1

theorem readUserinfo_userinfo (hu : IsWeb u) :
    readUserinfo (u.username ++ if u.password.isEmpty then [] else ':' :: u.password) =
      (u.username, u.password) := by
  have hname : ∀ c ∈ u.username, (c != ':') = true := fun c hc =>
    bne_iff_ne.mpr (ne_of_isClear (by decide) (hu.username c hc))
  unfold readUserinfo
  rw [List.takeWhile_append_of_pos hname, List.dropWhile_append_of_pos hname]
  cases hpassword : u.password with
  | nil => simp [encode_of_isClear hu.username]
  | cons c s =>
    have hclear : encode userinfoSet (c :: s) = c :: s := by
      rw [← hpassword]
      exact encode_of_isClear hu.password
    simp [encode_of_isClear hu.username, hclear]

theorem splitUserinfo_web (hu : IsWeb u) {rest : List Char} (hne : rest ≠ []) (hrest : '@' ∉ rest)
    (last : Bool) :
    splitUserinfo (u.userinfo ++ rest) last = .ok ((u.username, u.password), rest) := by
  have hstays : rest.isEmpty = false := by simpa using hne
  unfold userinfo splitUserinfo
  cases hnobody : u.username.isEmpty && u.password.isEmpty with
  | true =>
    obtain ⟨hname, hpassword⟩ := (Bool.and_eq_true ..).mp hnobody
    rw [if_pos rfl, List.nil_append, splitLastAt_eq_none hrest, List.isEmpty_iff.mp hname,
      List.isEmpty_iff.mp hpassword]
  | false =>
    rw [if_neg Bool.false_ne_true, List.append_assoc, List.singleton_append,
      splitLastAt_append hrest]
    dsimp only
    rw [readUserinfo_userinfo hu, hstays, Bool.false_and, if_neg Bool.false_ne_true]

theorem readPort_web (hu : IsWeb u) :
    (u.portText.drop 1).span (· != '\\') = (u.portText.drop 1, []) ∧
      readPort u.scheme (u.portText.drop 1) = .ok u.port := by
  have hdigit : ∀ c ∈ "0123456789".toList, (c != '\\') = true := List.all_eq_true.mp (by decide)
  unfold portText
  cases hport : u.port with
  | none => exact ⟨rfl, rfl⟩
  | some n =>
    obtain ⟨hle, husual⟩ := hu.port n hport
    have hall : ∀ c ∈ Decimal.digits n, (c != '\\') = true := fun c hc =>
      hdigit c (Decimal.mem_of_isDigit (Decimal.isDigit_of_mem_digits hc))
    have hne : (Decimal.digits n).isEmpty = false := by
      simpa using Decimal.digits_ne_nil n
    constructor
    · rw [List.span_eq_takeWhile_dropWhile]
      exact Prod.ext (List.takeWhile_eq_self_iff.mpr hall) (List.dropWhile_eq_nil_iff.mpr hall)
    · show readPort u.scheme (Decimal.digits n) = .ok (some n)
      rw [readPort, hne, if_neg Bool.false_ne_true, Decimal.readNat?_digits]
      dsimp only
      rw [if_neg (by omega), if_neg husual]

theorem onHost_web (hu : IsWeb u) (hh : IsHost host) (t : Tail) :
    onHost u.scheme (u.username, u.password) (host ++ u.portText) t =
      (domainHost host).map fun h =>
        withTail { u with host := some h } (hierarchicalPath u.scheme t.path) t := by
  obtain ⟨hspan, hport⟩ := readPort_web hu
  have hne : host.isEmpty = false := by simpa using hh.ne_nil
  unfold onHost
  rw [hh.splitPort (portText_cases u)]
  dsimp only
  rw [hspan, hne, if_neg Bool.false_ne_true, hport]
  cases domainHost host with
  | error e => rfl
  | ok h => rfl

theorem isVisible_of_isWebScheme {scheme : List Char} (h : isWebScheme scheme) :
    ∀ c ∈ scheme, isVisible c = true := by
  rcases h with rfl | rfl <;> exact List.all_eq_true.mp (by decide)

theorem splitTail_slash (s : List Char) :
    splitTail ('/' :: s) = { splitTail s with path := '/' :: (splitTail s).path } :=
  splitTail_append (a := ['/']) (by simp) s

theorem IsWeb.isHost (hu : IsWeb u) (hhost : u.host = some host) : IsHost host := by
  obtain ⟨h, hsome, hh⟩ := hu.host
  rw [hhost, Option.some.injEq] at hsome
  exact hsome ▸ hh

theorem not_mem_portText (hh : IsHost host) : '@' ∉ host ++ u.portText := by
  intro hmem
  rcases List.mem_append.mp hmem with hmem | hmem
  · exact (hh.isInAuthority _ hmem).2 rfl
  · exact (isInAuthority_portText _ hmem).2 rfl

end

section
variable {scheme a : List Char}

/-- Nothing at the start is left out. -/
theorem clean_authority (hscheme : isWebScheme scheme) (ha : ∀ c ∈ a, isInAuthority c = true)
    (s : List Char) :
    clean (scheme ++ ':' :: '/' :: '/' :: a ++ '/' :: s) =
      scheme ++ ':' :: '/' :: '/' :: (a ++ '/' :: cleanEnd s) := by
  have hvisible : ∀ c ∈ scheme ++ ':' :: '/' :: '/' :: (a ++ ['/']), isVisible c = true := by
    intro c hc
    simp only [List.mem_append, List.mem_cons, List.not_mem_nil, or_false] at hc
    rcases hc with hc | rfl | rfl | rfl | hc | rfl
    · exact isVisible_of_isWebScheme hscheme c hc
    · decide
    · decide
    · decide
    · exact (isInAuthority_iff.mp (ha c hc)).1
    · decide
  have hsplit : scheme ++ ':' :: '/' :: '/' :: a ++ '/' :: s =
      scheme ++ ':' :: '/' :: '/' :: (a ++ ['/']) ++ s := by simp
  rw [hsplit, clean_eq, cleanEnd_append hvisible]
  · simp
  · intro c hc
    rcases hscheme with hscheme | hscheme
    all_goals
      rw [hscheme] at hc
      cases hc
      decide

/-- The slashes before an authority do not reach into it. -/
theorem dropWhile_isSlash_authority (hne : a ≠ []) (ha : ∀ c ∈ a, isInAuthority c = true)
    (s : List Char) : ('/' :: '/' :: (a ++ s)).dropWhile isSlash = a ++ s := by
  obtain ⟨c, a, rfl⟩ := List.exists_cons_of_ne_nil hne
  obtain ⟨-, hslash, -, -, hback⟩ := isInAuthority_iff.mp (ha c List.mem_cons_self)
  simp [isSlash, hslash, hback]

theorem readChars_authority (hscheme : isWebScheme scheme) (hne : a ≠ [])
    (ha : ∀ c ∈ a, isInAuthority c = true) (s : List Char) :
    readChars (scheme ++ ':' :: '/' :: '/' :: a ++ '/' :: s) =
      (splitUserinfo a false).bind fun p =>
        onHost scheme p.1 p.2 (splitTail ('/' :: cleanEnd s)) := by
  have hends : ∀ c ∈ a, (!endsAuthority true c) = true := fun c hc =>
    ((Bool.and_eq_true ..).mp (ha c hc)).2
  have htake : (a ++ '/' :: cleanEnd s).takeWhile (!endsAuthority true ·) = a := by
    rw [List.takeWhile_append_of_pos hends]
    simp [endsAuthority]
  have hdrop : (a ++ '/' :: cleanEnd s).dropWhile (!endsAuthority true ·) =
      '/' :: cleanEnd s := by
    rw [List.dropWhile_append_of_pos hends]
    simp [endsAuthority]
  rw [readChars, clean_authority hscheme ha, splitScheme?_web hscheme]
  dsimp only
  rw [isFile_of_isWebScheme hscheme, if_neg Bool.false_ne_true,
    if_pos (isSpecial_of_isWebScheme hscheme), dropWhile_isSlash_authority hne ha,
    afterSlashes_special (isSpecial_of_isWebScheme hscheme), htake, hdrop]
  rfl

end

section
variable {u : Url} {host : List Char}

/-- The scheme and the authority stay, up to another reading of the host. -/
theorem readChars_append (hu : IsWeb u) (hhost : u.host = some host) (s : List Char) :
    readChars (u.scheme ++ ':' :: u.authority ++ '/' :: s) =
      (domainHost host).map fun h =>
        withTail { u with host := some h }
          (.segments (readPath u.scheme (splitTail (cleanEnd s)).path))
          (splitTail (cleanEnd s)) := by
  have hh := hu.isHost hhost
  have hne : u.userinfo ++ (host ++ u.portText) ≠ [] := by simp [hh.ne_nil]
  rw [authority_eq hhost, readChars_authority hu.scheme hne (hu.isInAuthority hh),
    splitUserinfo_web hu (by simp [hh.ne_nil]) (not_mem_portText hh)]
  show onHost u.scheme (u.username, u.password) (host ++ u.portText) _ = _
  rw [onHost_web hu hh, splitTail_slash]
  rfl

end

/-! ### Paths -/

/-- Segments with a slash behind each. -/
def lead (segments : List (List Char)) : List Char := segments.flatMap (· ++ ['/'])

section
variable {path segments : List (List Char)} {c : Char}

theorem pathText_slash (segments : List (List Char)) (rest : List Char) :
    pathText (.segments segments) ++ '/' :: rest = '/' :: (lead segments ++ rest) := by
  unfold pathText lead
  dsimp only
  induction segments with
  | nil => rfl
  | cons s segments ih =>
    rw [List.flatMap_cons, List.flatMap_cons, List.append_assoc, ih]
    simp

theorem splitOnP_lead (h : ∀ s ∈ segments, IsSegment s) (rest : List Char) :
    (lead segments ++ rest).splitOnP isSlash = segments ++ rest.splitOnP isSlash := by
  unfold lead
  induction segments with
  | nil => rfl
  | cons s segments ih =>
    rw [List.forall_mem_cons] at h
    rw [List.flatMap_cons, List.append_assoc, List.append_assoc, List.singleton_append,
      List.splitOnP_append_cons_of_forall_mem h.1.undivided '/' rfl, ih h.2]
    rfl

theorem IsSegment.char {s : List Char} (h : IsSegment s) :
    ∀ c ∈ s, isVisible c = true ∧ c ≠ '?' ∧ c ≠ '#' := by
  intro c hc
  have hclear := h.clear c hc
  exact ⟨isVisible_of_isClear (by decide) hclear, ne_of_isClear (by decide) hclear,
    ne_of_isClear (by decide) hclear⟩

theorem char_of_mem_lead (h : ∀ s ∈ segments, IsSegment s) :
    ∀ c ∈ lead segments, isVisible c = true ∧ c ≠ '?' ∧ c ≠ '#' := by
  intro c hc
  obtain ⟨s, hs, hc⟩ := List.mem_flatMap.mp hc
  rcases List.mem_append.mp hc with hc | hc
  · exact (h s hs).char c hc
  · rw [List.mem_singleton.mp hc]
    decide

theorem resolveSegments_append (h : ∀ s ∈ segments, IsSegment s) (rest : List (List Char)) :
    resolveSegments false path (segments ++ rest) =
      resolveSegments false (path ++ segments) rest := by
  induction segments generalizing path with
  | nil => rw [List.nil_append, List.append_nil]
  | cons s segments ih =>
    rw [List.forall_mem_cons] at h
    rw [List.cons_append, resolveSegments, if_neg (by simp [h.1.notUp]),
      if_neg (by simp [h.1.notHere]), normalSegment_false, ih h.2]
    simp

theorem map_encode_of_isSegment (h : ∀ s ∈ segments, IsSegment s) :
    segments.map (encode pathSet) = segments := by
  conv => rhs; rw [← List.map_id segments]
  exact List.map_congr_left fun s hs => encode_of_isClear (h s hs).clear

/-- Segments stay before whatever follows them. -/
theorem readPath_lead {scheme : List Char} (hscheme : isWebScheme scheme)
    (h : ∀ s ∈ segments, IsSegment s) (rest : List Char) :
    readPath scheme (lead segments ++ rest) =
      resolveSegments false segments ((rest.splitOnP isSlash).map (encode pathSet)) := by
  rw [readPath_web hscheme, splitOnP_lead h, List.map_append, map_encode_of_isSegment h,
    resolveSegments_append h, List.nil_append]

/-- Reading with segments of the path given. -/
theorem readChars_segments {u : Url} {host : List Char} (hu : IsWeb u) (hhost : u.host = some host)
    (h : ∀ s ∈ segments, IsSegment s) (rest : List Char) :
    readChars (u.scheme ++ ':' :: u.authority ++ (pathText (.segments segments) ++ '/' :: rest)) =
      (domainHost host).map fun h => { u with
        host := some h
        path := .segments (resolveSegments false segments
          (((splitTail (cleanEnd rest)).path.splitOnP isSlash).map (encode pathSet)))
        query := (splitTail (cleanEnd rest)).query.map (encode specialQuerySet)
        fragment := (splitTail (cleanEnd rest)).fragment.map (encode fragmentSet) } := by
  have hchar := char_of_mem_lead h
  rw [pathText_slash, readChars_append hu hhost,
    cleanEnd_append fun c hc => (hchar c hc).1, splitTail_append fun c hc => (hchar c hc).2,
    readPath_lead hu.scheme h]
  congr 1
  funext h
  exact withTail_web (u := { u with host := some h }) hu.scheme _ _

end

end CommandBridge.Url
