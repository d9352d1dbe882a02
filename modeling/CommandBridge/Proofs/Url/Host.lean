import CommandBridge.Proofs.Url.Address
import CommandBridge.Proofs.Url.Percent
import CommandBridge.Url.Parser

/-! What the hosts of URLs that have been read are made of. -/
namespace CommandBridge.Url

open Text

/-- An address in brackets, or a domain. One that ends in a number is an address too. -/
inductive IsHost : List Char → Prop where
  | address {gs : List Nat} (hlength : gs.length = 8) (h : ∀ g ∈ gs, g < 65536) :
      IsHost ('[' :: ipv6Text gs ++ [']'])
  | domain {s : List Char} (hne : s ≠ []) (h : ∀ c ∈ s, isDomainChar c = true)
      (hnumber : endsInNumber s = true → ∃ n, s = ipv4Text n) : IsHost s

theorem isDomainChar_of_isDigit {c : Char} (h : c.isDigit = true) : isDomainChar c = true := by
  have hdigits : ∀ c ∈ "0123456789".toList, isDomainChar c = true :=
    List.all_eq_true.mp (by decide)
  exact hdigits c (Decimal.mem_of_isDigit h)

theorem isHost_ipv4Text (n : Nat) : IsHost (ipv4Text n) := by
  refine .domain ?_ ?_ fun _ => ⟨n, rfl⟩
  · unfold ipv4Text
    simp [List.intercalate_cons_cons, Decimal.digits_ne_nil]
  · intro c hc
    rcases mem_intercalate hc with hc | ⟨t, ht, hc⟩
    · rw [List.mem_singleton.mp hc]
      decide
    · obtain ⟨m, -, rfl⟩ := List.mem_map.mp ht
      exact isDomainChar_of_isDigit (Decimal.isDigit_of_mem_digits hc)

/-! ### Domains in ASCII form -/

theorem isDomainChar_digit : ∀ n < 36, isDomainChar (Punycode.digit n) = true := by decide +kernel

theorem isDomainChar_deltaDigits {bias k q : Nat} {c : Char}
    (h : c ∈ Punycode.deltaDigits bias k q) : isDomainChar c = true := by
  have hthreshold (k : Nat) : Punycode.threshold bias k ≤ 26 := by
    unfold Punycode.threshold
    omega
  fun_induction Punycode.deltaDigits bias k q with
  | case1 k q t hlt =>
    rw [List.mem_singleton] at h
    have ht : t ≤ 26 := hthreshold k
    exact h ▸ isDomainChar_digit q (by omega)
  | case2 k q t hlt ih =>
    have ht : t ≤ 26 := hthreshold k
    rcases List.mem_cons.mp h with rfl | h
    · have hmod := Nat.mod_lt (q - t) (show 0 < 36 - t by omega)
      exact isDomainChar_digit _ (by omega)
    · exact ih h

theorem isDomainChar_pass {codePoint : Nat} {e : Punycode.Encoding} {text : List Char}
    (h : ∀ c ∈ e.out, isDomainChar c = true) :
    ∀ c ∈ (text.foldl (Punycode.Encoding.pass codePoint) e).out, isDomainChar c = true := by
  induction text generalizing e with
  | nil => exact h
  | cons d text ih =>
    apply ih
    intro c hc
    unfold Punycode.Encoding.pass at hc
    split at hc
    · exact h c hc
    · split at hc
      · rcases List.mem_append.mp hc with hc | hc
        · exact h c hc
        · exact isDomainChar_deltaDigits hc
      · exact h c hc

theorem isDomainChar_punycode {text : List Char} (h : ∀ c ∈ text, isDomainChar c = true) :
    ∀ c ∈ Punycode.encode text, isDomainChar c = true := by
  unfold Punycode.encode
  extract_lets basic points start step
  have hstart : ∀ c ∈ start.out, isDomainChar c = true := by
    have hbasic : ∀ c ∈ basic, isDomainChar c = true := fun c hc => h c (List.mem_filter.mp hc).1
    intro c hc
    have hc : c ∈ if basic.isEmpty then [] else basic ++ ['-'] := hc
    split at hc
    · exact absurd hc List.not_mem_nil
    · rcases List.mem_append.mp hc with hc | hc
      · exact hbasic c hc
      · rw [List.mem_singleton.mp hc]
        decide
  have hfold (points : List Nat) (acc : Punycode.Encoding × Nat)
      (hacc : ∀ c ∈ acc.1.out, isDomainChar c = true) :
      ∀ c ∈ (points.foldl step acc).1.out, isDomainChar c = true := by
    induction points generalizing acc with
    | nil => exact hacc
    | cons p points ih =>
      apply ih
      exact isDomainChar_pass hacc
  exact hfold points (start, 128) hstart

theorem isDomainChar_asciiDomain? {s d : List Char} (h : asciiDomain? s = some d) :
    ∀ c ∈ d, isDomainChar c = true := by
  unfold asciiDomain? at h
  obtain ⟨mapped, -, h⟩ := Option.bind_eq_some_iff.mp h
  extract_lets domain labels at h
  obtain ⟨texts, -, h⟩ := Option.bind_eq_some_iff.mp h
  split at h
  · rename_i hsound
    have hdomain : ∀ c ∈ domain, isDomainChar c = true := by
      simp only [Bool.and_eq_true, List.all_eq_true] at hsound
      exact hsound.1.1
    cases h
    intro c hc
    rcases mem_intercalate hc with hc | ⟨t, ht, hc⟩
    · rw [List.mem_singleton.mp hc]
      decide
    · obtain ⟨label, hlabel, rfl⟩ := List.mem_map.mp ht
      have hlabel : label ∈ domain.splitOnP (· == '.') := hlabel
      have hchars : ∀ c ∈ label, isDomainChar c = true := fun c hc =>
        hdomain c (mem_of_mem_splitOnP hlabel hc).1
      unfold asciiLabel at hc
      split at hc
      · exact hchars c hc
      · rcases List.mem_append.mp hc with hc | hc
        · have hxn : ∀ c ∈ "xn--".toList, isDomainChar c = true :=
            List.all_eq_true.mp (by decide)
          exact hxn c hc
        · exact isDomainChar_punycode hchars c hc
  · cases h

theorem isHost_bracketed {s host : List Char} (h : bracketed? s = .ok host) : IsHost host := by
  unfold bracketed? at h
  split at h
  · split at h
    · rename_i gs hgs
      cases h
      obtain ⟨hlength, hlt⟩ := of_ipv6? hgs
      exact .address hlength hlt
    · cases h
  · cases h

/-- Whatever is read as a host is one. -/
theorem isHost_of_domainHost {s host : List Char} (h : domainHost s = .ok host) : IsHost host := by
  unfold domainHost at h
  split at h
  · exact isHost_bracketed h
  · split at h
    · cases h
    · rename_i domain hdomain
      obtain ⟨decoded, -, hascii⟩ := Option.bind_eq_some_iff.mp hdomain
      split at h
      · cases h
      · rename_i hne
        split at h
        · split at h
          · cases h
            exact isHost_ipv4Text _
          · cases h
        · rename_i hnumber
          cases h
          exact .domain (by simpa using hne) (isDomainChar_asciiDomain? hascii)
            fun h => absurd h hnumber

/-! ### Plain hosts -/

/-- Whether a host is in lower case and ASCII, without a label in Punycode. -/
def isPlainHost (s : List Char) : Bool :=
  isAscii s && s.all (!·.isUpper) && (s.splitOn '.').all (!"xn--".toList.isPrefixOf ·)

section
variable {s : List Char} {c : Char}

theorem isPlainHost_iff : isPlainHost s = true ↔
    (∀ c ∈ s, c.toNat < 128) ∧ (∀ c ∈ s, c.isUpper = false) ∧
      ∀ t ∈ s.splitOn '.', "xn--".toList.isPrefixOf t = false := by
  simp [isPlainHost, isAscii, List.all_eq_true, and_assoc]

theorem domainChar?_of_lt (h : c.toNat < 128) (hlower : c.isUpper = false) :
    domainChar? c = some [c] := by
  have htoLower : c.toLower = c := dif_neg (of_decide_eq_false hlower)
  unfold domainChar?
  dsimp only
  rw [if_pos h, htoLower]

theorem isMark_of_lt (h : c.toNat < 128) : isMark c = false := by
  have hle : decide (0x300 ≤ c.toNat) = false := decide_eq_false (by omega)
  rw [isMark, isNonspacing, hle]
  rfl

theorem joinersFit_of_lt (before : List Char) (h : ∀ c ∈ s, c.toNat < 128) :
    joinersFit before s = true := by
  induction s generalizing before with
  | nil => rfl
  | cons c s ih =>
    rw [List.forall_mem_cons] at h
    have hnon : c ≠ '\u200c' := by
      rintro rfl
      exact absurd h.1 (by decide)
    have hjoin : c ≠ '\u200d' := by
      rintro rfl
      exact absurd h.1 (by decide)
    simp [joinersFit, hnon, hjoin, ih (c :: before) h.2]

theorem isSoundLabel_of_lt (h : ∀ c ∈ s, c.toNat < 128) : isSoundLabel s = true := by
  have hmark : s.head?.any isMark = false := by
    cases s with
    | nil => rfl
    | cons c s => exact isMark_of_lt (h c List.mem_cons_self)
  have hascii : isAscii s = true := by simpa [isAscii] using h
  rw [isSoundLabel, hmark, joinersFit_of_lt [] h, hascii]
  rfl

theorem isRightToLeft_of_lt (h : ∀ c ∈ s, c.toNat < 128) : isRightToLeft s = false := by
  rw [isRightToLeft, List.any_eq_false]
  intro c hc
  unfold direction
  dsimp only
  rw [if_pos (h c hc)]
  split
  · decide
  · split <;> decide

theorem asciiDomain?_of_isPlainHost (h : isPlainHost s = true)
    (hdomain : ∀ c ∈ s, isDomainChar c = true) : asciiDomain? s = some s := by
  obtain ⟨hascii, hlower, hxn⟩ := isPlainHost_iff.mp h
  have hmapped : s.mapM domainChar? = some (s.map fun c => [c]) :=
    mapM_eq_some fun c hc => domainChar?_of_lt (hascii c hc) (hlower c hc)
  have hnormal : normalForm s = s := by
    refine if_pos (List.all_eq_true.mpr fun c hc => decide_eq_true ?_)
    have hlt := hascii c hc
    omega
  have hlabel : ∀ t ∈ s.splitOn '.', ∀ c ∈ t, c.toNat < 128 := fun t ht c hc =>
    hascii c (mem_of_mem_splitOnP ht hc).1
  have htexts : (s.splitOn '.').mapM labelText? = some (s.splitOn '.') := by
    have hid := mapM_eq_some (f := labelText?) (g := id) (l := s.splitOn '.') fun t ht =>
      if_neg (Bool.eq_false_iff.mp (hxn t ht))
    rwa [List.map_id] at hid
  have hlabels : (s.splitOn '.').map asciiLabel = s.splitOn '.' := by
    have hid : ∀ t ∈ s.splitOn '.', asciiLabel t = id t := fun t ht =>
      if_pos (by simpa [isAscii] using hlabel t ht)
    rw [List.map_congr_left hid, List.map_id]
  have hsound : (s.splitOn '.').all isSoundLabel = true :=
    List.all_eq_true.mpr fun t ht => isSoundLabel_of_lt (hlabel t ht)
  have hleft : (s.splitOn '.').any isRightToLeft = false :=
    List.any_eq_false.mpr fun t ht => Bool.eq_false_iff.mp (isRightToLeft_of_lt (hlabel t ht))
  unfold asciiDomain?
  simp only [hmapped, bind, Option.bind_some]
  rw [← List.flatMap_def, List.flatMap_singleton', hnormal, htexts, Option.bind_some,
    List.all_eq_true.mpr hdomain, hsound, hleft, hlabels, List.intercalate_splitOn]
  rfl

theorem decode?_of_isPlainHost (h : isPlainHost s = true)
    (hdomain : ∀ c ∈ s, isDomainChar c = true) : decode? s = some s := by
  have hclear : encode [] s = s := by
    refine encode_of_isClear fun c hc => ?_
    have hascii := (isPlainHost_iff.mp h).1 c hc
    have hchar := hdomain c hc
    simp only [isDomainChar, Bool.or_eq_true, Bool.and_eq_true, decide_eq_true_eq,
      bne_iff_ne] at hchar
    simp [isClear]
    omega
  have hpercent : '%' ∉ s := fun hmem => absurd (hdomain '%' hmem) (by decide)
  have hdecoded := decode?_encode [] hpercent
  rwa [hclear] at hdecoded

end

/-- A plain host is read back as it is. -/
theorem IsHost.domainHost_eq_ok {s : List Char} (h : IsHost s) (hplain : isPlainHost s = true) :
    domainHost s = .ok s := by
  unfold domainHost
  cases h with
  | @address gs hlength hgs =>
    have hhead : ('[' :: ipv6Text gs ++ [']']).head? = some '[' := rfl
    have hinside : (('[' :: ipv6Text gs ++ [']']).drop 1).dropLast = ipv6Text gs :=
      List.dropLast_concat
    rw [if_pos hhead, bracketed?, if_pos List.getLast?_concat, hinside, ipv6?_ipv6Text hlength hgs]
  | domain hne hdomain hnumber =>
    have hhead : s.head? ≠ some '[' := by
      intro hhead
      exact absurd (hdomain '[' (List.mem_of_head? hhead)) (by decide)
    have hempty : ¬ s.isEmpty = true := by simpa using hne
    rw [if_neg hhead, decode?_of_isPlainHost hplain hdomain, Option.bind_some,
      asciiDomain?_of_isPlainHost hplain hdomain]
    dsimp only
    rw [if_neg hempty]
    split
    · rename_i hends
      obtain ⟨n, rfl⟩ := hnumber hends
      rw [ipv4?_ipv4Text]
      exact congrArg Except.ok (ipv4Text_mod n)
    · rfl

end CommandBridge.Url
