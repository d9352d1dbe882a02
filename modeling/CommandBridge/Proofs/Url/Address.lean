import CommandBridge.Proofs.Decimal.Integer
import CommandBridge.Proofs.Lists
import CommandBridge.Url.Address
import Mathlib.Data.Bool.AllAny
import Mathlib.Data.List.Induction
import Mathlib.Data.List.TakeWhile
import Mathlib.Data.Nat.Digits.Defs

/-! Internet addresses are read back from their texts. -/
namespace CommandBridge.Url

/-! ### Groups -/

theorem radixValue_concat (radix : Nat) (s : List Char) (c : Char) :
    radixValue radix (s ++ [c]) = (hexValue? c).bind fun d =>
      if d < radix then (radixValue radix s).map (· * radix + d) else none := by
  unfold radixValue
  rw [List.foldl_append, List.foldl_cons, List.foldl_nil]
  cases hexValue? c with
  | none => rfl
  | some d =>
    simp only [bind, Option.bind_some]
    split
    · cases List.foldl _ (some 0) s <;> rfl
    · rfl

theorem radixValue_lt {radix n : Nat} {s : List Char} (h : radixValue radix s = some n) :
    n < radix ^ s.length := by
  induction s using List.reverseRecOn generalizing n with
  | nil =>
    cases h
    exact Nat.one_pos
  | append_singleton s c ih =>
    rw [radixValue_concat] at h
    obtain ⟨d, -, h⟩ := Option.bind_eq_some_iff.mp h
    split at h
    · rename_i hd
      obtain ⟨m, hm, rfl⟩ := Option.map_eq_some_iff.mp h
      rw [List.length_append, List.length_singleton, Nat.pow_succ]
      calc m * radix + d < m * radix + radix := by omega
        _ = (m + 1) * radix := (Nat.succ_mul m radix).symm
        _ ≤ radix ^ s.length * radix := Nat.mul_le_mul_right radix (ih hm)
    · cases h

theorem hexValue?_digitChar : ∀ d < 16, hexValue? (Nat.digitChar d) = some d := by decide +kernel

theorem radixValue_toDigits (n : Nat) : radixValue 16 (Nat.toDigits 16 n) = some n := by
  induction n using Nat.strongRecOn with
  | ind n ih =>
    by_cases hn : n < 16
    · have hdigit := radixValue_concat 16 [] (Nat.digitChar n)
      rw [hexValue?_digitChar n hn, Option.bind_some, if_pos hn] at hdigit
      rw [Nat.toDigits_of_lt_base hn]
      simpa [radixValue] using hdigit
    · have hmod := Nat.mod_lt n (show 0 < 16 by decide)
      rw [Nat.toDigits_of_base_le (by decide) (by omega), radixValue_concat,
        hexValue?_digitChar _ hmod, Option.bind_some, if_pos hmod, ih (n / 16) (by omega),
        Option.map_some, Nat.div_add_mod']

theorem group?_toDigits {g : Nat} (h : g < 65536) :
    groups?.group? (Nat.toDigits 16 g) = some g := by
  have hlength := Nat.toDigits_length 16 g 4 (by decide) h
  unfold groups?.group?
  rw [if_neg, radixValue_toDigits]
  simp only [Bool.or_eq_true, decide_eq_true_eq, List.isEmpty_iff, Nat.toDigits_ne_nil, false_or]
  omega

theorem mem_hexDigits {n : Nat} {c : Char} (h : c ∈ Nat.toDigits 16 n) :
    c ∈ "0123456789abcdef".toList := by
  have hdigit : ∀ d < 16, Nat.digitChar d ∈ "0123456789abcdef".toList := by decide +kernel
  induction n using Nat.strongRecOn with
  | ind n ih =>
    by_cases hn : n < 16
    · rw [Nat.toDigits_of_lt_base hn, List.mem_singleton] at h
      exact h ▸ hdigit n hn
    · rw [Nat.toDigits_of_base_le (by decide) (by omega), List.mem_append,
        List.mem_singleton] at h
      rcases h with h | rfl
      · exact ih (n / 16) (by omega) h
      · exact hdigit _ (by omega)

theorem separates_of_mem_hexDigits {n : Nat} {c : Char} (h : c ∈ Nat.toDigits 16 n) :
    c ≠ ':' ∧ c ≠ '.' := by
  have hhex : ∀ c ∈ "0123456789abcdef".toList, c ≠ ':' ∧ c ≠ '.' :=
    List.all_iff_forall_prop.mp (by decide)
  exact hhex c (mem_hexDigits h)

/-- Groups with colons between them. -/
def joinGroups (gs : List Nat) : List Char := [':'].intercalate (gs.map (Nat.toDigits 16))

theorem joinGroups_cons_cons (g g' : Nat) (gs : List Nat) :
    joinGroups (g :: g' :: gs) = Nat.toDigits 16 g ++ ':' :: joinGroups (g' :: gs) := by
  rw [joinGroups, List.map_cons, List.map_cons, List.intercalate_cons_cons, List.append_assoc]
  rfl

theorem joinGroups_singleton (g : Nat) : joinGroups [g] = Nat.toDigits 16 g := by
  simp [joinGroups]

theorem ipv6Text_eq (gs : List Nat) : ipv6Text gs = match longestZeros gs with
    | none => joinGroups gs
    | some (i, n) => joinGroups (gs.take i) ++ ':' :: ':' :: joinGroups (gs.drop (i + n)) := rfl

theorem groups?_joinGroups {gs : List Nat} (hne : gs ≠ []) (h : ∀ g ∈ gs, g < 65536) {fuel : Nat}
    (hfuel : gs.length ≤ fuel) : groups? fuel (joinGroups gs) = some gs := by
  induction gs generalizing fuel with
  | nil => exact absurd rfl hne
  | cons g gs ih =>
    obtain ⟨fuel, rfl⟩ : ∃ n, fuel = n + 1 := ⟨fuel - 1, by
      rw [List.length_cons] at hfuel
      omega⟩
    rw [List.forall_mem_cons] at h
    have hdigits : ∀ c ∈ Nat.toDigits 16 g, (c != ':' && c != '.') = true := by
      intro c hc
      obtain ⟨hcolon, hdot⟩ := separates_of_mem_hexDigits hc
      rw [bne_iff_ne.mpr hcolon, bne_iff_ne.mpr hdot]
      rfl
    cases gs with
    | nil =>
      rw [joinGroups_singleton, groups?, List.takeWhile_eq_self_iff.mpr hdigits,
        List.dropWhile_eq_nil_iff.mpr hdigits]
      simp [group?_toDigits h.1]
    | cons g' gs =>
      rw [joinGroups_cons_cons, groups?, List.takeWhile_append_of_pos hdigits,
        List.dropWhile_append_of_pos hdigits]
      rw [List.length_cons] at hfuel
      simp [group?_toDigits h.1, ih (List.cons_ne_nil _ _) h.2 (show _ ≤ fuel by omega)]

/-! ### The double colon -/

theorem splitDouble_append {a : List Char} (h : ':' ∉ a) (s : List Char) :
    splitDouble (a ++ s) = (splitDouble s).map fun p => (a ++ p.1, p.2) := by
  induction a with
  | nil => exact Option.map_id_apply.symm
  | cons c a ih =>
    rw [List.mem_cons, not_or] at h
    rw [List.cons_append, splitDouble, ih h.2, Option.map_map]
    · rfl
    · rintro t hc -
      exact h.1 hc.symm

theorem splitDouble_colon {s : List Char} (h : s.head? ≠ some ':') :
    splitDouble (':' :: s) = (splitDouble s).map fun p => (':' :: p.1, p.2) := by
  rw [splitDouble]
  rintro t - rfl
  exact h rfl

/-- Groups with single colons between them have no double one. -/
theorem splitDouble_joinGroups (gs : List Nat) (s : List Char) :
    splitDouble (joinGroups gs ++ s) =
      (splitDouble s).map fun p => (joinGroups gs ++ p.1, p.2) := by
  have hcolon (g : Nat) : ':' ∉ Nat.toDigits 16 g := fun hmem =>
    (separates_of_mem_hexDigits hmem).1 rfl
  induction gs with
  | nil => exact Option.map_id_apply.symm
  | cons g gs ih =>
    cases gs with
    | nil =>
      rw [joinGroups_singleton]
      exact splitDouble_append (hcolon g) s
    | cons g' gs =>
      have hhead : (joinGroups (g' :: gs) ++ s).head? ≠ some ':' := by
        obtain ⟨c, rest, hdigits⟩ :=
          List.exists_cons_of_ne_nil (Nat.toDigits_ne_nil (b := 16) (n := g'))
        have hc : c ≠ ':' := by
          rintro rfl
          exact hcolon g' (hdigits ▸ List.mem_cons_self)
        cases gs with
        | nil =>
          rw [joinGroups_singleton, hdigits]
          simpa using hc
        | cons g'' gs =>
          rw [joinGroups_cons_cons, hdigits]
          simpa using hc
      rw [joinGroups_cons_cons, List.append_assoc, List.cons_append,
        splitDouble_append (hcolon g), splitDouble_colon hhead, ih, Option.map_map, Option.map_map]
      congr 1
      funext p
      simp

/-! ### The longest run of zeros -/

theorem mem_of_foldl_longest (runs : List (Nat × Nat)) (b : Nat × Nat) :
    runs.foldl (fun b r => if b.2 < r.2 then r else b) b ∈ b :: runs := by
  induction runs generalizing b with
  | nil => exact List.mem_cons_self
  | cons r runs ih =>
    rw [List.foldl_cons]
    rcases List.mem_cons.mp (ih (if b.2 < r.2 then r else b)) with h | h
    · rw [h]
      split
      · exact List.mem_cons_of_mem b List.mem_cons_self
      · exact List.mem_cons_self
    · exact List.mem_cons_of_mem b (List.mem_cons_of_mem r h)

theorem of_longestZeros {gs : List Nat} {i n : Nat} (h : longestZeros gs = some (i, n)) :
    2 ≤ n ∧ ((gs.drop i).takeWhile (· = 0)).length = n := by
  unfold longestZeros at h
  extract_lets runs best at h
  have hbest : best ∈ (0, 0) :: runs := mem_of_foldl_longest runs (0, 0)
  split at h
  · rename_i hle
    have heq : best = (i, n) := Option.some.inj h
    rw [heq] at hbest hle
    refine ⟨hle, ?_⟩
    rcases List.mem_cons.mp hbest with hzero | hrun
    · have hn : n = 0 := (Prod.mk.inj hzero).2
      have hle : 2 ≤ n := hle
      omega
    · obtain ⟨j, -, hj⟩ := List.mem_map.mp hrun
      obtain ⟨rfl, hn⟩ := Prod.mk.inj hj
      exact hn
  · cases h

theorem drop_eq_zeros_append {gs : List Nat} {i n : Nat}
    (h : ((gs.drop i).takeWhile (· = 0)).length = n) :
    gs.drop i = List.replicate n 0 ++ gs.drop (i + n) := by
  have hzeros : (gs.drop i).takeWhile (· = 0) = List.replicate n 0 := by
    rw [List.eq_replicate_iff]
    exact ⟨h, fun g hg => by simpa using List.mem_takeWhile_imp hg⟩
  have hsplit := List.takeWhile_append_dropWhile (p := (· = 0)) (l := gs.drop i)
  have hdrop := congrArg (List.drop n) hsplit
  rw [hzeros, List.drop_left' (by simp), List.drop_drop] at hdrop
  rw [hzeros, hdrop] at hsplit
  exact hsplit.symm

/-! ### Whole addresses -/

theorem not_mem_joinGroups (gs : List Nat) : '.' ∉ joinGroups gs := by
  intro h
  rcases mem_intercalate h with h | ⟨t, ht, h⟩
  · exact absurd (List.mem_singleton.mp h) (by decide)
  · obtain ⟨n, -, rfl⟩ := List.mem_map.mp ht
    exact (separates_of_mem_hexDigits h).2 rfl

theorem joinGroups_ne_nil {gs : List Nat} (hne : gs ≠ []) : joinGroups gs ≠ [] := by
  match gs, hne with
  | [g], _ =>
    rw [joinGroups_singleton]
    exact Nat.toDigits_ne_nil
  | g :: g' :: gs, _ =>
    rw [joinGroups_cons_cons]
    simp

theorem mem_ipv6Text {gs : List Nat} {c : Char} (h : c ∈ ipv6Text gs) :
    c ∈ "0123456789abcdef:".toList := by
  have hcolon : ':' ∈ "0123456789abcdef:".toList := by decide
  have hgroups (gs : List Nat) (hc : c ∈ joinGroups gs) : c ∈ "0123456789abcdef:".toList := by
    have hhex : "0123456789abcdef".toList ⊆ "0123456789abcdef:".toList := by decide
    rcases mem_intercalate hc with hc | ⟨t, ht, hc⟩
    · exact List.mem_singleton.mp hc ▸ hcolon
    · obtain ⟨n, -, rfl⟩ := List.mem_map.mp ht
      exact hhex (mem_hexDigits hc)
  rw [ipv6Text_eq] at h
  cases hzeros : longestZeros gs with
  | none =>
    rw [hzeros] at h
    exact hgroups gs h
  | some run =>
    rw [hzeros] at h
    simp only [List.mem_append, List.mem_cons] at h
    rcases h with h | rfl | rfl | h
    · exact hgroups _ h
    · exact hcolon
    · exact hcolon
    · exact hgroups _ h

/-- What is before or after a double colon may be empty. -/
def side? (s : List Char) : Option (List Nat) := if s.isEmpty then some [] else groups? 9 s

theorem side?_joinGroups {gs : List Nat} (h : ∀ g ∈ gs, g < 65536) (hlength : gs.length ≤ 9) :
    side? (joinGroups gs) = some gs := by
  cases gs with
  | nil => rfl
  | cons g gs =>
    have hne : g :: gs ≠ [] := List.cons_ne_nil g gs
    rw [side?, if_neg (by simpa using joinGroups_ne_nil hne), groups?_joinGroups hne h hlength]

theorem ipv6?_eq (s : List Char) : ipv6? s =
    match splitDouble s with
    | none => (groups? 9 s).bind fun gs => if gs.length = 8 then some gs else none
    | some (before, after) =>
      if before.contains '.' then none
      else (side? before).bind fun a => (side? after).bind fun b =>
        if a.length + b.length < 8 then
          some (a ++ List.replicate (8 - a.length - b.length) 0 ++ b)
        else none := rfl

theorem ipv6?_ipv6Text {gs : List Nat} (hlength : gs.length = 8) (h : ∀ g ∈ gs, g < 65536) :
    ipv6? (ipv6Text gs) = some gs := by
  rw [ipv6Text_eq, ipv6?_eq]
  cases hzeros : longestZeros gs with
  | none =>
    have hne : gs ≠ [] := by
      rintro rfl
      cases hlength
    have hnone := splitDouble_joinGroups gs []
    rw [List.append_nil] at hnone
    dsimp only
    rw [hnone, groups?_joinGroups hne h (by omega)]
    exact if_pos hlength
  | some run =>
    obtain ⟨i, n⟩ := run
    obtain ⟨htwo, hrun⟩ := of_longestZeros hzeros
    have hdrop := drop_eq_zeros_append hrun
    have hlengths := congrArg List.length hdrop
    simp only [List.length_append, List.length_drop, List.length_replicate] at hlengths
    have hsplit : splitDouble (joinGroups (gs.take i) ++ ':' :: ':' :: joinGroups (gs.drop (i + n)))
        = some (joinGroups (gs.take i), joinGroups (gs.drop (i + n))) := by
      rw [splitDouble_joinGroups]
      simp [splitDouble]
    dsimp only
    rw [hsplit]
    dsimp only
    rw [if_neg (by simpa using not_mem_joinGroups _),
      side?_joinGroups (fun g hg => h g (List.mem_of_mem_take hg)) (by simp; omega),
      side?_joinGroups (fun g hg => h g (List.mem_of_mem_drop hg)) (by simp; omega)]
    have hbefore : (gs.take i).length = i := by
      rw [List.length_take]
      omega
    have hafter : (gs.drop (i + n)).length = 8 - i - n := by
      rw [List.length_drop]
      omega
    have hzeros : 8 - i - (8 - i - n) = n := by omega
    rw [Option.bind_some, Option.bind_some, hbefore, hafter, if_pos (by omega), hzeros,
      List.append_assoc, ← hdrop, List.take_append_drop]

/-! ### What is read -/

theorem lt_of_group? {s : List Char} {g : Nat} (h : groups?.group? s = some g) : g < 65536 := by
  unfold groups?.group? at h
  split at h
  · cases h
  · rename_i hlength
    have hle : s.length ≤ 4 := by
      simp only [Bool.or_eq_true, decide_eq_true_eq, not_or, Nat.not_lt] at hlength
      exact hlength.2
    calc g < 16 ^ s.length := radixValue_lt h
      _ ≤ 16 ^ 4 := Nat.pow_le_pow_right (by decide) hle

theorem lt_of_octet? {s : List Char} {n : Nat} (h : octet? s = some n) : n < 256 := by
  unfold octet? at h
  split at h
  · cases h
    decide
  · cases h
  · obtain ⟨m, -, h⟩ := Option.bind_eq_some_iff.mp h
    split at h
    · cases h
      assumption
    · cases h

theorem lt_of_dottedGroups? {s : List Char} {gs : List Nat} (h : dottedGroups? s = some gs) :
    ∀ g ∈ gs, g < 65536 := by
  unfold dottedGroups? at h
  obtain ⟨ns, hns, h⟩ := Option.bind_eq_some_iff.mp h
  have hoctet : ∀ n ∈ ns, n < 256 := fun n hn => by
    obtain ⟨t, -, ht⟩ := exists_of_mapM hns n hn
    exact lt_of_octet? ht
  split at h
  · cases h
    simp only [List.forall_mem_cons] at hoctet ⊢
    refine ⟨?_, ?_, List.forall_mem_nil _⟩ <;> omega
  · cases h

theorem lt_of_groups? {fuel : Nat} {s : List Char} {gs : List Nat}
    (h : groups? fuel s = some gs) : ∀ g ∈ gs, g < 65536 := by
  induction fuel generalizing s gs with
  | zero => cases h
  | succ fuel ih =>
    unfold groups? at h
    dsimp only at h
    split at h
    · obtain ⟨g, hg, rfl⟩ := Option.map_eq_some_iff.mp h
      simpa using lt_of_group? hg
    · split at h
      · cases h
      · exact lt_of_dottedGroups? h
    · obtain ⟨g, hg, h⟩ := Option.bind_eq_some_iff.mp h
      obtain ⟨rest, hrest, h⟩ := Option.bind_eq_some_iff.mp h
      cases h
      exact List.forall_mem_cons.mpr ⟨lt_of_group? hg, ih hrest⟩

theorem lt_of_side? {s : List Char} {gs : List Nat} (h : side? s = some gs) :
    ∀ g ∈ gs, g < 65536 := by
  unfold side? at h
  split at h
  · cases h
    exact List.forall_mem_nil _
  · exact lt_of_groups? h

/-- An address has eight groups of 16 bits. -/
theorem of_ipv6? {s : List Char} {gs : List Nat} (h : ipv6? s = some gs) :
    gs.length = 8 ∧ ∀ g ∈ gs, g < 65536 := by
  rw [ipv6?_eq] at h
  split at h
  · obtain ⟨all, hall, h⟩ := Option.bind_eq_some_iff.mp h
    split at h
    · cases h
      exact ⟨by assumption, lt_of_groups? hall⟩
    · cases h
  · split at h
    · cases h
    · obtain ⟨a, ha, h⟩ := Option.bind_eq_some_iff.mp h
      obtain ⟨b, hb, h⟩ := Option.bind_eq_some_iff.mp h
      split at h
      · cases h
        constructor
        · simp only [List.length_append, List.length_replicate]
          omega
        · intro g hg
          simp only [List.mem_append, List.mem_replicate] at hg
          rcases hg with (hg | hg) | hg
          · exact lt_of_side? ha g hg
          · omega
          · exact lt_of_side? hb g hg
      · cases h

/-! ### Dotted addresses -/

/-- The four parts of a dotted address. -/
def octets (n : Nat) : List Nat :=
  [n / Nat.pow 256 3 % 256, n / Nat.pow 256 2 % 256, n / 256 % 256, n % 256]

theorem lt_of_mem_octets {n m : Nat} (h : m ∈ octets n) : m < 256 := by
  simp only [octets, List.mem_cons, List.not_mem_nil, or_false] at h
  omega

theorem ipv4Number?_digits : ∀ n < 256, ipv4Number? (Decimal.digits n) = some n := by
  decide +kernel

theorem splitOn_ipv4Text (n : Nat) : (ipv4Text n).splitOn '.' = (octets n).map Decimal.digits := by
  refine List.splitOn_intercalate '.' ?_ (List.cons_ne_nil _ _)
  intro t ht hmem
  obtain ⟨m, -, rfl⟩ := List.mem_map.mp ht
  exact absurd (Decimal.isDigit_of_mem_digits hmem) (by decide)

theorem foldr_octets (n p : Nat) :
    (octets n).dropLast.foldr (fun a rest => a * p + rest / 256) 0 =
      n / Nat.pow 256 3 % 256 * p +
        (n / Nat.pow 256 2 % 256 * p + (n / 256 % 256 * p + 0 / 256) / 256) / 256 := rfl

theorem foldr_octets_add (n : Nat) :
    (octets n).dropLast.foldr (fun a rest => a * Nat.pow 256 3 + rest / 256) 0 + n % 256 =
      n % Nat.pow 256 4 := by
  obtain ⟨h2, h3, h4⟩ : Nat.pow 256 2 = 65536 ∧ Nat.pow 256 3 = 16777216 ∧
    Nat.pow 256 4 = 4294967296 := by decide
  rw [foldr_octets, h2, h3, h4]
  omega

theorem ipv4?_ipv4Text (n : Nat) : ipv4? (ipv4Text n) = some (n % Nat.pow 256 4) := by
  have hlast : ((octets n).map Decimal.digits).getLast? ≠ some [] := by
    simp [octets, Decimal.digits_ne_nil]
  have hnumbers : ((octets n).map Decimal.digits).mapM ipv4Number? = some (octets n) := by
    rw [List.mapM_map]
    have hid := mapM_eq_some (f := ipv4Number? ∘ Decimal.digits) (g := id) (l := octets n)
      fun m hm => ipv4Number?_digits m (lt_of_mem_octets hm)
    rwa [List.map_id] at hid
  have hfits : ((octets n).dropLast.any (255 < ·) ||
      decide (Nat.pow 256 (4 - (octets n).dropLast.length) ≤ n % 256)) = false := by
    have hlt : n % 256 < 256 := Nat.mod_lt n (by decide)
    rw [Bool.or_eq_false_iff, List.any_eq_false]
    refine ⟨fun m hm => ?_, by simpa [octets] using hlt⟩
    have hm := lt_of_mem_octets (List.dropLast_subset _ hm)
    rw [decide_eq_true_eq]
    omega
  unfold ipv4?
  dsimp only
  rw [splitOn_ipv4Text, if_neg hlast, hnumbers, if_neg (by simp [octets])]
  have hgetLast : (octets n).getLast? = some (n % 256) := rfl
  simp only [bind, Option.bind_some, hgetLast]
  rw [hfits, if_neg Bool.false_ne_true]
  exact congrArg some (foldr_octets_add n)

theorem ipv4Text_mod (n : Nat) : ipv4Text (n % Nat.pow 256 4) = ipv4Text n := by
  have hoctets : octets (n % Nat.pow 256 4) = octets n := by
    simp only [octets, List.cons.injEq]
    simp
    omega
  exact congrArg (fun l => ['.'].intercalate (List.map Decimal.digits l)) hoctets

end CommandBridge.Url
