import CommandBridge.Proofs.Command.Redaction
import Mathlib.Data.List.Sort

/-! Which characters of a message redaction hides. Secrets are taken out one after the other, each
from left to right, so an occurrence of a secret is hidden as a whole unless it overlaps one that is
taken out before it. -/
namespace CommandBridge.Command

/-- Part of a text, from the place of its first character to the place behind its last one. -/
structure Stretch where
  start : Nat
  stop : Nat
  deriving DecidableEq

/-- Some character belongs to both. -/
def Stretch.Meets (a b : Stretch) : Prop := a.start < b.stop ∧ b.start < a.stop

/-- `s` can be read at a stretch of `m`, whose first character has the place `i`. -/
structure Occurs (s : List Char) (i : Nat) (m : List Char) (a : Stretch) : Prop where
  behind : i ≤ a.start
  length : a.stop = a.start + s.length
  text : s <+: m.drop (a.start - i)

/-- The text that is left of one whose first character has the place `i`, when the stretches of a
list, one behind the other, are each replaced by the mark. -/
inductive Masked : Nat → List Char → List Stretch → List Char → Prop where
  | done (i : Nat) (s : List Char) : Masked i s [] s
  | hide {i : Nat} {hidden rest result : List Char} {K : List Stretch} (before : List Char)
      (hne : hidden ≠ []) (h : Masked (i + before.length + hidden.length) rest K result) :
      Masked i (before ++ (hidden ++ rest))
        (⟨i + before.length, i + before.length + hidden.length⟩ :: K)
        (before ++ (redactionMark.toList ++ result))

/-- One secret taken out from left to right. -/
inductive Replaced (p : List Char) : List Char → List Char → Prop where
  | nil : Replaced p [] []
  | hit {s r : List Char} (h : Replaced p s r) : Replaced p (p ++ s) (redactionMark.toList ++ r)
  | skip {c : Char} {s r : List Char} (hno : ¬ p <+: c :: s) (h : Replaced p s r) :
      Replaced p (c :: s) (c :: r)

section
variable {p s t m r : List Char} {i : Nat} {a b : Stretch} {K : List Stretch}

/-! ### Taking out one secret -/

theorem replaceFrom_skip (mark u v : List Char) :
    replaceFrom p mark u.length (u ++ v) = replaceFrom p mark 0 v := by
  induction u with
  | nil => rfl
  | cons c u ih => exact ih

theorem replaceFrom_hit (hp : p ≠ []) (mark s : List Char) :
    replaceFrom p mark 0 (p ++ s) = mark ++ replaceFrom p mark 0 s := by
  cases p with
  | nil => exact absurd rfl hp
  | cons c p =>
    have hprefix : (c :: p).isPrefixOf (c :: (p ++ s)) = true :=
      List.isPrefixOf_iff_prefix.mpr (List.prefix_append (c :: p) s)
    rw [List.cons_append, replaceFrom, if_pos hprefix]
    congr 1
    exact replaceFrom_skip mark p s

theorem replaceFrom_miss {c : Char} (h : ¬ p <+: c :: s) (mark : List Char) :
    replaceFrom p mark 0 (c :: s) = c :: replaceFrom p mark 0 s := by
  rw [replaceFrom, if_neg fun hp => h (List.isPrefixOf_iff_prefix.mp hp)]

theorem replaced_iff (hp : p ≠ []) :
    Replaced p s r ↔ r = replaceFrom p redactionMark.toList 0 s := by
  constructor
  · intro h
    induction h with
    | nil => rfl
    | hit _ ih => rw [replaceFrom_hit hp, ih]
    | skip hno _ ih => rw [replaceFrom_miss hno, ih]
  · rintro rfl
    induction hn : s.length using Nat.strong_induction_on generalizing s with
    | _ n ih =>
      cases s with
      | nil => exact .nil
      | cons c s =>
        by_cases h : p <+: c :: s
        · obtain ⟨t, ht⟩ := h
          have hshort : t.length < n := by
            have hlength := congrArg List.length ht
            have hpos := List.length_pos_iff.mpr hp
            rw [List.length_append] at hlength
            omega
          rw [← ht, replaceFrom_hit hp]
          exact .hit (ih _ hshort rfl)
        · rw [replaceFrom_miss h]
          have hshort : s.length < n := by
            rw [← hn, List.length_cons]
            omega
          exact .skip h (ih _ hshort rfl)

/-- Where no occurrence starts nothing is taken out. -/
theorem Replaced.append_left {u : List Char} (hno : ∀ w, w ≠ [] → w <:+ u → ¬ p <+: w ++ s)
    (h : Replaced p s r) : Replaced p (u ++ s) (u ++ r) := by
  induction u with
  | nil => exact h
  | cons c u ih =>
    apply Replaced.skip
    · exact hno (c :: u) (List.cons_ne_nil c u) List.suffix_rfl
    · apply ih
      intro w hw hsuffix
      exact hno w hw (hsuffix.trans (List.suffix_cons c u))

/-- No occurrence starts inside the mark. -/
theorem Apart.not_prefix_mark (hp : Apart p) (hne : p ≠ []) {w : List Char} (hw : w ≠ [])
    (hsuffix : w <:+ redactionMark.toList) (v : List Char) : ¬ p <+: w ++ v := by
  intro h
  have hmark : redactionMark.toList = '<' :: ("redacted".toList ++ ['>']) := rfl
  rw [hmark, List.suffix_cons_iff] at hsuffix
  rcases hsuffix with rfl | hsuffix
  · have hnil : p <+: [] := prefix_of_prefix_append_cons (u := []) hp.opening h
    exact hne (List.prefix_nil.mp hnil)
  · obtain ⟨x, hx⟩ := hsuffix
    obtain ⟨w, rfl⟩ : ∃ y, w = y ++ ['>'] := by
      obtain ⟨y, c, rfl⟩ := (List.eq_nil_or_concat' w).resolve_left hw
      rw [← List.append_assoc] at hx
      obtain ⟨-, hc⟩ := List.append_inj' hx rfl
      exact ⟨y, by rw [hc]⟩
    rw [← List.append_assoc] at hx
    obtain ⟨hword, -⟩ := List.append_inj' hx rfl
    rw [List.append_assoc] at h
    have hpw : p <+: w := prefix_of_prefix_append_cons hp.closing h
    exact hp.word (hpw.isInfix.trans (hword ▸ (List.suffix_append x w).isInfix))

/-- The mark parts the text before it from the text behind it. -/
theorem Replaced.append_mark {u v u' v' : List Char} (hp : Apart p) (hne : p ≠ [])
    (hu : Replaced p u u') (hv : Replaced p v v') :
    Replaced p (u ++ (redactionMark.toList ++ v)) (u' ++ (redactionMark.toList ++ v')) := by
  induction hu with
  | nil =>
    apply hv.append_left
    intro w hw hsuffix
    exact hp.not_prefix_mark hne hw hsuffix v
  | hit _ ih =>
    rw [List.append_assoc, List.append_assoc]
    exact .hit ih
  | skip hno _ ih =>
    apply Replaced.skip _ ih
    intro h
    exact hno (prefix_of_prefix_append_cons hp.opening h)

/-! ### Places -/

theorem Occurs.append_right (h : Occurs p i s a) (t : List Char) : Occurs p i (s ++ t) a := by
  refine ⟨h.behind, h.length, h.text.trans ?_⟩
  rw [List.drop_append]
  exact List.prefix_append _ _

theorem Occurs.append_left (h : Occurs p (i + s.length) t a) : Occurs p i (s ++ t) a := by
  have hbehind := h.behind
  have hdrop : a.start - i = s.length + (a.start - (i + s.length)) := by omega
  refine ⟨by omega, h.length, ?_⟩
  rw [hdrop, List.drop_length_add_append]
  exact h.text

theorem Occurs.of_before (h : Occurs p i (s ++ t) a) (hstop : a.stop ≤ i + s.length) :
    Occurs p i s a := by
  have hbehind := h.behind
  have hlength := h.length
  have htext := h.text
  refine ⟨hbehind, hlength, ?_⟩
  rw [List.drop_append_of_le_length (by omega)] at htext
  apply List.prefix_of_prefix_length_le htext (List.prefix_append _ t)
  rw [List.length_drop]
  omega

theorem Occurs.of_behind (h : Occurs p i (s ++ t) a) (hstart : i + s.length ≤ a.start) :
    Occurs p (i + s.length) t a := by
  have hdrop : a.start - i = s.length + (a.start - (i + s.length)) := by omega
  have htext := h.text
  rw [hdrop, List.drop_length_add_append] at htext
  exact ⟨hstart, h.length, htext⟩

/-! ### What stays and what is hidden -/

theorem Masked.cons {c : Char} (h : Masked (i + 1) s K r) : Masked i (c :: s) K (c :: r) := by
  cases h with
  | done => exact .done i _
  | @hide _ hidden rest result K before hne h =>
    have hlength : i + (c :: before).length = i + 1 + before.length := by
      rw [List.length_cons]
      omega
    rw [← hlength] at h ⊢
    exact .hide (c :: before) hne h

theorem Masked.append {hidden u v u' v' : List Char} {L : List Stretch} (hu : Masked i u K u')
    (hne : hidden ≠ []) (hv : Masked (i + u.length + hidden.length) v L v') :
    Masked i (u ++ (hidden ++ v))
      (K ++ ⟨i + u.length, i + u.length + hidden.length⟩ :: L)
      (u' ++ (redactionMark.toList ++ v')) := by
  induction hu with
  | done i s => exact .hide s hne hv
  | @hide i first rest result K before hfirst _ ih =>
    have hplace : i + (before ++ (first ++ rest)).length =
        i + before.length + first.length + rest.length := by
      simp only [List.length_append]
      omega
    rw [hplace] at hv ⊢
    simp only [List.append_assoc]
    exact .hide before hfirst (ih hv)

/-- The stretches of `L` are those of `K` and occurrences of one more secret. Each occurrence that
is left out meets a stretch of `K`, or an occurrence further left that is not left out. -/
structure Adds (p : List Char) (i : Nat) (m : List Char) (K L : List Stretch) : Prop where
  keeps : ∀ b ∈ K, b ∈ L
  occurs : ∀ b ∈ L, b ∈ K ∨ Occurs p i m b
  covers : ∀ a, Occurs p i m a → (∃ b ∈ K, b.Meets a) ∨ a ∈ L ∨
    ∃ b ∈ L, Occurs p i m b ∧ b.start < a.start ∧ b.Meets a

theorem Adds.nil (hp : p ≠ []) (i : Nat) : Adds p i [] [] [] where
  keeps := List.forall_mem_nil _
  occurs := List.forall_mem_nil _
  covers a ha := by
    have htext := ha.text
    rw [List.drop_nil] at htext
    exact absurd (List.prefix_nil.mp htext) hp

theorem Adds.hit (hp : p ≠ []) (h : Adds p (i + p.length) s [] K) :
    Adds p i (p ++ s) [] (⟨i, i + p.length⟩ :: K) := by
  have hpos := List.length_pos_iff.mpr hp
  have hfirst : Occurs p i (p ++ s) ⟨i, i + p.length⟩ := by
    refine ⟨Nat.le_refl i, rfl, ?_⟩
    rw [Nat.sub_self, List.drop_zero]
    exact List.prefix_append p s
  have hrest {b : Stretch} (hb : b ∈ K) : Occurs p i (p ++ s) b :=
    ((h.occurs b hb).resolve_left List.not_mem_nil).append_left
  refine ⟨List.forall_mem_nil _, ?_, ?_⟩
  · exact List.forall_mem_cons.mpr ⟨.inr hfirst, fun b hb => .inr (hrest hb)⟩
  · intro a ha
    have hbehind := ha.behind
    have hlength := ha.length
    by_cases hstart : a.start = i
    · refine .inr (.inl ?_)
      rw [← hstart, ← hlength]
      exact List.mem_cons_self
    · by_cases hmeets : a.start < i + p.length
      · refine .inr (.inr ⟨_, List.mem_cons_self, hfirst, ?_, ?_, hmeets⟩)
        · show i < a.start
          omega
        · show i < a.stop
          omega
      · rcases h.covers a (ha.of_behind (by omega)) with ⟨b, hb, -⟩ | hmem | ⟨b, hb, -, hless⟩
        · exact absurd hb List.not_mem_nil
        · exact .inr (.inl (List.mem_cons_of_mem _ hmem))
        · exact .inr (.inr ⟨b, List.mem_cons_of_mem _ hb, hrest hb, hless⟩)

theorem Adds.skip {c : Char} (hno : ¬ p <+: c :: s) (h : Adds p (i + 1) s [] K) :
    Adds p i (c :: s) [] K := by
  have hrest {b : Stretch} (hb : Occurs p (i + 1) s b) : Occurs p i (c :: s) b :=
    Occurs.append_left (s := [c]) hb
  refine ⟨List.forall_mem_nil _, fun b hb => (h.occurs b hb).imp_right hrest, ?_⟩
  intro a ha
  have hbehind := ha.behind
  have hstart : a.start ≠ i := by
    intro heq
    have htext := ha.text
    rw [heq, Nat.sub_self, List.drop_zero] at htext
    exact hno htext
  have hlate : i + [c].length ≤ a.start := by
    rw [List.length_singleton]
    omega
  rcases h.covers a (Occurs.of_behind (s := [c]) ha hlate) with hmeets | hmem | ⟨b, hb, hb', hless⟩
  · exact .inl hmeets
  · exact .inr (.inl hmem)
  · exact .inr (.inr ⟨b, hb, hrest hb', hless⟩)

/-- Around a stretch that is hidden already, occurrences lie before it or behind it, or meet it. -/
theorem Adds.hide {before hidden rest : List Char} {F L : List Stretch}
    (hF : Adds p i before [] F) (hL : Adds p (i + before.length + hidden.length) rest K L) :
    Adds p i (before ++ (hidden ++ rest))
      (⟨i + before.length, i + before.length + hidden.length⟩ :: K)
      (F ++ ⟨i + before.length, i + before.length + hidden.length⟩ :: L) := by
  have hplace : i + before.length + hidden.length = i + (before ++ hidden).length := by
    rw [List.length_append]
    omega
  have hfirst {b : Stretch} (hb : b ∈ F) : Occurs p i (before ++ (hidden ++ rest)) b :=
    ((hF.occurs b hb).resolve_left List.not_mem_nil).append_right _
  have hrest {b : Stretch} (hb : Occurs p (i + before.length + hidden.length) rest b) :
      Occurs p i (before ++ (hidden ++ rest)) b := by
    rw [hplace] at hb
    rw [← List.append_assoc]
    exact hb.append_left
  refine ⟨?_, ?_, ?_⟩
  · intro b hb
    rcases List.mem_cons.mp hb with rfl | hb
    · exact List.mem_append_right F List.mem_cons_self
    · exact List.mem_append_right F (List.mem_cons_of_mem _ (hL.keeps b hb))
  · intro b hb
    rcases List.mem_append.mp hb with hb | hb
    · exact .inr (hfirst hb)
    · rcases List.mem_cons.mp hb with rfl | hb
      · exact .inl List.mem_cons_self
      · exact (hL.occurs b hb).imp (List.mem_cons_of_mem _) hrest
  · intro a ha
    by_cases hbefore : a.stop ≤ i + before.length
    · rcases hF.covers a (ha.of_before hbefore) with ⟨b, hb, -⟩ | hmem | ⟨b, hb, -, hless⟩
      · exact absurd hb List.not_mem_nil
      · exact .inr (.inl (List.mem_append_left _ hmem))
      · exact .inr (.inr ⟨b, List.mem_append_left _ hb, hfirst hb, hless⟩)
    · by_cases hbehind : i + before.length + hidden.length ≤ a.start
      · rw [hplace] at hbehind
        rw [← List.append_assoc] at ha
        have ha := ha.of_behind hbehind
        rw [← hplace] at ha
        rcases hL.covers a ha with ⟨b, hb, hmeets⟩ | hmem | ⟨b, hb, hb', hless⟩
        · exact .inl ⟨b, List.mem_cons_of_mem _ hb, hmeets⟩
        · exact .inr (.inl (List.mem_append_right F (List.mem_cons_of_mem _ hmem)))
        · refine .inr (.inr ⟨b, ?_, hrest hb', hless⟩)
          exact List.mem_append_right F (List.mem_cons_of_mem _ hb)
      · refine .inl ⟨_, List.mem_cons_self, ?_, ?_⟩
        · show i + before.length < a.stop
          omega
        · show a.start < i + before.length + hidden.length
          omega

theorem exists_masked (hp : p ≠ []) (i : Nat) (h : Replaced p s r) :
    ∃ K, Masked i s K r ∧ Adds p i s [] K := by
  induction h generalizing i with
  | nil => exact ⟨[], .done i [], .nil hp i⟩
  | hit _ ih =>
    obtain ⟨K, hK, hadds⟩ := ih (i + p.length)
    exact ⟨⟨i, i + p.length⟩ :: K, .hide [] hp hK, .hit hp hadds⟩
  | skip hno _ ih =>
    obtain ⟨K, hK, hadds⟩ := ih (i + 1)
    exact ⟨K, hK.cons, .skip hno hadds⟩

/-- What is hidden stays hidden when one more secret is taken out, and more is hidden only where
that secret occurs. -/
theorem Masked.replace (h : Masked i m K r) (hp : Apart p) (hne : p ≠ []) :
    ∃ L, Masked i m L (replaceFrom p redactionMark.toList 0 r) ∧ Adds p i m K L := by
  have hreplaced (t : List Char) : Replaced p t (replaceFrom p redactionMark.toList 0 t) :=
    (replaced_iff hne).mpr rfl
  induction h with
  | done i s => exact exists_masked hne i (hreplaced s)
  | @hide i hidden rest result K before hhidden _ ih =>
    obtain ⟨L, hL, hadds⟩ := ih
    obtain ⟨F, hF, hfirst⟩ := exists_masked hne i (hreplaced before)
    have hmark := (hreplaced before).append_mark hp hne (hreplaced result)
    rw [← (replaced_iff hne).mp hmark]
    exact ⟨_, hF.append hhidden hL, hfirst.hide hadds⟩

/-! ### Taking out all secrets -/

/-- What is hidden of `m` when the secrets of a list are taken out in their order: occurrences of
secrets, of which each one that is left out meets one taken out before it. -/
structure Hides (secrets : List String) (m : List Char) (K : List Stretch) (r : List Char) :
    Prop where
  masked : Masked 0 m K r
  secret : ∀ a ∈ K, ∃ s ∈ secrets, Occurs s.toList 0 m a
  reached : ∀ before s after, secrets = before ++ s :: after → ∀ a, Occurs s.toList 0 m a →
    a ∈ K ∨ ∃ b ∈ K, b.Meets a ∧
      (Occurs s.toList 0 m b ∧ b.start < a.start ∨ ∃ t ∈ before, Occurs t.toList 0 m b)

theorem Hides.replace {secrets : List String} {secret : String} (h : Hides secrets m K r)
    (hs : Apart secret.toList) (hne : secret.toList ≠ []) :
    ∃ L, Hides (secrets ++ [secret]) m L
      (replaceFrom secret.toList redactionMark.toList 0 r) := by
  obtain ⟨L, hL, hadds⟩ := h.masked.replace hs hne
  refine ⟨L, hL, ?_, ?_⟩
  · intro b hb
    rcases hadds.occurs b hb with hb | hb
    · obtain ⟨s, hs, hb⟩ := h.secret b hb
      exact ⟨s, List.mem_append_left _ hs, hb⟩
    · exact ⟨secret, List.mem_append_right _ List.mem_cons_self, hb⟩
  · intro before s after heq a ha
    rcases List.eq_nil_or_concat' after with rfl | ⟨after, last, rfl⟩
    · obtain ⟨rfl, hlast⟩ := List.append_inj' heq rfl
      obtain rfl := (List.cons.inj hlast).1
      rcases hadds.covers a ha with ⟨b, hb, hmeets⟩ | hmem | ⟨b, hb, hb', hless, hmeets⟩
      · exact .inr ⟨b, hadds.keeps b hb, hmeets, .inr (h.secret b hb)⟩
      · exact .inl hmem
      · exact .inr ⟨b, hb, hmeets, .inl ⟨hb', hless⟩⟩
    · have hassoc : before ++ s :: (after ++ [last]) = (before ++ s :: after) ++ [last] := by simp
      rw [hassoc] at heq
      obtain ⟨heq, -⟩ := List.append_inj' heq rfl
      rcases h.reached before s after heq a ha with hmem | ⟨b, hb, hb'⟩
      · exact .inl (hadds.keeps a hmem)
      · exact .inr ⟨b, hadds.keeps b hb, hb'⟩

theorem exists_hides {secrets : List String}
    (h : ∀ s ∈ secrets, Apart s.toList ∧ s.toList ≠ []) (message : String) :
    ∃ K, Hides secrets message.toList K (redactMessage secrets message).toList := by
  induction secrets using List.reverseRecOn with
  | nil => exact ⟨[], .done 0 _, List.forall_mem_nil _, by simp⟩
  | append_singleton secrets secret ih =>
    obtain ⟨K, hK⟩ := ih fun s hs => h s (List.mem_append_left _ hs)
    obtain ⟨hapart, hne⟩ := h secret (List.mem_append_right _ List.mem_cons_self)
    have hlast : (redactMessage (secrets ++ [secret]) message).toList = replaceFrom secret.toList
        redactionMark.toList 0 (redactMessage secrets message).toList := by
      simp [redactMessage, replaceAll]
    rw [hlast]
    exact hK.replace hapart hne

/-! ### What the stretches leave open -/

theorem Masked.unique {r' : List Char} (h : Masked i m K r) (h' : Masked i m K r') : r = r' := by
  induction h generalizing r' with
  | done i s =>
    cases h'
    rfl
  | @hide i hidden rest result K before hne _ ih =>
    generalize htext : before ++ (hidden ++ rest) = text at h'
    generalize hplace : Stretch.mk (i + before.length) (i + before.length + hidden.length) = first
      at h'
    cases h' with
    | @hide _ hidden' rest' result' _ before' _ h' =>
      obtain ⟨hstart, hstop⟩ := Stretch.mk.inj hplace
      obtain ⟨rfl, htail⟩ := List.append_inj htext (by omega)
      obtain ⟨rfl, rfl⟩ := List.append_inj htail (by omega)
      rw [ih h']

theorem Masked.eq_nil (h : Masked i [] K r) : r = [] := by
  generalize htext : [] = text at h
  cases h with
  | done => rfl
  | hide before hne =>
    obtain ⟨-, hrest⟩ := List.append_eq_nil_iff.mp htext.symm
    exact absurd (List.append_eq_nil_iff.mp hrest).1 hne

/-- Where the last character is hidden the mark comes last. -/
theorem Masked.getLast?_of_hidden (h : Masked i m K r) (ha : a ∈ K)
    (hstop : i + m.length ≤ a.stop) : r.getLast? = some '>' := by
  induction h with
  | done => exact absurd ha List.not_mem_nil
  | @hide i hidden rest result K before hne hrest ih =>
    simp only [List.length_append] at hstop
    rw [← List.append_assoc, List.getLast?_append]
    rcases List.mem_cons.mp ha with rfl | ha
    · have hlength : i + (before.length + (hidden.length + rest.length)) ≤
          i + before.length + hidden.length := hstop
      obtain rfl : rest = [] := List.eq_nil_of_length_eq_zero (by omega)
      rw [hrest.eq_nil, List.getLast?_append]
      rfl
    · rw [ih ha (by omega)]
      rfl

theorem Masked.ascending (h : Masked i m K r) :
    (∀ a ∈ K, i ≤ a.start) ∧ K.Pairwise fun a b => a.start < b.start := by
  induction h with
  | done i s => exact ⟨List.forall_mem_nil _, List.Pairwise.nil⟩
  | @hide i hidden rest result K before hne _ ih =>
    obtain ⟨hbehind, hpairwise⟩ := ih
    have hpos := List.length_pos_iff.mpr hne
    constructor
    · intro a ha
      rcases List.mem_cons.mp ha with rfl | ha
      · exact Nat.le_add_right i before.length
      · have := hbehind a ha
        omega
    · apply List.pairwise_cons.mpr
      refine ⟨?_, hpairwise⟩
      intro b hb
      have := hbehind b hb
      show i + before.length < b.start
      omega

/-- The stretches are known by which of them there are. -/
theorem Masked.eq_of_mem_iff {r' : List Char} {L : List Stretch} (h : Masked i m K r)
    (h' : Masked i m L r') (hmem : ∀ a, a ∈ K ↔ a ∈ L) : r = r' := by
  have : Std.Irrefl fun a b : Stretch => a.start < b.start := ⟨fun a => Nat.lt_irrefl a.start⟩
  have : Std.Antisymm fun a b : Stretch => a.start < b.start :=
    ⟨fun a b hab hba => absurd (Nat.lt_trans hab hba) (Nat.lt_irrefl a.start)⟩
  obtain rfl : K = L := List.Pairwise.eq_of_mem_iff h.ascending.2 h'.ascending.2 hmem
  exact h.unique h'

end

/-- What is hidden of `m` when the secrets among out-of-band values are taken out. Only occurrences
of secrets are hidden, and each of them that is not hidden as a whole meets a hidden one, either of
the same secret and further left or of a secret with an earlier name. -/
structure Extra.Masks (e : Extra) (m : List Char) (K : List Stretch) (r : List Char) : Prop where
  masked : Masked 0 m K r
  secret : ∀ a ∈ K, ∃ s, e.Holds s ∧ Occurs s.toList 0 m a
  reached : ∀ name s, (name, .secret ⟨s⟩) ∈ e.entries → s.toList ≠ [] →
    ∀ a, Occurs s.toList 0 m a → a ∈ K ∨ ∃ b ∈ K, b.Meets a ∧
      (Occurs s.toList 0 m b ∧ b.start < a.start ∨
        ∃ name' t, name' < name ∧ (name', .secret ⟨t⟩) ∈ e.entries ∧ Occurs t.toList 0 m b)

/-- Occurrences of secrets in a text that meet are the same. -/
def Extra.Separate (e : Extra) (m : List Char) : Prop :=
  ∀ s, e.Holds s → ∀ t, e.Holds t → ∀ a, Occurs s.toList 0 m a → ∀ b, Occurs t.toList 0 m b →
    a.Meets b → a = b

section
variable {e : Extra} {m r : List Char} {K : List Stretch}

theorem Extra.forall_holds {P : String → Prop} :
    (∀ s, e.Holds s → P s) ↔ ∀ s ∈ e.secrets, P s := by
  simp only [← Extra.mem_secrets]

theorem occurs_iff {s : List Char} (hne : s ≠ []) {a : Stretch} : Occurs s 0 m a ↔
    ∃ i < m.length, s <+: m.drop i ∧ a = ⟨i, i + s.length⟩ := by
  constructor
  · intro h
    have htext := h.text
    rw [Nat.sub_zero] at htext
    refine ⟨a.start, ?_, htext, by rw [← h.length]⟩
    by_contra hlong
    rw [List.drop_eq_nil_of_le (by omega)] at htext
    exact hne (List.prefix_nil.mp htext)
  · rintro ⟨i, -, htext, rfl⟩
    exact ⟨Nat.zero_le i, rfl, htext⟩

theorem Extra.separate_iff : e.Separate m ↔ ∀ s ∈ e.secrets, ∀ t ∈ e.secrets,
    ∀ i < m.length, ∀ j < m.length, (s.toList <+: m.drop i ∧ t.toList <+: m.drop j ∧
      i < j + t.toList.length ∧ j < i + s.toList.length) →
        Stretch.mk i (i + s.toList.length) = ⟨j, j + t.toList.length⟩ := by
  unfold Extra.Separate
  simp only [← Extra.mem_secrets]
  constructor
  · rintro h s hs t ht i hi j hj ⟨hsi, htj, hij, hji⟩
    have hs' := (Extra.mem_secrets.mp hs).2
    have ht' := (Extra.mem_secrets.mp ht).2
    exact h s hs t ht _ ((occurs_iff hs').mpr ⟨i, hi, hsi, rfl⟩) _
      ((occurs_iff ht').mpr ⟨j, hj, htj, rfl⟩) ⟨hij, hji⟩
  · intro h s hs t ht a ha b hb hmeets
    obtain ⟨i, hi, hsi, rfl⟩ := (occurs_iff (Extra.mem_secrets.mp hs).2).mp ha
    obtain ⟨j, hj, htj, rfl⟩ := (occurs_iff (Extra.mem_secrets.mp ht).2).mp hb
    exact h s hs t ht i hi j hj ⟨hsi, htj, hmeets.1, hmeets.2⟩

instance : Decidable (e.Separate m) := decidable_of_iff' _ Extra.separate_iff

/-- The secrets before one of them in their order are those of earlier names. -/
theorem Extra.exists_secrets_eq {name s : String} (h : (name, .secret ⟨s⟩) ∈ e.entries)
    (hne : s.toList ≠ []) : ∃ before after, e.secrets = before ++ s :: after ∧
      ∀ t ∈ before, ∃ name', name' < name ∧ (name', .secret ⟨t⟩) ∈ e.entries := by
  obtain ⟨entries, hasc⟩ := e
  obtain ⟨front, back, rfl⟩ := List.append_of_mem h
  obtain ⟨hfront, hback, hless⟩ := List.pairwise_append.mp hasc
  have hsome : Secret.isEmpty ⟨s⟩ = false := by
    rw [Secret.isEmpty, ← Bool.not_eq_true, String.isEmpty_iff]
    exact fun hs => hne (String.toList_eq_nil_iff.mpr hs)
  have hfront : Ascending front := hfront
  have hback : Ascending back := (List.pairwise_cons.mp hback).2
  refine ⟨(Extra.mk front hfront).secrets, (Extra.mk back hback).secrets, ?_, ?_⟩
  · simp only [Extra.secrets, List.filterMap_append, List.filterMap_cons, hsome,
      Bool.false_eq_true, if_false]
  · intro t ht
    obtain ⟨⟨name', hmem⟩, -⟩ := Extra.mem_secrets.mp ht
    exact ⟨name', hless _ hmem _ List.mem_cons_self, List.mem_append_left _ hmem⟩

theorem Hides.masks (h : Hides e.secrets m K r) : e.Masks m K r where
  masked := h.masked
  secret a ha := by
    obtain ⟨s, hs, hoccurs⟩ := h.secret a ha
    exact ⟨s, Extra.mem_secrets.mp hs, hoccurs⟩
  reached := by
    intro name s hmem hne a ha
    obtain ⟨before, after, heq, hearlier⟩ := Extra.exists_secrets_eq hmem hne
    rcases h.reached before s after heq a ha with hmem | ⟨b, hb, hmeets, hleft | ⟨t, ht, ht'⟩⟩
    · exact .inl hmem
    · exact .inr ⟨b, hb, hmeets, .inl hleft⟩
    · obtain ⟨name', hname, hmem'⟩ := hearlier t ht
      exact .inr ⟨b, hb, hmeets, .inr ⟨name', t, hname, hmem', ht'⟩⟩

theorem Extra.exists_masks (h : ∀ s, e.Holds s → Apart s.toList) (message : String) :
    ∃ K, e.Masks message.toList K (redactMessage e.secrets message).toList := by
  have hall : ∀ s ∈ e.secrets, Apart s.toList ∧ s.toList ≠ [] := by
    intro s hs
    have hholds := Extra.mem_secrets.mp hs
    exact ⟨h s hholds, hholds.2⟩
  obtain ⟨K, hK⟩ := exists_hides hall message
  exact ⟨K, hK.masks⟩

/-- What does not meet another occurrence is hidden as a whole. -/
theorem Extra.Masks.mem_iff (h : e.Masks m K r) (hsep : e.Separate m) (a : Stretch) :
    a ∈ K ↔ ∃ s, e.Holds s ∧ Occurs s.toList 0 m a := by
  constructor
  · exact h.secret a
  · rintro ⟨s, hs, ha⟩
    obtain ⟨⟨name, hmem⟩, hne⟩ := hs
    rcases h.reached name s hmem hne a ha with hmem | ⟨b, hb, hmeets, -⟩
    · exact hmem
    · obtain ⟨t, ht, hb'⟩ := h.secret b hb
      obtain rfl := hsep t ht s ⟨⟨name, hmem⟩, hne⟩ b hb' a ha hmeets
      exact hb

end

/-- A redacted message is the message with occurrences of secrets hidden, among them each one that
overlaps no other. Where no two overlap all of them are hidden, whatever names the secrets have. -/
theorem redact_masks {e : Extra} (h : ∀ s, e.Holds s → Apart s.toList) (message : String) :
    ∃ K result, redact [message] e = [result] ∧ e.Masks message.toList K result.toList ∧
      (e.Separate message.toList →
        (∀ a, a ∈ K ↔ ∃ s, e.Holds s ∧ Occurs s.toList 0 message.toList a) ∧
        ∀ e' : Extra, (∀ s, e'.Holds s ↔ e.Holds s) → redact [message] e' = [result]) := by
  obtain ⟨K, hK⟩ := Extra.exists_masks h message
  refine ⟨K, _, rfl, hK, ?_⟩
  intro hsep
  refine ⟨hK.mem_iff hsep, ?_⟩
  intro e' hsame
  have hsep' : e'.Separate message.toList := fun s hs t ht =>
    hsep s ((hsame s).mp hs) t ((hsame t).mp ht)
  obtain ⟨L, hL⟩ := Extra.exists_masks (fun s hs => h s ((hsame s).mp hs)) message
  have hmem : ∀ a, a ∈ L ↔ a ∈ K := by
    intro a
    rw [hK.mem_iff hsep, hL.mem_iff hsep']
    simp only [hsame]
  have hresult := hL.masked.eq_of_mem_iff hK.masked hmem
  rw [redact, List.map_singleton, String.toList_inj.mp hresult]

/-- The secrets of `overlapping` under other names. -/
def swapped : Extra := .ofList [("Second", .secret ⟨"ab"⟩), ("First", .secret ⟨"aba"⟩)]

theorem redact_masks_swapped : (∀ s, overlapping.Holds s → Apart s.toList) ∧
    overlapping.Separate "ab-ab".toList ∧ (∀ s, swapped.Holds s ↔ overlapping.Holds s) ∧
    (∃ K result, redact ["ab-ab"] overlapping = [result] ∧
      overlapping.Masks "ab-ab".toList K result.toList ∧ ⟨3, 5⟩ ∈ K) ∧
    redact ["ab-ab"] swapped = ["<redacted>-<redacted>"] := by
  have h : ∀ s, overlapping.Holds s → Apart s.toList := Extra.forall_holds.mpr (by decide +kernel)
  have hsep : overlapping.Separate "ab-ab".toList := by decide +kernel
  have hsame (s : String) : swapped.Holds s ↔ overlapping.Holds s := by
    have hswapped : swapped.secrets = ["aba", "ab"] := by decide +kernel
    have hoverlapping : overlapping.secrets = ["ab", "aba"] := by decide +kernel
    rw [← Extra.mem_secrets, ← Extra.mem_secrets, hswapped, hoverlapping, List.mem_pair,
      List.mem_pair, or_comm]
  obtain ⟨K, result, hresult, hmasks, hall⟩ := redact_masks h "ab-ab"
  obtain ⟨hmem, hnames⟩ := hall hsep
  have hab : overlapping.Holds "ab" := Extra.mem_secrets.mp (by decide +kernel)
  have hoccurs : Occurs "ab".toList 0 "ab-ab".toList ⟨3, 5⟩ := ⟨by decide, by decide, by decide⟩
  refine ⟨h, hsep, hsame, ⟨K, result, hresult, hmasks, (hmem _).mpr ⟨"ab", hab, hoccurs⟩⟩, ?_⟩
  rw [hnames swapped hsame, ← hresult]
  decide +kernel

/-- A secret and its beginning. -/
def nested : Extra := .ofList [("Key", .secret ⟨"xy"⟩), ("Password", .secret ⟨"xyz"⟩)]

/-- The same with the names exchanged. -/
def nestedBack : Extra := .ofList [("Key", .secret ⟨"xyz"⟩), ("Password", .secret ⟨"xy"⟩)]

/-- The end of the longer secret stays readable, which it would not under another name. No stretches
that hide all of it leave that result. -/
theorem not_hidden_nested : (∀ s, nested.Holds s → Apart s.toList) ∧ nested.Holds "xyz" ∧
    Occurs "xyz".toList 0 "xyz".toList ⟨0, 3⟩ ∧ redact ["xyz"] nested = ["<redacted>z"] ∧
    (¬ ∃ K, Masked 0 "xyz".toList K "<redacted>z".toList ∧
      ∀ i < 3, ∃ a ∈ K, a.start ≤ i ∧ i < a.stop) ∧
    (∀ s, nestedBack.Holds s ↔ nested.Holds s) ∧ redact ["xyz"] nestedBack = ["<redacted>"] := by
  have h : ∀ s, nested.Holds s → Apart s.toList := Extra.forall_holds.mpr (by decide +kernel)
  have hholds : nested.Holds "xyz" := Extra.mem_secrets.mp (by decide +kernel)
  have hoccurs : Occurs "xyz".toList 0 "xyz".toList ⟨0, 3⟩ := ⟨by decide, by decide, by decide⟩
  have hsame (s : String) : nestedBack.Holds s ↔ nested.Holds s := by
    have hback : nestedBack.secrets = ["xyz", "xy"] := by decide +kernel
    have hnested : nested.secrets = ["xy", "xyz"] := by decide +kernel
    rw [← Extra.mem_secrets, ← Extra.mem_secrets, hback, hnested, List.mem_pair, List.mem_pair,
      or_comm]
  refine ⟨h, hholds, hoccurs, by decide +kernel, ?_, hsame, by decide +kernel⟩
  rintro ⟨K, hmasked, hall⟩
  obtain ⟨a, ha, -, hstop⟩ := hall 2 (by decide)
  exact absurd (hmasked.getLast?_of_hidden ha hstop) (by decide)

end CommandBridge.Command
