import CommandBridge.Command.Redaction
import CommandBridge.Failure
import Mathlib.Data.List.Forall2
import Mathlib.Data.List.Infix

/-! What is left of a secret when messages have been redacted. -/
namespace CommandBridge

/-- A text can be read in another. -/
def Reveals (text s : String) : Prop := s.toList <:+: text.toList

/-- A text without the characters at the ends of the mark that stands for a secret and of what
stands between messages. Such a text can only be read where it was written in one piece. -/
def OnePiece (s : String) : Prop := ∀ c ∈ s.toList, c ∉ ['<', '>', ';', ' ']

instance (text s : String) : Decidable (Reveals text s) :=
  inferInstanceAs (Decidable (s.toList <:+: text.toList))

instance (s : String) : Decidable (OnePiece s) :=
  inferInstanceAs (Decidable (∀ c ∈ s.toList, c ∉ ['<', '>', ';', ' ']))

namespace Command

section
variable {α : Type} {p u v : List α} {c : α}

theorem prefix_of_prefix_append_cons (hc : c ∉ p) (h : p <+: u ++ c :: v) : p <+: u := by
  induction u generalizing p with
  | nil =>
    cases p with
    | nil => exact List.nil_prefix
    | cons a p =>
      obtain ⟨rfl, -⟩ := List.cons_prefix_cons.mp h
      exact absurd List.mem_cons_self hc
  | cons a u ih =>
    cases p with
    | nil => exact List.nil_prefix
    | cons b p =>
      obtain ⟨hb, hp⟩ := List.cons_prefix_cons.mp h
      exact List.cons_prefix_cons.mpr ⟨hb, ih (fun hm => hc (List.mem_cons_of_mem b hm)) hp⟩

/-- What does not hold a character is found on one side of it. -/
theorem infix_append_cons (hc : c ∉ p) (h : p <:+: u ++ c :: v) : p <:+: u ∨ p <:+: v := by
  induction u with
  | nil =>
    rcases List.infix_cons_iff.mp h with h | h
    · have hp : p <+: [] := prefix_of_prefix_append_cons (u := []) hc h
      exact .inl hp.isInfix
    · exact .inr h
  | cons a u ih =>
    rcases List.infix_cons_iff.mp h with h | h
    · exact .inl (prefix_of_prefix_append_cons (u := a :: u) hc h).isInfix
    · exact (ih h).imp_left fun h => List.infix_cons h

end

/-- A text that can neither begin nor end inside the mark, and is no part of it. -/
structure Apart (p : List Char) : Prop where
  opening : '<' ∉ p
  closing : '>' ∉ p
  word : ¬ p <:+: "redacted".toList

instance (p : List Char) : Decidable (Apart p) :=
  decidable_of_iff ('<' ∉ p ∧ '>' ∉ p ∧ ¬ p <:+: "redacted".toList)
    ⟨fun h => ⟨h.1, h.2.1, h.2.2⟩, fun h => ⟨h.opening, h.closing, h.word⟩⟩

variable {p q : List Char} {m : List Char}

/-- The mark hides nothing that stands around it, and shows nothing. -/
theorem Apart.infix_mark (h : Apart p) {u v : List Char}
    (hi : p <:+: u ++ (redactionMark.toList ++ v)) : p <:+: u ∨ p <:+: v := by
  have he : u ++ (redactionMark.toList ++ v) =
      u ++ '<' :: ("redacted".toList ++ '>' :: v) := rfl
  rw [he] at hi
  rcases infix_append_cons h.opening hi with hi | hi
  · exact .inl hi
  · rcases infix_append_cons h.closing hi with hi | hi
    · exact absurd hi h.word
    · exact .inr hi

/-- Up to the first mark the text is as it was. -/
theorem prefix_of_replaced (hp : '<' ∉ p) (h : p <+: replaceFrom q redactionMark.toList 0 m) :
    p <+: m := by
  induction m generalizing p with
  | nil => simpa [replaceFrom] using h
  | cons c m ih =>
    cases p with
    | nil => exact List.nil_prefix
    | cons a p =>
      rw [replaceFrom] at h
      split at h
      · obtain ⟨rfl, -⟩ := List.cons_prefix_cons.mp h
        exact absurd List.mem_cons_self hp
      · obtain ⟨ha, h⟩ := List.cons_prefix_cons.mp h
        exact List.cons_prefix_cons.mpr ⟨ha, ih (fun hm => hp (List.mem_cons_of_mem a hm)) h⟩

/-- Taking something out of a text writes nothing else into it. -/
theorem Apart.of_replaced (h : Apart p) {n : Nat}
    (hi : p <:+: replaceFrom q redactionMark.toList n m) : p <:+: m := by
  induction m generalizing n with
  | nil => cases n <;> simpa [replaceFrom] using hi
  | cons c m ih =>
    cases n with
    | succ n => exact List.infix_cons (ih hi)
    | zero =>
      have hwhole := hi
      rw [replaceFrom] at hi
      split at hi
      · rcases h.infix_mark (u := []) hi with hi | hi
        · exact List.infix_nil.mp hi ▸ List.nil_infix
        · exact List.infix_cons (ih hi)
      · rcases List.infix_cons_iff.mp hi with hs | hi
        · have hs : p <+: replaceFrom q redactionMark.toList 0 (c :: m) := by
            rwa [replaceFrom, if_neg ‹_›]
          exact (prefix_of_replaced h.opening hs).isInfix
        · exact List.infix_cons (ih hi)

/-- What is taken out of a text is not in it any more. -/
theorem Apart.not_replaced (h : Apart p) (hne : p ≠ []) (n : Nat) (m : List Char) :
    ¬ p <:+: replaceFrom p redactionMark.toList n m := by
  induction m generalizing n with
  | nil => cases n <;> simpa [replaceFrom] using hne
  | cons c m ih =>
    cases n with
    | succ n => exact ih n
    | zero =>
      intro hi
      rw [replaceFrom] at hi
      split at hi
      · rcases h.infix_mark (u := []) hi with hi | hi
        · exact hne (List.infix_nil.mp hi)
        · exact ih _ hi
      · rename_i hno
        rcases List.infix_cons_iff.mp hi with hs | hi
        · have hs : p <+: replaceFrom p redactionMark.toList 0 (c :: m) := by
            rwa [replaceFrom, if_neg hno]
          exact hno (List.isPrefixOf_iff_prefix.mpr (prefix_of_replaced h.opening hs))
        · exact ih 0 hi

/-- A text without the pattern stays as it is. -/
theorem replaceFrom_of_not_infix {mark : List Char} (h : ¬ p <:+: m) :
    replaceFrom p mark 0 m = m := by
  induction m with
  | nil => rfl
  | cons c m ih =>
    rw [replaceFrom, if_neg fun hp => h (List.isPrefixOf_iff_prefix.mp hp).isInfix,
      ih fun hi => h (List.infix_cons hi)]

theorem reveals_of_redactMessage {s : String} (h : Apart s.toList) (secrets : List String)
    {message : String} (hs : Reveals (redactMessage secrets message) s) : Reveals message s := by
  unfold redactMessage at hs
  induction secrets generalizing message with
  | nil => exact hs
  | cons secret secrets ih =>
    have hs : Reveals (replaceAll secret redactionMark message) s := ih hs
    rw [Reveals, replaceAll, String.toList_ofList] at hs
    exact h.of_replaced hs

theorem not_reveals_redactMessage {s : String} (h : Apart s.toList) (hne : s.toList ≠ [])
    {secrets : List String} (hm : s ∈ secrets) (message : String) :
    ¬ Reveals (redactMessage secrets message) s := by
  induction secrets generalizing message with
  | nil => simp at hm
  | cons secret secrets ih =>
    intro hs
    rcases List.mem_cons.mp hm with rfl | hm
    · have hs : Reveals (replaceAll s redactionMark message) s :=
        reveals_of_redactMessage h secrets hs
      rw [Reveals, replaceAll, String.toList_ofList] at hs
      exact h.not_replaced hne 0 _ hs
    · exact ih hm _ hs

theorem redactMessage_of_not_reveals {secrets : List String} {message : String}
    (h : ∀ s ∈ secrets, ¬ Reveals message s) : redactMessage secrets message = message := by
  unfold redactMessage
  induction secrets with
  | nil => rfl
  | cons secret secrets ih =>
    obtain ⟨hs, hrest⟩ := List.forall_mem_cons.mp h
    have hkeep : replaceAll secret redactionMark message = message := by
      rw [replaceAll, replaceFrom_of_not_infix hs, String.ofList_toList]
    rw [List.foldl_cons, hkeep]
    exact ih hrest

/-- A secret with any text in it is given under some name. -/
def Extra.Holds (e : Extra) (s : String) : Prop :=
  (∃ name, (name, .secret ⟨s⟩) ∈ e.entries) ∧ s.toList ≠ []

theorem Extra.mem_secrets {e : Extra} {s : String} : s ∈ e.secrets ↔ e.Holds s := by
  have hempty (s : String) : s.isEmpty = true ↔ s.toList = [] := by
    rw [String.isEmpty_iff, String.toList_eq_nil_iff]
  unfold Extra.secrets Extra.Holds
  rw [List.mem_filterMap]
  constructor
  · rintro ⟨⟨name, v⟩, hm, hs⟩
    cases v with
    | secret x =>
      obtain ⟨hne, hx⟩ := Option.ite_none_left_eq_some.mp hs
      obtain rfl := Option.some.inj hx
      exact ⟨⟨name, hm⟩, fun hnil => hne ((hempty _).mpr hnil)⟩
    | binary | value => cases hs
  · rintro ⟨⟨name, hm⟩, hne⟩
    refine ⟨_, hm, ?_⟩
    exact if_neg fun hs => hne ((hempty s).mp hs)

/-- What redaction makes of a message, which does not depend on the other messages. -/
structure Redacted (e : Extra) (message result : String) : Prop where
  alone : redact [message] e = [result]
  hidden : ∀ s, e.Holds s → ¬ Reveals result s
  kept : (∀ s, e.Holds s → ¬ Reveals message s) → result = message

/-- Secrets that cannot come back at the edge of the mark are shown in no message after redaction,
whatever they have in common, and a message that shows none of them stays as it is. -/
theorem redact_hides {e : Extra} (h : ∀ s, e.Holds s → Apart s.toList) (messages : List String) :
    List.Forall₂ (Redacted e) messages (redact messages e) := by
  rw [redact, List.forall₂_map_right_iff, List.forall₂_same]
  intro m _
  refine ⟨rfl, fun s hs => ?_, fun hm => ?_⟩
  · exact not_reveals_redactMessage (h s hs) hs.2 (Extra.mem_secrets.mpr hs) m
  · exact redactMessage_of_not_reveals fun s hs => hm s (Extra.mem_secrets.mp hs)

/-- Two secrets that overlap each other and themselves, and one without text. -/
def overlapping : Extra :=
  .ofList [("Second", .secret ⟨"aba"⟩), ("First", .secret ⟨"ab"⟩), ("Third", .secret ⟨""⟩)]

theorem redact_hides_overlapping : (∀ s, overlapping.Holds s → Apart s.toList) ∧
    redact ["xababa", "b a"] overlapping = ["x<redacted><redacted>a", "b a"] ∧
      List.Forall₂ (Redacted overlapping) ["xababa", "b a"]
        (redact ["xababa", "b a"] overlapping) := by
  have hall : ∀ s ∈ overlapping.secrets, Apart s.toList := by decide +kernel
  have h (s : String) (hs : overlapping.Holds s) : Apart s.toList :=
    hall s (Extra.mem_secrets.mpr hs)
  exact ⟨h, by decide +kernel, redact_hides h _⟩

/-- Other secrets can come back at the edge of the mark. -/
example : Reveals (redactMessage [">~"] ">>~~") ">~" := by decide +kernel

theorem infix_intercalate {p : List Char} (hp : ' ' ∉ p) (hne : p ≠ []) (hs : ';' ∉ p)
    {texts : List (List Char)} (h : p <:+: "; ".toList.intercalate texts) :
    ∃ text ∈ texts, p <:+: text := by
  induction texts with
  | nil => exact absurd (List.infix_nil.mp h) hne
  | cons text texts ih =>
    cases texts with
    | nil =>
      rw [List.intercalate_singleton] at h
      exact ⟨text, List.mem_singleton_self text, h⟩
    | cons text' texts =>
      rw [List.intercalate_cons_cons, List.append_assoc] at h
      rcases infix_append_cons hs h with h | h
      · exact ⟨text, List.mem_cons_self, h⟩
      · rcases infix_append_cons (u := []) hp h with h | h
        · exact absurd (List.infix_nil.mp h) hne
        · obtain ⟨found, hm, hf⟩ := ih h
          exact ⟨found, List.mem_cons_of_mem text hm, hf⟩

theorem infix_intercalate_of_mem {sep text : List Char} {texts : List (List Char)}
    (h : text ∈ texts) : text <:+: sep.intercalate texts := by
  induction texts with
  | nil => simp at h
  | cons first texts ih =>
    cases texts with
    | nil =>
      obtain rfl := List.mem_singleton.mp h
      rw [List.intercalate_singleton]
    | cons second texts =>
      rw [List.intercalate_cons_cons]
      rcases List.mem_cons.mp h with rfl | h
      · rw [List.append_assoc]
        exact (List.prefix_append text _).isInfix
      · exact (ih h).trans (List.suffix_append _ _).isInfix

end Command

theorem Failure.toList_remote (messages : List String) : (Failure.remote messages).message.toList =
    "Remote execution failed: ".toList ++ "; ".toList.intercalate (messages.map String.toList) := by
  have h : (Failure.remote messages).message =
      "Remote execution failed: " ++ "; ".intercalate messages := by
    unfold Failure.message
    exact Eq.refl _
  rw [h, String.toList_append, String.toList_intercalate]

/-- What can be read in one of the messages can be read in the failure. -/
theorem Failure.reveals_remote {messages : List String} {message s : String}
    (hm : message ∈ messages) (h : Reveals message s) :
    Reveals (Failure.remote messages).message s := by
  rw [Reveals, toList_remote]
  have hm : message.toList ∈ messages.map String.toList := List.mem_map_of_mem hm
  have hi : message.toList <:+: "; ".toList.intercalate (messages.map String.toList) :=
    Command.infix_intercalate_of_mem hm
  exact h.trans (hi.trans (List.suffix_append _ _).isInfix)

/-- A plain text that can be read in the failure can be read in one of the messages. -/
theorem Failure.reveals_of_remote {messages : List String} {s : String} (hp : OnePiece s)
    (hne : s.toList ≠ []) (hw : ¬ Reveals "Remote execution failed:" s)
    (h : Reveals (Failure.remote messages).message s) :
    ∃ message ∈ messages, Reveals message s := by
  have hspace : ' ' ∉ s.toList := fun hm => hp ' ' hm (by decide)
  have hsemi : ';' ∉ s.toList := fun hm => hp ';' hm (by decide)
  rw [Reveals, toList_remote] at h
  have he : "Remote execution failed: ".toList = "Remote execution failed:".toList ++ [' '] := rfl
  rw [he, List.append_assoc] at h
  rcases Command.infix_append_cons hspace h with h | h
  · exact absurd h hw
  · obtain ⟨text, ht, hs⟩ := Command.infix_intercalate hspace hne hsemi h
    obtain ⟨message, hm, rfl⟩ := List.mem_map.mp ht
    exact ⟨message, hm, hs⟩

end CommandBridge
