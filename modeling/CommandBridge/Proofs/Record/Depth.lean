import CommandBridge.Proofs.Ordered
import CommandBridge.Record.Flatten
import CommandBridge.Record.Graph

/-! The limit on the depth of flattening. Where it is not reached, an object is flattened by the
rules alone, and what lies below it has no part in the result. -/
namespace CommandBridge

universe u w

variable {ρ : Type u} {ρ' : Type w}

namespace View

/-- The properties that can be read; one without a value is empty. -/
def readable (v : View ρ) (r : ρ) : List (String × Option ρ) :=
  (v.properties r).filterMap fun p => p.2.toOption.map (p.1, ·)

/-- The objects that the rules go on to from an object. -/
def next (v : View ρ) (r : ρ) : List ρ :=
  match v.scalar? r, v.enumName? r, v.elements? r with
  | none, none, some elements => elements.filterMap id
  | none, none, none =>
    if Flattened.isSimple (v.render r) then [] else (v.readable r).filterMap (·.2)
  | _, _, _ => []

/-- The rules go on from an object for at most so many levels. -/
def HeightAtMost (v : View ρ) : Nat → ρ → Prop
  | 0, r => v.next r = []
  | n + 1, r => ∀ x ∈ v.next r, v.HeightAtMost n x

/-- Two objects that answer all questions alike, as far as `alike` tells of the objects in the
answers. -/
structure AlikeAt (v : View ρ) (w : View ρ') (alike : ρ → ρ' → Prop) (r : ρ) (r' : ρ') : Prop where
  rendering : v.render r = w.render r'
  scalar : v.scalar? r = w.scalar? r'
  enumName : v.enumName? r = w.enumName? r'
  elements : Option.Rel (List.Forall₂ (Option.Rel alike)) (v.elements? r) (w.elements? r')
  readable : List.Forall₂ (fun p p' => p.1 = p'.1 ∧ Option.Rel alike p.2 p'.2) (v.readable r)
    (w.readable r')

/-- Alike for so many levels, and below them rendered alike. -/
def Alike (v : View ρ) (w : View ρ') : Nat → ρ → ρ' → Prop
  | 0, r, r' => v.render r = w.render r'
  | n + 1, r, r' => v.AlikeAt w (v.Alike w n) r r'

end View

namespace Flattened

/-- The rules for flattening without a limit on depth. In a map the last readable property of a name
counts. -/
inductive Flattens (v : View ρ) : ρ → Flattened → Prop where
  | scalar {r : ρ} {s : Scalar} (h : v.scalar? r = some s) : Flattens v r (scalar s)
  | enumerated {r : ρ} {name : String} (hs : v.scalar? r = none) (h : v.enumName? r = some name) :
      Flattens v r (string name)
  | collection {r : ρ} {elements : List (Option ρ)} (flat : ρ → Flattened)
      (hs : v.scalar? r = none) (he : v.enumName? r = none) (h : v.elements? r = some elements)
      (hflat : ∀ x, some x ∈ elements → Flattens v x (flat x)) :
      Flattens v r (list (elements.filterMap (·.map flat)))
  | simple {r : ρ} (hs : v.scalar? r = none) (he : v.enumName? r = none)
      (hl : v.elements? r = none) (h : isSimple (v.render r) = true) :
      Flattens v r (string (v.render r))
  | properties {r : ρ} {entries : List (String × Flattened)} (flat : ρ → Flattened)
      (hs : v.scalar? r = none) (he : v.enumName? r = none) (hl : v.elements? r = none)
      (h : isSimple (v.render r) = false) (hentries : Ascending entries)
      (hflat : ∀ name x, (name, some x) ∈ v.readable r → Flattens v x (flat x))
      (hfound : ∀ name, entries.lookup name =
        ((v.readable r).reverse.lookup name).map fun x => (x.map flat).getD null) :
      Flattens v r (map entries)

/-- What a readable property is entered with. -/
def ofProperty (flat : ρ → Flattened) (x : Option ρ) : Flattened := (x.map flat).getD null

theorem foldl_addProperty (flat : ρ → Flattened)
    (properties : List (String × Except String (Option ρ)))
    (entries : List (String × Flattened)) :
    properties.foldl (addProperty flat) entries =
      enterAll (ofProperty flat) (properties.filterMap fun p => p.2.toOption.map (p.1, ·))
        entries := by
  induction properties generalizing entries with
  | nil => rfl
  | cons p properties ih =>
    obtain ⟨name, answer⟩ := p
    rw [List.foldl_cons, ih]
    cases answer with
    | error e => rfl
    | ok x => cases x <;> rfl

section
variable {v : View ρ} {w : View ρ'} {r : ρ} {r' : ρ'} {flat : ρ → Flattened}

/-! ### One level, rule by rule -/

theorem ofLevel_scalar {s : Scalar} (h : v.scalar? r = some s) :
    ofLevel v flat r = scalar s := by
  simp only [ofLevel, h]

theorem ofLevel_enumerated {name : String} (hs : v.scalar? r = none)
    (h : v.enumName? r = some name) : ofLevel v flat r = string name := by
  simp only [ofLevel, hs, h]

theorem ofLevel_collection {elements : List (Option ρ)} (hs : v.scalar? r = none)
    (he : v.enumName? r = none) (h : v.elements? r = some elements) :
    ofLevel v flat r = list (elements.filterMap (·.map flat)) := by
  simp only [ofLevel, hs, he, h, List.map_filterMap, id]

theorem ofLevel_simple (hs : v.scalar? r = none) (he : v.enumName? r = none)
    (hl : v.elements? r = none) (h : isSimple (v.render r) = true) :
    ofLevel v flat r = string (v.render r) := by
  simp only [ofLevel, hs, he, hl, h, if_true]

theorem ofLevel_properties (hs : v.scalar? r = none) (he : v.enumName? r = none)
    (hl : v.elements? r = none) (h : isSimple (v.render r) = false) :
    ofLevel v flat r = map (enterAll (ofProperty flat) (v.readable r) []) := by
  simp only [ofLevel, hs, he, hl, h, Bool.false_eq_true, if_false, foldl_addProperty]
  rfl

/-- One level of flattening obeys the rules if the levels below do. -/
theorem flattens_ofLevel (h : ∀ x ∈ v.next r, Flattens v x (flat x)) :
    Flattens v r (ofLevel v flat r) := by
  unfold View.next at h
  cases hs : v.scalar? r with
  | some s =>
    rw [ofLevel_scalar hs]
    exact .scalar hs
  | none =>
    cases he : v.enumName? r with
    | some name =>
      rw [ofLevel_enumerated hs he]
      exact .enumerated hs he
    | none =>
      cases hl : v.elements? r with
      | some elements =>
        simp only [hs, he, hl] at h
        rw [ofLevel_collection hs he hl]
        apply Flattens.collection flat hs he hl
        intro x hx
        exact h x (List.mem_filterMap.mpr ⟨some x, hx, rfl⟩)
      | none =>
        simp only [hs, he, hl] at h
        cases hr : isSimple (v.render r) with
        | true =>
          rw [ofLevel_simple hs he hl hr]
          exact .simple hs he hl hr
        | false =>
          simp only [hr, Bool.false_eq_true, if_false] at h
          rw [ofLevel_properties hs he hl hr]
          apply Flattens.properties flat hs he hl hr (ascending_enterAll _ _ List.Pairwise.nil)
          · intro name x hx
            exact h x (List.mem_filterMap.mpr ⟨(name, some x), hx, rfl⟩)
          · intro name
            rw [lookup_enterAll]
            exact Option.or_none

/-- The rules leave no choice at a level if they leave none below it. -/
theorem Flattens.eq_ofLevel {f : Flattened} (h : Flattens v r f)
    (hnext : ∀ x ∈ v.next r, ∀ g, Flattens v x g → g = flat x) : f = ofLevel v flat r := by
  unfold View.next at hnext
  cases h with
  | scalar h => exact (ofLevel_scalar h).symm
  | enumerated hs h => exact (ofLevel_enumerated hs h).symm
  | simple hs he hl h => exact (ofLevel_simple hs he hl h).symm
  | @collection _ elements flat' hs he h hflat =>
    simp only [hs, he, h] at hnext
    rw [ofLevel_collection hs he h]
    congr 1
    apply List.filterMap_congr
    intro x hx
    cases x with
    | none => rfl
    | some x =>
      have hmem : x ∈ elements.filterMap id := List.mem_filterMap.mpr ⟨some x, hx, rfl⟩
      exact congrArg some (hnext x hmem _ (hflat x hx))
  | @properties _ entries flat' hs he hl h hentries hflat hfound =>
    simp only [hs, he, hl, h, Bool.false_eq_true, if_false] at hnext
    rw [ofLevel_properties hs he hl h]
    congr 1
    apply hentries.ext (ascending_enterAll _ _ List.Pairwise.nil)
    intro name
    rw [hfound, lookup_enterAll, List.lookup_nil, Option.or_none]
    apply Option.map_congr
    intro x hx
    cases x with
    | none => rfl
    | some x =>
      have hread : (name, some x) ∈ v.readable r := mem_of_lookup_reverse hx
      exact hnext x (List.mem_filterMap.mpr ⟨_, hread, rfl⟩) _ (hflat name x hread)

/-- Where the rules do not go on for more than `n` levels, one more level is enough. -/
theorem flattens_iff {n : Nat} (h : v.HeightAtMost n r) {f : Flattened} :
    Flattens v r f ↔ f = ofLevels v (n + 1) r := by
  induction n generalizing r f with
  | zero =>
    have hnone : ∀ x, x ∉ v.next r := fun x hx => nomatch (show v.next r = [] from h) ▸ hx
    constructor
    · intro hf
      exact hf.eq_ofLevel fun x hx => absurd hx (hnone x)
    · rintro rfl
      exact flattens_ofLevel fun x hx => absurd hx (hnone x)
  | succ n ih =>
    constructor
    · intro hf
      exact hf.eq_ofLevel fun x hx g => (ih (h x hx)).mp
    · rintro rfl
      exact flattens_ofLevel fun x hx => (ih (h x hx)).mpr rfl

/-! ### Objects that are alike -/

section
variable {flat' : ρ' → Flattened} {alike : ρ → ρ' → Prop}

theorem map_eq_of_rel (hflat : ∀ x x', alike x x' → flat x = flat' x') {x : Option ρ}
    {x' : Option ρ'} (h : Option.Rel alike x x') : x.map flat = x'.map flat' := by
  cases h with
  | none => rfl
  | some h => exact congrArg some (hflat _ _ h)

theorem filterMap_eq_of_rel (hflat : ∀ x x', alike x x' → flat x = flat' x')
    {elements : List (Option ρ)} {elements' : List (Option ρ')}
    (h : List.Forall₂ (Option.Rel alike) elements elements') :
    elements.filterMap (·.map flat) = elements'.filterMap (·.map flat') := by
  induction h with
  | nil => rfl
  | cons hx _ ih => rw [List.filterMap_cons, List.filterMap_cons, map_eq_of_rel hflat hx, ih]

theorem enterAll_eq_of_rel (hflat : ∀ x x', alike x x' → flat x = flat' x')
    {named : List (String × Option ρ)} {named' : List (String × Option ρ')}
    (h : List.Forall₂ (fun p p' => p.1 = p'.1 ∧ Option.Rel alike p.2 p'.2) named named')
    (entries : List (String × Flattened)) :
    enterAll (ofProperty flat) named entries = enterAll (ofProperty flat') named' entries := by
  induction h generalizing entries with
  | nil => rfl
  | @cons p p' _ _ hp _ ih =>
    have hvalue : ofProperty flat p.2 = ofProperty flat' p'.2 :=
      congrArg (·.getD null) (map_eq_of_rel hflat hp.2)
    show enterAll _ _ (insertNamed p.1 _ entries) = enterAll _ _ (insertNamed p'.1 _ entries)
    rw [hp.1, hvalue]
    exact ih _

/-- A level is made of the answers to the questions, and of the levels below. -/
theorem ofLevel_eq (h : v.AlikeAt w alike r r')
    (hflat : ∀ x x', alike x x' → flat x = flat' x') :
    ofLevel v flat r = ofLevel w flat' r' := by
  have hmap := enterAll_eq_of_rel hflat h.readable []
  have helements := h.elements
  unfold ofLevel
  rw [h.scalar, h.enumName, h.rendering, foldl_addProperty, foldl_addProperty]
  unfold View.readable at hmap
  rw [hmap]
  generalize v.elements? r = elements at helements ⊢
  generalize w.elements? r' = elements' at helements ⊢
  cases helements with
  | none => rfl
  | some helements =>
    have hlist := filterMap_eq_of_rel hflat helements
    simp only [List.map_filterMap, id, hlist]

end

theorem ofLevels_eq {n : Nat} (h : v.Alike w n r r') : ofLevels v n r = ofLevels w n r' := by
  induction n generalizing r r' with
  | zero => exact congrArg string h
  | succ n ih => exact ofLevel_eq h fun x x' hx => ih hx

/-- The limit has no effect on an object that the rules are done with above it, whatever depth the
object is met at. And no object is told, in its flattening, from one that is alike down to the limit
and is rendered alike one level below it. -/
theorem flatten_within_limit {d : Nat} (hd : d ≤ maxDepth) :
    (∀ (v : View ρ) (r : ρ), v.HeightAtMost (maxDepth - d) r →
      ∀ f, Flattens v r f ↔ f = flatten v r d) ∧
    ∀ (v : View ρ) (w : View ρ') (r : ρ) (r' : ρ'), v.Alike w (maxDepth - d + 1) r r' →
      flatten v r d = flatten w r' d := by
  have hlevels : maxDepth + 1 - d = maxDepth - d + 1 := by omega
  unfold flatten
  rw [hlevels]
  constructor
  · intro v r h f
    exact flattens_iff h
  · intro v w r r' h
    exact ofLevels_eq h

end

/-- An object that is its own successor. -/
def ring : Graph :=
  [⟨"\x7b", none, none, none,
    [("Next", .ok (some 0)), ("Quota", .error "getter failed"), ("Size", .ok (some 1))]⟩,
    ⟨"7", some (.int 7), none, none, []⟩]

/-- A row of three objects, of which the last has no properties. -/
def row : Graph :=
  [⟨"\x7b", none, none, none, [("Next", .ok (some 1)), ("Size", .ok (some 3))]⟩,
    ⟨"\x7b", none, none, none, [("Next", .ok (some 2)), ("Size", .ok (some 3))]⟩,
    ⟨"\x7b", none, none, none, []⟩, ⟨"7", some (.int 7), none, none, []⟩]

theorem alike_ring_row : ring.view.Alike row.view 2 0 0 := by
  have hleaf {n : Nat} : ring.view.Alike row.view n 1 3 := by
    cases n with
    | zero => rfl
    | succ n => exact ⟨rfl, rfl, rfl, .none, .nil⟩
  have hlast : ring.view.Alike row.view 0 0 2 := rfl
  have hstep {n : Nat} {k : Nat} (hk : k < 2) (h : ring.view.Alike row.view n 0 (k + 1)) :
      ring.view.Alike row.view (n + 1) 0 k := by
    have hread : List.Forall₂
        (fun p p' => p.1 = p'.1 ∧ Option.Rel (ring.view.Alike row.view n) p.2 p'.2)
        [("Next", some 0), ("Size", some 1)] [("Next", some (k + 1)), ("Size", some 3)] :=
      .cons ⟨rfl, .some h⟩ (.cons ⟨rfl, .some hleaf⟩ .nil)
    obtain rfl | rfl : k = 0 ∨ k = 1 := by omega
    · exact ⟨rfl, rfl, rfl, .none, hread⟩
    · exact ⟨rfl, rfl, rfl, .none, hread⟩
  exact hstep (by decide) (hstep (by decide) hlast)

/-- The second object of the row is done with at the limit. The ring goes on, but is like the row as
far as it is taken apart. -/
theorem flatten_within_limit_ring : 4 ≤ maxDepth ∧ row.view.HeightAtMost (maxDepth - 4) 1 ∧
    Flattens row.view 1 (flatten row.view 1 4) ∧ ring.view.Alike row.view (maxDepth - 4 + 1) 0 0 ∧
    flatten ring.view 0 4 = flatten row.view 0 4 := by
  have hheight : row.view.HeightAtMost (maxDepth - 4) 1 := by
    intro x hx
    have hnext : row.view.next 1 = [2, 3] := rfl
    rw [hnext, List.mem_pair] at hx
    obtain rfl | rfl := hx
    · rfl
    · rfl
  have hlimit : 4 ≤ maxDepth := by decide
  obtain ⟨hrules, halike⟩ := flatten_within_limit hlimit
  exact ⟨hlimit, hheight, (hrules _ _ hheight _).mpr rfl, alike_ring_row,
    halike _ _ _ _ alike_ring_row⟩

example : flatten (Graph.view [⟨"\x7b", none, none, none, [("Next", .ok (some 0))]⟩]) 0 4 =
    map [("Next", map [("Next", string "\x7b")])] :=
  rfl

end Flattened

end CommandBridge
