import MachineImage.Proofs.Octets
import MachineImage.Proofs.Passage

/-!
Extraction as a loop whose turns read one event each. An event takes an octet at least, so that the
loop ends on every document.
-/
namespace MachineImage

/-- What one turn of a loop comes to. -/
inductive Turn (σ ρ : Type)
  | goes (state : σ)
  | ends (result : ρ)

namespace Turn

variable {σ ρ : Type} {step : σ → Turn σ ρ} {measure : σ → Nat}

/-- So many turns lead from the one state to the other. -/
inductive Reaches (step : σ → Turn σ ρ) : σ → Nat → σ → Prop
  | refl {s : σ} : Reaches step s 0 s
  | cons {s s₁ s' : σ} {n : Nat} : step s = .goes s₁ → Reaches step s₁ n s' →
    Reaches step s (n + 1) s'

/-- The loop ends with the result, after no more turns than the bound. -/
def EndsWithin (step : σ → Turn σ ρ) (s : σ) (bound : Nat) (result : ρ) : Prop :=
  ∃ n ≤ bound, ∃ s', Reaches step s n s' ∧ step s' = .ends result

theorem EndsWithin.mono {s : σ} {bound bound' : Nat} {result : ρ}
    (h : EndsWithin step s bound result) (hle : bound ≤ bound') :
    EndsWithin step s bound' result := by
  obtain ⟨n, hn, hrest⟩ := h
  exact ⟨n, Nat.le_trans hn hle, hrest⟩

theorem Reaches.keeps {holds : σ → Prop} (h : ∀ s s', holds s → step s = .goes s' → holds s')
    {s s' : σ} {n : Nat} (hreaches : Reaches step s n s') (hs : holds s) : holds s' := by
  induction hreaches with
  | refl => exact hs
  | cons hstep _ ih => exact ih (h _ _ hs hstep)

/-- A loop ends if each turn with which it goes on lowers a number. -/
theorem exists_endsWithin (h : ∀ s s', step s = .goes s' → measure s' < measure s) (s : σ) :
    ∃ result, EndsWithin step s (measure s) result := by
  induction hn : measure s using Nat.strongRecOn generalizing s with
  | _ n ih =>
    cases hstep : step s with
    | ends result => exact ⟨result, 0, Nat.zero_le n, s, .refl, hstep⟩
    | goes s₁ =>
      have hlt := h s s₁ hstep
      obtain ⟨result, m, hm, s', hreaches, hends⟩ := ih (measure s₁) (hn ▸ hlt) s₁ rfl
      exact ⟨result, m + 1, by omega, s', .cons hstep hreaches, hends⟩

/-- Where it ends, what all turns keep tells the result. -/
theorem endsWithin_of_keeps (h : ∀ s s', step s = .goes s' → measure s' < measure s)
    {holds : σ → Prop} {result : ρ} (hkeeps : ∀ s s', holds s → step s = .goes s' → holds s')
    (hresult : ∀ s r, holds s → step s = .ends r → r = result) {s : σ} (hs : holds s) :
    EndsWithin step s (measure s) result := by
  obtain ⟨r, n, hn, s', hreaches, hends⟩ := exists_endsWithin h s
  obtain rfl := hresult s' r (hreaches.keeps hkeeps hs) hends
  exact ⟨n, hn, s', hreaches, hends⟩

end Turn

namespace Markup

open Text Turn

/-! The loops. -/

section

variable {N : Type}

/-- The way through an element, from behind its start tag, with a counter in `N`. -/
structure Skip (N : Type) where
  cursor : Cursor
  /-- What has been read, last character first. -/
  seen : Text
  /-- How many end tags are still to come. -/
  depth : N

/-- A search for elements: between them, or in one with the cursor behind its start tag. What has
been found stands last first. -/
inductive Extraction (N : Type)
  | seeking (found : List Text) (cursor : Cursor)
  | skipping (found : List Text) (start : Cursor) (skip : Skip N)

namespace Extraction

def ofDocument (document : Text) : Extraction N := .seeking [] (Cursor.ofDocument document)

def cursor : Extraction N → Cursor
  | .seeking _ c => c
  | .skipping _ _ k => k.cursor

/-- Behind an element, which is the last one looked for if `once` is true. -/
def behind (once : Bool) (found : List Text) (c : Cursor) :
    Turn (Extraction N) (Except ExtractError (List Text)) :=
  if once then .ends (.ok found.reverse) else .goes (.seeking found c)

theorem behind_eq_goes {once : Bool} {found : List Text} {c : Cursor} {x : Extraction N} :
    behind once found c = .goes x ↔ once = false ∧ x = .seeking found c := by
  cases once <;> simp [behind, eq_comm]

theorem behind_eq_ends {once : Bool} {found : List Text} {c : Cursor}
    {result : Except ExtractError (List Text)} :
    (behind once found c : Turn (Extraction N) _) = .ends result ↔
      once = true ∧ result = .ok found.reverse := by
  cases once <;> simp [behind, eq_comm]

end Extraction

variable [OfNat N 0] [OfNat N 1] [Add N] [Sub N] [DecidableEq N]

def Skip.step (tag : Text) (k : Skip N) : Turn (Skip N) (Except ExtractError (Text × Cursor)) :=
  match k.cursor.next? with
  | .error f => .ends (.error (.malformed f))
  | .ok none => .ends (.error (.unterminated tag))
  | .ok (some (.start _, lexeme, c)) => .goes ⟨c, lexeme.reverseAux k.seen, k.depth + 1⟩
  | .ok (some (.finish, lexeme, c)) =>
    if k.depth - 1 = 0 then .ends (.ok (k.seen.reverse, c))
    else .goes ⟨c, lexeme.reverseAux k.seen, k.depth - 1⟩
  | .ok (some (_, lexeme, c)) => .goes ⟨c, lexeme.reverseAux k.seen, k.depth⟩

def Extraction.step (once : Bool) (tag : Text) :
    Extraction N → Turn (Extraction N) (Except ExtractError (List Text))
  | .seeking found c =>
    match c.next? with
    | .error f => .ends (.error (.malformed f))
    | .ok none => .ends (.ok found.reverse)
    | .ok (some (.start name, _, c')) =>
      if localName name = tag then .goes (.skipping found c' ⟨c', [], 1⟩)
      else .goes (.seeking found c')
    | .ok (some (.empty name, _, c')) =>
      if localName name = tag then behind once ([] :: found) c' else .goes (.seeking found c')
    | .ok (some (_, _, c')) => .goes (.seeking found c')
  | .skipping found start k =>
    match k.step tag with
    | .goes k' => .goes (.skipping found start k')
    | .ends (.error e) => .ends (.error e)
    | .ends (.ok (content, c)) =>
      match start.given? content with
      | none => .ends (.error .insideCharacter)
      | some given => behind once (given :: found) c

/-- All that a turn on the way through an element can come to. -/
inductive Skip.Takes (tag : Text) (k : Skip N) :
    Turn (Skip N) (Except ExtractError (Text × Cursor)) → Prop
  | malformed {f : Fault} : k.cursor.next? = .error f → Takes tag k (.ends (.error (.malformed f)))
  | unterminated : k.cursor.next? = .ok none → Takes tag k (.ends (.error (.unterminated tag)))
  | start {name lexeme : Text} {c : Cursor} :
    k.cursor.next? = .ok (some (.start name, lexeme, c)) →
    Takes tag k (.goes ⟨c, lexeme.reverseAux k.seen, k.depth + 1⟩)
  | closed {lexeme : Text} {c : Cursor} : k.cursor.next? = .ok (some (.finish, lexeme, c)) →
    k.depth - 1 = 0 → Takes tag k (.ends (.ok (k.seen.reverse, c)))
  | finish {lexeme : Text} {c : Cursor} : k.cursor.next? = .ok (some (.finish, lexeme, c)) →
    k.depth - 1 ≠ 0 → Takes tag k (.goes ⟨c, lexeme.reverseAux k.seen, k.depth - 1⟩)
  | level {e : Event} {lexeme : Text} {c : Cursor} :
    k.cursor.next? = .ok (some (e, lexeme, c)) → (∀ depth, e.depthAfter depth = some depth) →
    Takes tag k (.goes ⟨c, lexeme.reverseAux k.seen, k.depth⟩)

theorem Skip.takes_step (tag : Text) (k : Skip N) : k.Takes tag (k.step tag) := by
  unfold step
  split
  · next hnext => exact .malformed hnext
  · next hnext => exact .unterminated hnext
  · next hnext => exact .start hnext
  · next hnext =>
    split
    · next hdepth => exact .closed hnext hdepth
    · next hdepth => exact .finish hnext hdepth
  · next e lexeme c hstart hfinish hnext =>
    refine .level hnext fun depth => ?_
    cases e with
    | start name => exact absurd rfl (hstart name)
    | finish => exact absurd rfl hfinish
    | empty name | other => rfl

/-- All that a turn of a search can come to. -/
inductive Extraction.Takes (once : Bool) (tag : Text) :
    Extraction N → Turn (Extraction N) (Except ExtractError (List Text)) → Prop
  | malformed {found : List Text} {c : Cursor} {f : Fault} : c.next? = .error f →
    Takes once tag (.seeking found c) (.ends (.error (.malformed f)))
  | nothing {found : List Text} {c : Cursor} : c.next? = .ok none →
    Takes once tag (.seeking found c) (.ends (.ok found.reverse))
  | start {found : List Text} {c c' : Cursor} {name lexeme : Text} :
    c.next? = .ok (some (.start name, lexeme, c')) → localName name = tag →
    Takes once tag (.seeking found c) (.goes (.skipping found c' ⟨c', [], 1⟩))
  | empty {found : List Text} {c c' : Cursor} {name lexeme : Text} :
    c.next? = .ok (some (.empty name, lexeme, c')) → localName name = tag →
    Takes once tag (.seeking found c) (behind once ([] :: found) c')
  | other {found : List Text} {c c' : Cursor} {e : Event} {lexeme : Text} :
    c.next? = .ok (some (e, lexeme, c')) → ¬ e.Begins tag →
    Takes once tag (.seeking found c) (.goes (.seeking found c'))
  | skip {found : List Text} {start : Cursor} {k k' : Skip N} : k.step tag = .goes k' →
    Takes once tag (.skipping found start k) (.goes (.skipping found start k'))
  | unclosed {found : List Text} {start : Cursor} {k : Skip N} {e : ExtractError} :
    k.step tag = .ends (.error e) → Takes once tag (.skipping found start k) (.ends (.error e))
  | insideCharacter {found : List Text} {start c : Cursor} {k : Skip N} {content : Text} :
    k.step tag = .ends (.ok (content, c)) → start.given? content = none →
    Takes once tag (.skipping found start k) (.ends (.error .insideCharacter))
  | element {found : List Text} {start c : Cursor} {k : Skip N} {content given : Text} :
    k.step tag = .ends (.ok (content, c)) → start.given? content = some given →
    Takes once tag (.skipping found start k) (behind once (given :: found) c)

theorem Extraction.takes_step (once : Bool) (tag : Text) (x : Extraction N) :
    x.Takes once tag (x.step once tag) := by
  cases x with
  | seeking found c =>
    simp only [step]
    split
    · next hnext => exact .malformed hnext
    · next hnext => exact .nothing hnext
    · next hnext =>
      split
      · next htag => exact .start hnext htag
      · next htag => exact .other hnext htag
    · next hnext =>
      split
      · next htag => exact .empty hnext htag
      · next htag => exact .other hnext htag
    · next e lexeme c' hstart hempty hnext =>
      refine .other hnext ?_
      cases e with
      | start name => exact absurd rfl (hstart name)
      | empty name => exact absurd rfl (hempty name)
      | finish | other => exact id
  | skipping found start k =>
    simp only [step]
    split
    · next hskip => exact .skip hskip
    · next hskip => exact .unclosed hskip
    · next hskip =>
      split
      · next hgiven => exact .insideCharacter hskip hgiven
      · next hgiven => exact .element hskip hgiven

/-! Each turn reads an event, and each event takes an octet at least. -/

theorem Cursor.byteLength_pos_of_next? {c c' : Cursor} {e : Event} {lexeme : Text}
    (h : c.next? = .ok (some (e, lexeme, c'))) : 0 < byteLength lexeme :=
  Nat.lt_of_lt_of_le (List.length_pos_iff.2 (lexeme_ne_nil_of_next? h)) (length_le_byteLength _)

theorem Cursor.byteLength_lt_of_next? {c c' : Cursor} {e : Event} {lexeme : Text}
    (h : c.next? = .ok (some (e, lexeme, c'))) : byteLength c'.rest < byteLength c.rest := by
  have hpos := byteLength_pos_of_next? h
  rw [rest_eq_of_next? h, byteLength_append]
  omega

theorem Skip.byteLength_lt_of_goes {tag : Text} (k k' : Skip N) (h : k.step tag = .goes k') :
    byteLength k'.cursor.rest < byteLength k.cursor.rest := by
  have htakes := k.takes_step tag
  rw [h] at htakes
  cases htakes with
  | start hnext | finish hnext _ | level hnext _ => exact Cursor.byteLength_lt_of_next? hnext

/-- What ends the way through an element well is an end tag. -/
theorem Skip.exists_next?_of_ends {tag content : Text} {k : Skip N} {c : Cursor}
    (h : k.step tag = .ends (.ok (content, c))) :
    ∃ lexeme, k.cursor.next? = .ok (some (.finish, lexeme, c)) := by
  have htakes := k.takes_step tag
  rw [h] at htakes
  cases htakes with
  | closed hnext _ => exact ⟨_, hnext⟩

theorem Extraction.byteLength_lt_of_goes {once : Bool} {tag : Text} (x x' : Extraction N)
    (h : x.step once tag = .goes x') : byteLength x'.cursor.rest < byteLength x.cursor.rest := by
  have htakes := x.takes_step once tag
  generalize x.step once tag = turn at h htakes
  cases htakes with
  | malformed | nothing | unclosed | insideCharacter => cases h
  | start hnext | other hnext =>
    cases h
    exact Cursor.byteLength_lt_of_next? hnext
  | empty hnext =>
    obtain ⟨-, rfl⟩ := behind_eq_goes.1 h
    exact Cursor.byteLength_lt_of_next? hnext
  | skip hskip =>
    cases h
    exact Skip.byteLength_lt_of_goes _ _ hskip
  | element hskip =>
    obtain ⟨-, rfl⟩ := behind_eq_goes.1 h
    obtain ⟨lexeme, hnext⟩ := Skip.exists_next?_of_ends hskip
    exact Cursor.byteLength_lt_of_next? hnext

end

end Markup

end MachineImage
