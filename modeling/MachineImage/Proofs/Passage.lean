import MachineImage.Proofs.Lexeme

/-!
Reading as a sequence of events. How an event arises from a token is told once, and from it that a
piece of a document in which each element opened is closed gives the same events when it is read by
itself.
-/
namespace MachineImage.Markup

/-- With those elements open the token makes that event, which leaves those open. -/
inductive Makes : Token → List Text → Event → List Text → Prop
  | start {content : Text} {opened : List Text} : content.getLast? ≠ some '/' →
    Makes (.opening content) opened (.start (nameOf content)) (nameOf content :: opened)
  | empty {content : Text} {opened : List Text} : content.getLast? = some '/' →
    Makes (.opening content) opened (.empty (nameOf content.dropLast)) opened
  | finish {content : Text} {opened : List Text} :
    Makes (.closing content) (closingName content :: opened) .finish opened
  | text {chars : Text} {opened : List Text} : Makes (.text chars) opened .other opened
  | reference {name : Text} {opened : List Text} : Makes (.reference name) opened .other opened
  | aside {chars : Text} {opened : List Text} : Makes (.aside chars) opened .other opened

/-- All that reading on by one event can do. -/
theorem Cursor.next?_eq_iff {c c' : Cursor} {e : Event} {lexeme : Text} :
    c.next? = .ok (some (e, lexeme, c')) ↔
      ∃ token opened, scan c.rest = .ok (some (token, c'.rest)) ∧ Makes token c.opened e opened ∧
        lexeme = token.lexeme ∧ c' = ⟨lexeme.reverse ++ c.read, c'.rest, c.isMarked, opened⟩ := by
  constructor
  · intro h
    unfold Cursor.next? at h
    split at h
    · cases h
    · cases h
    · next token rest hs =>
      simp only at h
      split at h
      · next content =>
        split at h
        · next hlast =>
          cases h
          exact ⟨_, _, hs, .empty hlast, rfl, by rw [List.reverseAux_eq]⟩
        · next hlast =>
          cases h
          exact ⟨_, _, hs, .start hlast, rfl, by rw [List.reverseAux_eq]⟩
      · next content =>
        split at h
        · cases h
        · next expected more hopened =>
          split at h
          · next hname =>
            cases h
            rw [hopened, ← hname]
            exact ⟨_, _, hs, .finish, rfl, by rw [List.reverseAux_eq]⟩
          · cases h
      · next hopening hclosing =>
        cases h
        refine ⟨token, c.opened, hs, ?_, rfl, by rw [List.reverseAux_eq]⟩
        cases token with
        | opening content => exact absurd rfl (hopening content)
        | closing content => exact absurd rfl (hclosing content)
        | text chars => exact .text
        | reference name => exact .reference
        | aside chars => exact .aside
  · rintro ⟨token, opened, hs, hmakes, rfl, hc⟩
    obtain ⟨read, rest, isMarked, before⟩ := c
    rw [hc, Cursor.next?, hs]
    cases hmakes with
    | start hlast => simp only [if_neg hlast, List.reverseAux_eq]
    | empty hlast => simp only [if_pos hlast, List.reverseAux_eq]
    | finish => simp only [if_pos, List.reverseAux_eq]
    | text | reference | aside => simp only [List.reverseAux_eq]

theorem Cursor.rest_eq_of_next? {c c' : Cursor} {e : Event} {lexeme : Text}
    (h : c.next? = .ok (some (e, lexeme, c'))) : c.rest = lexeme ++ c'.rest := by
  obtain ⟨token, opened, hscan, -, rfl, -⟩ := next?_eq_iff.1 h
  exact (lexeme_append_of_scan hscan).symm

theorem Cursor.lexeme_ne_nil_of_next? {c c' : Cursor} {e : Event} {lexeme : Text}
    (h : c.next? = .ok (some (e, lexeme, c'))) : lexeme ≠ [] := by
  obtain ⟨token, opened, hscan, -, rfl, -⟩ := next?_eq_iff.1 h
  exact lexeme_ne_nil_of_scan hscan

/-- How many elements are open behind the event, of those inside the one that is looked at, where
`depth` were open before; nothing if it closes that one itself. -/
def Event.depthAfter (depth : Nat) : Event → Option Nat
  | .start _ => some (depth + 1)
  | .finish => if depth = 0 then none else some (depth - 1)
  | _ => some depth

/-- What is open further out has no part in an event inside. -/
theorem Makes.inside {token : Token} {e : Event} {inner outer opened : List Text} {depth : Nat}
    (h : Makes token (inner ++ outer) e opened) (hdepth : e.depthAfter inner.length = some depth) :
    ∃ inner', opened = inner' ++ outer ∧ inner'.length = depth ∧ Makes token inner e inner' := by
  generalize hopen : inner ++ outer = before at h
  cases h with
  | start hlast =>
    cases hdepth
    exact ⟨_, by rw [← hopen, List.cons_append], rfl, .start hlast⟩
  | finish =>
    cases inner with
    | nil => cases hdepth
    | cons name inner =>
      cases hopen
      cases hdepth
      exact ⟨inner, rfl, rfl, .finish⟩
  | empty hlast =>
    cases hdepth
    exact ⟨inner, hopen.symm, rfl, .empty hlast⟩
  | text =>
    cases hdepth
    exact ⟨inner, hopen.symm, rfl, .text⟩
  | reference =>
    cases hdepth
    exact ⟨inner, hopen.symm, rfl, .reference⟩
  | aside =>
    cases hdepth
    exact ⟨inner, hopen.symm, rfl, .aside⟩

/-- An event with the characters of its token. -/
abbrev Piece := Event × Text

def written (es : List Piece) : Text := es.flatMap (·.2)

@[simp] theorem written_nil : written [] = [] := rfl

@[simp] theorem written_cons (e : Event) (lexeme : Text) (es : List Piece) :
    written ((e, lexeme) :: es) = lexeme ++ written es := rfl

@[simp] theorem written_append (es fs : List Piece) :
    written (es ++ fs) = written es ++ written fs :=
  List.flatMap_append

/-- How many elements are open behind the events, as for a single one. -/
def depthAfter (depth : Nat) : List Piece → Option Nat
  | [] => some depth
  | (e, _) :: es => (e.depthAfter depth).bind fun depth => depthAfter depth es

/-- Reading on from the one cursor gives the events and comes to the other. -/
inductive Cursor.Passes : Cursor → List Piece → Cursor → Prop
  | nil {c : Cursor} : Passes c [] c
  | cons {c c₁ c₂ : Cursor} {e : Event} {lexeme : Text} {es : List Piece} :
    c.next? = .ok (some (e, lexeme, c₁)) → Passes c₁ es c₂ → Passes c ((e, lexeme) :: es) c₂

/-- The events up to the end of the document, and the fault that ends it before, if there is one. -/
def Cursor.events (c : Cursor) : List Piece × Option Fault :=
  match _next : c.next? with
  | .error f => ([], some f)
  | .ok none => ([], none)
  | .ok (some (e, lexeme, c')) => ((e, lexeme) :: c'.events.1, c'.events.2)
termination_by c.rest.length
decreasing_by all_goals exact Cursor.length_lt_of_next? _next

namespace Cursor

theorem events_eq (c : Cursor) : c.events = match c.next? with
    | .error f => ([], some f)
    | .ok none => ([], none)
    | .ok (some (e, lexeme, c')) => ((e, lexeme) :: c'.events.1, c'.events.2) := by
  rw [events]
  split <;> next hnext => rw [hnext]

theorem events_of_next? {c c' : Cursor} {e : Event} {lexeme : Text}
    (h : c.next? = .ok (some (e, lexeme, c'))) :
    c.events = ((e, lexeme) :: c'.events.1, c'.events.2) := by
  rw [events_eq, h]

namespace Passes

variable {c c₁ c₂ : Cursor} {es fs : List Piece}

theorem append (h : c.Passes es c₁) (h' : c₁.Passes fs c₂) : c.Passes (es ++ fs) c₂ := by
  induction h with
  | nil => exact h'
  | cons hnext _ ih => exact .cons hnext (ih h')

theorem concat {e : Event} {lexeme : Text} (h : c.Passes es c₁)
    (hnext : c₁.next? = .ok (some (e, lexeme, c₂))) : c.Passes (es ++ [(e, lexeme)]) c₂ :=
  h.append (.cons hnext .nil)

theorem events_eq (h : c.Passes es c₁) : c.events = (es ++ c₁.events.1, c₁.events.2) := by
  induction h with
  | nil => rfl
  | cons hnext _ ih => rw [events_of_next? hnext, ih, List.cons_append]

/-- No character is lost between the events. -/
theorem rest_eq (h : c.Passes es c₁) : c.rest = written es ++ c₁.rest := by
  induction h with
  | nil => rfl
  | cons hnext _ ih =>
    rw [written_cons, List.append_assoc, ← ih, rest_eq_of_next? hnext]

theorem read_eq (h : c.Passes es c₁) : c₁.read = (written es).reverse ++ c.read := by
  induction h with
  | nil => rfl
  | cons hnext _ ih =>
    obtain ⟨token, opened, -, -, rfl, hc⟩ := next?_eq_iff.1 hnext
    rw [ih, hc, written_cons, List.reverse_append, List.append_assoc]

theorem isMarked_eq (h : c.Passes es c₁) : c₁.isMarked = c.isMarked := by
  induction h with
  | nil => rfl
  | cons hnext _ ih =>
    obtain ⟨token, opened, -, -, -, hc⟩ := next?_eq_iff.1 hnext
    rw [ih, hc]

/-- Events inside an element are read in the same way where nothing further out is open, with
anything behind them that cannot belong to the last of them. -/
theorem inside (h : c.Passes es c₁) {inner outer : List Text} (hopened : c.opened = inner ++ outer)
    {depth : Nat} (hdepth : depthAfter inner.length es = some depth) {more : Text}
    (hmore : more = [] ∨ more.head? = c₁.rest.head?) (read : Text) (isMarked : Bool) :
    ∃ inner', c₁.opened = inner' ++ outer ∧ inner'.length = depth ∧
      Passes ⟨read, written es ++ more, isMarked, inner⟩ es
        ⟨(written es).reverse ++ read, more, isMarked, inner'⟩ := by
  induction h generalizing inner read with
  | nil => exact ⟨inner, hopened, Option.some.inj hdepth, .nil⟩
  | @cons c c₁ c₂ e lexeme es hnext hrest ih =>
    obtain ⟨token, opened, hscan, hmakes, rfl, hc⟩ := next?_eq_iff.1 hnext
    obtain ⟨depth₁, hdepth₁, hdepth₂⟩ := Option.bind_eq_some_iff.1 hdepth
    rw [hopened] at hmakes
    obtain ⟨inner₁, rfl, hlength, hinside⟩ := hmakes.inside hdepth₁
    have hbehind : written es ++ more = [] ∨ (written es ++ more).head? = c₁.rest.head? := by
      rw [hrest.rest_eq]
      cases written es with
      | nil => exact hmore
      | cons c s => exact .inr rfl
    have hfirst : Cursor.next? ⟨read, token.lexeme ++ (written es ++ more), isMarked, inner⟩ =
        .ok (some (e, token.lexeme,
          ⟨token.lexeme.reverse ++ read, written es ++ more, isMarked, inner₁⟩)) :=
      next?_eq_iff.2 ⟨token, inner₁, scan_lexeme hscan hbehind, hinside, rfl, rfl⟩
    rw [← hlength] at hdepth₂
    obtain ⟨inner₂, hopened₂, hlength₂, hpasses⟩ :=
      ih (by rw [hc]) hdepth₂ hmore (token.lexeme.reverse ++ read)
    refine ⟨inner₂, hopened₂, hlength₂, ?_⟩
    rw [written_cons, List.append_assoc, List.reverse_append, List.append_assoc]
    exact .cons hfirst hpasses

/-- What an element contains gives the same events by itself. -/
theorem events_inside (h : c.Passes es c₁) (hdepth : depthAfter 0 es = some 0) (read : Text)
    (isMarked : Bool) : Cursor.events ⟨read, written es, isMarked, []⟩ = (es, none) := by
  obtain ⟨inner, -, hlength, hpasses⟩ :=
    h.inside (List.nil_append c.opened).symm hdepth (.inl (Eq.refl ([] : Text))) read isMarked
  rw [List.append_nil] at hpasses
  rw [hpasses.events_eq, Cursor.events_eq, Cursor.next?, scan, List.append_nil]

end Passes

variable {tag seen content : Text} {depth : Nat} {c c' : Cursor}

/-- An element is closed by the first end tag that does not close one inside it. -/
theorem exists_of_close (h : c.close tag depth seen = .ok (content, c')) :
    ∃ es c₁ lexeme, c.Passes es c₁ ∧ depthAfter depth es = some 0 ∧
      content = seen.reverse ++ written es ∧ c₁.next? = .ok (some (.finish, lexeme, c')) := by
  fun_induction Cursor.close tag depth seen c with
  | case1 => cases h
  | case2 => cases h
  | case3 depth seen c name lexeme c₁ hnext ih =>
    obtain ⟨es, c₂, closing, hpasses, hdepth, rfl, hclosing⟩ := ih h
    exact ⟨_, c₂, closing, .cons hnext hpasses, hdepth, by simp, hclosing⟩
  | case4 seen c lexeme c₁ hnext =>
    cases h
    exact ⟨[], c, lexeme, .nil, rfl, (List.append_nil _).symm, hnext⟩
  | case5 seen c lexeme c₁ hnext depth ih =>
    obtain ⟨es, c₂, closing, hpasses, hdepth, rfl, hclosing⟩ := ih h
    exact ⟨_, c₂, closing, .cons hnext hpasses, hdepth, by simp, hclosing⟩
  | case6 depth seen c e lexeme c₁ hstart hfinish hnext ih =>
    obtain ⟨es, c₂, closing, hpasses, hdepth, rfl, hclosing⟩ := ih h
    refine ⟨_, c₂, closing, .cons hnext hpasses, ?_, by simp, hclosing⟩
    cases e with
    | start name => exact absurd rfl (hstart name)
    | finish => exact absurd rfl hfinish
    | empty name | other => exact hdepth

/-- An element is not closed where reading stops inside it. -/
theorem exists_of_close_error {e : ExtractError} (h : c.close tag depth seen = .error e) :
    ∃ es c₁ depth', c.Passes es c₁ ∧ depthAfter depth es = some depth' ∧
      (c₁.next? = .ok none ∧ e = .unterminated tag ∨
        ∃ f, c₁.next? = .error f ∧ e = .malformed f) := by
  fun_induction Cursor.close tag depth seen c with
  | case1 depth seen c f hnext =>
    cases h
    exact ⟨[], c, depth, .nil, rfl, .inr ⟨f, hnext, rfl⟩⟩
  | case2 depth seen c hnext =>
    cases h
    exact ⟨[], c, depth, .nil, rfl, .inl ⟨hnext, rfl⟩⟩
  | case3 depth seen c name lexeme c₁ hnext ih =>
    obtain ⟨es, c₂, depth', hpasses, hdepth, hstop⟩ := ih h
    exact ⟨_, c₂, depth', .cons hnext hpasses, hdepth, hstop⟩
  | case4 => cases h
  | case5 seen c lexeme c₁ hnext depth ih =>
    obtain ⟨es, c₂, depth', hpasses, hdepth, hstop⟩ := ih h
    exact ⟨_, c₂, depth', .cons hnext hpasses, hdepth, hstop⟩
  | case6 depth seen c e' lexeme c₁ hstart hfinish hnext ih =>
    obtain ⟨es, c₂, depth', hpasses, hdepth, hstop⟩ := ih h
    refine ⟨_, c₂, depth', .cons hnext hpasses, ?_, hstop⟩
    cases e' with
    | start name => exact absurd rfl (hstart name)
    | finish => exact absurd rfl hfinish
    | empty name | other => exact hdepth

end Cursor

/-- The event begins an element with that local name. -/
def Event.Begins (tag : Text) : Event → Prop
  | .start name | .empty name => localName name = tag
  | _ => False

namespace Cursor

/-- Between the two cursors no element with that local name begins. -/
def Skips (tag : Text) (c c' : Cursor) : Prop :=
  ∃ es, c.Passes es c' ∧ ∀ p ∈ es, ¬ p.1.Begins tag

theorem Skips.refl (tag : Text) (c : Cursor) : c.Skips tag c :=
  ⟨[], .nil, fun _ hp => absurd hp List.not_mem_nil⟩

theorem Skips.cons {tag lexeme : Text} {c c₁ c₂ : Cursor} {e : Event}
    (hnext : c.next? = .ok (some (e, lexeme, c₁))) (he : ¬ e.Begins tag) (h : c₁.Skips tag c₂) :
    c.Skips tag c₂ := by
  obtain ⟨es, hpasses, hes⟩ := h
  exact ⟨_, .cons hnext hpasses, List.forall_mem_cons.2 ⟨he, hes⟩⟩

/-- All that looking for the next element can come to. -/
inductive Finds (tag : Text) (c : Cursor) : Except ExtractError (Option (Text × Cursor)) → Prop
  | nothing {c₁ : Cursor} : c.Skips tag c₁ → c₁.next? = .ok none → Finds tag c (.ok none)
  | malformed {c₁ : Cursor} {f : Fault} : c.Skips tag c₁ → c₁.next? = .error f →
    Finds tag c (.error (.malformed f))
  | empty {c₁ c₂ : Cursor} {name lexeme : Text} : c.Skips tag c₁ →
    c₁.next? = .ok (some (.empty name, lexeme, c₂)) → localName name = tag →
    Finds tag c (.ok (some ([], c₂)))
  | unclosed {c₁ c₂ : Cursor} {name lexeme : Text} {e : ExtractError} : c.Skips tag c₁ →
    c₁.next? = .ok (some (.start name, lexeme, c₂)) → localName name = tag →
    c₂.close tag 0 [] = .error e → Finds tag c (.error e)
  | element {c₁ c₂ c₃ : Cursor} {name lexeme content given : Text} : c.Skips tag c₁ →
    c₁.next? = .ok (some (.start name, lexeme, c₂)) → localName name = tag →
    c₂.close tag 0 [] = .ok (content, c₃) → c₂.given? content = some given →
    Finds tag c (.ok (some (given, c₃)))
  | insideCharacter {c₁ c₂ c₃ : Cursor} {name lexeme content : Text} : c.Skips tag c₁ →
    c₁.next? = .ok (some (.start name, lexeme, c₂)) → localName name = tag →
    c₂.close tag 0 [] = .ok (content, c₃) → c₂.given? content = none →
    Finds tag c (.error .insideCharacter)

theorem Finds.behind {tag lexeme : Text} {c c₁ : Cursor} {e : Event}
    {result : Except ExtractError (Option (Text × Cursor))}
    (hnext : c.next? = .ok (some (e, lexeme, c₁))) (he : ¬ e.Begins tag)
    (h : c₁.Finds tag result) : c.Finds tag result := by
  cases h with
  | nothing hskips hend => exact .nothing (hskips.cons hnext he) hend
  | malformed hskips hfault => exact .malformed (hskips.cons hnext he) hfault
  | empty hskips hempty htag => exact .empty (hskips.cons hnext he) hempty htag
  | unclosed hskips hstart htag hclose => exact .unclosed (hskips.cons hnext he) hstart htag hclose
  | element hskips hstart htag hclose hgiven =>
    exact .element (hskips.cons hnext he) hstart htag hclose hgiven
  | insideCharacter hskips hstart htag hclose hgiven =>
    exact .insideCharacter (hskips.cons hnext he) hstart htag hclose hgiven

/-- The cursor behind an element is reached. -/
theorem Finds.exists_passes {tag content : Text} {c c' : Cursor}
    (h : c.Finds tag (.ok (some (content, c')))) : ∃ es, c.Passes es c' := by
  cases h with
  | empty hskips hempty _ =>
    obtain ⟨es, hpasses, -⟩ := hskips
    exact ⟨_, hpasses.concat hempty⟩
  | element hskips hstart _ hclose _ =>
    obtain ⟨es, hpasses, -⟩ := hskips
    obtain ⟨inside, c₃, closing, hinside, -, -, hclosing⟩ := exists_of_close hclose
    exact ⟨_, (hpasses.concat hstart).append (hinside.concat hclosing)⟩

theorem finds_find? (tag : Text) (c : Cursor) : c.Finds tag (c.find? tag) := by
  fun_induction Cursor.find? tag c with
  | case1 c f hnext => exact .malformed (.refl tag c) hnext
  | case2 c hnext => exact .nothing (.refl tag c) hnext
  | case3 c name lexeme c' hnext htag e hclose => exact .unclosed (.refl tag c) hnext htag hclose
  | case4 c name lexeme c' hnext htag content c₁ hclose hgiven =>
    exact .insideCharacter (.refl tag c) hnext htag hclose hgiven
  | case5 c name lexeme c' hnext htag raw c₁ hclose content hgiven =>
    exact .element (.refl tag c) hnext htag hclose hgiven
  | case6 c name lexeme c' hnext htag ih => exact ih.behind hnext htag
  | case7 c name lexeme c' hnext htag => exact .empty (.refl tag c) hnext htag
  | case8 c name lexeme c' hnext htag ih => exact ih.behind hnext htag
  | case9 c e lexeme c' hstart hempty hnext ih =>
    refine ih.behind hnext ?_
    cases e with
    | start name => exact absurd rfl (hstart name)
    | empty name => exact absurd rfl (hempty name)
    | finish | other => exact id

end Cursor

end MachineImage.Markup
