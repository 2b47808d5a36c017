import MachineImage.Proofs.Forest
import MachineImage.Proofs.Response
import MachineImage.Proofs.Turn

/-!
The counter with which extraction passes over an element. It is one more than the number of elements
that are open inside, and in a body that can be received 32 bits are enough for it.
-/
namespace MachineImage.Markup

open Text Turn

/-! The elements that are open, counted from the events. -/

def Event.isStart : Event → Bool
  | .start _ => true
  | _ => false

def starts (es : List Piece) : Nat := es.countP (·.1.isStart)

def finishes (es : List Piece) : Nat := es.countP (·.1 = .finish)

theorem depthAfter_concat (depth : Nat) (es : List Piece) (e : Event) (lexeme : Text) :
    depthAfter depth (es ++ [(e, lexeme)]) =
      (depthAfter depth es).bind fun depth => e.depthAfter depth := by
  induction es generalizing depth with
  | nil => simp [depthAfter]
  | cons p es ih =>
    simp only [List.cons_append, depthAfter, Option.bind_assoc]
    exact Option.bind_congr fun depth _ => ih depth

theorem starts_cons (e : Event) (lexeme : Text) (es : List Piece) :
    starts ((e, lexeme) :: es) = starts es + if e.isStart then 1 else 0 :=
  List.countP_cons

theorem finishes_cons (e : Event) (lexeme : Text) (es : List Piece) :
    finishes ((e, lexeme) :: es) = finishes es + if e = .finish then 1 else 0 := by
  simp [finishes, List.countP_cons]

theorem starts_add_eq {depth depth' : Nat} {es : List Piece}
    (h : depthAfter depth es = some depth') : starts es + depth = finishes es + depth' := by
  induction es generalizing depth with
  | nil =>
    cases h
    rfl
  | cons p es ih =>
    obtain ⟨e, lexeme⟩ := p
    obtain ⟨depth₁, hdepth₁, hdepth₂⟩ := Option.bind_eq_some_iff.1 h
    have hrest := ih hdepth₂
    rw [starts_cons, finishes_cons]
    cases e with
    | start name =>
      cases hdepth₁
      simp only [Event.isStart, if_true, reduceCtorEq, if_false]
      omega
    | finish =>
      simp only [Event.depthAfter] at hdepth₁
      split at hdepth₁ <;> cases hdepth₁
      simp only [Event.isStart, if_true, Bool.false_eq_true, if_false]
      omega
    | empty name | other =>
      cases hdepth₁
      simp only [Event.isStart, Bool.false_eq_true, reduceCtorEq, if_false]
      omega

namespace Cursor

variable {c c' : Cursor} {es : List Piece}

/-- So many events take as many octets at least. -/
theorem Passes.length_add_le (h : c.Passes es c') :
    es.length + byteLength c'.rest ≤ byteLength c.rest := by
  induction h with
  | nil => simp
  | cons hnext _ ih =>
    have hlt := byteLength_lt_of_next? hnext
    rw [List.length_cons]
    omega

theorem byteLength_ofDocument_le (document : Text) :
    byteLength (ofDocument document).rest ≤ byteLength document := by
  unfold ofDocument
  split
  · exact Nat.le_add_left _ _
  · exact Nat.le_refl _

variable {tag seen : Text} {depth depth' : Nat} {e : Event} {lexeme : Text}

theorem close_of_next? (h : c.next? = .ok (some (e, lexeme, c')))
    (hdepth : e.depthAfter depth = some depth') :
    c.close tag depth seen = c'.close tag depth' (lexeme.reverseAux seen) := by
  rw [close.eq_def _ _ _ c, h]
  cases e with
  | finish =>
    simp only [Event.depthAfter] at hdepth
    split at hdepth <;> cases hdepth
    obtain _ | depth := depth
    · contradiction
    · rfl
  | start name | empty name | other =>
    cases hdepth
    rfl

theorem close_of_finish (h : c.next? = .ok (some (.finish, lexeme, c'))) :
    c.close tag 0 seen = .ok (seen.reverse, c') := by
  rw [close, h]

theorem close_of_error {f : Fault} (h : c.next? = .error f) :
    c.close tag depth seen = .error (.malformed f) := by
  rw [close, h]

theorem close_of_end (h : c.next? = .ok none) :
    c.close tag depth seen = .error (.unterminated tag) := by
  rw [close, h]

/-- In the document an element with that local name has begun, behind whose start tag the cursor
stands. -/
def IsBehindStart (start : Cursor) (document tag : Text) : Prop :=
  ∃ before c name lexeme, (ofDocument document).Passes before c ∧
    c.next? = .ok (some (.start name, lexeme, start)) ∧ localName name = tag

theorem IsBehindStart.byteLength_lt {document tag : Text} {start : Cursor}
    (h : start.IsBehindStart document tag) : byteLength start.rest < byteLength document := by
  obtain ⟨before, c, name, lexeme, hpasses, hnext, -⟩ := h
  have hlt := byteLength_lt_of_next? hnext
  have hle := hpasses.length_add_le
  have hdocument := byteLength_ofDocument_le document
  omega

theorem IsBehindStart.exists_passes {document tag : Text} {start : Cursor}
    (h : start.IsBehindStart document tag) : ∃ es, (ofDocument document).Passes es start := by
  obtain ⟨before, c, name, lexeme, hpasses, hnext, -⟩ := h
  exact ⟨_, hpasses.concat hnext⟩

end Cursor

/-- From the one cursor to the other, events open the elements with these names, innermost first,
and do not close them, nor what is open at the first cursor. -/
structure OpenSince (start c : Cursor) (since : List Piece) (inner : List Text) : Prop where
  passes : start.Passes since c
  opened_eq : c.opened = inner ++ start.opened
  depthAfter_eq : depthAfter 0 since = some inner.length
  starts_eq : starts since = finishes since + inner.length

theorem Cursor.Passes.exists_openSince {start c : Cursor} {since : List Piece} {depth : Nat}
    (h : start.Passes since c) (hdepth : depthAfter 0 since = some depth) :
    ∃ inner, OpenSince start c since inner ∧ inner.length = depth := by
  obtain ⟨inner, hopened, rfl, -⟩ :=
    h.inside (List.nil_append start.opened).symm hdepth (.inl (Eq.refl ([] : Text))) [] false
  exact ⟨inner, ⟨h, hopened, hdepth, by simpa using starts_add_eq hdepth⟩, rfl⟩

/-! The way through an element. -/

section

variable {N : Type} {count : Nat → N} {value : N → Int} {limit : Nat} {tag : Text}

/-- The way through an element has come so far: behind those events so many elements are open
inside, and going on comes to what going through all of it comes to. -/
structure Skip.Stands (count : Nat → N) (tag : Text) (start : Cursor) (k : Skip N)
    (since : List Piece) (depth : Nat) : Prop where
  passes : start.Passes since k.cursor
  depthAfter_eq : depthAfter 0 since = some depth
  depth_eq : k.depth = count (depth + 1)
  close_eq : k.cursor.close tag depth k.seen = start.close tag 0 []

namespace Skip.Stands

variable {start : Cursor} {k : Skip N} {since : List Piece} {depth : Nat}

/-- An element that is open inside has taken an octet at least. -/
theorem depth_add_le (h : k.Stands count tag start since depth) :
    depth + byteLength k.cursor.rest ≤ byteLength start.rest := by
  have hstarts := starts_add_eq h.depthAfter_eq
  have hlength : starts since ≤ since.length := List.countP_le_length
  have hle := h.passes.length_add_le
  omega

/-- With an event that does not close the element, the counter has to follow the depth. -/
theorem next (h : k.Stands count tag start since depth) {e : Event} {lexeme : Text} {c : Cursor}
    {depth' : Nat} (hnext : k.cursor.next? = .ok (some (e, lexeme, c)))
    (hdepth : e.depthAfter depth = some depth') :
    Skip.Stands count tag start ⟨c, lexeme.reverseAux k.seen, count (depth' + 1)⟩
      (since ++ [(e, lexeme)]) depth' := by
  refine ⟨h.passes.concat hnext, ?_, rfl, ?_⟩
  · rw [depthAfter_concat, h.depthAfter_eq]
    exact hdepth
  · rw [← h.close_eq, Cursor.close_of_next? hnext hdepth]

end Skip.Stands

variable [OfNat N 0] [OfNat N 1] [Add N] [Sub N]

/-- The numbers of `N` stand for the natural ones, and tell apart those below the limit. -/
structure IsCounter (count : Nat → N) (value : N → Int) (limit : Nat) : Prop where
  zero : count 0 = 0
  one : count 1 = 1
  add_one : ∀ n, count n + 1 = count (n + 1)
  sub_one : ∀ n, count (n + 1) - 1 = count n
  value_count : ∀ n < limit, value (count n) = n

theorem IsCounter.eq_zero_iff (h : IsCounter count value limit) {n : Nat} (hn : n < limit) :
    count n = 0 ↔ n = 0 := by
  constructor
  · intro hzero
    have hvalue := h.value_count n hn
    rw [hzero, ← h.zero, h.value_count 0 (by omega)] at hvalue
    omega
  · rintro rfl
    exact h.zero

/-- Whole numbers count without a limit. -/
theorem isCounter_int (limit : Nat) : IsCounter (fun n => (n : Int)) (fun n => n) limit where
  zero := rfl
  one := rfl
  add_one n := rfl
  sub_one n := by omega
  value_count n _ := rfl

/-- Numbers of 32 bits start anew behind the last of them. -/
theorem isCounter_word : IsCounter UInt32.ofNat (fun n => (n.toNat : Int)) UInt32.size where
  zero := rfl
  one := rfl
  add_one n := (UInt32.ofNat_add n 1).symm
  sub_one n := by
    rw [UInt32.ofNat_add]
    exact UInt32.add_sub_cancel _ _
  value_count n hn := by rw [UInt32.toNat_ofNat_of_lt' hn]

theorem Skip.Stands.begin (hcounter : IsCounter count value limit) (tag : Text) (start : Cursor) :
    Skip.Stands count tag start ⟨start, [], 1⟩ [] 0 :=
  ⟨.nil, rfl, hcounter.one.symm, rfl⟩

variable [DecidableEq N]

namespace Skip.Stands

variable {start : Cursor} {k k' : Skip N} {since : List Piece} {depth : Nat}

theorem goes (hcounter : IsCounter count value limit)
    (h : k.Stands count tag start since depth) (hstep : k.step tag = .goes k') :
    ∃ since' depth', k'.Stands count tag start since' depth' := by
  have htakes := k.takes_step tag
  rw [hstep] at htakes
  cases htakes with
  | start hnext =>
    rw [h.depth_eq, hcounter.add_one]
    exact ⟨_, depth + 1, h.next hnext rfl⟩
  | finish hnext hdepth =>
    rw [h.depth_eq, hcounter.sub_one] at hdepth ⊢
    obtain _ | depth := depth
    · exact absurd hcounter.zero hdepth
    · exact ⟨_, depth, h.next hnext rfl⟩
  | level hnext hlevel =>
    rw [h.depth_eq]
    exact ⟨_, depth, h.next hnext (hlevel depth)⟩

theorem ends (hcounter : IsCounter count value limit) (hlimit : byteLength start.rest < limit)
    (h : k.Stands count tag start since depth) {result : Except ExtractError (Text × Cursor)}
    (hstep : k.step tag = .ends result) : result = start.close tag 0 [] := by
  have hlt := h.depth_add_le
  rw [← h.close_eq]
  have htakes := k.takes_step tag
  rw [hstep] at htakes
  cases htakes with
  | malformed hnext => rw [Cursor.close_of_error hnext]
  | unterminated hnext => rw [Cursor.close_of_end hnext]
  | closed hnext hdepth =>
    rw [h.depth_eq, hcounter.sub_one, hcounter.eq_zero_iff (by omega)] at hdepth
    rw [hdepth, Cursor.close_of_finish hnext]

end Skip.Stands

/-- The way through an element ends, after no more turns than the document has octets behind the
start tag. -/
theorem Skip.endsWithin_close (hcounter : IsCounter count value limit)
    (tag : Text) {start : Cursor} (hlimit : byteLength start.rest < limit) :
    EndsWithin (Skip.step tag) (⟨start, [], 1⟩ : Skip N) (byteLength start.rest)
      (start.close tag 0 []) := by
  have hkeeps : ∀ k k' : Skip N, (∃ since depth, k.Stands count tag start since depth) →
      k.step tag = .goes k' → ∃ since depth, k'.Stands count tag start since depth :=
    fun _ _ ⟨_, _, hk⟩ hstep => hk.goes hcounter hstep
  exact endsWithin_of_keeps Skip.byteLength_lt_of_goes hkeeps
    (fun _ _ ⟨_, _, hk⟩ hstep => hk.ends hcounter hlimit hstep) ⟨[], 0, .begin hcounter tag start⟩

end

/-- What an element gives whose start tag ends at the cursor, by where its end tag is found. -/
def Cursor.element (start : Cursor) :
    Except ExtractError (Text × Cursor) → Except ExtractError (Option (Text × Cursor))
  | .error e => .error e
  | .ok (content, behind) =>
    match start.given? content with
    | none => .error .insideCharacter
    | some given => .ok (some (given, behind))

/-- What a search comes to that has found some elements and comes upon that one next. -/
def gathered (once : Bool) (tag : Text) (found : List Text) :
    Except ExtractError (Option (Text × Cursor)) → Except ExtractError (List Text)
  | .error e => .error e
  | .ok none => .ok found.reverse
  | .ok (some (given, c)) =>
    if once then .ok (given :: found).reverse else c.findAll tag (given :: found)

/-- What is extracted, all elements or the first one. -/
def extracted (once : Bool) (body tag : Text) : Except ExtractError (List Text) :=
  if once then (extractFirst body tag).map Option.toList else extractAll body tag

namespace Cursor

variable {tag name lexeme : Text} {c c' : Cursor}

theorem find?_of_start (h : c.next? = .ok (some (.start name, lexeme, c')))
    (htag : localName name = tag) : c.find? tag = c'.element (c'.close tag 0 []) := by
  rw [find?, h]
  simp only [if_pos htag]
  cases c'.close tag 0 [] with
  | error e => rfl
  | ok p => rfl

theorem find?_of_empty (h : c.next? = .ok (some (.empty name, lexeme, c')))
    (htag : localName name = tag) : c.find? tag = .ok (some ([], c')) := by
  rw [find?, h]
  simp only [if_pos htag]

theorem find?_of_other {e : Event} (h : c.next? = .ok (some (e, lexeme, c')))
    (he : ¬ e.Begins tag) : c.find? tag = c'.find? tag := by
  rw [find?.eq_def tag c, h]
  cases e with
  | start name | empty name =>
    have hname : localName name ≠ tag := he
    simp only [if_neg hname]
  | finish | other => rfl

theorem find?_of_error {f : Fault} (h : c.next? = .error f) :
    c.find? tag = .error (.malformed f) := by
  rw [find?, h]

theorem find?_of_end (h : c.next? = .ok none) : c.find? tag = .ok none := by
  rw [find?, h]

end Cursor

theorem gathered_findAll (tag : Text) (found : List Text) (c : Cursor) :
    gathered false tag found (c.find? tag) = c.findAll tag found := by
  rw [Cursor.findAll_eq]
  rcases c.find? tag with e | _ | p <;> rfl

theorem gathered_ofDocument (once : Bool) (body tag : Text) :
    gathered once tag [] ((Cursor.ofDocument body).find? tag) = extracted once body tag := by
  cases once with
  | false => exact gathered_findAll tag [] _
  | true =>
    rw [extracted, if_pos rfl, extractFirst]
    rcases (Cursor.ofDocument body).find? tag with e | _ | p <;> rfl

section

variable {N : Type} [OfNat N 0] [OfNat N 1] [Add N] [Sub N] [DecidableEq N] {count : Nat → N}
  {value : N → Int} {limit : Nat} {once : Bool} {body tag : Text}

namespace Extraction

/-- A search has come so far, and going on comes to what is extracted. -/
inductive Stands (count : Nat → N) (once : Bool) (body tag : Text) : Extraction N → Prop
  | seeking {found : List Text} {c : Cursor} {before : List Piece} :
    (Cursor.ofDocument body).Passes before c →
    gathered once tag found (c.find? tag) = extracted once body tag →
    Stands count once body tag (.seeking found c)
  | skipping {found : List Text} {start : Cursor} {k : Skip N} {since : List Piece} {depth : Nat} :
    start.IsBehindStart body tag → k.Stands count tag start since depth →
    gathered once tag found (start.element (start.close tag 0 [])) = extracted once body tag →
    Stands count once body tag (.skipping found start k)

variable {x x' : Extraction N}

/-- Where the way through an element ends, it tells what the search comes to. -/
theorem Stands.gathered_eq (hcounter : IsCounter count value limit)
    (hlimit : byteLength body ≤ limit) {found : List Text} {start : Cursor} {k : Skip N}
    (h : Stands count once body tag (.skipping found start k))
    {result : Except ExtractError (Text × Cursor)} (hskip : k.step tag = .ends result) :
    gathered once tag found (start.element result) = extracted once body tag := by
  cases h with
  | skipping hstart hk hgathered =>
    have hlt := hstart.byteLength_lt
    rw [hk.ends hcounter (by omega) hskip, hgathered]

theorem Stands.goes (hcounter : IsCounter count value limit) (hlimit : byteLength body ≤ limit)
    (h : x.Stands count once body tag) (hstep : x.step once tag = .goes x') :
    x'.Stands count once body tag := by
  have htakes := x.takes_step once tag
  generalize x.step once tag = turn at hstep htakes
  cases htakes with
  | malformed | nothing | unclosed | insideCharacter => cases hstep
  | start hnext htag =>
    cases hstep
    cases h with
    | seeking hpasses hgathered =>
      refine .skipping ⟨_, _, _, _, hpasses, hnext, htag⟩ (.begin hcounter tag _) ?_
      rw [← hgathered, Cursor.find?_of_start hnext htag]
  | empty hnext htag =>
    obtain ⟨rfl, rfl⟩ := behind_eq_goes.1 hstep
    cases h with
    | seeking hpasses hgathered =>
      refine .seeking (hpasses.concat hnext) ?_
      rw [gathered_findAll, ← hgathered, Cursor.find?_of_empty hnext htag]
      rfl
  | other hnext htag =>
    cases hstep
    cases h with
    | seeking hpasses hgathered =>
      refine .seeking (hpasses.concat hnext) ?_
      rw [← hgathered, Cursor.find?_of_other hnext htag]
  | skip hskip =>
    cases hstep
    cases h with
    | skipping hstart hk hgathered =>
      obtain ⟨since, depth, hk'⟩ := hk.goes hcounter hskip
      exact .skipping hstart hk' hgathered
  | element hskip hgiven =>
    obtain ⟨rfl, rfl⟩ := behind_eq_goes.1 hstep
    have hgathered := h.gathered_eq hcounter hlimit hskip
    obtain ⟨lexeme, hnext⟩ := Skip.exists_next?_of_ends hskip
    cases h with
    | skipping hstart hk _ =>
      obtain ⟨before, hpasses⟩ := hstart.exists_passes
      refine .seeking ((hpasses.append hk.passes).concat hnext) ?_
      rw [gathered_findAll, ← hgathered, Cursor.element, hgiven]
      rfl

theorem Stands.ends (hcounter : IsCounter count value limit) (hlimit : byteLength body ≤ limit)
    (h : x.Stands count once body tag) {result : Except ExtractError (List Text)}
    (hstep : x.step once tag = .ends result) : result = extracted once body tag := by
  have htakes := x.takes_step once tag
  generalize x.step once tag = turn at hstep htakes
  cases htakes with
  | start | other | skip => cases hstep
  | malformed hnext =>
    cases hstep
    cases h with
    | seeking _ hgathered => rw [← hgathered, Cursor.find?_of_error hnext, gathered]
  | nothing hnext =>
    cases hstep
    cases h with
    | seeking _ hgathered => rw [← hgathered, Cursor.find?_of_end hnext, gathered]
  | empty hnext htag =>
    obtain ⟨rfl, rfl⟩ := behind_eq_ends.1 hstep
    cases h with
    | seeking _ hgathered =>
      rw [← hgathered, Cursor.find?_of_empty hnext htag]
      rfl
  | unclosed hskip =>
    cases hstep
    rw [← h.gathered_eq hcounter hlimit hskip]
    rfl
  | insideCharacter hskip hgiven =>
    cases hstep
    rw [← h.gathered_eq hcounter hlimit hskip, Cursor.element, hgiven]
    rfl
  | element hskip hgiven =>
    obtain ⟨rfl, rfl⟩ := behind_eq_ends.1 hstep
    rw [← h.gathered_eq hcounter hlimit hskip, Cursor.element, hgiven]
    rfl

end Extraction

/-- The search ends with what is extracted, after no more turns than the body has octets. Whenever
it is on its way through an element, its counter is one more than the elements open since then. -/
structure CountsDepth (once : Bool) (body tag : Text) (value : N → Int) : Prop where
  endsWithin : EndsWithin (Extraction.step once tag) (.ofDocument body : Extraction N)
    (byteLength body) (extracted once body tag)
  depth_eq : ∀ n found start (k : Skip N),
    Reaches (Extraction.step once tag) (.ofDocument body) n (.skipping found start k) →
    start.IsBehindStart body tag ∧ ∃ since inner, OpenSince start k.cursor since inner ∧
      value k.depth = 1 + inner.length ∧ 1 + inner.length ≤ byteLength body

theorem IsCounter.countsDepth (hcounter : IsCounter count value limit)
    (hlimit : byteLength body < limit) : CountsDepth once body tag value := by
  have hle : byteLength body ≤ limit := Nat.le_of_lt hlimit
  have hkeeps : ∀ x x' : Extraction N, x.Stands count once body tag →
      x.step once tag = .goes x' → x'.Stands count once body tag :=
    fun _ _ hx hstep => hx.goes hcounter hle hstep
  have hbegun : Extraction.Stands count once body tag (.ofDocument body) :=
    .seeking .nil (gathered_ofDocument once body tag)
  constructor
  · have hends := endsWithin_of_keeps Extraction.byteLength_lt_of_goes hkeeps
      (fun _ _ hx hstep => hx.ends hcounter hle hstep) hbegun
    exact hends.mono (Cursor.byteLength_ofDocument_le body)
  · intro n found start k hreaches
    cases hreaches.keeps hkeeps hbegun with
    | skipping hstart hk _ =>
      obtain ⟨inner, hopen, rfl⟩ := hk.passes.exists_openSince hk.depthAfter_eq
      have hdepth := hk.depth_add_le
      have hlt := hstart.byteLength_lt
      refine ⟨hstart, _, inner, hopen, ?_, by omega⟩
      rw [hk.depth_eq, hcounter.value_count _ (by omega)]
      omega

end

/-- A body that is received has no more octets than the limit allows. -/
theorem byteLength_le_of_received {host body : Text} {limit : Nat} {reads : List Wire.Read}
    {response : Octets} (hresponse : Wire.readResponse host limit reads = .ok response)
    (hbody : Wire.apiBody response = .ok body) : byteLength body ≤ limit := by
  obtain ⟨-, hlimit⟩ := (Wire.readResponse_delivered host limit reads).2.2.2 response hresponse
  obtain ⟨-, -, head, hsplits, -⟩ := Wire.outcome_ok_iff.1 (Wire.apiBody_eq_iff.1 hbody)
  rw [hsplits, List.length_append, ← byteLength_eq] at hlimit
  omega

/-- Each event takes an octet at least, so that no search and no way through an element goes on for
ever, whatever the document and whatever the counter. A counter of whole numbers is one more than
the elements that are open inside, on every document; in a body that can be received it fits 32
bits, and one of 32 bits is the same. -/
theorem extraction_ends (once : Bool) (body tag : Text) :
    (∀ (c c' : Cursor) (e : Event) (lexeme : Text), c.next? = .ok (some (e, lexeme, c')) →
        c.rest = lexeme ++ c'.rest ∧ 0 < byteLength lexeme) ∧
      (∀ c : Cursor, EndsWithin (Skip.step tag) (⟨c, [], 1⟩ : Skip Int) (byteLength c.rest)
        (c.close tag 0 [])) ∧
      (∀ c : Cursor, ∃ result, EndsWithin (Skip.step tag) (⟨c, [], 1⟩ : Skip UInt32)
        (byteLength c.rest) result) ∧
      (∃ result, EndsWithin (Extraction.step once tag) (.ofDocument body : Extraction UInt32)
        (byteLength body) result) ∧
      CountsDepth once body tag (fun depth : Int => depth) ∧
      (byteLength body < UInt32.size →
        CountsDepth once body tag (fun depth : UInt32 => (depth.toNat : Int)) ∧
          ∀ n found start (k : Skip Int), Reaches (Extraction.step once tag) (.ofDocument body) n
            (.skipping found start k) → k.depth < UInt32.size) ∧
      ∀ host reads response, Wire.readResponse host Wire.responseLimit reads = .ok response →
        Wire.apiBody response = .ok body →
        byteLength body ≤ Wire.responseLimit ∧ byteLength body < UInt32.size := by
  have hexact : CountsDepth once body tag (fun depth : Int => depth) :=
    (isCounter_int _).countsDepth (Nat.lt_succ_self (byteLength body))
  refine ⟨fun c c' e lexeme hnext =>
      ⟨Cursor.rest_eq_of_next? hnext, Cursor.byteLength_pos_of_next? hnext⟩,
    fun c => ?_, fun c => ?_, ?_, hexact,
    fun hsize => ⟨isCounter_word.countsDepth hsize, fun n found start k hreaches => ?_⟩,
    fun host reads response hresponse hbody => ?_⟩
  · exact Skip.endsWithin_close (isCounter_int _) tag (Nat.lt_succ_self (byteLength c.rest))
  · exact exists_endsWithin Skip.byteLength_lt_of_goes _
  · obtain ⟨result, hends⟩ := exists_endsWithin Extraction.byteLength_lt_of_goes
      (.ofDocument body : Extraction UInt32)
    exact ⟨result, hends.mono (Cursor.byteLength_ofDocument_le body)⟩
  · obtain ⟨-, since, inner, -, hdepth, hinner⟩ := hexact.depth_eq n found start k hreaches
    omega
  · have hle := byteLength_le_of_received hresponse hbody
    exact ⟨hle, Nat.lt_of_le_of_lt hle (by decide)⟩

/-- A body that is malformed three elements deep. -/
theorem extraction_ends_nested :
    let body := "<r><a x='>'><b/><a>1<c></a>".toList
    let response := Utf8.encode ("HTTP/1.1 200 OK\r\n\r\n".toList ++ body)
    Wire.readResponse ['h'] Wire.responseLimit [.octets response] = .ok response ∧
      Wire.apiBody response = .ok body ∧
      (∃ start k, Reaches (Extraction.step true ['a']) (.ofDocument body) 6
        (.skipping [] start k) ∧ k.depth = (3 : UInt32)) ∧
      EndsWithin (Extraction.step true ['a']) (.ofDocument body : Extraction UInt32)
        (byteLength body) (.error (.malformed (.mismatched ['c'] ['a']))) := by
  intro body response
  obtain ⟨-, -, -, -, -, hcounts, hreceived⟩ := extraction_ends true body ['a']
  have hresponse :
      Wire.readResponse ['h'] Wire.responseLimit [.octets response] = .ok response := by
    decide +kernel
  have hbody : Wire.apiBody response = .ok body := by decide +kernel
  have hfault : extracted true body ['a'] = .error (.malformed (.mismatched ['c'] ['a'])) := by
    decide +kernel
  refine ⟨hresponse, hbody, ?_, ?_⟩
  · exact ⟨_, _, .cons rfl (.cons rfl (.cons rfl (.cons rfl (.cons rfl (.cons rfl .refl))))), rfl⟩
  · rw [← hfault]
    exact (hcounts (hreceived _ _ _ hresponse hbody).2).1.endsWithin

end MachineImage.Markup
