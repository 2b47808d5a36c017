import MachineImage.Proofs.Utf8
import MachineImage.Proofs.Visible
import MachineImage.Wire.Request
import MachineImage.Wire.Response

/-!
Requests as their receiver reads them: the head up to the first empty line, cut into its lines, and
the body behind it.
-/
namespace MachineImage.Wire

open Text

/-- The lines of a head, cut at their ends. -/
def cutLines : Text → List Text
  | [] => [[]]
  | '\r' :: '\n' :: s => [] :: cutLines s
  | c :: s =>
    match cutLines s with
    | [] => [[c]]
    | line :: more => (c :: line) :: more

/-- The space that may stand around the value of a header. -/
def isSpace (c : Char) : Bool := c == ' ' || c == '\t'

def readHeader (line : Text) : Option Signing.Header :=
  (cut (· == ':') line).map fun h => (h.1, strip isSpace h.2)

structure Received where
  method : Text
  target : Text
  headers : List Signing.Header
  body : Octets

/-- The request in the octets; its first line has three parts. -/
def receive? (octets : Octets) : Option Received := do
  let (head, body) ← breakAfter separator [] octets
  let lines := cutLines (← Utf8.decode? head)
  match split (· == ' ') (lines.headD []) with
  | [method, target, _] => return ⟨method, target, (lines.drop 1).filterMap readHeader, body⟩
  | _ => none

/-- The value of the first header of that name, which is in lower case. -/
def Received.header? (r : Received) (name : Text) : Option Text :=
  (r.headers.find? (lower ·.1 == name)).map (·.2)

theorem cutLines_append {line : Text} (h : OnLine line) (s : Text) :
    cutLines (line ++ (lineEnd ++ s)) = line :: cutLines s := by
  induction line with
  | nil => rw [lineEnd, List.nil_append, List.cons_append, List.cons_append, cutLines]; rfl
  | cons c line ih =>
    obtain ⟨hc, hline⟩ := List.forall_mem_cons.1 h
    rw [List.cons_append, cutLines, ih hline]
    intro _ hr
    exact absurd hr hc.1

/-- A head with these lines. -/
def headText (lines : List Text) : Text := lines.flatMap (· ++ lineEnd) ++ lineEnd

theorem headText_cons (line : Text) (lines : List Text) :
    headText (line :: lines) = line ++ (lineEnd ++ headText lines) := by
  simp [headText]

theorem cutLines_headText {lines : List Text} (h : ∀ line ∈ lines, OnLine line) :
    cutLines (headText lines) = lines ++ [[], []] := by
  induction lines with
  | nil => rfl
  | cons line lines ih =>
    obtain ⟨hline, hlines⟩ := List.forall_mem_cons.1 h
    rw [headText_cons, cutLines_append hline, ih hlines, List.cons_append]

theorem not_mem_encode_of_onLine {s : Text} (h : OnLine s) : 0x0D ∉ Utf8.encode s := by
  intro hm
  obtain ⟨c, hc, hn⟩ := Utf8.exists_of_mem_encode hm (by decide)
  exact (h c hc).1 (Char.toNat_inj.1 hn)

/-- The end of a line is not the end of the head if another line begins behind it. -/
theorem breakAfter_lineEnd {x : UInt8} (hx : x ≠ 0x0D) (seen t : Octets) :
    breakAfter separator seen (0x0D :: 0x0A :: x :: t) =
      breakAfter separator (0x0A :: 0x0D :: seen) (x :: t) := by
  have hfirst : ¬ separator.isPrefixOf (0x0D :: 0x0A :: x :: t) = true := by
    simp [separator, List.isPrefixOf, Ne.symm hx]
  have hsecond : ¬ separator.isPrefixOf (0x0A :: x :: t) = true := by
    simp [separator, List.isPrefixOf]
  rw [breakAfter, if_neg hfirst, breakAfter, if_neg hsecond]

theorem breakAfter_separator (seen body : Octets) :
    breakAfter separator seen (separator ++ body) = some (seen.reverse ++ separator, body) :=
  (breakAfter_eq_some_iff (by decide)).2 ⟨[], rfl, rfl, not_infix_dropLast (by decide)⟩

/-- The first empty line ends a head, whatever the body holds. -/
theorem breakAfter_headText {lines : List Text} (h : ∀ line ∈ lines, OnLine line ∧ line ≠ [])
    (hne : lines ≠ []) (seen body : Octets) :
    breakAfter separator seen (Utf8.encode (headText lines) ++ body) =
      some (seen.reverse ++ Utf8.encode (headText lines), body) := by
  have hend : Utf8.encode lineEnd = [0x0D, 0x0A] := rfl
  induction lines generalizing seen with
  | nil => exact absurd rfl hne
  | cons line lines ih =>
    obtain ⟨⟨hline, -⟩, hlines⟩ := List.forall_mem_cons.1 h
    have hcr := not_mem_encode_of_onLine hline
    rw [headText_cons, Utf8.encode_append, Utf8.encode_append, hend, List.append_assoc]
    cases lines with
    | nil =>
      have hlast : Utf8.encode (headText []) = [0x0D, 0x0A] := rfl
      have hbreak := breakAfter_separator ((Utf8.encode line).reverse ++ seen) body
      rw [hlast, separator, breakAfter_append hcr]
      simpa [separator] using hbreak
    | cons next more =>
      obtain ⟨⟨hnext, hsome⟩, -⟩ := List.forall_mem_cons.1 hlines
      obtain ⟨x, rest, hx⟩ := List.exists_cons_of_ne_nil (Utf8.encode_ne_nil hsome)
      -- The next line is not empty, so that the end of this one is not the end of the head.
      have hxne : x ≠ 0x0D := by
        rintro rfl
        exact not_mem_encode_of_onLine hnext (by rw [hx]; exact List.mem_cons_self)
      have hrest := ih hlines (by simp) (0x0A :: 0x0D :: ((Utf8.encode line).reverse ++ seen))
      rw [separator, breakAfter_append hcr, ← separator]
      rw [headText_cons, Utf8.encode_append, hx] at hrest ⊢
      simp only [List.cons_append, List.nil_append] at hrest ⊢
      rw [breakAfter_lineEnd hxne, hrest]
      simp

/-- A header as a line. -/
def headerText (h : Signing.Header) : Text := h.1 ++ ": ".toList ++ h.2

theorem readHeader_headerText {h : Signing.Header} (hn : ':' ∉ h.1) :
    readHeader (headerText h) = some (h.1, strip isSpace h.2) := by
  have hspace : ∀ c ∈ [' '], isSpace c = true := List.forall_mem_singleton.2 rfl
  have htext : headerText h = h.1 ++ ':' :: ([' '] ++ h.2) := by simp [headerText]
  rw [htext, readHeader, cut_sign hn, Option.map_some, strip_append_left hspace]

theorem filterMap_readHeader {headers : List Signing.Header} (hn : ∀ h ∈ headers, ':' ∉ h.1) :
    (headers.map headerText).filterMap readHeader =
      headers.map fun h => (h.1, strip isSpace h.2) := by
  induction headers with
  | nil => rfl
  | cons h headers ih =>
    obtain ⟨hname, hnames⟩ := List.forall_mem_cons.1 hn
    rw [List.map_cons, List.filterMap_cons_some (readHeader_headerText hname), ih hnames,
      List.map_cons]

/-- No space stands inside the three parts of the first line. -/
theorem split_requestLine {method target version : Text} (hm : Visible method) (ht : Visible target)
    (hv : Visible version) : split (· == ' ') (method ++ ' ' :: target ++ ' ' :: version) =
      [method, target, version] := by
  have hspace : ∀ {s}, Visible s → ' ' ∉ s := fun hs hc => absurd (hs _ hc) (by decide)
  rw [List.append_assoc, List.cons_append, split_sign (hspace hm), split_sign (hspace ht),
    split_of_not_mem (hspace hv)]

theorem onLine_requestLine {method target version : Text} (hm : Visible method)
    (ht : Visible target) (hv : Visible version) :
    OnLine (method ++ ' ' :: target ++ ' ' :: version) :=
  (hm.onLine.append (ht.onLine.cons (by decide))).append (hv.onLine.cons (by decide))

section

variable {method target version : Text} {headers : List Signing.Header} (hm : Visible method)
  (ht : Visible target) (hv : Visible version) (hn : ∀ h ∈ headers, Visible h.1 ∧ ':' ∉ h.1)
  (hh : ∀ h ∈ headers, OnLine h.2)

include hm ht hv hn hh

/-- Neither the first line nor a header ends in its middle or has nothing in it. -/
theorem onLine_lines : ∀ line ∈ (method ++ ' ' :: target ++ ' ' :: version) ::
    headers.map headerText, OnLine line ∧ line ≠ [] := by
  refine List.forall_mem_cons.2 ⟨⟨onLine_requestLine hm ht hv, by simp⟩, ?_⟩
  intro line hl
  obtain ⟨h, hmem, rfl⟩ := List.mem_map.1 hl
  refine ⟨((hn h hmem).1.onLine.append (by decide)).append (hh h hmem), ?_⟩
  simp [headerText]

/-- What was put together line by line is read line by line, up to the space around values. -/
theorem receive?_headText (body : Octets) :
    receive? (Utf8.encode (headText ((method ++ ' ' :: target ++ ' ' :: version) ::
      headers.map headerText)) ++ body) =
      some ⟨method, target, headers.map fun h => (h.1, strip isSpace h.2), body⟩ := by
  have hlines := onLine_lines hm ht hv hn hh
  have hread : (headers.map headerText ++ [[], []]).filterMap readHeader =
      headers.map fun h => (h.1, strip isSpace h.2) := by
    have hrest : [([] : Text), []].filterMap readHeader = [] := rfl
    rw [List.filterMap_append, hrest, List.append_nil]
    exact filterMap_readHeader fun h hmem => (hn h hmem).2
  simp only [receive?, breakAfter_headText hlines (by simp), Option.bind_eq_bind, Option.bind_some,
    List.reverse_nil, List.nil_append, Utf8.decode?_encode,
    cutLines_headText fun line hl => (hlines line hl).1]
  rw [List.cons_append, List.headD_cons, split_requestLine hm ht hv, List.drop_succ_cons,
    List.drop_zero, hread]
  rfl

end

end MachineImage.Wire
