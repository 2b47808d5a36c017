import MachineImage.Text.Basic

/-!
The tokens of a markup document. A token keeps all of its characters, so that the tokens read and
the text still unread always make up the document.
-/
namespace MachineImage.Markup

/-- What the end of a document can cut off. -/
inductive Construct
  | cdata
  | comment
  | doctype
  | instruction
  | declaration
  | tag
  | attributeValue (quote : Char)
  deriving DecidableEq, Repr

/-- Why a document cannot be read on. -/
inductive Fault
  | unclosed (what : Construct)
  | unknownMarkup
  | namelessDoctype
  | unclosedReference
  | mismatched (expected found : Text)
  | unmatched (found : Text)
  deriving DecidableEq, Repr

inductive Token
  /-- Characters up to the next `<` or `&`. -/
  | text (chars : Text)
  /-- What stands between `&` and `;`. -/
  | reference (name : Text)
  /-- What stands between `<` and `>`. -/
  | opening (content : Text)
  /-- What stands between `</` and `>`. -/
  | closing (content : Text)
  /-- A comment, a CDATA section, an instruction or a document type, delimiters included. -/
  | aside (chars : Text)
  deriving DecidableEq, Repr

namespace Token

def lexeme : Token → Text
  | .text chars => chars
  | .reference name => '&' :: (name ++ [';'])
  | .opening content => '<' :: (content ++ ['>'])
  | .closing content => '<' :: '/' :: (content ++ ['>'])
  | .aside chars => chars

end Token

def isSpace (c : Char) : Bool := c == ' ' || c == '\t' || c == '\r' || c == '\n'

/-- Cuts a tag at the first `>` outside quotes; `seen` stands last first. -/
def tagEnd (seen : Text) : Option Char → Text → Except Fault (Text × Text)
  | none, [] => .error (.unclosed .tag)
  | some q, [] => .error (.unclosed (.attributeValue q))
  | none, c :: s =>
    if c = '>' then .ok (seen.reverse, s)
    else tagEnd (c :: seen) (if c = '\'' ∨ c = '"' then some c else none) s
  | some q, c :: s => tagEnd (c :: seen) (if c = q then none else some q) s

/-- Where in a document type a character stands. -/
inductive Place
  /-- Outside the internal subset, in quotes if there is a quote. -/
  | outside (quote : Option Char)
  /-- Between the declarations of the internal subset. -/
  | subset
  /-- In a comment, `skip` characters before its text begins, behind `hyphens` hyphens. -/
  | comment (skip hyphens : Nat)
  /-- In an instruction, `skip` characters before its text begins, behind a `?` or not. -/
  | instruction (skip : Nat) (marked : Bool)
  /-- In a declaration where quotes mean nothing. -/
  | plain
  /-- In a declaration where quotes hide a `>`. -/
  | quoting (quote : Option Char)
  /-- Behind the internal subset. -/
  | after

/-- The quote that is open behind `c`. -/
def quoteAfter (quote : Option Char) (c : Char) : Option Char :=
  match quote with
  | some q => if c = q then none else some q
  | none => if c = '\'' ∨ c = '"' then some c else none

/-- What a `<` of the internal subset begins, by the characters behind it. -/
def Place.ofSubset (behind : Text) : Place :=
  if "!--".toList.isPrefixOf behind then .comment 3 0
  else if "?".toList.isPrefixOf behind then .instruction 1 false
  else if ["!ENTITY", "!ATTLIST", "!NOTATION"].any (·.toList.isPrefixOf behind) then .quoting none
  else .plain

/-- The place behind `c`, with nothing where `c` ends the document type. -/
def Place.next (c : Char) (behind : Text) : Place → Option Place
  | .outside none =>
    if c = '>' then none else if c = '[' then some .subset else some (.outside (quoteAfter none c))
  | .outside quote => some (.outside (quoteAfter quote c))
  | .subset =>
    some (if c = ']' then .after else if c = '<' then .ofSubset behind else .subset)
  | .comment (skip + 1) _ => some (.comment skip 0)
  | .comment 0 hyphens =>
    some (if c = '-' then .comment 0 (hyphens + 1)
      else if c = '>' ∧ 2 ≤ hyphens then .subset else .comment 0 0)
  | .instruction (skip + 1) _ => some (.instruction skip false)
  | .instruction 0 marked =>
    some (if c = '>' ∧ marked then .subset else .instruction 0 (c == '?'))
  | .plain => some (if c = '>' then .subset else .plain)
  | .quoting none => some (if c = '>' then .subset else .quoting (quoteAfter none c))
  | .quoting quote => some (.quoting (quoteAfter quote c))
  | .after => if c = '>' then none else some .after

/-- Cuts a document type at the `>` that ends it; `seen` stands last first. -/
def doctypeEnd (seen : Text) : Place → Text → Option (Text × Text)
  | _, [] => none
  | place, c :: s =>
    match place.next c s with
    | none => some (seen.reverse, s)
    | some place => doctypeEnd (c :: seen) place s

/-- Reads on behind `<!D` or `<!d`; `c` is that letter. -/
def doctype (c : Char) (s : Text) : Except Fault (Token × Text) :=
  match doctypeEnd [] (.outside none) s with
  | none => .error (.unclosed .doctype)
  | some (content, rest) =>
    if !"OCTYPE".toList.isPrefixOf (content.map Char.toUpper) then .error (.unclosed .doctype)
    else if (content.drop 6).all isSpace then .error .namelessDoctype
    else .ok (.aside ('<' :: '!' :: c :: (content ++ ['>'])), rest)

/-- The token that `lead` begins and the first `mark` in `s` ends. -/
def asideEnd (what : Construct) (lead mark : String) (s : Text) : Except Fault (Token × Text) :=
  match Text.breakAfter mark.toList [] s with
  | some (chars, rest) => .ok (.aside (lead.toList ++ chars), rest)
  | none => .error (.unclosed what)

/-- Reads on behind `<!`. -/
def markedSection : Text → Except Fault (Token × Text)
  | '[' :: s =>
    if "CDATA[".toList.isPrefixOf s then asideEnd .cdata "<![" "]]>" s
    else .error (.unclosed .cdata)
  | '-' :: '-' :: s => asideEnd .comment "<!--" "-->" s
  | '-' :: _ => .error (.unclosed .comment)
  | 'D' :: s => doctype 'D' s
  | 'd' :: s => doctype 'd' s
  | _ => .error .unknownMarkup

/-- Reads on behind `<?`; an instruction has at least one character. -/
def instruction (s : Text) : Except Fault (Token × Text) :=
  if s.head? = some '>' then .error (.unclosed .instruction)
  else
    let xml := "xml".toList.isPrefixOf s && (s.drop 3).head?.all fun c => isSpace c || c == '?'
    asideEnd (if xml then .declaration else .instruction) "<?" "?>" s

/-- Reads on behind `<`. -/
def markup : Text → Except Fault (Token × Text)
  | '!' :: s => markedSection s
  | '?' :: s => instruction s
  | '/' :: s => (tagEnd [] none s).map fun (content, rest) => (.closing content, rest)
  | s => (tagEnd [] none s).map fun (content, rest) => (.opening content, rest)

/-- Reads on behind `&`. -/
def reference (s : Text) : Except Fault (Token × Text) :=
  let isName := fun c => c != ';' && c != '&' && c != '<'
  match s.dropWhile isName with
  | ';' :: rest => .ok (.reference (s.takeWhile isName), rest)
  | _ => .error .unclosedReference

def isPlain (c : Char) : Bool := c != '<' && c != '&'

/-- The first token of a document and what follows it, or nothing at the end. -/
def scan : Text → Except Fault (Option (Token × Text))
  | [] => .ok none
  | '<' :: s => (markup s).map some
  | '&' :: s => (reference s).map some
  | s => .ok (some (.text (s.takeWhile isPlain), s.dropWhile isPlain))

theorem append_of_tagEnd {seen s content rest : Text} {quote : Option Char}
    (h : tagEnd seen quote s = .ok (content, rest)) :
    content ++ '>' :: rest = seen.reverse ++ s := by
  induction s generalizing seen quote with
  | nil => cases quote <;> simp [tagEnd] at h
  | cons c s ih =>
    cases quote with
    | none =>
      unfold tagEnd at h
      split at h
      · next hc =>
        cases h
        simp [hc]
      · simpa using ih h
    | some q => simpa using ih h

theorem eq_of_next_eq_none {c : Char} {behind : Text} {place : Place}
    (h : place.next c behind = none) : c = '>' := by
  cases place with
  | outside quote =>
    cases quote <;> simp [Place.next] at h
    grind
  | comment skip hyphens => cases skip <;> simp [Place.next] at h
  | instruction skip marked => cases skip <;> simp [Place.next] at h
  | quoting quote => cases quote <;> simp [Place.next] at h
  | subset => simp [Place.next] at h
  | plain => simp [Place.next] at h
  | after => simpa [Place.next] using h

theorem append_of_doctypeEnd {seen s content rest : Text} {place : Place}
    (h : doctypeEnd seen place s = some (content, rest)) :
    content ++ '>' :: rest = seen.reverse ++ s := by
  induction s generalizing seen place with
  | nil => simp [doctypeEnd] at h
  | cons c s ih =>
    unfold doctypeEnd at h
    split at h
    · next hc =>
      cases h
      rw [eq_of_next_eq_none hc]
    · simpa using ih h

theorem lexeme_append_of_doctype {c : Char} {s rest : Text} {t : Token}
    (h : doctype c s = .ok (t, rest)) : t.lexeme ++ rest = '<' :: '!' :: c :: s := by
  unfold doctype at h
  split at h
  · cases h
  · next content after he =>
    split at h
    · cases h
    · split at h
      · cases h
      · cases h
        simpa [Token.lexeme] using append_of_doctypeEnd he

theorem lexeme_append_of_asideEnd {what : Construct} {lead mark : String} {s rest : Text}
    {t : Token} (h : asideEnd what lead mark s = .ok (t, rest)) :
    t.lexeme ++ rest = lead.toList ++ s := by
  unfold asideEnd at h
  split at h
  · next chars after hb =>
    cases h
    simpa [Token.lexeme] using Text.append_of_breakAfter hb
  · cases h

theorem lexeme_append_of_markedSection {s rest : Text} {t : Token}
    (h : markedSection s = .ok (t, rest)) : t.lexeme ++ rest = '<' :: '!' :: s := by
  unfold markedSection at h
  split at h
  · split at h
    · simpa using lexeme_append_of_asideEnd h
    · cases h
  · simpa using lexeme_append_of_asideEnd h
  · cases h
  · exact lexeme_append_of_doctype h
  · exact lexeme_append_of_doctype h
  · cases h

theorem lexeme_append_of_markup {s rest : Text} {t : Token} (h : markup s = .ok (t, rest)) :
    t.lexeme ++ rest = '<' :: s := by
  unfold markup at h
  split at h
  · exact lexeme_append_of_markedSection h
  · unfold instruction at h
    split at h
    · cases h
    · simpa using lexeme_append_of_asideEnd h
  all_goals
    next s _ =>
    cases he : tagEnd [] none _ with
    | error f => rw [he] at h; cases h
    | ok p =>
      rw [he] at h
      cases h
      simpa [Token.lexeme] using append_of_tagEnd he

/-- No character of a document is lost between its tokens. -/
theorem lexeme_append_of_scan {s rest : Text} {t : Token} (h : scan s = .ok (some (t, rest))) :
    t.lexeme ++ rest = s := by
  unfold scan at h
  split at h
  · cases h
  · next s =>
    cases hm : markup s with
    | error f => rw [hm] at h; cases h
    | ok p =>
      rw [hm] at h
      cases h
      exact lexeme_append_of_markup hm
  · next s =>
    cases hr : reference s with
    | error f => rw [hr] at h; cases h
    | ok p =>
      rw [hr] at h
      cases h
      unfold reference at hr
      simp only at hr
      split at hr
      · next hd =>
        cases hr
        simp only [Token.lexeme, List.cons_append, List.append_assoc, List.nil_append, ← hd,
          List.takeWhile_append_dropWhile]
      · cases hr
  · cases h
    simp [Token.lexeme]

theorem lexeme_ne_nil_of_asideEnd {what : Construct} {lead mark : String} {s rest : Text}
    {t : Token} (h : asideEnd what lead mark s = .ok (t, rest)) (hl : lead.toList ≠ []) :
    t.lexeme ≠ [] := by
  unfold asideEnd at h
  split at h
  · cases h
    simp [Token.lexeme, hl]
  · cases h

theorem lexeme_ne_nil_of_markup {s rest : Text} {t : Token} (h : markup s = .ok (t, rest)) :
    t.lexeme ≠ [] := by
  have hd : ∀ {c : Char} {s : Text}, doctype c s = .ok (t, rest) → t.lexeme ≠ [] := by
    intro c s h
    unfold doctype at h
    split at h
    · cases h
    · split at h
      · cases h
      · split at h
        · cases h
        · cases h
          simp [Token.lexeme]
  unfold markup at h
  split at h
  · unfold markedSection at h
    split at h
    · split at h
      · exact lexeme_ne_nil_of_asideEnd h (by decide)
      · cases h
    · exact lexeme_ne_nil_of_asideEnd h (by decide)
    · cases h
    · exact hd h
    · exact hd h
    · cases h
  · unfold instruction at h
    split at h
    · cases h
    · exact lexeme_ne_nil_of_asideEnd h (by decide)
  all_goals
    cases he : tagEnd [] none _ with
    | error f => rw [he] at h; cases h
    | ok p =>
      rw [he] at h
      cases h
      simp [Token.lexeme]

/-- Every token has a character at least. -/
theorem lexeme_ne_nil_of_scan {s rest : Text} {t : Token} (h : scan s = .ok (some (t, rest))) :
    t.lexeme ≠ [] := by
  unfold scan at h
  split at h
  · cases h
  · next s =>
    cases hm : markup s with
    | error f => rw [hm] at h; cases h
    | ok p =>
      rw [hm] at h
      cases h
      exact lexeme_ne_nil_of_markup hm
  · next s =>
    cases hr : reference s with
    | error f => rw [hr] at h; cases h
    | ok p =>
      rw [hr] at h
      cases h
      unfold reference at hr
      simp only at hr
      split at hr
      · cases hr
        simp [Token.lexeme]
      · cases hr
  · next hlt hamp =>
    cases h
    cases s with
    | nil => simp_all
    | cons c s =>
      have hc : isPlain c = true := by
        simp only [isPlain, bne_iff_ne, Bool.and_eq_true]
        exact ⟨fun e => hlt s (by rw [e]), fun e => hamp s (by rw [e])⟩
      simp [Token.lexeme, hc]

theorem length_lt_of_scan {s rest : Text} {t : Token} (h : scan s = .ok (some (t, rest))) :
    rest.length < s.length := by
  have ht := List.length_pos_iff.2 (lexeme_ne_nil_of_scan h)
  rw [← lexeme_append_of_scan h, List.length_append]
  omega

end MachineImage.Markup
