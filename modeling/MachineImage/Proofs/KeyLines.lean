import MachineImage.Proofs.Normalized
import MachineImage.Proofs.Verified

/-!
The grammar of key files: two lines, one for each name, in either order and each with its end. The
parser accepts what follows it and nothing else, and what it accepts it reads in one way only.
-/
namespace MachineImage.KeyFile

open Text

/-- The three ends of a line. -/
inductive LineEnd
  | carriage
  | newline
  | both
  deriving DecidableEq, Repr

def LineEnd.text : LineEnd → Text
  | .carriage => ['\r']
  | .newline => ['\n']
  | .both => ['\r', '\n']

/-- The end of a line does not go on in what follows it. -/
def LineEnd.Stops (e : LineEnd) (rest : Text) : Prop := e = .carriage → rest.head? ≠ some '\n'

theorem LineEnd.stops_nil (e : LineEnd) : e.Stops [] := fun _ => nofun

theorem isLineEnd_eq_false_iff {c : Char} : isLineEnd c = false ↔ c ≠ '\r' ∧ c ≠ '\n' := by
  simp [isLineEnd]

theorem isLineEnd_of_onLine {line : Text} (h : OnLine line) : ∀ c ∈ line, (!isLineEnd c) = true :=
  fun c hc => by rw [isLineEnd_eq_false_iff.2 (h c hc)]; rfl

/-- A line goes on up to the first sign that ends lines; a `\r` takes the `\n` behind it along. -/
theorem line?_cons {line : Text} {c : Char} (h : OnLine line) (hc : isLineEnd c = true)
    (rest : Text) : line? (line ++ c :: rest) =
      some (line, if c = '\r' ∧ rest.head? = some '\n' then rest.drop 1 else rest) := by
  have hline := isLineEnd_of_onLine h
  have hneg : ¬ (!isLineEnd c) = true := by simp [hc]
  rw [line?, List.dropWhile_append_of_pos hline,
    List.dropWhile_cons_of_neg (p := fun c => !isLineEnd c) hneg,
    List.takeWhile_append_of_pos hline,
    List.takeWhile_cons_of_neg (p := fun c => !isLineEnd c) hneg, List.append_nil]
  split
  · next heq => cases heq
  · next heq =>
    cases heq
    rfl
  · next hboth heq =>
    cases heq
    rw [if_neg]
    rintro ⟨rfl, hhead⟩
    obtain ⟨more, rfl⟩ := List.head?_eq_some_iff.1 hhead
    exact hboth more rfl rfl

theorem line?_append {line rest : Text} {e : LineEnd} (h : OnLine line) (he : e.Stops rest) :
    line? (line ++ (e.text ++ rest)) = some (line, rest) := by
  cases e with
  | carriage =>
    rw [LineEnd.text, List.singleton_append, line?_cons h rfl, if_neg fun hboth => he rfl hboth.2]
  | newline =>
    rw [LineEnd.text, List.singleton_append, line?_cons h rfl,
      if_neg fun hboth => absurd hboth.1 (by decide)]
  | both =>
    rw [LineEnd.text, List.cons_append, line?_cons h rfl, if_pos ⟨rfl, rfl⟩]
    rfl

theorem exists_of_line? {s line rest : Text} (h : line? s = some (line, rest)) :
    ∃ e : LineEnd, s = line ++ (e.text ++ rest) ∧ OnLine line ∧ e.Stops rest := by
  have hs := List.takeWhile_append_dropWhile (p := fun c => !isLineEnd c) (l := s)
  have hline : OnLine (s.takeWhile fun c => !isLineEnd c) := by
    intro c hc
    have hend := List.all_eq_true.1 List.all_takeWhile c hc
    exact isLineEnd_eq_false_iff.1 (by simpa using hend)
  cases hdrop : s.dropWhile fun c => !isLineEnd c with
  | nil =>
    rw [line?, hdrop] at h
    cases h
  | cons c more =>
    have hc : isLineEnd c = true := by
      have hnot := List.head?_dropWhile_not (fun c => !isLineEnd c) s
      rw [hdrop] at hnot
      simpa using hnot
    rw [hdrop] at hs
    rw [← hs, line?_cons hline hc] at h
    split at h
    · next hboth =>
      obtain ⟨rfl, hhead⟩ := hboth
      obtain ⟨more, rfl⟩ := List.head?_eq_some_iff.1 hhead
      cases h
      exact ⟨.both, hs.symm, hline, nofun⟩
    · next hboth =>
      cases h
      simp only [isLineEnd, Bool.or_eq_true, beq_iff_eq] at hc
      rcases hc with rfl | rfl
      · exact ⟨.carriage, hs.symm, hline, fun _ hhead => hboth ⟨rfl, hhead⟩⟩
      · exact ⟨.newline, hs.symm, hline, nofun⟩

/-- A line with a name and a value. -/
def Name.line (name : Name) (value : Text) : Text := name.text ++ '=' :: value

theorem Name.not_mem_text (name : Name) : '=' ∉ name.text := by cases name <;> decide

theorem Name.onLine_line_iff (name : Name) {value : Text} :
    OnLine (name.line value) ↔ OnLine value := by
  have hname : OnLine name.text := by cases name <;> decide
  refine ⟨fun h => ?_, fun h => hname.append (h.cons (by decide))⟩
  exact fun c hc => h c (List.mem_append_right _ (List.mem_cons_of_mem _ hc))

theorem entry_line (name : Name) (value : Text) : entry (name.line value) = .ok (name, value) := by
  rw [entry, Name.line, cut_sign name.not_mem_text]
  cases name with
  | id => exact if_pos rfl
  | secret =>
    have hne : Name.secret.text ≠ Name.id.text := by decide
    simp only [if_neg hne, if_pos]

/-- The name of a line ends at its first `=`. -/
theorem entry_eq_ok_iff {line value : Text} {name : Name} :
    entry line = .ok (name, value) ↔ line = name.line value := by
  constructor
  · intro h
    by_cases hsign : '=' ∈ line
    · obtain ⟨text, rest, rfl, htext⟩ := List.eq_append_cons_of_mem hsign
      rw [entry, cut_sign htext] at h
      simp only at h
      split at h
      · next hid =>
        cases h
        rw [hid]
        rfl
      · split at h
        · next hsecret =>
          cases h
          rw [hsecret]
          rfl
        · cases h
    · rw [entry, cut_of_not_mem hsign] at h
      cases h
  · rintro rfl
    exact entry_line name value

/-- Contents from which the parser goes on to the credentials, with the values known already. -/
inductive Accepts : Option Text → Option Text → Text → Credentials → Prop
  | done {id secret : Text} (hid : id ≠ []) (hsecret : secret ≠ []) :
    Accepts (some id) (some secret) [] ⟨id, secret⟩
  | id {value rest : Text} {secret : Option Text} {e : LineEnd} {c : Credentials}
    (hvalue : OnLine value) (he : e.Stops rest) (h : Accepts (some value) secret rest c) :
    Accepts none secret (Name.id.line value ++ (e.text ++ rest)) c
  | secret {value rest : Text} {id : Option Text} {e : LineEnd} {c : Credentials}
    (hvalue : OnLine value) (he : e.Stops rest) (h : Accepts id (some value) rest c) :
    Accepts id none (Name.secret.line value ++ (e.text ++ rest)) c

/-- What a line is worth decides how the parser goes on. -/
theorem parseFrom_of_line? (id secret : Option Text) {s line rest : Text}
    (h : line? s = some (line, rest)) : parseFrom id secret s = match entry line with
      | .error e => .error e
      | .ok (.id, value) =>
        if id.isSome then .error (.repeated .id) else parseFrom (some value) secret rest
      | .ok (.secret, value) =>
        if secret.isSome then .error (.repeated .secret) else parseFrom id (some value) rest := by
  have hne : s ≠ [] := by
    rintro rfl
    cases h
  rw [parseFrom.eq_def, if_neg hne]
  split
  · next hnone => cases hnone.symm.trans h
  · next hsome =>
    cases hsome.symm.trans h
    rfl

theorem parseFrom_line (id secret : Option Text) {value rest : Text} {e : LineEnd} (name : Name)
    (hvalue : OnLine value) (he : e.Stops rest) :
    parseFrom id secret (name.line value ++ (e.text ++ rest)) = match name with
      | .id => if id.isSome then .error (.repeated .id) else parseFrom (some value) secret rest
      | .secret =>
        if secret.isSome then .error (.repeated .secret) else parseFrom id (some value) rest := by
  have hline := line?_append (name.onLine_line_iff.2 hvalue) he
  rw [parseFrom_of_line? id secret hline, entry_line]
  cases name <;> rfl

theorem accepts_of_parseFrom {id secret : Option Text} {s : Text} {c : Credentials}
    (h : parseFrom id secret s = .ok c) : Accepts id secret s c := by
  fun_induction parseFrom id secret s with
  | case1 id secret hboth =>
    cases h
    exact .done hboth.1 hboth.2
  | case7 id secret s hne line rest hline value hentry hid ih =>
    obtain ⟨e, rfl, honline, he⟩ := exists_of_line? hline
    obtain rfl := entry_eq_ok_iff.1 hentry
    obtain rfl := Option.not_isSome_iff_eq_none.1 hid
    exact .id (Name.id.onLine_line_iff.1 honline) he (ih h)
  | case9 id secret s hne line rest hline value hentry hsecret ih =>
    obtain ⟨e, rfl, honline, he⟩ := exists_of_line? hline
    obtain rfl := entry_eq_ok_iff.1 hentry
    obtain rfl := Option.not_isSome_iff_eq_none.1 hsecret
    exact .secret (Name.secret.onLine_line_iff.1 honline) he (ih h)
  -- Everywhere else the parser stops with an error.
  | case2 | case3 | case4 | case5 | case6 | case8 => cases h

theorem Accepts.parseFrom_eq {id secret : Option Text} {s : Text} {c : Credentials}
    (h : Accepts id secret s c) : parseFrom id secret s = .ok c := by
  induction h with
  | done hid hsecret =>
    rw [parseFrom.eq_def, if_pos rfl]
    exact if_pos ⟨hid, hsecret⟩
  | id hvalue he _ ih =>
    rw [parseFrom_line _ _ .id hvalue he]
    exact ih
  | secret hvalue he _ ih =>
    rw [parseFrom_line _ _ .secret hvalue he]
    exact ih

def Name.other : Name → Name
  | .id => .secret
  | .secret => .id

/-- The value that stands behind a name. -/
def Name.value : Name → Credentials → Text
  | .id, c => c.keyId
  | .secret, c => c.secret

/-- What a key file leaves open: which line comes first, and how each of the two ends. -/
structure Layout where
  first : Name
  firstEnd : LineEnd
  secondEnd : LineEnd
  deriving DecidableEq, Repr

def Layout.text (l : Layout) (c : Credentials) : Text :=
  l.first.line (l.first.value c) ++ (l.firstEnd.text ++
    (l.first.other.line (l.first.other.value c) ++ l.secondEnd.text))

/-- Both values are something and stay on their line. -/
structure IsWritable (c : Credentials) : Prop where
  ne_nil : ∀ name : Name, name.value c ≠ []
  onLine : ∀ name : Name, OnLine (name.value c)

theorem isWritable_mk {id secret : Text} (hid : id ≠ [] ∧ OnLine id)
    (hsecret : secret ≠ [] ∧ OnLine secret) : IsWritable ⟨id, secret⟩ where
  ne_nil name := match name with
    | .id => hid.1
    | .secret => hsecret.1
  onLine name := match name with
    | .id => hid.2
    | .secret => hsecret.2

/-- No line begins with what could belong to the end of the line before it. -/
theorem LineEnd.stops_line (e : LineEnd) (name : Name) (value rest : Text) :
    e.Stops (name.line value ++ rest) := by
  intro _
  cases name <;> exact of_decide_eq_false rfl

theorem accepts_iff {s : Text} {c : Credentials} : Accepts none none s c ↔
    IsWritable c ∧ ∃ layout : Layout, s = layout.text c := by
  constructor
  · intro h
    cases h with
    | @id _ _ _ e _ hid he h =>
      cases h with
      | @secret _ _ _ e' _ hsecret he' h =>
        cases h with
        | done hne hne' =>
          refine ⟨isWritable_mk ⟨hne, hid⟩ ⟨hne', hsecret⟩, ⟨.id, e, e'⟩, ?_⟩
          rw [List.append_nil]
          rfl
    | @secret _ _ _ e _ hsecret he h =>
      cases h with
      | @id _ _ _ e' _ hid he' h =>
        cases h with
        | done hne hne' =>
          refine ⟨isWritable_mk ⟨hne, hid⟩ ⟨hne', hsecret⟩, ⟨.secret, e, e'⟩, ?_⟩
          rw [List.append_nil]
          rfl
  · rintro ⟨⟨hne, honLine⟩, ⟨first, e, e'⟩, rfl⟩
    have hdone : Accepts (some c.keyId) (some c.secret) [] c := .done (hne .id) (hne .secret)
    cases first with
    | id =>
      have hsecond := Accepts.secret (honLine .secret) e'.stops_nil hdone
      rw [List.append_nil] at hsecond
      exact .id (honLine .id) (e.stops_line _ _ _) hsecond
    | secret =>
      have hsecond := Accepts.id (honLine .id) e'.stops_nil hdone
      rw [List.append_nil] at hsecond
      exact .secret (honLine .secret) (e.stops_line _ _ _) hsecond

theorem parse_iff_layout {s : Text} {c : Credentials} : parse s = .ok c ↔
    IsWritable c ∧ ∃ layout : Layout, s = layout.text c := by
  rw [← accepts_iff]
  exact ⟨accepts_of_parseFrom, Accepts.parseFrom_eq⟩

theorem LineEnd.text_injective {e e' : LineEnd} (h : e.text = e'.text) : e = e' := by
  cases e <;> cases e' <;> simp_all [LineEnd.text]

/-- The first line, its end and what follows are known from the whole. -/
theorem append_lineEnd_inj {line line' rest rest' : Text} {e e' : LineEnd} (h : OnLine line)
    (h' : OnLine line') (he : e.Stops rest) (he' : e'.Stops rest')
    (heq : line ++ (e.text ++ rest) = line' ++ (e'.text ++ rest')) :
    line = line' ∧ e = e' ∧ rest = rest' := by
  have hline := line?_append h he
  rw [heq, line?_append h' he'] at hline
  cases hline
  exact ⟨rfl, LineEnd.text_injective (List.append_cancel_right (List.append_cancel_left heq)), rfl⟩

theorem Name.line_inj {name name' : Name} {value value' : Text}
    (h : name.line value = name'.line value') : name = name' ∧ value = value' := by
  have hentry := entry_line name value
  rw [h, entry_line] at hentry
  cases hentry
  exact ⟨rfl, rfl⟩

/-- What can be written is written differently in every layout and for all other values. -/
theorem Layout.text_inj {layout layout' : Layout} {c c' : Credentials} (h : IsWritable c)
    (h' : IsWritable c') (heq : layout.text c = layout'.text c') : layout = layout' ∧ c = c' := by
  obtain ⟨first, e, e₂⟩ := layout
  obtain ⟨first', e', e₂'⟩ := layout'
  have hlines := fun name => (Name.onLine_line_iff name).2 (h.onLine name)
  have hlines' := fun name => (Name.onLine_line_iff name).2 (h'.onLine name)
  obtain ⟨hline, rfl, hrest⟩ := append_lineEnd_inj (hlines first) (hlines' first')
    (e.stops_line _ _ _) (e'.stops_line _ _ _) heq
  obtain ⟨rfl, hvalue⟩ := Name.line_inj hline
  rw [← List.append_nil e₂.text, ← List.append_nil e₂'.text] at hrest
  obtain ⟨hother, rfl, -⟩ := append_lineEnd_inj (hlines first.other) (hlines' first.other)
    e₂.stops_nil e₂'.stops_nil hrest
  obtain ⟨-, hvalue'⟩ := Name.line_inj hother
  refine ⟨rfl, ?_⟩
  obtain ⟨id, secret⟩ := c
  obtain ⟨id', secret'⟩ := c'
  cases first with
  | id =>
    obtain rfl : id = id' := hvalue
    obtain rfl : secret = secret' := hvalue'
    rfl
  | secret =>
    obtain rfl : secret = secret' := hvalue
    obtain rfl : id = id' := hvalue'
    rfl

/-- The lines of a text that ends with the end of one. -/
inductive Lines : Text → List Text → Prop
  | nil : Lines [] []
  | cons {line rest : Text} {e : LineEnd} {more : List Text} (hline : OnLine line)
    (he : e.Stops rest) (h : Lines rest more) : Lines (line ++ (e.text ++ rest)) (line :: more)

theorem LineEnd.append_ne_nil (e : LineEnd) (line rest : Text) : line ++ (e.text ++ rest) ≠ [] := by
  cases e <;> simp [LineEnd.text]

/-- A text has its lines in one way only. -/
theorem Lines.unique {s : Text} {lines lines' : List Text} (h : Lines s lines)
    (h' : Lines s lines') : lines = lines' := by
  induction h generalizing lines' with
  | nil =>
    generalize hs : ([] : Text) = s at h'
    cases h' with
    | nil => rfl
    | @cons line rest e => exact absurd hs.symm (e.append_ne_nil line rest)
  | @cons line rest e more hline he h ih =>
    generalize hs : line ++ (e.text ++ rest) = s at h'
    cases h' with
    | nil => exact absurd hs (e.append_ne_nil line rest)
    | cons hline' he' h' =>
      obtain ⟨rfl, -, rfl⟩ := append_lineEnd_inj hline hline' he he' hs
      rw [ih h']

theorem Layout.lines (layout : Layout) {c : Credentials} (h : IsWritable c) :
    Lines (layout.text c) [layout.first.line (layout.first.value c),
      layout.first.other.line (layout.first.other.value c)] := by
  have hlines := fun name => (Name.onLine_line_iff name).2 (h.onLine name)
  have hsecond := Lines.cons (hlines layout.first.other) layout.secondEnd.stops_nil .nil
  rw [List.append_nil] at hsecond
  exact .cons (hlines layout.first) (layout.firstEnd.stops_line _ _ _) hsecond

/-- Of a file of lines these two are accepted, and no line more or less. -/
theorem parse_iff_lines {s : Text} {lines : List Text} (h : Lines s lines) {c : Credentials} :
    parse s = .ok c ↔ IsWritable c ∧
      ∃ name : Name, lines = [name.line (name.value c), name.other.line (name.other.value c)] := by
  rw [parse_iff_layout]
  refine and_congr_right fun hc => ⟨?_, ?_⟩
  · rintro ⟨layout, rfl⟩
    exact ⟨layout.first, h.unique (layout.lines hc)⟩
  · rintro ⟨name, rfl⟩
    cases h with
    | @cons _ _ e _ hline he h =>
      cases h with
      | @cons _ _ e' _ hline' he' h =>
        cases h with
        | nil =>
          refine ⟨⟨name, e, e'⟩, ?_⟩
          rw [List.append_nil]
          rfl

/-- Contents are read as credentials exactly if these were written in some layout: the last line has
an end, and there are these two lines and no other. They were written so in one way only, and their
values stay on their lines, as they do on the line of a header. -/
theorem parse_eq_ok_iff (s : Text) (c : Credentials) :
    (parse s = .ok c ↔ IsWritable c ∧ ∃ layout : Layout, s = layout.text c) ∧
    (parse s = .ok c → ∃ lines, Lines s lines) ∧
    (∀ lines, Lines s lines → (parse s = .ok c ↔ IsWritable c ∧
      ∃ name : Name, lines = [name.line (name.value c), name.other.line (name.other.value c)])) ∧
    (∀ (layout layout' : Layout) (c' : Credentials), IsWritable c → IsWritable c' →
      layout.text c = layout'.text c' → layout = layout' ∧ c = c') ∧
    ∀ (context : Signing.Context) (r : Signing.UnsignedRequest), parse s = .ok c →
      context.credentials = c → OnLine context.region.name → r.headers = [] →
        OnLine (Signing.signRequest context r).authorization := by
  refine ⟨parse_iff_layout, fun h => ?_, fun _ h => parse_iff_lines h,
    fun _ _ _ => Layout.text_inj, ?_⟩
  · obtain ⟨hc, layout, rfl⟩ := parse_iff_layout.1 h
    exact ⟨_, layout.lines hc⟩
  · rintro context r h rfl hregion hr
    exact Wire.onLine_authorization context ((parse_iff_layout.1 h).1.onLine .id) hregion r hr

/-- The secret first and with an `=` at its end, and the same with an empty line in between. -/
theorem parse_eq_ok_iff_secret :
    let c : Credentials := ⟨"a b".toList, "s=".toList⟩
    let s := "ACCESS_KEY_SECRET=s=\r\nACCESS_KEY_ID=a b\r".toList
    let apart := "ACCESS_KEY_SECRET=s=\r\n\nACCESS_KEY_ID=a b\r".toList
    IsWritable c ∧ parse s = .ok c ∧
      Lines apart ["ACCESS_KEY_SECRET=s=".toList, [], "ACCESS_KEY_ID=a b".toList] ∧
      parse apart ≠ .ok c := by
  intro c s apart
  have hc : IsWritable c := isWritable_mk (by decide) (by decide)
  have hlines : Lines apart ["ACCESS_KEY_SECRET=s=".toList, [], "ACCESS_KEY_ID=a b".toList] := by
    have hlast := @Lines.cons "ACCESS_KEY_ID=a b".toList [] .carriage [] (by decide)
      (LineEnd.stops_nil _) .nil
    have hempty := @Lines.cons [] _ .newline _ (by decide) nofun hlast
    exact @Lines.cons "ACCESS_KEY_SECRET=s=".toList _ .both _ (by decide) nofun hempty
  refine ⟨hc, (parse_eq_ok_iff s c).1.2 ⟨hc, ⟨.secret, .both, .carriage⟩, rfl⟩, hlines, fun h => ?_⟩
  obtain ⟨-, name, htwo⟩ := ((parse_eq_ok_iff apart c).2.2.1 _ hlines).1 h
  exact absurd (congrArg List.length htwo) (by simp)

end MachineImage.KeyFile
