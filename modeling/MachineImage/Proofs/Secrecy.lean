import Mathlib.Data.List.TakeWhile
import MachineImage.Proofs.KeyLines

/-!
What can be told of the values in a key file from outside: whether they are empty, and nothing else.
Contents that differ only in their values are all read or all refused in the same words, and the
text for diagnostics does not depend on the secret.
-/
namespace MachineImage

open Text

namespace KeyFile

/-- Two lines that are the same up to and including the first `=`, and of which both or neither have
a value behind it; without an `=` they are the same. -/
inductive LinesAgree : Text → Text → Prop
  | bare {line : Text} (hline : OnLine line) (hsign : '=' ∉ line) : LinesAgree line line
  | named {name value value' : Text} (hname : OnLine name) (hsign : '=' ∉ name)
    (hvalue : OnLine value) (hvalue' : OnLine value') (hempty : value = [] ↔ value' = []) :
    LinesAgree (name ++ '=' :: value) (name ++ '=' :: value')

/-- Contents with the same ends of lines, whose lines agree one by one. What follows the last end is
a line too, and mostly empty. -/
inductive Agree : Text → Text → Prop
  | last {line line' : Text} (hline : LinesAgree line line') : Agree line line'
  | cons {line line' rest rest' : Text} (e : LineEnd) (hline : LinesAgree line line')
    (hrest : Agree rest rest') : Agree (line ++ (e.text ++ rest)) (line' ++ (e.text ++ rest'))

theorem LinesAgree.onLine {line line' : Text} (h : LinesAgree line line') :
    OnLine line ∧ OnLine line' := by
  cases h with
  | bare hline => exact ⟨hline, hline⟩
  | named hname _ hvalue hvalue' =>
    exact ⟨hname.append (hvalue.cons (by decide)), hname.append (hvalue'.cons (by decide))⟩

theorem LinesAgree.eq_nil_iff {line line' : Text} (h : LinesAgree line line') :
    line = [] ↔ line' = [] := by
  cases h with
  | bare => exact Iff.rfl
  | named => simp

theorem LinesAgree.symm {line line' : Text} (h : LinesAgree line line') :
    LinesAgree line' line := by
  cases h with
  | bare hline hsign => exact .bare hline hsign
  | named hname hsign hvalue hvalue' hempty => exact .named hname hsign hvalue' hvalue hempty.symm

theorem Agree.symm {s s' : Text} (h : Agree s s') : Agree s' s := by
  induction h with
  | last hline => exact .last hline.symm
  | cons e hline _ ih => exact .cons e hline.symm ih

theorem line?_eq_none_of_onLine {line : Text} (h : OnLine line) : line? line = none := by
  have hdrop : line.dropWhile (fun c => !isLineEnd c) = [] :=
    List.dropWhile_eq_nil_iff.2 (isLineEnd_of_onLine h)
  rw [line?, hdrop]

/-- A line that begins with a `\n` is empty and ends there, in both contents. -/
theorem Agree.exists_of_newline {rest s' : Text} (h : Agree ('\n' :: rest) s') :
    ∃ rest', s' = '\n' :: rest' ∧ Agree rest rest' := by
  generalize hs : '\n' :: rest = s at h
  cases h with
  | last hline =>
    exact absurd rfl (hline.onLine.1 '\n' (hs ▸ List.mem_cons_self)).2
  | @cons line line' more more' e hline hmore =>
    cases line with
    | nil =>
      obtain rfl := hline.eq_nil_iff.1 rfl
      cases e with
      | newline =>
        obtain rfl := (List.cons.inj hs).2
        exact ⟨more', rfl, hmore⟩
      | carriage | both => exact absurd (List.cons.inj hs).1 (by decide)
    | cons c line =>
      obtain rfl := (List.cons.inj hs).1
      exact absurd rfl (hline.onLine.1 '\n' List.mem_cons_self).2

/-- The first lines of both agree, and so does what follows them. -/
theorem Agree.line? {s s' : Text} (h : Agree s s') :
    (line? s = none ∧ line? s' = none ∧ (s = [] ↔ s' = [])) ∨
    ∃ line line' rest rest', line? s = some (line, rest) ∧ line? s' = some (line', rest') ∧
      LinesAgree line line' ∧ Agree rest rest' := by
  cases h with
  | last hline =>
    exact .inl ⟨line?_eq_none_of_onLine hline.onLine.1, line?_eq_none_of_onLine hline.onLine.2,
      hline.eq_nil_iff⟩
  | @cons line line' rest rest' e hline hrest =>
    right
    by_cases hnewline : e = .carriage ∧ rest.head? = some '\n'
    · -- The two ends are one to the reader.
      obtain ⟨rfl, hhead⟩ := hnewline
      obtain ⟨more, rfl⟩ := List.head?_eq_some_iff.1 hhead
      obtain ⟨more', rfl, hmore⟩ := hrest.exists_of_newline
      exact ⟨line, line', more, more', line?_append (e := .both) hline.onLine.1 nofun,
        line?_append (e := .both) hline.onLine.2 nofun, hline, hmore⟩
    · have hstops : e.Stops rest := fun he hhead => hnewline ⟨he, hhead⟩
      have hstops' : e.Stops rest' := by
        intro he hhead
        obtain ⟨more', rfl⟩ := List.head?_eq_some_iff.1 hhead
        obtain ⟨more, rfl, -⟩ := hrest.symm.exists_of_newline
        exact hstops he rfl
      exact ⟨line, line', rest, rest', line?_append hline.onLine.1 hstops,
        line?_append hline.onLine.2 hstops', hline, hrest⟩

/-- Both lines are refused, or both have the same name. -/
theorem LinesAgree.entry_eq {line line' : Text} (h : LinesAgree line line') :
    (entry line = .error .badLine ∧ entry line' = .error .badLine) ∨
    ∃ name value value', entry line = .ok (name, value) ∧ entry line' = .ok (name, value') ∧
      (value = [] ↔ value' = []) := by
  cases h with
  | bare hline hsign =>
    left
    rw [entry, cut_of_not_mem hsign]
    exact ⟨rfl, rfl⟩
  | @named name value value' hname hsign _ _ hempty =>
    rw [entry, entry, cut_sign hsign, cut_sign hsign]
    simp only
    split
    · exact .inr ⟨_, _, _, rfl, rfl, hempty⟩
    · split
      · exact .inr ⟨_, _, _, rfl, rfl, hempty⟩
      · exact .inl ⟨rfl, rfl⟩

theorem parseFrom_of_line?_eq_none (id secret : Option Text) {s : Text}
    (h : KeyFile.line? s = none) (hne : s ≠ []) :
    parseFrom id secret s = .error .missingLineEnd := by
  rw [parseFrom.eq_def, if_neg hne]
  split
  · rfl
  · next hsome => cases hsome.symm.trans h

/-- The text of the error with which contents are refused, if they are. -/
def refusal? : Except FormatError Credentials → Option Text
  | .ok _ => none
  | .error why => some (Error.format why).message

/-- Both values are known or neither is, and both are empty or neither is. -/
def Known (value value' : Option Text) : Prop := value.map List.isEmpty = value'.map List.isEmpty

theorem Known.of_some {value value' : Text} (h : value = [] ↔ value' = []) :
    Known (some value) (some value') :=
  congrArg some (Bool.eq_iff_iff.2 (by rw [List.isEmpty_iff, List.isEmpty_iff, h]))

theorem Known.isSome_eq {value value' : Option Text} (h : Known value value') :
    value.isSome = value'.isSome := by
  simpa using congrArg Option.isSome h

/-- At the end it counts which values are known and which are empty. -/
theorem refusal?_parseFrom_nil {id id' secret secret' : Option Text} (hid : Known id id')
    (hsecret : Known secret secret') :
    refusal? (parseFrom id secret []) = refusal? (parseFrom id' secret' []) := by
  have hend : ∀ id secret : Option Text, refusal? (parseFrom id secret []) =
      if id.map List.isEmpty = some false ∧ secret.map List.isEmpty = some false then none
      else some (Error.format .incomplete).message := by
    intro id secret
    rw [parseFrom.eq_def, if_pos rfl]
    cases id with
    | none => rfl
    | some id =>
      cases secret with
      | none => simp [refusal?]
      | some secret => cases id <;> cases secret <;> simp [refusal?]
  rw [hend, hend, hid, hsecret]

/-- What each line preserves: the values known so far agree, and the contents that are left. -/
theorem refusal?_parseFrom {id id' secret secret' : Option Text} {s s' : Text} (hid : Known id id')
    (hsecret : Known secret secret') (h : Agree s s') :
    refusal? (parseFrom id secret s) = refusal? (parseFrom id' secret' s') := by
  obtain ⟨hs, hs', hnil⟩ | ⟨line, line', rest, rest', hs, hs', hline, hrest⟩ := h.line?
  · by_cases hne : s = []
    · obtain rfl := hnil.1 hne
      subst hne
      exact refusal?_parseFrom_nil hid hsecret
    · rw [parseFrom_of_line?_eq_none id secret hs hne,
        parseFrom_of_line?_eq_none id' secret' hs' fun hnil' => hne (hnil.2 hnil')]
  · have hlt := length_lt_of_line? hs
    rw [parseFrom_of_line? id secret hs, parseFrom_of_line? id' secret' hs']
    obtain ⟨hbad, hbad'⟩ | ⟨name, value, value', hentry, hentry', hempty⟩ := hline.entry_eq
    · rw [hbad, hbad']
    · rw [hentry, hentry']
      cases name with
      | id =>
        simp only [hid.isSome_eq]
        split
        · rfl
        · exact refusal?_parseFrom (.of_some hempty) hsecret hrest
      | secret =>
        simp only [hsecret.isSome_eq]
        split
        · rfl
        · exact refusal?_parseFrom hid (.of_some hempty) hrest
termination_by s.length

/-- Whatever the values in a key file are, as long as the same ones are empty: it is read all the
same, or refused in the same words. Whatever the secret is, the text for diagnostics is the same. -/
theorem refusal?_eq_of_agree :
    (∀ s s', Agree s s' → refusal? (parse s) = refusal? (parse s')) ∧
    ∀ c c' : Credentials, c.keyId = c'.keyId → c.diagnostic = c'.diagnostic := by
  refine ⟨fun s s' h => refusal?_parseFrom rfl rfl h, fun c c' h => ?_⟩
  unfold Credentials.diagnostic
  rw [h]

/-- A name twice, with two kinds of ends and an `=` in some of the values. -/
theorem refusal?_eq_of_agree_repeated :
    let s := "ACCESS_KEY_SECRET=s=t\r\nACCESS_KEY_SECRET=u\r".toList
    let s' := "ACCESS_KEY_SECRET=abc\r\nACCESS_KEY_SECRET==\r".toList
    let c : Credentials := ⟨"a".toList, "s=t".toList⟩
    let c' : Credentials := ⟨"a".toList, "abc".toList⟩
    Agree s s' ∧ c.keyId = c'.keyId ∧ c.diagnostic = c'.diagnostic ∧
      refusal? (parse s) = refusal? (parse s') ∧
      refusal? (parse s') = some "invalid key file: ACCESS_KEY_SECRET specified twice".toList := by
  intro s s' c c'
  have hname : OnLine Name.secret.text := by decide
  have hsecond : LinesAgree (Name.secret.line ['u']) (Name.secret.line ['=']) :=
    .named hname (by decide) (by decide) (by decide) (by decide)
  have hfirst : LinesAgree (Name.secret.line "s=t".toList) (Name.secret.line "abc".toList) :=
    .named hname (by decide) (by decide) (by decide) (by decide)
  have h : Agree s s' :=
    .cons .both hfirst (.cons .carriage hsecond (.last (.bare (by decide) (by decide))))
  exact ⟨h, rfl, refusal?_eq_of_agree.2 c c' rfl, refusal?_eq_of_agree.1 s s' h, by decide +kernel⟩

end KeyFile

end MachineImage
