import MachineImage.Proofs.Quoted
import Mathlib.Data.List.DropRight

/-!
JSON documents made of texts: what is laid out line by line is read back as it was meant, every text
and every key, in the order in which they stand.
-/
namespace MachineImage.Json

/-- What a document says that is made of texts. -/
inductive Content
  | text (s : Text)
  | list (items : List Content)
  | record (members : List (Text × Content))

mutual

/-- The document that says it. -/
def Content.json : Content → Json
  | .text s => ofText s
  | .list items => .array (jsonItems items)
  | .record members => .object (jsonMembers members)

def jsonItems : List Content → List Json
  | [] => []
  | item :: items => item.json :: jsonItems items

def jsonMembers : List (Text × Content) → List (Text × Json)
  | [] => []
  | (key, value) :: members => (escape key, value.json) :: jsonMembers members

end

mutual

/-- What a document says, if each of its texts and keys denotes one and there is nothing else. -/
def content? : Json → Option Content
  | .word _ => none
  | .number _ => none
  | .string written => (unescape? written).map .text
  | .array items => (contentItems? items).map .list
  | .object members => (contentMembers? members).map .record

def contentItems? : List Json → Option (List Content)
  | [] => some []
  | item :: items => do return (← content? item) :: (← contentItems? items)

def contentMembers? : List (Text × Json) → Option (List (Text × Content))
  | [] => some []
  | (key, value) :: members => do
    return (← unescape? key, ← content? value) :: (← contentMembers? members)

end

/-- What a text says as a document. -/
def read? (s : Text) : Option Content := (parse? s).bind content?

theorem jsonItems_eq_map (items : List Content) : jsonItems items = items.map Content.json := by
  induction items with
  | nil => rfl
  | cons item items ih => rw [jsonItems, ih, List.map_cons]

theorem jsonMembers_eq_map (members : List (Text × Content)) :
    jsonMembers members = members.map fun m => (escape m.1, m.2.json) := by
  induction members with
  | nil => rfl
  | cons m members ih => rw [jsonMembers, ih, List.map_cons]

mutual

theorem content?_json : ∀ c : Content, content? c.json = some c
  | .text s => by rw [Content.json, ofText, content?, unescape?_escape, Option.map_some]
  | .list items => by rw [Content.json, content?, contentItems?_jsonItems items, Option.map_some]
  | .record members => by
    rw [Content.json, content?, contentMembers?_jsonMembers members, Option.map_some]

theorem contentItems?_jsonItems : ∀ items : List Content,
    contentItems? (jsonItems items) = some items
  | [] => rfl
  | item :: items => by
    rw [jsonItems, contentItems?, content?_json item, contentItems?_jsonItems items]
    rfl

theorem contentMembers?_jsonMembers : ∀ members : List (Text × Content),
    contentMembers? (jsonMembers members) = some members
  | [] => rfl
  | (key, value) :: members => by
    rw [jsonMembers, contentMembers?, unescape?_escape, content?_json value,
      contentMembers?_jsonMembers members]
    rfl

end

/-! ### Strings up to their closing quote -/

theorem stringEnd_escapeChar (seen s : Text) (c : Char) :
    stringEnd seen (escapeChar c ++ s) = stringEnd ((escapeChar c).reverse ++ seen) s := by
  unfold escapeChar
  split
  · next letter h =>
    have table : ∀ p ∈ shortEscapes, p.2 ≠ 'u' ∧ shortEscapes.any (·.2 == p.2) = true := by decide
    obtain ⟨hu, hany⟩ := table _ (mem_of_lookup_shortEscapes h)
    rw [List.cons_append, List.cons_append, List.nil_append, stringEnd, if_pos (.inr hany)]
    · rfl
    · exact fun _ _ _ _ _ hletter => absurd hletter hu
  · next h =>
    split
    · next hc =>
      have hdigits : ∀ n < 0x20,
          (hex4? ['0', '0', Hex.lowerDigit (n / 16), Hex.lowerDigit (n % 16)]).isSome = true := by
        decide
      have hwritten : "\\u00".toList = ['\\', 'u', '0', '0'] := rfl
      simp only [hwritten, List.cons_append, List.nil_append]
      rw [stringEnd, if_pos (hdigits _ hc)]
      rfl
    · next hc =>
      have hplain : c ≠ '"' ∧ c ≠ '\\' := by
        constructor
        · rintro rfl
          exact nomatch h
        · rintro rfl
          exact nomatch h
      rw [List.singleton_append, stringEnd, if_neg (not_or.2 ⟨hc, hplain.2⟩)]
      · rfl
      · exact hplain.1
      · exact fun _ _ _ _ _ hc' => absurd hc' hplain.2
      · exact fun _ _ hc' => absurd hc' hplain.2

/-- A quote that is part of a text does not close its string. -/
theorem stringEnd_escape (seen s rest : Text) :
    stringEnd seen (escape s ++ '"' :: rest) = some (seen.reverse ++ escape s, rest) := by
  induction s generalizing seen with
  | nil => rw [escape, List.flatMap_nil, List.nil_append, stringEnd, List.append_nil]
  | cons c s ih =>
    have hc : escape (c :: s) = escapeChar c ++ escape s := List.flatMap_cons
    rw [hc, List.append_assoc, stringEnd_escapeChar, ih, List.reverse_append,
      List.reverse_reverse, List.append_assoc]

/-! ### Values behind blanks -/

theorem skipBlanks_newline (depth : Nat) (s : Text) :
    skipBlanks (newline depth ++ s) = skipBlanks s := by
  have hblank : ∀ n : Nat, skipBlanks (List.replicate n ' ' ++ s) = skipBlanks s := by
    intro n
    induction n with
    | zero => rfl
    | succ n ih => exact ih
  exact hblank (2 * depth)

theorem skipBlanks_cons {c : Char} (h : isBlank c = false) (s : Text) :
    skipBlanks (c :: s) = c :: s := by
  rw [skipBlanks, List.dropWhile_cons_of_neg (by simp [h])]

theorem skipBlanks_skipBlanks (s : Text) : skipBlanks (skipBlanks s) = skipBlanks s :=
  List.dropWhile_idempotent isBlank s

/-- What is read does not depend on the blanks in front. -/
theorem value?_congr {s t : Text} (h : skipBlanks s = skipBlanks t) (fuel : Nat) :
    value? fuel s = value? fuel t := by
  cases fuel with
  | zero => rfl
  | succ fuel => rw [value?, value?, h]

theorem value?_space (fuel : Nat) (s : Text) : value? fuel (' ' :: s) = value? fuel s := by
  have hblank : skipBlanks (' ' :: s) = skipBlanks s := rfl
  exact value?_congr hblank fuel

theorem items?_congr {s t : Text} (h : skipBlanks s = skipBlanks t) (fuel : Nat) :
    items? fuel s = items? fuel t := by
  cases fuel with
  | zero => rfl
  | succ fuel => rw [items?, items?, value?_congr h]

theorem members?_congr {s t : Text} (h : skipBlanks s = skipBlanks t) (fuel : Nat) :
    members? fuel s = members? fuel t := by
  cases fuel with
  | zero => rfl
  | succ fuel => rw [members?, members?, key?, key?, h]

/-- A list does not end before its items. -/
theorem skipBlanks_prettyItems (depth : Nat) (item : Content) (items : List Content)
    (rest : Text) : ∃ sign more,
      skipBlanks (prettyItems depth (jsonItems (item :: items)) ++ rest) = sign :: more ∧
        sign ≠ ']' := by
  have hitem : ∀ rest, ∃ sign more,
      skipBlanks (newline depth ++ pretty depth item.json ++ rest) = sign :: more ∧
        sign ≠ ']' := by
    intro rest
    rw [List.append_assoc, skipBlanks_newline]
    cases item with
    | text s => exact ⟨_, _, rfl, by decide⟩
    | list items => cases items <;> exact ⟨_, _, rfl, by decide⟩
    | record members => cases members <;> exact ⟨_, _, rfl, by decide⟩
  cases items with
  | nil => exact hitem rest
  | cons next items =>
    have hitems : prettyItems depth (jsonItems (item :: next :: items)) ++ rest =
        newline depth ++ pretty depth item.json ++
          (',' :: prettyItems depth (jsonItems (next :: items)) ++ rest) :=
      List.append_assoc _ _ _
    rw [hitems]
    exact hitem _

theorem skipBlanks_prettyMembers (depth : Nat) (key : Text) (value : Content)
    (members : List (Text × Content)) (rest : Text) : ∃ more,
      skipBlanks (prettyMembers depth (jsonMembers ((key, value) :: members)) ++ rest) =
        '"' :: more := by
  have hkey : ∀ t : Text, skipBlanks (newline depth ++ quoted (escape key) ++ t) =
      '"' :: (escape key ++ ['"'] ++ t) := by
    intro t
    rw [List.append_assoc, skipBlanks_newline]
    exact skipBlanks_cons (by decide) _
  cases members with
  | nil =>
    rw [jsonMembers, jsonMembers, prettyMembers, List.append_assoc, List.append_assoc, hkey]
    exact ⟨_, rfl⟩
  | cons next members =>
    obtain ⟨key', value'⟩ := next
    rw [jsonMembers, jsonMembers, prettyMembers, List.append_assoc, List.append_assoc,
      List.append_assoc, hkey]
    · exact ⟨_, rfl⟩
    · exact nofun

theorem value?_list {s more : Text} {sign : Char} (h : skipBlanks s = sign :: more)
    (hsign : sign ≠ ']') (fuel : Nat) : value? (fuel + 1) ('[' :: s) =
      (items? fuel s).map fun (items, rest) => (.array items, rest) := by
  have hopen : skipBlanks ('[' :: s) = '[' :: s := skipBlanks_cons (by decide) s
  have hagain : skipBlanks (sign :: more) = skipBlanks s := by rw [← h, skipBlanks_skipBlanks]
  rw [value?, hopen]
  simp only [h]
  split
  · next heq => exact absurd (List.cons.inj heq).1 hsign
  · rw [items?_congr hagain]

theorem value?_record {s more : Text} {sign : Char} (h : skipBlanks s = sign :: more)
    (hsign : sign ≠ '\x7d') (fuel : Nat) : value? (fuel + 1) ('\x7b' :: s) =
      (members? fuel s).map fun (members, rest) => (.object members, rest) := by
  have hopen : skipBlanks ('\x7b' :: s) = '\x7b' :: s := skipBlanks_cons (by decide) s
  have hagain : skipBlanks (sign :: more) = skipBlanks s := by rw [← h, skipBlanks_skipBlanks]
  rw [value?, hopen]
  simp only [h]
  split
  · next heq => exact absurd (List.cons.inj heq).1 hsign
  · rw [members?_congr hagain]

theorem key?_quoted (depth : Nat) (key rest : Text) :
    key? (newline depth ++ quoted (escape key) ++ ": ".toList ++ rest) =
      some (escape key, ' ' :: rest) := by
  have hquoted : newline depth ++ quoted (escape key) ++ ": ".toList ++ rest =
      newline depth ++ '"' :: (escape key ++ '"' :: ':' :: ' ' :: rest) := by
    simp [quoted]
  have hopen : skipBlanks ('"' :: (escape key ++ '"' :: ':' :: ' ' :: rest)) =
      '"' :: (escape key ++ '"' :: ':' :: ' ' :: rest) := skipBlanks_cons (by decide) _
  rw [hquoted, key?, skipBlanks_newline, hopen]
  simp only [stringEnd_escape, Option.bind_eq_bind, Option.bind_some]
  rfl

theorem items?_last {fuel : Nat} {s t rest : Text} {item : Json}
    (hvalue : value? fuel s = some (item, t)) (ht : skipBlanks t = ']' :: rest) :
    items? (fuel + 1) s = some ([item], rest) := by
  rw [items?, hvalue]
  simp only [Option.bind_eq_bind, Option.bind_some, ht]

theorem items?_more {fuel : Nat} {s t more rest : Text} {item : Json} {items : List Json}
    (hvalue : value? fuel s = some (item, t)) (ht : skipBlanks t = ',' :: more)
    (hmore : items? fuel more = some (items, rest)) :
    items? (fuel + 1) s = some (item :: items, rest) := by
  rw [items?, hvalue]
  simp only [Option.bind_eq_bind, Option.bind_some, ht, hmore]
  rfl

theorem members?_last {fuel : Nat} {s u t rest key : Text} {value : Json}
    (hkey : key? s = some (key, u)) (hvalue : value? fuel u = some (value, t))
    (ht : skipBlanks t = '\x7d' :: rest) :
    members? (fuel + 1) s = some ([(key, value)], rest) := by
  rw [members?, hkey]
  simp only [Option.bind_eq_bind, Option.bind_some, hvalue, ht]

theorem members?_more {fuel : Nat} {s u t more rest key : Text} {value : Json}
    {members : List (Text × Json)} (hkey : key? s = some (key, u))
    (hvalue : value? fuel u = some (value, t)) (ht : skipBlanks t = ',' :: more)
    (hmore : members? fuel more = some (members, rest)) :
    members? (fuel + 1) s = some ((key, value) :: members, rest) := by
  rw [members?, hkey]
  simp only [Option.bind_eq_bind, Option.bind_some, hvalue, ht, hmore]
  rfl

/-! ### Documents -/

theorem length_newline_pos (depth : Nat) : 0 < (newline depth).length := Nat.succ_pos _

mutual

/-- Twice its length is fuel enough for a document: of two calls that follow each other, one at
least reads a sign. -/
theorem value?_pretty : ∀ (c : Content) (fuel depth : Nat) (rest : Text),
    2 * (pretty depth c.json).length ≤ fuel →
    value? fuel (pretty depth c.json ++ rest) = some (c.json, rest)
  | .text s, 0, depth, rest, h => absurd h (Nat.not_le_of_lt (Nat.succ_pos _))
  | .text s, fuel + 1, depth, rest, h => by
    have hpretty : pretty depth (Content.text s).json ++ rest =
        '"' :: (escape s ++ '"' :: rest) := by
      simp [Content.json, ofText, pretty, quoted]
    have hopen : skipBlanks ('"' :: (escape s ++ '"' :: rest)) = '"' :: (escape s ++ '"' :: rest) :=
      skipBlanks_cons (by decide) _
    rw [hpretty, value?, hopen]
    simp only [stringEnd_escape, Option.map_some]
    rfl
  | .list [], 0, depth, rest, h => absurd h (Nat.not_le_of_lt (Nat.succ_pos _))
  | .list [], fuel + 1, depth, rest, h => rfl
  | .list (item :: items), fuel, depth, rest, h => by
    have hpretty : pretty depth (Content.list (item :: items)).json =
        '[' :: (prettyItems (depth + 1) (jsonItems (item :: items)) ++ newline depth ++ [']']) :=
      rfl
    rw [hpretty] at h ⊢
    simp only [List.length_cons, List.length_append] at h
    obtain ⟨fuel, rfl⟩ : ∃ n, fuel = n + 1 := Nat.exists_eq_succ_of_ne_zero (by omega)
    obtain ⟨sign, more, hsign, hne⟩ :=
      skipBlanks_prettyItems (depth + 1) item items (newline depth ++ ']' :: rest)
    have hitems := items?_prettyItems (item :: items) fuel (depth + 1) depth rest nofun (by omega)
    rw [List.cons_append, List.append_assoc, List.append_assoc, List.singleton_append,
      value?_list hsign hne, hitems]
    rfl
  | .record [], 0, depth, rest, h => absurd h (Nat.not_le_of_lt (Nat.succ_pos _))
  | .record [], fuel + 1, depth, rest, h => rfl
  | .record ((key, value) :: members), fuel, depth, rest, h => by
    have hpretty : pretty depth (Content.record ((key, value) :: members)).json =
        '\x7b' :: (prettyMembers (depth + 1) (jsonMembers ((key, value) :: members)) ++
          newline depth ++ ['\x7d']) :=
      rfl
    rw [hpretty] at h ⊢
    simp only [List.length_cons, List.length_append] at h
    obtain ⟨fuel, rfl⟩ : ∃ n, fuel = n + 1 := Nat.exists_eq_succ_of_ne_zero (by omega)
    obtain ⟨more, hquote⟩ := skipBlanks_prettyMembers (depth + 1) key value members
      (newline depth ++ '\x7d' :: rest)
    have hmembers :=
      members?_prettyMembers ((key, value) :: members) fuel (depth + 1) depth rest nofun (by omega)
    rw [List.cons_append, List.append_assoc, List.append_assoc, List.singleton_append,
      value?_record hquote (by decide), hmembers]
    rfl

theorem items?_prettyItems : ∀ (items : List Content) (fuel depth outer : Nat) (rest : Text),
    items ≠ [] → 2 * (prettyItems depth (jsonItems items)).length ≤ fuel →
    items? fuel (prettyItems depth (jsonItems items) ++ (newline outer ++ ']' :: rest)) =
      some (jsonItems items, rest)
  | [], _, _, _, _, hne, _ => absurd rfl hne
  | [item], fuel, depth, outer, rest, _, h => by
    have hitems : prettyItems depth (jsonItems [item]) = newline depth ++ pretty depth item.json :=
      rfl
    rw [hitems] at h ⊢
    have hline := length_newline_pos depth
    rw [List.length_append] at h
    obtain ⟨fuel, rfl⟩ : ∃ n, fuel = n + 1 := Nat.exists_eq_succ_of_ne_zero (by omega)
    have hvalue := value?_pretty item fuel depth (newline outer ++ ']' :: rest) (by omega)
    refine items?_last (t := newline outer ++ ']' :: rest) ?_ (skipBlanks_newline outer _)
    rw [List.append_assoc, value?_congr (skipBlanks_newline depth _), hvalue]
  | item :: next :: items, fuel, depth, outer, rest, _, h => by
    have hitems : prettyItems depth (jsonItems (item :: next :: items)) =
        newline depth ++ pretty depth item.json ++
          ',' :: prettyItems depth (jsonItems (next :: items)) := rfl
    rw [hitems] at h ⊢
    have hline := length_newline_pos depth
    rw [List.length_append, List.length_append, List.length_cons] at h
    obtain ⟨fuel, rfl⟩ : ∃ n, fuel = n + 1 := Nat.exists_eq_succ_of_ne_zero (by omega)
    have hmore := items?_prettyItems (next :: items) fuel depth outer rest nofun (by omega)
    have hvalue := value?_pretty item fuel depth
      (',' :: (prettyItems depth (jsonItems (next :: items)) ++ (newline outer ++ ']' :: rest)))
      (by omega)
    refine items?_more ?_ (skipBlanks_cons (by decide) _) hmore
    rw [List.append_assoc, List.append_assoc, value?_congr (skipBlanks_newline depth _),
      List.cons_append, hvalue]

theorem members?_prettyMembers : ∀ (members : List (Text × Content)) (fuel depth outer : Nat)
    (rest : Text), members ≠ [] → 2 * (prettyMembers depth (jsonMembers members)).length ≤ fuel →
    members? fuel (prettyMembers depth (jsonMembers members) ++ (newline outer ++
      '\x7d' :: rest)) = some (jsonMembers members, rest)
  | [], _, _, _, _, hne, _ => absurd rfl hne
  | [(key, value)], fuel, depth, outer, rest, _, h => by
    have hmembers : prettyMembers depth (jsonMembers [(key, value)]) =
        newline depth ++ quoted (escape key) ++ ": ".toList ++ pretty depth value.json := rfl
    rw [hmembers] at h ⊢
    have hline := length_newline_pos depth
    simp only [List.length_append] at h
    obtain ⟨fuel, rfl⟩ : ∃ n, fuel = n + 1 := Nat.exists_eq_succ_of_ne_zero (by omega)
    have hvalue := value?_pretty value fuel depth (newline outer ++ '\x7d' :: rest) (by omega)
    rw [List.append_assoc]
    refine members?_last (t := newline outer ++ '\x7d' :: rest) (key?_quoted depth key _) ?_
      (skipBlanks_newline outer _)
    rw [value?_space, hvalue]
  | (key, value) :: (key', value') :: members, fuel, depth, outer, rest, _, h => by
    have hmembers : prettyMembers depth (jsonMembers ((key, value) :: (key', value') :: members)) =
        newline depth ++ quoted (escape key) ++ ": ".toList ++ pretty depth value.json ++
          ',' :: prettyMembers depth (jsonMembers ((key', value') :: members)) := rfl
    rw [hmembers] at h ⊢
    have hline := length_newline_pos depth
    simp only [List.length_append, List.length_cons] at h
    obtain ⟨fuel, rfl⟩ : ∃ n, fuel = n + 1 := Nat.exists_eq_succ_of_ne_zero (by omega)
    have hmore := members?_prettyMembers ((key', value') :: members) fuel depth outer rest nofun
      (by omega)
    have hvalue := value?_pretty value fuel depth (',' ::
      (prettyMembers depth (jsonMembers ((key', value') :: members)) ++
        (newline outer ++ '\x7d' :: rest))) (by omega)
    rw [List.append_assoc, List.append_assoc, List.cons_append]
    refine members?_more (key?_quoted depth key _) ?_ (skipBlanks_cons (by decide) _) hmore
    rw [value?_space, hvalue]

end

theorem parse?_pretty (c : Content) : parse? (pretty 0 c.json) = some c.json := by
  have hvalue := value?_pretty c (2 * (pretty 0 c.json).length + 2) 0 [] (by omega)
  rw [List.append_nil] at hvalue
  rw [parse?, hvalue]
  rfl

/-- Nothing of a document is lost on the way, and nothing is added. -/
theorem read?_pretty (c : Content) : read? (pretty 0 c.json) = some c := by
  rw [read?, parse?_pretty, Option.bind_some, content?_json]

end MachineImage.Json
