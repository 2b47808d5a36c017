import MachineImage.Proofs.Encoded

/-!
The parameters of a form, from the calls that add them to what is read in its encoding. A parameter
that is not enabled leaves no trace, and two forms never have the same encoding.
-/
namespace MachineImage.Form

/-- A parameter to be added, always or only if it is enabled. -/
inductive Addition
  | always (key value : Text)
  | enabled (isEnabled : Bool) (key value : Text)
  deriving DecidableEq, Repr

def add (f : Form) : Addition → Form
  | .always key value => f.param key value
  | .enabled isEnabled key value => f.paramIf isEnabled key value

/-- What is added. -/
def Addition.pair? : Addition → Option (Text × Text)
  | .always key value => some (key, value)
  | .enabled isEnabled key value => if isEnabled then some (key, value) else none

/-- The form to which parameters were added one after the other. -/
def built (action version : Text) (additions : List Addition) : Form :=
  additions.foldl add ⟨action, version, []⟩

theorem add_eq (f : Form) (a : Addition) :
    f.add a = { f with parameters := f.parameters ++ a.pair?.toList } := by
  cases a with
  | always key value => rfl
  | enabled isEnabled key value =>
    cases isEnabled with
    | true => rfl
    | false => simp [add, paramIf, Addition.pair?]

theorem foldl_add (f : Form) (additions : List Addition) :
    additions.foldl add f =
      { f with parameters := f.parameters ++ additions.filterMap Addition.pair? } := by
  induction additions generalizing f with
  | nil => simp
  | cons a additions ih =>
    rw [List.foldl_cons, ih, add_eq]
    cases h : a.pair? with
    | none => simp [List.filterMap_cons_none h]
    | some pair => simp [List.filterMap_cons_some h]

theorem pairs_built (action version : Text) (additions : List Addition) :
    (built action version additions).pairs =
      ("Action".toList, action) :: additions.filterMap Addition.pair? ++
        [("Version".toList, version)] := by
  rw [built, foldl_add, List.nil_append]
  rfl

theorem eq_of_pairs_eq {f g : Form} (h : f.pairs = g.pairs) : f = g := by
  rcases f with ⟨action, version, parameters⟩
  rcases g with ⟨action', version', parameters'⟩
  obtain ⟨haction, hrest⟩ := List.cons_eq_cons.1 h
  obtain ⟨rfl, hversion⟩ := List.append_inj' hrest rfl
  obtain rfl : action = action' := congrArg Prod.snd haction
  obtain rfl : version = version' := congrArg Prod.snd (List.singleton_inj.1 hversion)
  rfl

/-- Keys and values of any characters read back in the order in which they were added, between the
action and the version, and no other form is encoded like this one. -/
theorem encode_readsBack (action version : Text) (additions : List Addition) :
    read? (built action version additions).encode =
        some (("Action".toList, action) :: additions.filterMap Addition.pair? ++
          [("Version".toList, version)]) ∧
      ∀ f g : Form, f.encode = g.encode ↔
        f.action = g.action ∧ f.parameters = g.parameters ∧ f.version = g.version := by
  refine ⟨by rw [read?_encode, pairs_built], fun f g => ⟨fun h => ?_, ?_⟩⟩
  · have hread := congrArg read? h
    rw [read?_encode, read?_encode] at hread
    obtain rfl := eq_of_pairs_eq (Option.some.inj hread)
    exact ⟨rfl, rfl, rfl⟩
  · rintro ⟨haction, hparameters, hversion⟩
    rw [encode, encode, pairs, pairs, haction, hparameters, hversion]

/-- Signs of the encoding in a key and a value, an empty pair, and one that is not enabled. -/
example : read? (built "A".toList "1".toList
    [.always "&=".toList "%+ é".toList, .enabled false ['x'] ['y'], .enabled true [] []]).encode =
      some [("Action".toList, "A".toList), ("&=".toList, "%+ é".toList), ([], []),
        ("Version".toList, "1".toList)] := by
  decide +kernel

end MachineImage.Form
