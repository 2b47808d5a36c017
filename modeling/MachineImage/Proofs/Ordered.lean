import MachineImage.Proofs.Normalized
import Mathlib.Data.List.Forall2

/-!
The order of canonical queries. Texts stand in the order of their octets and parameters in that of
their keys and then of their values. A canonical query is the parameters of the query in this order,
and nothing else of the query counts.
-/
namespace MachineImage.Signing

open Text

section

variable {s t u : Text}

theorem notAfter_iff : notAfter s t = true ↔ Utf8.encode s ≤ Utf8.encode t := decide_eq_true_iff

theorem notAfter_trans (h : notAfter s t = true) (h' : notAfter t u = true) :
    notAfter s u = true :=
  notAfter_iff.2 (List.le_trans (notAfter_iff.1 h) (notAfter_iff.1 h'))

theorem notAfter_total (s t : Text) : (notAfter s t || notAfter t s) = true := by
  rw [Bool.or_eq_true, notAfter_iff, notAfter_iff]
  exact List.le_total _ _

/-- No two texts have the same octets. -/
theorem notAfter_antisymm (h : notAfter s t = true) (h' : notAfter t s = true) : s = t :=
  Utf8.encode_injective (List.le_antisymm (notAfter_iff.1 h) (notAfter_iff.1 h'))

theorem lt_of_notAfter (h : notAfter s t = true) (hne : s ≠ t) : Utf8.encode s < Utf8.encode t :=
  List.not_le.1 fun hle => hne (notAfter_antisymm h (notAfter_iff.2 hle))

end

section

variable {p q r : Text × Text}

/-- The key decides, and the value does between equal keys. -/
theorem parameterNotAfter_iff : parameterNotAfter p q = true ↔
    Utf8.encode p.1 < Utf8.encode q.1 ∨ p.1 = q.1 ∧ Utf8.encode p.2 ≤ Utf8.encode q.2 := by
  unfold parameterNotAfter
  split
  · next h =>
    rw [notAfter_iff, h]
    simp [List.lt_irrefl]
  · next h =>
    refine ⟨fun hle => .inl (lt_of_notAfter hle h), fun hlt => ?_⟩
    exact notAfter_iff.2 (List.le_of_lt (hlt.resolve_right fun he => h he.1))

theorem parameterNotAfter_trans (h : parameterNotAfter p q = true)
    (h' : parameterNotAfter q r = true) : parameterNotAfter p r = true := by
  rw [parameterNotAfter_iff] at *
  rcases h with hkey | ⟨hkey, hvalue⟩
  · rcases h' with hkey' | ⟨hkey', -⟩
    · exact .inl (List.lt_trans hkey hkey')
    · exact .inl (hkey' ▸ hkey)
  · rcases h' with hkey' | ⟨hkey', hvalue'⟩
    · exact .inl (hkey ▸ hkey')
    · exact .inr ⟨hkey.trans hkey', List.le_trans hvalue hvalue'⟩

theorem parameterNotAfter_total (p q : Text × Text) :
    (parameterNotAfter p q || parameterNotAfter q p) = true := by
  unfold parameterNotAfter
  split
  · next h =>
    rw [if_pos h.symm]
    exact notAfter_total _ _
  · next h =>
    rw [if_neg (Ne.symm h)]
    exact notAfter_total _ _

theorem parameterNotAfter_antisymm (h : parameterNotAfter p q = true)
    (h' : parameterNotAfter q p = true) : p = q := by
  unfold parameterNotAfter at h h'
  split at h
  · next hkey =>
    rw [if_pos hkey.symm] at h'
    exact Prod.ext hkey (notAfter_antisymm h h')
  · next hkey =>
    rw [if_neg (Ne.symm hkey)] at h'
    exact absurd (notAfter_antisymm h h') hkey

end

/-- The piece is a key and a value with the first `=` between them, or else a key alone. -/
def Spells (piece : Text) (p : Text × Text) : Prop :=
  '=' ∉ p.1 ∧ (piece = p.1 ++ '=' :: p.2 ∨ piece = p.1 ∧ p.2 = [])

theorem spells_parameter (piece : Text) : Spells piece (parameter piece) := by
  unfold parameter
  by_cases h : '=' ∈ piece
  · obtain ⟨key, value, rfl, hkey⟩ := List.eq_append_cons_of_mem h
    rw [cut_sign hkey]
    exact ⟨hkey, .inl rfl⟩
  · rw [cut_of_not_mem h]
    exact ⟨h, .inr ⟨rfl, rfl⟩⟩

/-- A piece spells one parameter only. -/
theorem spells_iff {piece : Text} {p : Text × Text} : Spells piece p ↔ parameter piece = p := by
  constructor
  · obtain ⟨key, value⟩ := p
    rintro ⟨hkey, rfl | ⟨rfl, hvalue⟩⟩
    · rw [parameter, cut_sign hkey]
      rfl
    · rw [parameter, cut_of_not_mem hkey]
      exact Prod.ext rfl hvalue.symm
  · rintro rfl
    exact spells_parameter piece

theorem forall₂_spells_iff {query : Text} {pairs : List (Text × Text)} :
    (queryPieces query).Forall₂ Spells pairs ↔ parameters query = pairs := by
  have hspells : Spells = fun piece p => parameter piece = p :=
    funext fun _ => funext fun _ => propext spells_iff
  rw [parameters, hspells, ← List.forall₂_eq_eq_eq, List.forall₂_map_left_iff]

theorem isPair_of_mem_parameters {query : Text} {p : Text × Text} (h : p ∈ parameters query) :
    IsPair p := by
  obtain ⟨piece, hpiece, rfl⟩ := List.mem_map.1 h
  have hmark : '&' ∉ piece := by
    intro hm
    exact absurd (forall_mem_of_mem_split (List.mem_filter.1 hpiece).1 _ hm) (by decide)
  refine ⟨(spells_parameter piece).1, fun hm => ?_, fun hm => ?_⟩
  · exact hmark (mem_of_mem_parameter (.inl hm))
  · exact hmark (mem_of_mem_parameter (.inr hm))

/-- The result is the parameters of the query, each with its key, an `=` and its value, in the order
of the octets of their keys and then of their values. -/
structure Sorts (query result : Text) : Prop where
  perm : (parameters result).Perm (parameters query)
  ordered : (parameters result).Pairwise fun p q =>
    Utf8.encode p.1 < Utf8.encode q.1 ∨ p.1 = q.1 ∧ Utf8.encode p.2 ≤ Utf8.encode q.2
  written : result = joinPairs (parameters result)
  /-- Only of a query without parameters is there an empty piece left. -/
  pieces : parameters query ≠ [] → split (· == '&') result = queryPieces result

section

variable (query : Text)

/-- The parameters in canonical order. -/
def sortedParameters : List (Text × Text) := (parameters query).mergeSort parameterNotAfter

theorem sortedParameters_perm : (sortedParameters query).Perm (parameters query) :=
  List.mergeSort_perm _ _

theorem pairwise_sortedParameters :
    (sortedParameters query).Pairwise fun p q => parameterNotAfter p q = true :=
  @List.pairwise_mergeSort _ parameterNotAfter (fun _ _ _ => parameterNotAfter_trans)
    parameterNotAfter_total _

theorem isPair_sortedParameters : ∀ p ∈ sortedParameters query, IsPair p :=
  fun _ hp => isPair_of_mem_parameters ((sortedParameters_perm query).mem_iff.1 hp)

theorem parameters_canonicalQuery : parameters (canonicalQuery query) = sortedParameters query :=
  parameters_joinPairs (isPair_sortedParameters query)

theorem sorts_canonicalQuery : Sorts query (canonicalQuery query) where
  perm := by
    rw [parameters_canonicalQuery]
    exact sortedParameters_perm query
  ordered := by
    rw [parameters_canonicalQuery]
    exact (pairwise_sortedParameters query).imp parameterNotAfter_iff.1
  written := by
    rw [parameters_canonicalQuery]
    rfl
  pieces := by
    intro hne
    have hsorted : sortedParameters query ≠ [] := by
      intro hnil
      have hperm := sortedParameters_perm query
      rw [hnil] at hperm
      exact hne (List.nil_perm.1 hperm)
    have hpairs := isPair_sortedParameters query
    rw [canonicalQuery_eq]
    exact (@split_joinFields '&' '=' _ (by decide) hsorted hpairs).trans
      (queryPieces_joinPairs hpairs).symm

/-- There is one sorting of a query. -/
theorem canonicalQuery_eq_iff (other : Text) : canonicalQuery other = canonicalQuery query ↔
    (parameters other).Perm (parameters query) := by
  constructor
  · intro h
    have hperm := (sorts_canonicalQuery other).perm
    rw [h] at hperm
    exact hperm.symm.trans (sorts_canonicalQuery query).perm
  · intro h
    have hperm : (sortedParameters other).Perm (sortedParameters query) :=
      (sortedParameters_perm other).trans (h.trans (sortedParameters_perm query).symm)
    have hsorted : sortedParameters other = sortedParameters query :=
      List.Perm.eq_of_pairwise (fun _ _ _ _ => parameterNotAfter_antisymm)
        (pairwise_sortedParameters other) (pairwise_sortedParameters query) hperm
    exact congrArg joinPairs hsorted

theorem canonicalQuery_canonicalQuery :
    canonicalQuery (canonicalQuery query) = canonicalQuery query :=
  canonicalQuery_joinPairs (isPair_sortedParameters query) (pairwise_sortedParameters query)

/-- A canonical query has the parameters of the query in order and nothing else. It is canonical
itself, and the same for just those queries that have these parameters, in whatever order and with
whatever empty pieces between them. -/
theorem canonicalQuery_sorts : Sorts query (canonicalQuery query) ∧
    (∀ text pairs, (queryPieces text).Forall₂ Spells pairs ↔ parameters text = pairs) ∧
    canonicalQuery (canonicalQuery query) = canonicalQuery query ∧
    (∀ other, (queryPieces other).Perm (queryPieces query) →
      canonicalQuery other = canonicalQuery query) ∧
    ∀ other, canonicalQuery other = canonicalQuery query ↔
      (parameters other).Perm (parameters query) :=
  ⟨sorts_canonicalQuery query, fun _ _ => forall₂_spells_iff, canonicalQuery_canonicalQuery query,
    fun other h => (canonicalQuery_eq_iff query other).2 (h.map parameter),
    canonicalQuery_eq_iff query⟩

end

/-- A key stands behind the keys that it begins with, though a minus sign comes before an `=`. -/
theorem canonicalQuery_sorts_keys :
    let query := "a-=3&a=2&a".toList
    let other := "&a&&a=2&a-=3".toList
    (queryPieces other).Perm (queryPieces query) ∧ canonicalQuery other = canonicalQuery query ∧
      Sorts query "a=&a=2&a-=3".toList := by
  intro query other
  let sorted := "a=&a=2&a-=3".toList
  have hperm : (queryPieces other).Perm (queryPieces query) := by decide +kernel
  have hparameters : (parameters sorted).Perm (parameters query) := by decide +kernel
  have hself : joinPairs (parameters sorted) = sorted := by decide +kernel
  have hsorted : canonicalQuery (joinPairs (parameters sorted)) = joinPairs (parameters sorted) :=
    canonicalQuery_joinPairs (fun _ => isPair_of_mem_parameters) (by decide +kernel)
  obtain ⟨hsorts, -, -, hreordered, hiff⟩ := canonicalQuery_sorts query
  rw [hself, (hiff sorted).2 hparameters] at hsorted
  rw [hsorted] at hsorts
  exact ⟨hperm, hreordered other hperm, hsorts⟩

end MachineImage.Signing
