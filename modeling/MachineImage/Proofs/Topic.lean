import MachineImage.Region

/-!
The texts that name a topic, as a grammar of their fields, and how far the reader keeps to it: it
asks for every field of a topic but the last one, the name.
-/
namespace MachineImage

open Text

namespace Text

variable {α : Type} [BEq α] [LawfulBEq α] {sign : α} {s piece next : List α}
  {more : List (List α)}

/-- The first of several pieces ends at a sign, and the others are the pieces of what follows. -/
theorem exists_of_split (h : split (· == sign) s = piece :: next :: more) :
    ∃ rest, s = piece ++ sign :: rest ∧ sign ∉ piece ∧ split (· == sign) rest = next :: more := by
  by_cases hsign : sign ∈ s
  · obtain ⟨before, rest, rfl, hbefore⟩ := List.eq_append_cons_of_mem hsign
    rw [split_sign hbefore] at h
    obtain ⟨rfl, hrest⟩ := List.cons.inj h
    exact ⟨rest, rfl, hbefore, hrest⟩
  · rw [split_of_not_mem hsign] at h
    cases h

end Text

namespace Region

/-- What stands before the account of a topic. -/
def topicHead (partition : Text) (region : Region) : Text :=
  "arn:".toList ++ partition ++ ":sns:".toList ++ region.name ++ [':']

/-- The fields of a topic are these up to its region, and `rest` follows them. -/
structure Heads (arn : Text) (region : Region) (partition rest : Text) : Prop where
  arn_eq : arn = topicHead partition region ++ rest
  partition : ':' ∉ partition
  region_ne_nil : region.name ≠ []
  region : ':' ∉ region.name

/-- A topic of the region: an account and a name come last, and only the name may have colons. -/
def IsTopic (arn : Text) (region : Region) : Prop :=
  ∃ partition account name, Heads arn region partition (account ++ ':' :: name) ∧ ':' ∉ account

/-- A topic but for its name and the colon before it. -/
def IsNameless (arn : Text) (region : Region) : Prop :=
  ∃ partition account, Heads arn region partition account ∧ ':' ∉ account

theorem topicHead_append (partition : Text) (region : Region) (rest : Text) :
    topicHead partition region ++ rest = "arn".toList ++ ':' ::
      (partition ++ ':' :: ("sns".toList ++ ':' :: (region.name ++ ':' :: rest))) := by
  -- not by the definition's own equation, which takes seconds to derive
  change "arn:".toList ++ partition ++ ":sns:".toList ++ region.name ++ [':'] ++ rest = _
  simp

theorem split_topicHead {partition : Text} {region : Region} (hpartition : ':' ∉ partition)
    (hregion : ':' ∉ region.name) (rest : Text) :
    split (· == ':') (topicHead partition region ++ rest) =
      "arn".toList :: partition :: "sns".toList :: region.name :: split (· == ':') rest := by
  rw [topicHead_append, split_sign (by decide), split_sign hpartition, split_sign (by decide),
    split_sign hregion]

theorem Heads.ofTopic_eq {arn partition rest : Text} {region : Region}
    (h : Heads arn region partition rest) : ofTopic arn = .ok region := by
  rw [h.arn_eq, ofTopic, split_topicHead h.partition h.region]
  cases hrest : split (· == ':') rest with
  | nil => exact absurd hrest (split_ne_nil _ _)
  | cons account more => exact if_pos ⟨rfl, rfl, h.region_ne_nil⟩

theorem exists_heads_of_ofTopic {arn : Text} {region : Region} (h : ofTopic arn = .ok region) :
    ∃ partition rest, Heads arn region partition rest := by
  unfold ofTopic at h
  split at h
  · next first partition third name account more hsplit =>
    split at h
    · next hfields =>
      obtain ⟨rfl, rfl, hname⟩ := hfields
      cases h
      obtain ⟨_, rfl, -, hsplit⟩ := exists_of_split hsplit
      obtain ⟨_, rfl, hpartition, hsplit⟩ := exists_of_split hsplit
      obtain ⟨_, rfl, -, hsplit⟩ := exists_of_split hsplit
      obtain ⟨rest, rfl, hregion, -⟩ := exists_of_split hsplit
      exact ⟨partition, rest, (topicHead_append _ ⟨_⟩ _).symm, hpartition, hname, hregion⟩
    · cases h
  · cases h

theorem ofTopic_eq_ok_iff_heads {arn : Text} {region : Region} :
    ofTopic arn = .ok region ↔ ∃ partition rest, Heads arn region partition rest :=
  ⟨exists_heads_of_ofTopic, fun ⟨_, _, h⟩ => h.ofTopic_eq⟩

/-- What follows the region is an account, with or without a name. -/
theorem exists_heads_iff {arn : Text} {region : Region} :
    (∃ partition rest, Heads arn region partition rest) ↔
      IsTopic arn region ∨ IsNameless arn region := by
  constructor
  · rintro ⟨partition, rest, h⟩
    by_cases hsign : ':' ∈ rest
    · obtain ⟨account, name, rfl, haccount⟩ := List.eq_append_cons_of_mem hsign
      exact .inl ⟨partition, account, name, h, haccount⟩
    · exact .inr ⟨partition, rest, h, hsign⟩
  · rintro (⟨partition, account, name, h, -⟩ | ⟨partition, account, h, -⟩)
    · exact ⟨partition, _, h⟩
    · exact ⟨partition, account, h⟩

/-- No text is read as a topic with a name and as one without. -/
theorem IsTopic.not_isNameless {arn : Text} {region region' : Region} (h : IsTopic arn region) :
    ¬ IsNameless arn region' := by
  obtain ⟨partition, account, name, h, haccount⟩ := h
  rintro ⟨partition', account', h', haccount'⟩
  have hfields := congrArg (split (· == ':')) (h.arn_eq.symm.trans h'.arn_eq)
  rw [split_topicHead h.partition h.region, split_topicHead h'.partition h'.region,
    split_sign haccount, split_of_not_mem haccount'] at hfields
  simp only [List.cons.injEq] at hfields
  exact split_ne_nil _ _ hfields.2.2.2.2.2

/-- A text is a refused topic as a whole, or its region is read. -/
theorem ofTopic_cases (arn : Text) :
    ofTopic arn = .error ⟨arn⟩ ∨ ∃ region, ofTopic arn = .ok region := by
  unfold ofTopic
  split
  · split
    · exact .inr ⟨_, rfl⟩
    · exact .inl rfl
  · exact .inl rfl

/-- The region of a topic is read whatever its partition, account and name are, and that of a text
which only lacks the name; every other text is refused, and the error holds it as it is. -/
theorem ofTopic_shape (arn : Text) :
    (∀ region, (ofTopic arn = .ok region ↔ IsTopic arn region ∨ IsNameless arn region) ∧
      ¬ (IsTopic arn region ∧ IsNameless arn region)) ∧
    ∀ e, ofTopic arn = .error e ↔
      e = ⟨arn⟩ ∧ ∀ region, ¬ IsTopic arn region ∧ ¬ IsNameless arn region := by
  have hok : ∀ region, ofTopic arn = .ok region ↔ IsTopic arn region ∨ IsNameless arn region :=
    fun region => ofTopic_eq_ok_iff_heads.trans exists_heads_iff
  refine ⟨fun region => ⟨hok region, fun hboth => hboth.1.not_isNameless hboth.2⟩,
    fun e => ⟨fun h => ?_, ?_⟩⟩
  · have hnone : ∀ region, ¬ (IsTopic arn region ∨ IsNameless arn region) := by
      intro region hregion
      rw [(hok region).2 hregion] at h
      cases h
    refine ⟨?_, fun region => not_or.1 (hnone region)⟩
    obtain herror | ⟨region, hregion⟩ := ofTopic_cases arn
    · rw [herror] at h
      cases h
      rfl
    · exact absurd ((hok region).1 hregion) (hnone region)
  · rintro ⟨rfl, hnone⟩
    obtain herror | ⟨region, hregion⟩ := ofTopic_cases arn
    · exact herror
    · exact absurd ((hok region).1 hregion) (not_or.2 (hnone region))

/-- A text that ends with its account is read, and is no topic. -/
theorem ofTopic_nameless : ¬ ∀ (arn : Text) (region : Region),
    ofTopic arn = .ok region ↔ IsTopic arn region := by
  intro h
  let region : Region := ⟨"eu-west-1".toList⟩
  have hheads : Heads "arn:aws:sns:eu-west-1:123456789012".toList region "aws".toList
      "123456789012".toList := ⟨by decide, by decide, by decide, by decide⟩
  have hnameless : IsNameless _ region := ⟨_, _, hheads, by decide⟩
  exact ((h _ region).1 hheads.ofTopic_eq).not_isNameless hnameless

end Region

end MachineImage
