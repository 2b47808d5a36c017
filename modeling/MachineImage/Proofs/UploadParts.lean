import MachineImage.Proofs.Carried
import MachineImage.Proofs.ManifestRead
import MachineImage.Proofs.Objects
import MachineImage.Proofs.Parts
import MachineImage.Proofs.Presigned
import MachineImage.Proofs.Sequence

/-!
An upload stores every octet of an image once and in order, and its manifest tells where.
-/
namespace MachineImage

/-- The order for a part of an image. -/
def Destination.partOrder (d : Destination) (partSize : Nat) (image : Octets) (i : Nat) : Order :=
  .put d.region d.bucket (d.partPath i)
    (image.extract (i * partSize) (min ((i + 1) * partSize) image.length))

/-- What is told of a part is true of it. -/
structure Part.Describes (p : Part) (d : Destination) (partSize : Nat) (image : Octets) (i : Nat) :
    Prop where
  index : p.index = i
  key : p.key = d.partKey i
  start : p.start = i * partSize
  stop : p.stop + 1 = min ((i + 1) * partSize) image.length
  start_le : p.start ≤ p.stop
  plain : '<' ∉ d.bucket → p.PlainUrls

/-- The first parts of an image are listed in order. No URL opens a tag unless the bucket does. -/
structure ManifestDraft.Lists (draft : ManifestDraft) (d : Destination) (partSize : Nat)
    (image : Octets) : Prop where
  describes : ∀ (i : Nat) (p : Part), draft.parts[i]? = some p → p.Describes d partSize image i
  plain : '<' ∉ d.bucket → '<' ∉ draft.selfDestructUrl

theorem ManifestDraft.Lists.push {draft : ManifestDraft} {d : Destination} {partSize start : Nat}
    {image left : Octets} (h : draft.Lists d partSize image) {part : Part}
    (ha : draft.Awaits partSize image left start part.index) (hlt : start < image.length)
    (hkey : part.key = d.partKey part.index) (hstart : part.start = start)
    (hstop : part.stop = min ((part.index + 1) * partSize) image.length - 1)
    (hplain : '<' ∉ d.bucket → part.PlainUrls) : (draft.push part).Lists d partSize image := by
  have hs := ha.partSize_pos
  have hmul : (part.index + 1) * partSize = part.index * partSize + partSize := Nat.succ_mul _ _
  have hindex := ha.length
  have hbegin := ha.start_eq_mul hlt
  refine ⟨fun i p hp => ?_, h.plain⟩
  rw [ManifestDraft.push, List.getElem?_append, List.getElem?_singleton] at hp
  split at hp
  · exact h.describes i p hp
  · split at hp
    · obtain rfl := Option.some.inj hp
      obtain rfl : i = part.index := by omega
      refine ⟨rfl, hkey, ?_, ?_, ?_, hplain⟩
      all_goals omega
    · cases hp

/-- All parts of an image are listed in the draft. -/
structure ManifestDraft.IsComplete (draft : ManifestDraft) (d : Destination) (partSize : Nat)
    (image : Octets) : Prop where
  lists : draft.Lists d partSize image
  size : draft.size = image.length
  length : draft.parts.length = partCount image.length partSize
  finish : draft.finish = .ok ⟨draft.render, draft.size, draft.parts⟩

theorem Destination.partOrder_eq (d : Destination) (partSize : Nat) (image : Octets) (i : Nat) :
    d.partOrder partSize image i =
      .put d.region d.bucket (d.partPath i) ((image.drop (i * partSize)).take partSize) := by
  have he : image.extract (i * partSize) (min ((i + 1) * partSize) image.length) =
      (image.drop (i * partSize)).take partSize := by
    rw [List.extract_eq_take_drop, Nat.add_mul, Nat.one_mul]
    by_cases hle : i * partSize + partSize ≤ image.length
    · rw [Nat.min_eq_left hle, Nat.add_sub_cancel_left]
    · rw [List.take_of_length_le (by rw [List.length_drop]; omega),
        List.take_of_length_le (by rw [List.length_drop]; omega)]
  rw [Destination.partOrder, he]

theorem ManifestDraft.IsComplete.readsBack {draft : ManifestDraft} {d : Destination}
    {partSize : Nat} {image : Octets} (h : draft.IsComplete d partSize image)
    (hbucket : '<' ∉ d.bucket) : draft.ReadsBack draft.render := by
  refine readsBack_render (h.lists.plain hbucket) fun p hp => ?_
  obtain ⟨i, hi⟩ := List.getElem?_of_mem hp
  exact (h.lists.describes i p hi).plain hbucket

/-- No presigned URL of an object opens a tag unless the name of its bucket does. -/
theorem Destination.IsObject.not_mem_url {d : Destination} {path : Text} (h : d.IsObject path)
    (ctx : Signing.Context) (method : Text) (expires : Nat) (hbucket : '<' ∉ d.bucket) :
    '<' ∉ Signing.presignedUrl ctx method (bucketHost d.bucket) path expires :=
  Signing.not_mem_presignedUrl ctx method _ path expires
    (List.not_mem_append hbucket (by decide)) (h.not_mem (by decide) (by decide))

namespace Client

/-- An upload fails only where an order does. -/
inductive Ends {α : Type} (good : α → Prop) : Except ExchangeError Unit → Except RunError α → Prop
  | ok {x : α} : good x → Ends good (.ok ()) (.ok x)
  | error {e : ExchangeError} : Ends good (.error e) (.error (.request .storagePut e))

variable {c : Client} {d : Destination} {s : Session}

theorem does_store (path : Text) (body : Octets) :
    (c.store d path body).Does s fun xs r => ∃ reading a,
      c.Attempts s.clock (.put d.region d.bucket path body) (c.maxAttempts - 1) reading xs a ∧
        Ends (fun _ => True) (a.map fun _ => ()) r := by
  obtain ⟨xs, hx, -, ha⟩ := c.attempts_retryFrom (.put d.region d.bucket path body)
    Wire.checkStatus (fun _ => []) (fun _ => rfl) (c.maxAttempts - 1) 1 s
  refine ⟨xs, hx, _, _, ha, ?_⟩
  have ho : ((c.store d path body).outcome s).1 =
      (Action.outcome (retryFrom (fun _ => c.attempt (.put d.region d.bucket path body)
        Wire.checkStatus) 1 (c.maxAttempts - 1)) s).1.mapError (.request .storagePut) := rfl
  rw [ho]
  cases (Action.outcome (retryFrom _ 1 (c.maxAttempts - 1)) s).1 with
  | ok x => exact .ok trivial
  | error e => exact .error

/-- One order at the head of those that are carried out. -/
theorem CarriesOut.of_attempts {clock : Nat → Instant} {order : Order} {reading : Nat}
    {xs : List Exchange} {a : Except ExchangeError Text}
    (h : c.Attempts clock order (c.maxAttempts - 1) reading xs a) :
    c.CarriesOut clock [order] xs (a.map fun _ => ()) := by
  cases a with
  | ok b =>
    rw [← List.append_nil xs]
    exact .next h .nil
  | error e => exact .failed h

theorem does_listPart (index start stop : Nat) :
    (c.listPart d index start stop).Does s fun xs r => xs = [] ∧ ∃ part, r = .ok part ∧
      part.index = index ∧ part.start = start ∧ part.stop = stop ∧ part.key = d.partKey index ∧
      ('<' ∉ d.bucket → part.PlainUrls) := by
  have hurl := (d.isObject_partPath index).not_mem_url
  unfold listPart presignPart
  apply Action.Does.after_presign
  intro head _ _
  apply Action.Does.after_presign
  intro get _ _
  apply Action.Does.after_presign
  intro delete _ _
  refine .pure ⟨rfl, _, rfl, rfl, rfl, rfl, rfl, fun hbucket => ⟨?_, ?_, ?_⟩⟩
  · exact hurl head _ _ hbucket
  · exact hurl get _ _ hbucket
  · exact hurl delete _ _ hbucket

/-- The parts behind those that a draft lists are stored and listed. -/
theorem does_storeParts {partSize start index : Nat} {image left : Octets} {draft : ManifestDraft}
    (ha : draft.Awaits partSize image left start index) (hl : draft.Lists d partSize image) :
    (c.storeParts d partSize image.length draft left start index).Does s fun xs r => ∃ a,
      c.CarriesOut s.clock ((List.range' index (partCount image.length partSize - index)).map
        (d.partOrder partSize image)) xs a ∧
      Ends (·.IsComplete d partSize image) a r := by
  induction draft, left, start, index using storeParts.induct partSize image.length
      generalizing s with
  | case1 draft left start index hlt ih =>
    have hcount := ha.index_lt hlt
    have hround := ha.round hlt
    have hrange : List.range' index (partCount image.length partSize - index) =
        index :: List.range' (index + 1) (partCount image.length partSize - (index + 1)) := by
      rw [← List.range'_succ]
      congr 1
      omega
    rw [storeParts_of_lt c d draft left hlt hround, ha.take_left hlt, hrange, List.map_cons]
    apply Action.Does.after_silent (Action.silent_write _)
    intro t ht
    refine Action.Does.bind (does_store _ _) ?_ ?_
    · rintro xs x t₁ h₁ ⟨reading, a, hattempts, hend⟩
      rw [ht, ← Destination.partOrder_eq] at hattempts
      cases a with
      | error e => cases hend
      | ok b =>
        refine Action.Does.bind (does_listPart _ _ _) ?_ ?_
        · rintro _ part t₂ h₂ ⟨rfl, _, ⟨⟩, rfl, rfl, hstop, hkey, hplain⟩
          obtain ⟨ys, hy, a, hcarries, hend⟩ := ih _ (RunError.inRange_eq_ok.2 hround) part
            (s := t₂) (ha.push hlt hstop) (hl.push ha hlt hkey rfl hstop hplain)
          rw [h₂, h₁, ht] at hcarries
          exact ⟨ys, hy, a, .next hattempts hcarries, hend⟩
        · rintro ys e ⟨-, part, hpart, -⟩
          cases hpart
    · rintro xs e ⟨reading, a, hattempts, hend⟩
      rw [ht, ← Destination.partOrder_eq] at hattempts
      cases a with
      | ok b => cases hend
      | error cause =>
        cases hend
        exact ⟨_, .failed hattempts, .error⟩
  | case2 draft left start index hge =>
    -- All parts are listed, and nothing of the image is left.
    rw [storeParts_of_not_lt c d draft left hge, ha.index_eq hge, Nat.sub_self]
    refine .pure ⟨.ok (), .nil, .ok ⟨hl, ha.size, ?_, ha.finish hge⟩⟩
    rw [ha.length, ha.index_eq hge]

/-- The order for the manifest of an upload. -/
def manifestOrder (d : Destination) (manifest : Octets) : Order :=
  .put d.region d.bucket d.manifestPath manifest

/-- The orders for all parts of an image. -/
def partOrders (d : Destination) (partSize : Nat) (image : Octets) : List Order :=
  (List.range (partCount image.length partSize)).map (d.partOrder partSize image)

/-- An upload ends with a part that is not accepted, or with the manifest of all parts. -/
inductive Uploads (c : Client) (clock : Nat → Instant) (d : Destination) (partSize : Nat)
    (image : Octets) : List Exchange → Except RunError UploadedImage → Prop
  | parts {xs : List Exchange} {e : ExchangeError} :
    c.CarriesOut clock (partOrders d partSize image) xs (.error e) →
      Uploads c clock d partSize image xs (.error (.request .storagePut e))
  | manifest {draft : ManifestDraft} {xs : List Exchange} {a : Except ExchangeError Unit}
      {r : Except RunError UploadedImage} :
    draft.IsComplete d partSize image →
      c.CarriesOut clock
        (partOrders d partSize image ++ [manifestOrder d (Utf8.encode draft.render)]) xs a →
      Ends (· = ⟨d.manifestPath, image.length, volumeGibibytes image.length⟩) a r →
      Uploads c clock d partSize image xs r

/-- Behind all parts the draft is complete, and the manifest is what is left to store. -/
theorem does_storeManifest {draft : ManifestDraft} {partSize : Nat} {image : Octets}
    {xs : List Exchange} (hdraft : draft.IsComplete d partSize image)
    (hparts : c.CarriesOut s.clock (partOrders d partSize image) xs (.ok ())) :
    Action.Does (do
      Action.done
      let manifest ← Action.ofExcept (draft.finish.mapError .manifest)
      Action.write "Uploading volume manifest...".toList
      c.store d d.manifestPath (Utf8.encode manifest.document)
      Action.done
      return ⟨d.manifestPath, image.length, volumeGibibytes image.length⟩) s
      fun ys r => c.Uploads s.clock d partSize image (xs ++ ys) r := by
  apply Action.Does.after_silent Action.silent_done
  intro t₁ h₁
  rw [hdraft.finish]
  refine Action.Does.bind (m := fun ys r => ys = [] ∧
    r = .ok ⟨draft.render, draft.size, draft.parts⟩) ⟨[], .refl _, rfl, rfl⟩ ?_ ?_
  · rintro _ _ t₂ h₂ ⟨rfl, ⟨⟩⟩
    apply Action.Does.after_silent (Action.silent_write _)
    intro t₃ h₃
    have hclock : t₃.clock = s.clock := h₃.trans (h₂.trans h₁)
    refine Action.Does.bind (does_store _ _) ?_ ?_
    · rintro ys x t₄ - ⟨reading, b, hb, hend⟩
      rw [hclock] at hb
      cases b with
      | error e => cases hend
      | ok b =>
        apply Action.Does.after_silent Action.silent_done
        intro t₅ _
        apply Action.Does.pure
        rw [List.append_nil]
        exact .manifest hdraft (hparts.append (.of_attempts hb)) (.ok rfl)
    · rintro ys e ⟨reading, b, hb, hend⟩
      rw [hclock] at hb
      cases b with
      | ok b => cases hend
      | error cause =>
        cases hend
        exact .manifest hdraft (hparts.append (.of_attempts hb)) .error
  · rintro ys e ⟨-, he⟩
    cases he

theorem does_uploadImage (maker : Importer) {partSize : Nat} (hs : 1 ≤ partSize) (path : Text)
    {image : Octets} (hsize : image.length < UInt64.size) :
    (c.uploadImage maker d partSize path image).Does s (c.Uploads s.clock d partSize image) := by
  unfold uploadImage beginUpload
  rw [bind_assoc]
  apply Action.Does.after_presign
  intro ctx t ht
  have hurl := d.isObject_manifestPath.not_mem_url ctx "DELETE".toList Signing.expiry
  generalize Signing.presignedUrl _ _ _ _ _ = url at hurl ⊢
  rw [bind_assoc]
  apply Action.Does.after_silent (Action.silent_write _)
  intro t' ht'
  rw [pure_bind]
  have hclock : t'.clock = s.clock := ht'.trans ht
  -- The draft that lists no part yet is the one that the parts are counted from.
  have hparts := does_storeParts (c := c) (d := d) (s := t')
    (ManifestDraft.awaits_image maker url hs hsize) ⟨fun i p hp => by simp at hp, hurl⟩
  rw [Nat.sub_zero, ← List.range_eq_range'] at hparts
  refine Action.Does.bind hparts ?_ ?_
  · rintro xs draft t hd ⟨a, hcarries, hend⟩
    cases hend with
    | ok hdraft =>
      rw [← hd] at hcarries
      rw [← hclock, ← hd]
      exact does_storeManifest hdraft hcarries
  · rintro xs e ⟨a, hcarries, hend⟩
    cases hend
    rw [hclock] at hcarries
    exact .parts hcarries

end Client

/-- The path under which something is to be stored. -/
def Order.path? : Order → Option Text
  | .put _ _ path _ => some path
  | .call .. => none

namespace Client

variable {d : Destination} {partSize : Nat} {image : Octets}

theorem nodup_partOrders : (partOrders d partSize image).Nodup := by
  refine List.pairwise_map.2 (List.nodup_range.imp fun hne he => hne ?_)
  simp only [Destination.partOrder, Order.put.injEq, true_and] at he
  exact d.partPath_injective he.1

theorem path?_ne_of_mem {order : Order} (h : order ∈ partOrders d partSize image) :
    order.path? ≠ some d.manifestPath := by
  obtain ⟨i, -, rfl⟩ := List.mem_map.1 h
  intro hp
  exact d.partPath_ne_manifestPath i (Option.some.inj hp)

end Client

/-- The octets `start` to `stop` inclusive of an image, `length` in all. -/
structure Span where
  index : Nat
  start : Nat
  stop : Nat
  length : Nat

/-- The octets of a part, if they can be counted. -/
def Part.span? (p : Part) : Option Span := p.byteCount.map (⟨p.index, p.start, p.stop, ·⟩)

/-- The rounds of a loop that cuts `size` octets into parts, from a start and an index on, in which
no number of 64 bits overflows. -/
inductive Rounds (size partSize : Nat) : Nat → Nat → List Span → Prop
  | done {start index : Nat} : ¬ start < size → Rounds size partSize start index []
  | round {start index left : Nat} {round : Round} {spans : List Span} :
    start < size → Word.sub size start = some left →
      Round.of? start (min left partSize) index = some round →
      Rounds size partSize round.next round.following spans →
      Rounds size partSize start index (⟨index, start, round.stop, min left partSize⟩ :: spans)

/-- The part with that index, by its numbers. -/
def spanAt (size partSize i : Nat) : Span :=
  ⟨i, i * partSize, min ((i + 1) * partSize) size - 1, min (size - i * partSize) partSize⟩

theorem rounds_from {size partSize : Nat} (hs : 1 ≤ partSize) (hsize : size < UInt64.size)
    (count index : Nat) (hc : index + count = partCount size partSize) :
    Rounds size partSize (min (index * partSize) size) index
      ((List.range' index count).map (spanAt size partSize)) := by
  induction count generalizing index with
  | zero =>
    have hle := le_partCount_mul hs size
    rw [← hc, Nat.add_zero] at hle
    exact .done (by omega)
  | succ count ih =>
    have hlt : index * partSize < size := mul_lt_of_lt_partCount hs (by omega)
    have hindex : index ≤ index * partSize := Nat.le_mul_of_pos_right index hs
    have hmul : (index + 1) * partSize = index * partSize + partSize := Nat.succ_mul _ _
    have hnext := ih (index + 1) (by omega)
    have hstart : min (index * partSize) size = index * partSize := by omega
    have hbehind : index * partSize + min (size - index * partSize) partSize =
        min ((index + 1) * partSize) size := by
      rw [hmul]
      omega
    have hleft : Word.sub size (index * partSize) = some (size - index * partSize) :=
      if_pos (by omega)
    have hround : Round.of? (index * partSize) (min (size - index * partSize) partSize) index =
        some ⟨min ((index + 1) * partSize) size - 1, min ((index + 1) * partSize) size,
          index + 1⟩ := by
      rw [Round.of?_eq_some, hbehind, hmul]
      refine ⟨?_, ?_, ?_, rfl⟩
      all_goals omega
    rw [List.range'_succ, List.map_cons, hstart]
    exact .round hlt hleft hround hnext

/-- The whole loop takes one round for each part. -/
theorem rounds_image {size partSize : Nat} (hs : 1 ≤ partSize) (hsize : size < UInt64.size) :
    Rounds size partSize 0 0
      ((List.range (partCount size partSize)).map (spanAt size partSize)) := by
  have h := rounds_from hs hsize (partCount size partSize) 0 (Nat.zero_add _)
  rwa [Nat.zero_mul, Nat.zero_min, ← List.range_eq_range'] at h

/-- A manifest tells where every octet of an image is: in parts that are not empty and stand end to
end, all of one size but the last, each stored under its key. -/
structure ManifestDraft.Covers (draft : ManifestDraft) (d : Destination) (partSize : Nat)
    (image : Octets) : Prop where
  size : draft.size = image.length
  count : draft.parts.length = partCount image.length partSize
  first : ∀ p, draft.parts.head? = some p → p.start = 0
  contiguous : ∀ (i : Nat) (p q : Part), draft.parts[i]? = some p → draft.parts[i + 1]? = some q →
    q.start = p.stop + 1
  last : ∀ p, draft.parts.getLast? = some p → p.stop + 1 = image.length ∧
    p.byteCount = some (image.length - (partCount image.length partSize - 1) * partSize)
  full : ∀ (i : Nat) (p : Part), draft.parts[i]? = some p → i + 1 < draft.parts.length →
    p.byteCount = some partSize
  stored : ∀ (i : Nat) (p : Part), draft.parts[i]? = some p → p.index = i ∧ p.start ≤ p.stop ∧
    d.partOrder partSize image i =
      .put d.region d.bucket ('/' :: p.key) (image.extract p.start (p.stop + 1))
  rounds : ∃ spans, draft.parts.map Part.span? = spans.map some ∧
    Rounds image.length partSize 0 0 spans

namespace Part.Describes

variable {p : Part} {d : Destination} {partSize i : Nat} {image : Octets}
  (h : p.Describes d partSize image i) (hsize : image.length < UInt64.size)

include h hsize

theorem byteCount_eq : p.byteCount = some (min (image.length - i * partSize) partSize) := by
  have hstart := h.start
  have hstop := h.stop
  have hmul : (i + 1) * partSize = i * partSize + partSize := Nat.succ_mul _ _
  have hle := h.start_le
  refine Part.byteCount_eq_some.2 ⟨hle, ?_, ?_⟩
  all_goals omega

theorem span?_eq : p.span? = some (spanAt image.length partSize i) := by
  rw [Part.span?, h.byteCount_eq hsize, spanAt, h.index, h.start, ← h.stop, Nat.add_sub_cancel]
  rfl

end Part.Describes

theorem ManifestDraft.IsComplete.covers {draft : ManifestDraft} {d : Destination} {partSize : Nat}
    {image : Octets} (h : draft.IsComplete d partSize image) (hs : 1 ≤ partSize)
    (hsize : image.length < UInt64.size) : draft.Covers d partSize image := by
  have hlength := h.length
  have hmul : ∀ i, (i + 1) * partSize = i * partSize + partSize := fun i => Nat.succ_mul _ _
  have inside : ∀ {i : Nat} {p : Part}, draft.parts[i]? = some p →
      i < partCount image.length partSize := by
    intro i p hp
    rw [← hlength]
    exact (List.getElem?_eq_some_iff.1 hp).1
  constructor
  case size => exact h.size
  case count => exact hlength
  case first =>
    intro p hp
    rw [List.head?_eq_getElem?] at hp
    rw [(h.lists.describes 0 p hp).start, Nat.zero_mul]
  case contiguous =>
    intro i p q hp hq
    have hlt := mul_lt_of_lt_partCount hs (inside hq)
    rw [(h.lists.describes _ q hq).start, (h.lists.describes _ p hp).stop]
    omega
  case last =>
    intro p hp
    rw [List.getLast?_eq_getElem?, hlength] at hp
    have hd := h.lists.describes _ p hp
    have hpos := inside hp
    have hle := le_partCount_mul hs image.length
    have hstop := hd.stop
    have hend := hmul (partCount image.length partSize - 1)
    rw [Nat.sub_add_cancel (by omega)] at hstop hend
    refine ⟨by rw [hstop, Nat.min_eq_right hle], ?_⟩
    rw [hd.byteCount_eq hsize, Nat.min_eq_left (by omega)]
  case full =>
    intro i p hp hi
    have hlt := mul_lt_of_lt_partCount hs (by omega : i + 1 < partCount image.length _)
    rw [hmul] at hlt
    rw [(h.lists.describes _ p hp).byteCount_eq hsize, Nat.min_eq_right (by omega)]
  case stored =>
    intro i p hp
    have hd := h.lists.describes _ p hp
    refine ⟨hd.index, hd.start_le, ?_⟩
    rw [hd.key, hd.start, hd.stop]
    rfl
  case rounds =>
    refine ⟨_, List.ext_getElem? fun i => ?_, rounds_image hs hsize⟩
    rw [List.map_map, List.getElem?_map, List.getElem?_map]
    cases hp : draft.parts[i]? with
    | some p =>
      rw [List.getElem?_range (inside hp), Option.map_some,
        (h.lists.describes _ p hp).span?_eq hsize]
      rfl
    | none =>
      rw [List.getElem?_eq_none_iff, hlength] at hp
      rw [List.getElem?_eq_none (by simpa using hp)]
      rfl

namespace Client

/-- What an upload has sent, and how it has ended. It succeeds exactly if all parts and the manifest
were fulfilled, and it fails with nothing else than its last request. -/
structure UploadedInParts (c : Client) (d : Destination) (partSize : Nat) (image : Octets)
    (xs : List Exchange) (r : Except RunError UploadedImage) : Prop where
  inTurn : ∃ manifest,
    Exchange.InTurn (partOrders d partSize image ++ [manifestOrder d manifest]) xs
  fulfilled : ∃ manifest,
    Exchange.fulfilled xs <+: partOrders d partSize image ++ [manifestOrder d manifest]
  manifest_iff : (∃ x ∈ xs, x.request.order.path? = some d.manifestPath) ↔
    ∀ i < partCount image.length partSize,
      ∃ x ∈ xs, x.request.order = d.partOrder partSize image i ∧ x.isAccepted = true
  covers : ∀ x ∈ xs, x.request.order.path? = some d.manifestPath →
    ∃ (draft : ManifestDraft) (document : Text),
      x.request.order = manifestOrder d (Utf8.encode document) ∧
        draft.Covers d partSize image ∧ ('<' ∉ d.bucket → draft.ReadsBack document)
  ok_iff : r = .ok ⟨d.manifestPath, image.length, volumeGibibytes image.length⟩ ↔ ∃ manifest,
    Exchange.fulfilled xs = partOrders d partSize image ++ [manifestOrder d manifest]
  ends : r = .ok ⟨d.manifestPath, image.length, volumeGibibytes image.length⟩ ∨
    ∃ x e, xs.getLast? = some x ∧ x.body = .error e ∧ r = .error (.request .storagePut e)
  carries : ∀ x ∈ xs, x.request.Carries c.credentials.keyId

theorem CarriesOut.manifest_iff {c : Client} {clock : Nat → Instant} {d : Destination}
    {partSize : Nat} {image manifest : Octets} {xs : List Exchange} {a : Except ExchangeError Unit}
    (h : c.CarriesOut clock (partOrders d partSize image ++ [manifestOrder d manifest]) xs a) :
    (∃ x ∈ xs, x.request.order.path? = some d.manifestPath) ↔
      ∀ i < partCount image.length partSize,
        ∃ x ∈ xs, x.request.order = d.partOrder partSize image i ∧ x.isAccepted = true := by
  -- The path of the manifest is the path of no part.
  have hlast : manifestOrder d manifest ∉ partOrders d partSize image :=
    fun hm => path?_ne_of_mem hm rfl
  constructor
  · rintro ⟨x, hx, hp⟩ i hi
    have ho : x.request.order = manifestOrder d manifest := by
      rcases List.mem_append.1 (h.order_mem x hx) with hm | hm
      · exact absurd hp (path?_ne_of_mem hm)
      · exact List.mem_singleton.1 hm
    have hmem : d.partOrder partSize image i ∈ partOrders d partSize image :=
      List.mem_map_of_mem (List.mem_range.2 hi)
    exact h.accepted_of_sent hlast ⟨x, hx, ho⟩ _ hmem
  · intro hall
    obtain ⟨x, hx, ho⟩ := h.sent_of_accepted nodup_partOrders (by
      intro order hm
      obtain ⟨i, hi, rfl⟩ := List.mem_map.1 hm
      exact hall i (List.mem_range.1 hi))
    exact ⟨x, hx, by rw [ho]; rfl⟩

/-- A failure is that of the last request. -/
theorem CarriesOut.exists_last {c : Client} {clock : Nat → Instant} {orders : List Order}
    {xs : List Exchange} {e : ExchangeError} (h : c.CarriesOut clock orders xs (.error e)) :
    ∃ x, xs.getLast? = some x ∧ x.body = .error e := by
  generalize hr : Except.error e = r at h
  induction h with
  | nil => cases hr
  | next _ _ ih =>
    obtain ⟨x, hx, hbody⟩ := ih hr
    refine ⟨x, ?_, hbody⟩
    rw [List.getLast?_append, hx, Option.some_or]
  | failed ha =>
    cases hr
    exact ha.getLast?_body

theorem CarriesOut.carries {c : Client} {clock : Nat → Instant} {orders : List Order}
    {xs : List Exchange} {r : Except ExchangeError Unit} (h : c.CarriesOut clock orders xs r) :
    ∀ x ∈ xs, x.request.Carries c.credentials.keyId := by
  induction h with
  | nil => exact nofun
  | next ha _ ih => exact List.forall_mem_append.2 ⟨ha.carries, ih⟩
  | failed ha => exact ha.carries

theorem Uploads.inParts {c : Client} {clock : Nat → Instant} {d : Destination} {partSize : Nat}
    {image : Octets} {xs : List Exchange} {r : Except RunError UploadedImage}
    (h : c.Uploads clock d partSize image xs r) (hs : 1 ≤ partSize)
    (hsize : image.length < UInt64.size) : UploadedInParts c d partSize image xs r := by
  cases h with
  | @parts xs e hc =>
    -- No manifest is sent, so that any could stand behind the parts.
    have hmanifest := fun manifest => hc.append_failed [manifestOrder d manifest]
    obtain ⟨x, hx, hbody⟩ := hc.exists_last
    refine ⟨⟨[], (hmanifest []).inTurn⟩, ⟨[], (hmanifest []).isPrefix_fulfilled⟩,
      (hmanifest []).manifest_iff, ?_, ?_, .inr ⟨x, e, hx, hbody, rfl⟩, hc.carries⟩
    · intro x hx hp
      exact absurd hp (path?_ne_of_mem (hc.order_mem x hx))
    · refine iff_of_false nofun ?_
      rintro ⟨manifest, hall⟩
      exact nomatch (hmanifest _).length_fulfilled_iff.1 (congrArg List.length hall)
  | @manifest draft xs a r hdraft hc hend =>
    refine ⟨⟨_, hc.inTurn⟩, ⟨_, hc.isPrefix_fulfilled⟩, hc.manifest_iff, ?_, ?_, ?_, hc.carries⟩
    · intro x hx hp
      rcases List.mem_append.1 (hc.order_mem x hx) with hm | hm
      · exact absurd hp (path?_ne_of_mem hm)
      · exact ⟨draft, _, List.mem_singleton.1 hm, hdraft.covers hs hsize, hdraft.readsBack⟩
    · cases hend with
      | ok hr =>
        rw [hr]
        exact iff_of_true rfl
          ⟨_, hc.isPrefix_fulfilled.eq_of_length (hc.length_fulfilled_iff.2 rfl)⟩
      | error =>
        refine iff_of_false nofun ?_
        rintro ⟨other, hall⟩
        have hlength := congrArg List.length hall
        rw [List.length_append, List.length_singleton] at hlength
        exact nomatch hc.length_fulfilled_iff.1 (by simpa using hlength)
    · cases hend with
      | ok hr => exact .inl (congrArg _ hr)
      | @error e =>
        obtain ⟨x, hx, hbody⟩ := hc.exists_last
        exact .inr ⟨x, e, hx, hbody, rfl⟩

/-- The parts, one behind the other, are the image. -/
theorem flatten_partOrders {d : Destination} {partSize : Nat} (hs : 1 ≤ partSize) (image : Octets) :
    ((partOrders d partSize image).map Order.body).flatten = image := by
  have hbody : Order.body ∘ d.partOrder partSize image =
      fun i => (image.drop (i * partSize)).take partSize := by
    funext i
    rw [Function.comp_apply, Destination.partOrder_eq]
    rfl
  rw [partOrders, List.map_map, hbody, ← partsOf_eq hs, flatten_partsOf]

/-- An upload stores the parts of its image in order and then, if all were accepted, a manifest that
covers the image, and that can be read back unless the name of the bucket opens a tag. Nothing of
the image is lost, and no number that it is cut with goes beyond 64 bits, for then the upload would
end with that. -/
theorem uploadedInParts (c : Client) (maker : Importer) (d : Destination) (partSize : Nat)
    (path : Text) (image : Octets) (s : Session) (hs : 1 ≤ partSize) (hne : image ≠ [])
    (hsize : image.length < UInt64.size) :
    let upload := c.upload maker d partSize ⟨path, .contents image⟩
    UploadedInParts c d partSize image (upload.exchanges s) (upload.outcome s).1 ∧
      ((partOrders d partSize image).map Order.body).flatten = image := by
  obtain ⟨o, rest, rfl⟩ := List.exists_cons_of_ne_nil hne
  have hupload : c.upload maker d partSize ⟨path, .contents (o :: rest)⟩ =
      c.uploadImage maker d partSize path (o :: rest) := by
    rw [upload, if_neg (by omega)]
    exact if_pos hsize
  dsimp only
  rw [hupload]
  obtain ⟨xs, hx, hu⟩ := does_uploadImage (c := c) (d := d) (s := s) maker hs path hsize
  rw [Action.exchanges_eq hx]
  exact ⟨hu.inParts hs hsize, flatten_partOrders hs _⟩

/-- Five octets in parts of two: the first request fails and is repeated, and all goes well. -/
theorem uploadedInParts_five :
    let c : Client := ⟨⟨"AKID".toList, "secret".toList⟩, 3⟩
    let d : Destination := ⟨⟨"eu-west-1".toList⟩, "b".toList, [0]⟩
    let image : Octets := [1, 2, 3, 4, 5]
    let upload := c.upload ⟨[], [], []⟩ d 2 ⟨[], .contents image⟩
    let fulfilled := Reply.response (Utf8.encode "HTTP/1.1 200 OK\r\n\r\n".toList)
    let s : Session :=
      { clock := fun n => ⟨n, false⟩, replies := .broken [] :: List.replicate 4 fulfilled }
    1 ≤ 2 ∧ image ≠ [] ∧ image.length < UInt64.size ∧
      (upload.outcome s).1 = .ok ⟨d.manifestPath, 5, 1⟩ ∧
      UploadedInParts c d 2 image (upload.exchanges s) (upload.outcome s).1 := by
  intro c d image upload fulfilled s
  have hs : 1 ≤ 2 := by decide
  have hne : image ≠ [] := by decide
  have hsize : image.length < UInt64.size := by decide
  have h := uploadedInParts c ⟨[], [], []⟩ d 2 [] image s hs hne hsize
  refine ⟨hs, hne, hsize, ?_, h.1⟩
  have hloop : ∀ draft, c.storeParts d 2 image.length draft image 0 0 = (do
      Action.dot
      c.store d (d.partPath 0) [1, 2]
      let draft := draft.push (← c.listPart d 0 0 1)
      Action.dot
      c.store d (d.partPath 1) [3, 4]
      let draft := draft.push (← c.listPart d 1 2 3)
      Action.dot
      c.store d (d.partPath 2) [5]
      return draft.push (← c.listPart d 2 4 4)) := by
    intro draft
    have hround₀ : Round.of? 0 (min (image.length - 0) 2) 0 = some ⟨1, 2, 1⟩ := rfl
    have hround₁ : Round.of? 2 (min (image.length - 2) 2) 1 = some ⟨3, 4, 2⟩ := rfl
    have hround₂ : Round.of? 4 (min (image.length - 4) 2) 2 = some ⟨4, 5, 3⟩ := rfl
    rw [storeParts_of_lt c d draft image (by decide) hround₀]
    refine bind_congr fun _ => bind_congr fun _ => bind_congr fun part => ?_
    rw [storeParts_of_lt _ _ _ _ (by decide) hround₁]
    refine bind_congr fun _ => bind_congr fun _ => bind_congr fun part => ?_
    rw [storeParts_of_lt _ _ _ _ (by decide) hround₂]
    refine bind_congr fun _ => bind_congr fun _ => bind_congr fun part => ?_
    exact storeParts_of_not_lt _ _ _ _ (by decide)
  have hupload : upload = c.uploadImage ⟨[], [], []⟩ d 2 [] image := rfl
  rw [hupload, uploadImage]
  simp only [hloop]
  decide +kernel

end Client

end MachineImage
