import Mathlib.Logic.Function.Basic
import MachineImage.Config
import MachineImage.Proofs.Begun
import MachineImage.Proofs.Repetition
import MachineImage.Proofs.UploadParts

/-!
The settings that an environment makes: the grammar of their numbers, each number from its own
variable and from no other, and that a run can always work with them.
-/
namespace MachineImage

namespace Decimal

/-- One or more digits, after a plus sign or without one; zeros may stand in front. -/
def IsNumeral (s : Text) (n : Nat) : Prop :=
  ∃ sign digits : Text, s = sign ++ digits ∧ (sign = [] ∨ sign = ['+']) ∧ digits ≠ [] ∧
    (∀ c ∈ digits, c.isDigit = true) ∧ Nat.ofDigitChars 10 digits 0 = n

theorem digit?_eq_some_iff {c : Char} {d : Nat} :
    digit? c = some d ↔ c.isDigit = true ∧ c.toNat - '0'.toNat = d := by
  have hdigit : ('0' ≤ c ∧ c ≤ '9') ↔ c.isDigit = true := by
    rw [Char.isDigit, Bool.and_eq_true, decide_eq_true_iff, decide_eq_true_iff]
    rfl
  unfold digit?
  split
  · next h => simp [hdigit.1 h]
  · next h => simp [mt hdigit.2 h]

theorem le_ofDigitChars (s : Text) (value : Nat) : value ≤ Nat.ofDigitChars 10 s value := by
  induction s generalizing value with
  | nil => exact Nat.le_refl value
  | cons c s ih =>
    rw [Nat.ofDigitChars_cons]
    have h := ih (10 * value + (c.toNat - '0'.toNat))
    omega

/-- Reading is given up only when the number is too great already. -/
theorem readFrom_eq_some_iff {bound value n : Nat} {s : Text} (hvalue : value < bound) :
    readFrom bound value s = some n ↔
      (∀ c ∈ s, c.isDigit = true) ∧ Nat.ofDigitChars 10 s value = n ∧ n < bound := by
  induction s generalizing value with
  | nil =>
    rw [readFrom, Nat.ofDigitChars_nil, Option.some_inj]
    constructor
    · rintro rfl
      exact ⟨nofun, rfl, hvalue⟩
    · exact fun h => h.2.1
  | cons c s ih =>
    rw [readFrom, Option.bind_eq_some_iff, List.forall_mem_cons, Nat.ofDigitChars_cons]
    constructor
    · rintro ⟨d, hd, hread⟩
      obtain ⟨hc, rfl⟩ := digit?_eq_some_iff.1 hd
      split at hread
      · next hlt =>
        obtain ⟨hs, hn, hbound⟩ := (ih hlt).1 hread
        rw [Nat.mul_comm value 10] at hn
        exact ⟨⟨hc, hs⟩, hn, hbound⟩
      · cases hread
    · rintro ⟨⟨hc, hs⟩, hn, hbound⟩
      refine ⟨_, digit?_eq_some_iff.2 ⟨hc, rfl⟩, ?_⟩
      have hle := le_ofDigitChars s (10 * value + (c.toNat - '0'.toNat))
      have hlt : value * 10 + (c.toNat - '0'.toNat) < bound := by omega
      rw [if_pos hlt, ih hlt, Nat.mul_comm value 10]
      exact ⟨hs, hn, hbound⟩

theorem readDigitsBelow?_eq_some_iff {bound n : Nat} {s : Text} (hbound : 0 < bound) :
    readDigitsBelow? bound s = some n ↔
      s ≠ [] ∧ (∀ c ∈ s, c.isDigit = true) ∧ Nat.ofDigitChars 10 s 0 = n ∧ n < bound := by
  unfold readDigitsBelow?
  cases s with
  | nil => simp
  | cons c s => simp [readFrom_eq_some_iff hbound]

theorem readBelow?_eq_some_iff {bound n : Nat} {s : Text} (hbound : 0 < bound) :
    readBelow? bound s = some n ↔ IsNumeral s n ∧ n < bound := by
  rw [readBelow?, readDigitsBelow?_eq_some_iff hbound]
  constructor
  · rintro ⟨hne, hdigits, hn, hlt⟩
    refine ⟨?_, hlt⟩
    split at hne
    · next hsign =>
      obtain ⟨t, rfl⟩ := List.head?_eq_some_iff.1 hsign
      rw [if_pos hsign] at hdigits hn
      exact ⟨['+'], t, rfl, .inr rfl, hne, hdigits, hn⟩
    · next hsign =>
      rw [if_neg hsign] at hdigits hn
      exact ⟨[], s, rfl, .inl rfl, hne, hdigits, hn⟩
  · rintro ⟨⟨sign, digits, rfl, hsign, hne, hdigits, hn⟩, hlt⟩
    have hrest : (if (sign ++ digits).head? = some '+' then (sign ++ digits).drop 1
        else sign ++ digits) = digits := by
      rcases hsign with rfl | rfl
      · -- The plus sign is no digit.
        refine if_neg fun hhead => ?_
        exact absurd (hdigits '+' (List.mem_of_head? hhead)) (by decide)
      · rfl
    rw [hrest]
    exact ⟨hne, hdigits, hn, hlt⟩

end Decimal

namespace Config

/-- A setting with a number. -/
inductive Setting
  | partSize
  | pollInterval
  | maxAttempts
  | ioTimeout
  deriving DecidableEq, Repr

namespace Setting

def variableName : Setting → String
  | partSize => "AMIFORGE_PART_SIZE"
  | pollInterval => "AMIFORGE_POLL_INTERVAL_SECS"
  | maxAttempts => "AMIFORGE_MAX_ATTEMPTS"
  | ioTimeout => "AMIFORGE_IO_TIMEOUT_SECS"

/-- The least number that is too great for the setting. -/
def bound : Setting → Nat
  | maxAttempts => UInt32.size
  | partSize | pollInterval | ioTimeout => UInt64.size

def value (c : Config) : Setting → Nat
  | partSize => c.partSize
  | pollInterval => c.pollIntervalSeconds
  | maxAttempts => c.maxAttempts
  | ioTimeout => c.ioTimeoutSeconds

/-- What holds where the variable has no such number. -/
def standard : Setting → Nat
  | partSize => 10485760
  | pollInterval | maxAttempts => 10
  | ioTimeout => 60

/-- The variable is set to a numeral in UTF-8 whose number is positive and not too great. -/
structure Holds (f : Setting) (env : Environment) (n : Nat) : Prop where
  numeral : ∃ s, env f.variableName.toList = some (Utf8.encode s) ∧ Decimal.IsNumeral s n
  pos : 0 < n
  lt : n < f.bound

theorem value_ofEnvironment (f : Setting) (env : Environment) :
    f.value (ofEnvironment env) = (positive? env f.bound f.variableName).getD f.standard := by
  cases f <;> rfl

end Setting

end Config

theorem Environment.text?_eq_some_iff {env : Environment} {name : String} {s : Text} :
    env.text? name = some s ↔ env name.toList = some (Utf8.encode s) := by
  rw [text?, Option.bind_eq_some_iff]
  simp only [Utf8.decode?_iff_encode]
  constructor
  · rintro ⟨octets, hset, rfl⟩
    exact hset
  · exact fun h => ⟨_, h, rfl⟩

namespace Config

variable (env : Environment)

theorem positive?_eq_some_iff (f : Setting) {n : Nat} :
    positive? env f.bound f.variableName = some n ↔ f.Holds env n := by
  have hbound : 0 < f.bound := by cases f <;> decide
  rw [positive?, Option.filter_eq_some_iff, Option.bind_eq_some_iff]
  simp only [Environment.text?_eq_some_iff, Decimal.readBelow?_eq_some_iff hbound,
    decide_eq_true_iff]
  constructor
  · rintro ⟨⟨s, hset, hs, hlt⟩, hpos⟩
    exact ⟨⟨s, hset, hs⟩, hpos, hlt⟩
  · rintro ⟨⟨s, hset, hs⟩, hpos, hlt⟩
    exact ⟨⟨s, hset, hs, hlt⟩, hpos⟩

/-- The number of the variable if it holds one, and the standard number if it does not; a run can
work with either. -/
structure Takes (c : Config) (f : Setting) : Prop where
  held : ∀ n, f.Holds env n → f.value c = n
  otherwise : (∀ n, ¬ f.Holds env n) → f.value c = f.standard
  pos : 1 ≤ f.value c
  lt : f.value c < f.bound

theorem takes_ofEnvironment (f : Setting) : Takes env (ofEnvironment env) f := by
  have hvalue := f.value_ofEnvironment env
  cases hread : positive? env f.bound f.variableName with
  | some n =>
    have hn := (positive?_eq_some_iff env f).1 hread
    rw [hread, Option.getD_some] at hvalue
    have hunique : ∀ m, f.Holds env m → n = m := fun m hm =>
      Option.some.inj (hread.symm.trans ((positive?_eq_some_iff env f).2 hm))
    rw [← hvalue] at hn hunique
    exact ⟨hunique, fun hnone => absurd hn (hnone _), hn.pos, hn.lt⟩
  | none =>
    have hnone : ∀ n, ¬ f.Holds env n := fun n hn => by
      rw [(positive?_eq_some_iff env f).2 hn] at hread
      cases hread
    rw [hread, Option.getD_none] at hvalue
    have hstandard : 1 ≤ f.standard ∧ f.standard < f.bound := by cases f <;> decide
    exact ⟨fun n hn => absurd hn (hnone n), fun _ => hvalue, hvalue ▸ hstandard.1,
      hvalue ▸ hstandard.2⟩

/-- Only its own variable matters for a setting. -/
theorem value_congr {env env' : Environment} {f : Setting}
    (h : env f.variableName.toList = env' f.variableName.toList) :
    f.value (ofEnvironment env) = f.value (ofEnvironment env') := by
  rw [f.value_ofEnvironment, f.value_ofEnvironment, positive?, positive?, Environment.text?,
    Environment.text?, h]

/-- The name of the variable with the filter for the log. -/
def levelName : String := "LOG_LEVEL"

theorem logLevel_congr {env env' : Environment} (h : env levelName.toList = env' levelName.toList) :
    (ofEnvironment env).logLevel = (ofEnvironment env').logLevel := by
  change ((env.text? levelName).getD _) = ((env'.text? levelName).getD _)
  rw [Environment.text?, Environment.text?, h]

/-- No two settings have the same variable, and a change of one variable changes at most the setting
that it is the variable of. -/
structure Fieldwise : Prop where
  ne_of_ne : ∀ f g : Setting, f ≠ g → f.variableName ≠ g.variableName
  ne_levelName : ∀ f : Setting, f.variableName ≠ levelName
  number : ∀ (name : Text) (octets : Option Octets) (f : Setting), f.variableName.toList ≠ name →
    f.value (ofEnvironment (Function.update env name octets)) = f.value (ofEnvironment env)
  level : ∀ (name : Text) (octets : Option Octets), levelName.toList ≠ name →
    (ofEnvironment (Function.update env name octets)).logLevel = (ofEnvironment env).logLevel

theorem fieldwise : Fieldwise env where
  ne_of_ne f g := by cases f <;> cases g <;> decide
  ne_levelName f := by cases f <;> decide
  number _ _ _ h := value_congr (Function.update_of_ne h _ _)
  level _ _ h := logLevel_congr (Function.update_of_ne h _ _)

end Config

/-- Images can be cut into parts of that size: as many as hold an image and no more, and every round
of the loop that stores them takes at least one octet off what is left. -/
structure CutsImages (partSize : Nat) : Prop where
  ne_zero : partSize ≠ 0
  partCount_le_iff : ∀ size n, partCount size partSize ≤ n ↔ size ≤ n * partSize
  partsOf_eq : ∀ image : Octets, image ≠ [] →
    partsOf partSize image = image.take partSize :: partsOf partSize (image.drop partSize) ∧
      (image.drop partSize).length < image.length
  rounds : ∀ size < UInt64.size, ∃ spans, Rounds size partSize 0 0 spans ∧
    spans.length = partCount size partSize ∧ ∀ span ∈ spans, 1 ≤ span.length

theorem cutsImages {partSize : Nat} (hs : 1 ≤ partSize) : CutsImages partSize where
  ne_zero := by omega
  partCount_le_iff size n := by
    constructor
    · exact fun h => Nat.le_trans (le_partCount_mul hs size) (Nat.mul_le_mul_right partSize h)
    · intro h
      refine Nat.le_of_not_lt fun hlt => ?_
      have hmore := mul_lt_of_lt_partCount hs hlt
      omega
  partsOf_eq image hne := by
    have hpos := List.length_pos_iff.2 hne
    refine ⟨partsOf_of_ne_nil hs hne, ?_⟩
    rw [List.length_drop]
    omega
  rounds size hsize := by
    refine ⟨_, rounds_image hs hsize, by simp, fun span hspan => ?_⟩
    obtain ⟨i, hi, rfl⟩ := List.mem_map.1 hspan
    have hlt := mul_lt_of_lt_partCount hs (List.mem_range.1 hi)
    change 1 ≤ min (size - i * partSize) partSize
    omega

/-- An order that may be repeated is attempted at least once, and no more often than the setting
says. -/
structure Client.Attempting (c : Client) : Prop where
  pos : 1 ≤ c.maxAttempts
  call : ∀ service region form s, let calling := c.callRepeatedly service region form
    1 ≤ (calling.exchanges s).length ∧ (calling.exchanges s).length ≤ c.maxAttempts
  put : ∀ region bucket path body s, let storing := c.put region bucket path body
    1 ≤ (storing.exchanges s).length ∧ (storing.exchanges s).length ≤ c.maxAttempts

theorem Client.attempting {c : Client} (h : 1 ≤ c.maxAttempts) : c.Attempting where
  pos := h
  call service region form s := by
    have hbounds := c.attemptCount_bounds (.call service region form) s
    dsimp only
    rw [(c.repeats_callRepeatedly service region form s).length_exchanges]
    omega
  put region bucket path body s := by
    have hbounds := c.attemptCount_bounds (.put region bucket path body) s
    dsimp only
    rw [(c.repeats_put region bucket path body s).length_exchanges]
    omega

namespace Config

/-- Whatever the variables hold, each setting has the number of its own variable or else its
standard one, a run can cut its image and make its calls with them, and a change of one variable
does not reach the other settings. -/
theorem ofEnvironment_usable (env : Environment) :
    (∀ f, Takes env (ofEnvironment env) f) ∧ CutsImages (ofEnvironment env).partSize ∧
      (∀ credentials, Client.Attempting ⟨credentials, (ofEnvironment env).maxAttempts⟩) ∧
      Fieldwise env := by
  have htakes := takes_ofEnvironment env
  exact ⟨htakes, cutsImages (htakes .partSize).pos,
    fun credentials => Client.attempting (htakes .maxAttempts).pos, fieldwise env⟩

/-- A plus sign and zeros in front are read; a number too great by one, and zero, are not. -/
example :
    let env (part attempts : String) : Environment := fun name =>
      if name = Setting.partSize.variableName.toList then some (Utf8.encode part.toList)
      else if name = Setting.maxAttempts.variableName.toList then some (Utf8.encode attempts.toList)
      else none
    (ofEnvironment (env "+0018446744073709551615" "4294967296")).partSize = 2 ^ 64 - 1 ∧
      (ofEnvironment (env "-1" "4294967296")).maxAttempts = 10 ∧
      (ofEnvironment (env "0" "4294967295")).partSize = 10485760 ∧
      (ofEnvironment (env "0" "4294967295")).maxAttempts = 2 ^ 32 - 1 := by
  decide +kernel

end Config

end MachineImage
