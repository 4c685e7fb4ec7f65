import LiveChat.Settings.Client
import Mathlib.Algebra.Group.Nat.Defs

/-!
The delay before a connection is tried again, in closed form. It doubles from attempt to attempt
and stops at the ceiling; but it doubles twenty times at most, so a ceiling of more than `2 ^ 20`
times the initial delay is never reached, and the delay stays below it for good. Settings with such
a ceiling are accepted.
-/

set_option autoImplicit false

namespace LiveChat

open Time

namespace Time.Duration

theorem min_of_millis (first second : Nat) :
    (ofMillis first).min (ofMillis second) = ofMillis (Min.min first second) := by
  unfold Duration.min
  split
  · next lesser =>
    simp only [ofMillis] at lesser
    rw [Nat.min_eq_left (by omega)]
  · next greater =>
    simp only [ofMillis] at greater
    rw [Nat.min_eq_right (by omega)]

theorem of_millis_injective : Function.Injective ofMillis := by
  intro first second same
  have equal := congrArg nanoseconds same
  simp only [ofMillis] at equal
  omega

/-- A word of 64 bits holds no more milliseconds than a duration does. -/
theorem of_millis_fits {millis : Nat} (counted : millis < 2 ^ 64) :
    (ofMillis millis).nanoseconds ≤ largest := by
  have most : largest = 18446744073709551615999999999 := by decide
  rw [most]
  simp only [ofMillis]
  omega

theorem times_of_millis (millis factor : Nat) :
    (ofMillis millis).times? factor =
      if (ofMillis (millis * factor)).nanoseconds ≤ largest then some (ofMillis (millis * factor))
      else none := by
  have scaled : (ofMillis millis).nanoseconds * factor = (ofMillis (millis * factor)).nanoseconds :=
    Nat.mul_right_comm _ _ _
  unfold times?
  rw [scaled]

end Time.Duration

namespace Stream.ReconnectPolicy

/-- A product that is too large for a duration is past every ceiling, so nothing is lost by it. -/
theorem nominal_of_millis {policy : ReconnectPolicy} {initial ceiling : Nat}
    (starts : policy.initial = .ofMillis initial) (ends : policy.ceiling = .ofMillis ceiling)
    (counted : ceiling < 2 ^ 64) (attempt : Nat) :
    policy.nominal attempt = .ofMillis (min (initial * 2 ^ min attempt 20) ceiling) := by
  have fits := Duration.of_millis_fits counted
  have factor : Nat.pow 2 (min attempt 20) = 2 ^ min attempt 20 := rfl
  rw [nominal, starts, ends, factor, Duration.times_of_millis]
  generalize 2 ^ min attempt 20 = factor
  generalize Duration.largest = most at fits ⊢
  by_cases within : (Duration.ofMillis (initial * factor)).nanoseconds ≤ most
  · rw [if_pos within]
    exact Duration.min_of_millis _ _
  · have past : ceiling ≤ initial * factor := by
      simp only [Duration.ofMillis] at fits within
      omega
    rw [if_neg within, Nat.min_eq_right past]
    exact (Duration.min_of_millis _ _).trans (congrArg _ (Nat.min_self ceiling))

end Stream.ReconnectPolicy

/-! Settings that were read hold numbers of the sizes that they are kept in. -/

namespace Settings

/-- Every number fits the word that holds it. -/
structure Stream.Counted (stream : Settings.Stream) : Prop where
  initialBackoff : stream.initialBackoff < 2 ^ 64
  maxBackoff : stream.maxBackoff < 2 ^ 64
  maxReconnectAttempts : stream.maxReconnectAttempts < 2 ^ 32
  inactivitySeconds : stream.inactivitySeconds < 2 ^ 64
  maxPayload : stream.maxPayload < 2 ^ 64
  channelCapacity : stream.channelCapacity < 2 ^ 64

variable {Record : Type} {holds : Record → Prop}

/-- What the entry reads keeps what holds of the record. -/
def Keeps (holds : Record → Prop) (entry : Entry Record) : Prop :=
  ∀ {value : Json} {record next : Record}, holds record → entry value record = .ok next →
    holds next

theorem bind_read {Fault First Second : Type} {first : Except Fault First}
    {next : First → Except Fault Second} {second : Second} (read : first >>= next = .ok second) :
    ∃ value, first = .ok value ∧ next value = .ok second := by
  cases first with
  | error fault => cases read
  | ok value => exact ⟨value, rfl, read⟩

theorem under_read {key : String} {result : Except Place Record} {next : Record}
    (read : under key result = .ok next) : result = .ok next := by
  cases result with
  | error place => cases read
  | ok record => exact read

theorem fold_keeps {Item : Type} {items : List Item}
    {change : Record → Item → Except Place Record}
    (each : ∀ item ∈ items, ∀ {record next}, holds record → change record item = .ok next →
      holds next)
    {record next : Record} (start : holds record) (read : items.foldlM change record = .ok next) :
    holds next := by
  induction items generalizing record with
  | nil =>
      cases read
      exact start
  | cons item rest induction =>
      rw [List.foldlM_cons] at read
      obtain ⟨middle, first, later⟩ := bind_read read
      exact induction (fun other member => each other (List.mem_cons_of_mem item member))
        (each item List.mem_cons_self start first) later

theorem read_record_keeps {surplus : Surplus} {entries : List (String × Entry Record)}
    (each : ∀ entry ∈ entries, Keeps holds entry.2) : Keeps holds (readRecord surplus entries) := by
  intro value record next start read
  unfold readRecord at read
  split at read
  · refine fold_keeps ?_ start read
    rintro ⟨key, value⟩ _ record next held changed
    simp only at changed
    split at changed
    · cases changed
      exact held
    · next entry found =>
      obtain ⟨before, after, parts, _⟩ := List.lookup_eq_some_iff.mp found
      have named : (key, entry) ∈ entries := parts ▸ List.mem_append_right _ List.mem_cons_self
      exact each _ named held (under_read changed)
  · split at read
    · cases read
    · refine fold_keeps ?_ start read
      rintro ⟨⟨value, entry⟩, index⟩ member record next held changed
      have named := (List.of_mem_zip (List.fst_mem_of_mem_zipIdx member)).2
      exact each _ named held (under_read changed)
  · cases read

theorem text_entry_keeps {set : String → Record → Record}
    (kept : ∀ text record, holds record → holds (set text record)) :
    Keeps holds (textEntry set) := by
  intro value record next start read
  cases value <;> cases read
  exact kept _ _ start

theorem natural_entry_keeps {limit : Nat} {set : Nat → Record → Record}
    (kept : ∀ number < limit, ∀ record, holds record → holds (set number record)) :
    Keeps holds (naturalEntry limit set) := by
  intro value record next start read
  unfold naturalEntry at read
  split at read
  · next number found =>
    cases read
    refine kept number ?_ record start
    cases value with
    | integer value =>
        simp only [Json.natural?] at found
        split at found
        · next fits =>
          cases found
          omega
        · cases found
    | _ => cases found
  · cases read

theorem stream_entries_keep : ∀ entry ∈ Stream.entries, Keeps Stream.Counted entry.2 := by
  have word : Nat.pow 2 64 = 2 ^ 64 := rfl
  have half : Nat.pow 2 32 = 2 ^ 32 := rfl
  simp only [Stream.entries, List.forall_mem_cons, word, half]
  refine ⟨text_entry_keeps fun _ _ held => { held with },
    natural_entry_keeps fun _ fits _ held => { held with initialBackoff := fits },
    natural_entry_keeps fun _ fits _ held => { held with maxBackoff := fits },
    natural_entry_keeps fun _ fits _ held => { held with maxReconnectAttempts := fits },
    natural_entry_keeps fun _ fits _ held => { held with inactivitySeconds := fits },
    natural_entry_keeps fun _ fits _ held => { held with maxPayload := fits },
    natural_entry_keeps fun _ fits _ held => { held with channelCapacity := fits }, nofun⟩

theorem standard_counted : Stream.standard.Counted := by
  constructor <;> decide

theorem read_counted {surplus : Surplus} {value : Json} {settings : Settings}
    (read : Settings.read surplus value = .ok settings) : settings.stream.Counted := by
  have each : ∀ entry ∈ entries surplus,
      Keeps (fun settings : Settings => settings.stream.Counted) entry.2 := by
    simp only [entries, List.forall_mem_cons]
    refine ⟨?_, ?_, nofun⟩
    · intro value record next start read
      obtain ⟨server, _, given⟩ := bind_read read
      cases given
      exact start
    · intro value record next start read
      obtain ⟨stream, found, given⟩ := bind_read read
      cases given
      exact read_record_keeps stream_entries_keep standard_counted found
  exact read_record_keeps each standard_counted read

/-- The delay that is asked for: it doubles until it reaches the ceiling. -/
def Stream.doubled (stream : Settings.Stream) (attempt : Nat) : Duration :=
  .ofMillis (min (stream.initialBackoff * 2 ^ attempt) stream.maxBackoff)

end Settings

namespace ClientSettings

theorem accepted_backoff {settings : Settings} {client : ClientSettings}
    (accepted : ofSettings settings = .ok client) :
    0 < settings.stream.initialBackoff ∧
      settings.stream.initialBackoff ≤ settings.stream.maxBackoff ∧
      client.stream.policy =
        { initial := .ofMillis settings.stream.initialBackoff
          ceiling := .ofMillis settings.stream.maxBackoff
          maxAttempts := settings.stream.maxReconnectAttempts } := by
  obtain ⟨origin, _, afterOrigin⟩ := Settings.bind_read accepted
  obtain ⟨messages, _, afterMessages⟩ := Settings.bind_read afterOrigin
  obtain ⟨endpoint, _, checked⟩ := Settings.bind_read afterMessages
  simp only at checked
  split at checked
  · cases checked
  · next ordered =>
    cases checked
    rw [not_or, Nat.not_lt] at ordered
    exact ⟨Nat.pos_of_ne_zero ordered.1, ordered.2, rfl⟩

/-- Past the twentieth attempt the delay stays as it is, whatever the ceiling. So it is the one that
is asked for up to there, and afterwards exactly if the ceiling is at most `2 ^ 20` times the
initial delay. -/
theorem accepted_delay_exact {settings : Settings} {client : ClientSettings}
    (counted : settings.stream.Counted) (accepted : ofSettings settings = .ok client)
    (attempt : Nat) :
    client.stream.policy.nominal attempt = settings.stream.doubled (min attempt 20) ∧
      (client.stream.policy.nominal attempt = settings.stream.doubled attempt ↔
        attempt ≤ 20 ∨ settings.stream.maxBackoff ≤ settings.stream.initialBackoff * 2 ^ 20) := by
  obtain ⟨positive, _, policy⟩ := accepted_backoff accepted
  have closed : client.stream.policy.nominal attempt = settings.stream.doubled (min attempt 20) :=
    Stream.ReconnectPolicy.nominal_of_millis (by rw [policy]) (by rw [policy])
      counted.maxBackoff attempt
  refine ⟨closed, ?_⟩
  rw [closed]
  by_cases early : attempt ≤ 20
  · rw [Nat.min_eq_left early]
    exact iff_of_true rfl (.inl early)
  · have later : settings.stream.initialBackoff * 2 ^ 20 <
        settings.stream.initialBackoff * 2 ^ attempt :=
      Nat.mul_lt_mul_of_pos_left (Nat.pow_lt_pow_right (by decide) (by omega)) positive
    rw [Nat.min_eq_right (by omega), Settings.Stream.doubled, Settings.Stream.doubled,
      Duration.of_millis_injective.eq_iff]
    omega

/-- A delay that starts at a millisecond, with a ceiling of thirty-five minutes. -/
def slow : Settings :=
  { Settings.standard with
    stream := { Settings.Stream.standard with initialBackoff := 1, maxBackoff := 2097152 } }

theorem slow_accepted : ∃ client, ofSettings slow = .ok client := by
  have given : (ofSettings slow).toOption.isSome := by decide +kernel
  cases accepted : ofSettings slow with
  | error fault =>
      rw [accepted] at given
      cases given
  | ok client => exact ⟨client, rfl⟩

/-- How it is written. -/
def slowText : Json :=
  .object [("stream", .object
    [("initial_backoff_ms", .integer 1), ("max_backoff_ms", .integer 2097152)])]

theorem slow_read : Settings.read .refused slowText = .ok slow := rfl

/-- The twenty-first attempt is made after half of the ceiling, like the twentieth. -/
theorem slow_delay_exact :
    slow.stream.Counted ∧ ∃ client, ofSettings slow = .ok client ∧
      client.stream.policy.nominal 21 = .ofMillis 1048576 := by
  have counted := Settings.read_counted slow_read
  obtain ⟨client, accepted⟩ := slow_accepted
  refine ⟨counted, client, accepted, ?_⟩
  rw [(accepted_delay_exact counted accepted 21).1]
  decide

/-- The delay does not go on doubling until it reaches the ceiling. -/
theorem slow_delay_stays :
    ¬∀ (settings : Settings) (client : ClientSettings) (attempt : Nat),
      settings.stream.Counted → ofSettings settings = .ok client → attempt < 2 ^ 32 →
        client.stream.policy.nominal attempt = settings.stream.doubled attempt := by
  intro doubles
  obtain ⟨client, accepted⟩ := slow_accepted
  have asked := doubles slow client 21 (Settings.read_counted slow_read) accepted (by decide)
  rw [(accepted_backoff accepted).2.2] at asked
  revert asked
  decide

end ClientSettings

end LiveChat
