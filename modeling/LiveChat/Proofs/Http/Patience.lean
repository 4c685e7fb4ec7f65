import LiveChat.Http.ChatService
import LiveChat.Proofs.Conversation.Records
import LiveChat.Proofs.Json.Grammar
import LiveChat.Proofs.Stream.Backoff
import Mathlib.Data.List.DropRight
import Mathlib.Tactic.IntervalCases

/-!
What is made of one reply. The server may ask for patience and name a number of seconds, which
counts if it is readable; all other replies are final.
-/

set_option autoImplicit false

namespace LiveChat

namespace Text

theorem trim_chars_parts (chars : List Char) :
    ∃ before after, chars = before ++ trimChars chars ++ after ∧
      (∀ char ∈ before, isBlank char = true) ∧ ∀ char ∈ after, isBlank char = true := by
  have trimmed : trimChars chars = (chars.dropWhile isBlank).rdropWhile isBlank := rfl
  refine ⟨chars.takeWhile isBlank, (chars.dropWhile isBlank).rtakeWhile isBlank, ?_,
    fun char member => List.mem_takeWhile_imp member,
    fun char member => List.mem_rtakeWhile_imp member⟩
  rw [trimmed, List.append_assoc, List.rdropWhile_append_rtakeWhile,
    List.takeWhile_append_dropWhile]

/-- Blanks that stand around a word are trimmed away. -/
theorem trim_chars_around {before word after : List Char} (filled : word ≠ [])
    (leading : ∀ char ∈ before, isBlank char = true)
    (trailing : ∀ char ∈ after, isBlank char = true)
    (inked : ∀ char ∈ word, isBlank char = false) : trimChars (before ++ word ++ after) = word := by
  have start : (before ++ word ++ after).dropWhile isBlank = word ++ after := by
    rw [List.append_assoc, List.dropWhile_append_of_pos leading]
    cases word with
    | nil => exact absurd rfl filled
    | cons char rest =>
        rw [List.cons_append, List.dropWhile_cons_of_neg (by simp [inked char List.mem_cons_self])]
  have finish : (after.reverse ++ word.reverse).dropWhile isBlank = word.reverse := by
    rw [List.dropWhile_append_of_pos fun char member => trailing char (List.mem_reverse.mp member)]
    cases backwards : word.reverse with
    | nil => rfl
    | cons char rest =>
        have member : char ∈ word := List.mem_reverse.mp (backwards ▸ List.mem_cons_self)
        rw [List.dropWhile_cons_of_neg (by simp [inked char member])]
  rw [trimChars, start, List.reverse_append, finish, List.reverse_reverse]

theorem digit_inked {char : Char} (digit : Json.isDigit char = true) : isBlank char = false := by
  have range : 0x30 ≤ char.toNat ∧ char.toNat ≤ 0x39 := by
    simpa [Json.isDigit, Char.le_def, UInt32.le_iff_toNat_le] using digit
  simp only [isBlank, blankRanges, List.any_cons, List.any_nil, Bool.or_false, Bool.or_eq_false_iff,
    Bool.and_eq_false_iff, decide_eq_false_iff_not]
  omega

end Text

namespace Http

open Session (ServiceError)

/-- The text is a number of seconds in 64 bits, perhaps with a plus sign, between blanks. -/
def Names (text : String) (seconds : Nat) : Prop :=
  ∃ before sign digits after, text.toList = before ++ (sign ++ digits) ++ after ∧
    (∀ char ∈ before, Text.isBlank char = true) ∧ (∀ char ∈ after, Text.isBlank char = true) ∧
    (sign = [] ∨ sign = ['+']) ∧ Json.Digits digits ∧
    Json.valueOf (Json.decimals digits) = seconds ∧ seconds < 2 ^ 64

/-- What is left of a number when its plus sign is taken off. -/
def unsigned : List Char → List Char
  | '+' :: digits => digits
  | digits => digits

theorem seconds_some {text : String} {seconds : Nat} :
    seconds? text = some seconds ↔
      Json.Digits (unsigned (Text.trimChars text.toList)) ∧
        Json.valueOf (Json.decimals (unsigned (Text.trimChars text.toList))) = seconds ∧
        seconds < 2 ^ 64 := by
  have read : seconds? text =
      let digits := unsigned (Text.trimChars text.toList)
      if digits = [] ∨ !digits.all Json.isDigit then none
      else if Json.valueOf (Json.decimals digits) < 2 ^ 64 then
        some (Json.valueOf (Json.decimals digits))
      else none := rfl
  rw [read]
  generalize unsigned (Text.trimChars text.toList) = digits
  simp only
  split
  · next other =>
    refine iff_of_false nofun ?_
    rintro ⟨⟨filled, all⟩, _⟩
    cases other with
    | inl empty => exact filled empty
    | inr stray => simp [List.all_eq_true.mpr all] at stray
  · next proper =>
    rw [not_or, Bool.not_eq_true', Bool.not_eq_false, List.all_eq_true] at proper
    rw [Option.ite_none_right_eq_some, Option.some.injEq]
    constructor
    · rintro ⟨fits, rfl⟩
      exact ⟨proper, rfl, fits⟩
    · rintro ⟨_, rfl, fits⟩
      exact ⟨fits, rfl⟩

theorem unsigned_parts (chars : List Char) :
    ∃ sign, (sign = [] ∨ sign = ['+']) ∧ chars = sign ++ unsigned chars := by
  unfold unsigned
  split
  · exact ⟨['+'], .inr rfl, rfl⟩
  · exact ⟨[], .inl rfl, rfl⟩

theorem unsigned_digits {sign digits : List Char} (signed : sign = [] ∨ sign = ['+'])
    (written : Json.Digits digits) : unsigned (sign ++ digits) = digits := by
  obtain ⟨filled, all⟩ := written
  rcases signed with rfl | rfl
  · cases digits with
    | nil => exact absurd rfl filled
    | cons first rest =>
        have digit := all first List.mem_cons_self
        rw [List.nil_append, unsigned.eq_2]
        rintro _ ⟨⟩
        cases digit
  · rfl

theorem seconds_iff {text : String} {seconds : Nat} :
    seconds? text = some seconds ↔ Names text seconds := by
  rw [seconds_some]
  constructor
  · rintro ⟨digits, value, fits⟩
    obtain ⟨before, after, parts, leading, trailing⟩ := Text.trim_chars_parts text.toList
    obtain ⟨sign, signed, whole⟩ := unsigned_parts (Text.trimChars text.toList)
    rw [whole] at parts
    exact ⟨before, sign, _, after, parts, leading, trailing, signed, digits, value, fits⟩
  · rintro ⟨before, sign, digits, after, parts, leading, trailing, signed, written, value, fits⟩
    have inked : ∀ char ∈ sign ++ digits, Text.isBlank char = false := by
      intro char member
      rcases List.mem_append.mp member with plus | digit
      · rcases signed with rfl | rfl
        · cases plus
        · rw [List.mem_singleton.mp plus]
          decide
      · exact Text.digit_inked (written.2 char digit)
    have trimmed : Text.trimChars text.toList = sign ++ digits := by
      rw [parts]
      exact Text.trim_chars_around (List.append_ne_nil_of_right_ne_nil sign written.1) leading
        trailing inked
    rw [trimmed, unsigned_digits signed written]
    exact ⟨written, value, fits⟩

namespace Response

/-- The first field that says when to come back is readable and names this number of seconds. -/
def Tells (response : Response) (seconds : Nat) : Prop :=
  ∃ text, response.header? "retry-after" = some text ∧ Names text seconds

theorem retry_after_iff {response : Response} {seconds : Nat} :
    response.retryAfter? = some seconds ↔ response.Tells seconds := by
  rw [retryAfter?, Option.bind_eq_some_iff]
  simp only [seconds_iff, Tells]

end Response

/-- The wait, in milliseconds, before a request is sent again: what the server tells, but half a
minute at most; untold, a second, and each time twice as long. -/
inductive Waits (retries : Nat) (response : Response) : Nat → Prop where
  | told {seconds : Nat} (tells : response.Tells seconds) :
      Waits retries response (1000 * min seconds 30)
  | untold (silent : ∀ seconds, ¬response.Tells seconds) :
      Waits retries response (1000 * 2 ^ retries)

theorem Waits.short {retries millis : Nat} {response : Response}
    (waits : Waits retries response millis) (early : retries < 3) : millis ≤ 30000 := by
  cases waits with
  | told tells => omega
  | untold silent =>
      have few : 2 ^ retries ≤ 2 ^ 2 := Nat.pow_le_pow_right (by decide) (by omega)
      omega

theorem of_seconds_eq (seconds : Nat) :
    Time.Duration.ofSeconds seconds = .ofMillis (1000 * seconds) := by
  rw [Time.Duration.ofSeconds, Time.Duration.ofMillis, Time.Duration.perSecond,
    Time.Duration.mk.injEq]
  omega

theorem retry_delay_waits {retries : Nat} (early : retries < 3) (response : Response) :
    ∃ millis, retryDelay retries response = .ofMillis millis ∧ Waits retries response millis := by
  unfold retryDelay
  split
  · next seconds told =>
    refine ⟨1000 * min seconds 30, ?_, .told (Response.retry_after_iff.mp told)⟩
    rw [maxRetryAfter, of_seconds_eq, of_seconds_eq, Time.Duration.min_of_millis,
      ← Nat.mul_min_mul_left]
  · next untold =>
    refine ⟨1000 * 2 ^ retries, ?_, .untold fun seconds tells => ?_⟩
    · have doubles : Stream.ReconnectPolicy.standard.nominal retries =
          .ofMillis (min (1000 * 2 ^ min retries 20) 30000) :=
        Stream.ReconnectPolicy.nominal_of_millis rfl rfl (by decide) retries
      rw [doubles]
      interval_cases retries <;> rfl
    · rw [Response.retry_after_iff.mpr tells] at untold
      cases untold

def Reply.asksPatience : Reply → Bool
  | .failed _ => false
  | .answered response => response.status = 429

/-- What a reply that asks for no patience leads to. -/
inductive Comes : Reply → Except ServiceError Response → Prop where
  | unsent {text : String} : Comes (.failed text) (.error (.request text))
  | taken {response : Response} (success : 200 ≤ response.status ∧ response.status < 300) :
      Comes (.answered response) (.ok response)
  | refused {response : Response} {body : String}
      (failure : ¬(200 ≤ response.status ∧ response.status < 300))
      (cut : Conversation.Cut 512 (response.text?.getD "") body) :
      Comes (.answered response) (.error (.status response.status body))

/-- What is done about a reply after so many retries: it is final, the request is sent again, or
patience has run out. -/
inductive Judged (retries : Nat) (reply : Reply) : Verdict → Prop where
  | final {outcome : Except ServiceError Response} (content : reply.asksPatience = false)
      (comes : Comes reply outcome) : Judged retries reply (.done outcome)
  | again {response : Response} {millis : Nat} (early : retries < 3)
      (answered : reply = .answered response) (asks : reply.asksPatience = true)
      (waits : Waits retries response millis) : Judged retries reply (.retry (.ofMillis millis))
  | spent {response : Response} {retryAfter : Option Nat} (late : 3 ≤ retries)
      (answered : reply = .answered response) (asks : reply.asksPatience = true)
      (told : ∀ seconds, retryAfter = some seconds ↔ response.Tells seconds) :
      Judged retries reply (.done (.error (.rateLimited retryAfter)))

theorem judge_judged (retries : Nat) (reply : Reply) :
    Judged retries reply (judge retries reply) := by
  cases reply with
  | failed text => exact .final rfl .unsent
  | answered response =>
      simp only [judge]
      split
      · next asks =>
        have patience : (Reply.answered response).asksPatience = true := decide_eq_true asks
        split
        · next late => exact .spent late rfl patience fun seconds => Response.retry_after_iff
        · next early =>
          obtain ⟨millis, delay, waits⟩ := retry_delay_waits (Nat.lt_of_not_le early) response
          rw [delay]
          exact .again (Nat.lt_of_not_le early) rfl patience waits
      · next other =>
        have content : (Reply.answered response).asksPatience = false := decide_eq_false other
        have range : response.isSuccess = true ↔ 200 ≤ response.status ∧ response.status < 300 := by
          simp [Response.isSuccess]
        split
        · next success => exact .final content (.taken (range.mp success))
        · next failure =>
          exact .final content (.refused (mt range.mpr failure) (Conversation.cut_text_cuts _ _))

end Http

end LiveChat
