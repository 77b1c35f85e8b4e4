import XpensGo.EcmaScript.Calendar
import XpensGo.Model.Operation
import XpensGo.Model.OperationOutput

/-!
# Extracted dates

Before a result is accepted, its extracted dates are parsed and written again,
and compared with what the provider sent.  With date functions that follow the
calendar this refuses exactly the texts that name no day.
-/

namespace XpensGo

open EcmaScript JsString Calendar

/-- The text `YYYY-MM-DD` of a day of the years 0 to 9999. -/
def IsCalendarDay (text : JsString) : Prop :=
  ∃ date : Calendar.Date, date.Exists ∧ 0 ≤ date.year ∧ date.year ≤ 9999 ∧
    text = isoDate date

section Validity

variable {dates : DateBuiltins} {value : JsString}

private theorem head?_of_datePattern (shaped : datePattern.test value = true) :
    ∃ digit, value.head? = some digit ∧ isDigit digit = true := by
  obtain ⟨_, matched⟩ := RegExp.test_iff.mp shaped
  obtain ⟨year, rest, _, _, years, _, rfl, _⟩ :=
    RegExp.matches_sequence.mp matched
  obtain ⟨digits, enough, _⟩ := RegExp.matches_repeated.mp years
  cases year with
  | nil => simp at enough
  | cons digit year =>
      simp only [List.all_cons, Bool.and_eq_true] at digits
      exact ⟨digit, rfl, digits.1⟩

private theorem isCalendarDay_of_written (standard : dates.Standard)
    (shaped : datePattern.test value = true) {text : JsString} {time : Int}
    (read : dates.parse text = some time)
    (written : (dates.toISOString time).take 10 = value) :
    IsCalendarDay value := by
  obtain ⟨least, most⟩ := standard.parse_timeValue text time read
  rw [standard.toISOString_eq time least most] at written
  have present := dateFromDay_exists (time / millisecondsPerDay)
  by_cases within : 0 ≤ (dateFromDay (time / millisecondsPerDay)).year ∧
      (dateFromDay (time / millisecondsPerDay)).year ≤ 9999
  · refine ⟨_, present, within.1, within.2, ?_⟩
    rw [← written, List.take_left' (length_isoDate within.1 within.2)]
  · -- Other years are written with a sign, which no digit is.
    obtain ⟨digit, first, digits⟩ := head?_of_datePattern shaped
    have head : value.head? =
        (isoDate (dateFromDay (time / millisecondsPerDay))).head? := by
      rw [← written, List.head?_take]
      rcases head?_isoDate within with positive | negative
      · simp [positive, List.head?_append]
      · simp [negative, List.head?_append]
    rw [first] at head
    rcases head?_isoDate within with positive | negative
    · rw [positive] at head
      cases head
      cases digits
    · rw [negative] at head
      cases head
      cases digits

theorem isValidIsoCalendarDate_iff (standard : dates.Standard)
    (shaped : datePattern.test value = true) :
    isValidIsoCalendarDate dates value = true ↔ IsCalendarDay value := by
  constructor
  · intro valid
    simp only [isValidIsoCalendarDate] at valid
    split at valid
    · cases valid
    · rename_i time read
      exact isCalendarDay_of_written standard shaped read
        (of_decide_eq_true valid)
  · rintro ⟨date, present, begun, ended, rfl⟩
    have read := standard.parse_date date present begun ended
    obtain ⟨least, most⟩ := standard.parse_timeValue _ _ read
    have day : makeDay date * millisecondsPerDay / millisecondsPerDay =
        makeDay date :=
      Int.mul_ediv_cancel _ (by decide)
    simp only [isValidIsoCalendarDate, read]
    rw [standard.toISOString_eq _ least most, day, dateFromDay_makeDay present,
      List.take_left' (length_isoDate begun ended)]
    exact decide_eq_true rfl

end Validity

section Search

variable {dates : DateBuiltins}

/-- The extracted transaction of a suggestion. -/
def TransactionExtractionSuggestion.extracted? :
    TransactionExtractionSuggestion → Option ExtractedTransactionSuggestion
  | .extracted suggestion => some suggestion
  | .clarificationRequired _ => none

theorem containsInvalidExtractedDate_suggestion
    (suggestion : TransactionExtractionSuggestion) :
    containsInvalidExtractedDate dates suggestion.toJson =
      suggestion.extracted?.any (fun extracted =>
        !isValidIsoCalendarDate dates extracted.occurredOn.val) := by
  cases suggestion with
  | extracted suggestion => rfl
  | clarificationRequired reason => rfl

theorem containsInvalidExtractedDate_result
    (result : TransactionExtractionResult) :
    containsInvalidExtractedDate dates result.toJson =
      containsInvalidExtractedDate dates result.outcome.toJson := by
  exact Bool.or_false _

private theorem someContainsInvalidExtractedDate_eq (items : List JsValue) :
    someContainsInvalidExtractedDate dates items =
      items.any (containsInvalidExtractedDate dates) := by
  induction items with
  | nil => rfl
  | cons item items induction =>
      rw [someContainsInvalidExtractedDate, induction, List.any_cons]

theorem containsInvalidExtractedDate_batch
    (batch : TransactionExtractionBatchSuggestion) :
    containsInvalidExtractedDate dates batch.toJson =
      batch.suggestions.any (fun suggestion =>
        containsInvalidExtractedDate dates suggestion.toJson) := by
  have searched : containsInvalidExtractedDate dates batch.toJson =
      someContainsInvalidExtractedDate dates
        (batch.suggestions.map TransactionExtractionSuggestion.toJson) := by
    rfl
  rw [searched, someContainsInvalidExtractedDate_eq, List.any_map]
  rfl

variable (standard : dates.Standard)

include standard

theorem suggestion_invalid_iff (suggestion : TransactionExtractionSuggestion) :
    containsInvalidExtractedDate dates suggestion.toJson = true ↔
      ∃ extracted, suggestion = .extracted extracted ∧
        ¬IsCalendarDay extracted.occurredOn.val := by
  rw [containsInvalidExtractedDate_suggestion]
  cases suggestion with
  | extracted suggestion =>
      have valid :=
        isValidIsoCalendarDate_iff standard suggestion.occurredOn.property
      simp [TransactionExtractionSuggestion.extracted?, ← valid]
  | clarificationRequired reason =>
      simp [TransactionExtractionSuggestion.extracted?]

theorem result_invalid_iff (result : TransactionExtractionResult) :
    containsInvalidExtractedDate dates result.toJson = true ↔
      ∃ extracted, result.outcome = .extracted extracted ∧
        ¬IsCalendarDay extracted.occurredOn.val := by
  rw [containsInvalidExtractedDate_result]
  exact suggestion_invalid_iff standard result.outcome

theorem batch_invalid_iff (batch : TransactionExtractionBatchSuggestion) :
    containsInvalidExtractedDate dates batch.toJson = true ↔
      ∃ extracted, .extracted extracted ∈ batch.suggestions ∧
        ¬IsCalendarDay extracted.occurredOn.val := by
  rw [containsInvalidExtractedDate_batch, List.any_eq_true]
  constructor
  · rintro ⟨suggestion, member, invalid⟩
    obtain ⟨extracted, rfl, unknown⟩ :=
      (suggestion_invalid_iff standard suggestion).mp invalid
    exact ⟨extracted, member, unknown⟩
  · rintro ⟨extracted, member, unknown⟩
    exact ⟨_, member, (suggestion_invalid_iff standard _).mpr
      ⟨extracted, rfl, unknown⟩⟩

end Search

section Positions

variable {property : JsValue}

/-- The only date of a suggestion is the one of its extracted transaction. -/
theorem occurredOn_of_suggestion {suggestion : TransactionExtractionSuggestion}
    (contained :
      JsValue.Contains (ofString "occurredOn") property suggestion.toJson) :
    ∃ extracted, suggestion = .extracted extracted ∧
      property = .string extracted.occurredOn.val := by
  cases suggestion with
  | extracted extracted =>
      refine ⟨extracted, rfl, ?_⟩
      rw [TransactionExtractionSuggestion.toJson,
        ExtractedTransactionSuggestion.toJson, JsValue.contains_object]
        at contained
      have same : .string extracted.occurredOn.val = property := by
        simpa [ofString] using contained
      exact same.symm
  | clarificationRequired reason =>
      rw [TransactionExtractionSuggestion.toJson, JsValue.contains_object]
        at contained
      simp [ofString] at contained

theorem occurredOn_of_result {result : TransactionExtractionResult}
    (contained :
      JsValue.Contains (ofString "occurredOn") property result.toJson) :
    ∃ extracted, result.outcome = .extracted extracted ∧
      property = .string extracted.occurredOn.val := by
  rw [TransactionExtractionResult.toJson, JsValue.contains_object] at contained
  obtain ⟨field, member, here⟩ := contained
  rw [List.mem_singleton] at member
  subst member
  rcases here with same | inner
  · simp [ofString] at same
  · exact occurredOn_of_suggestion inner

theorem occurredOn_of_batch {batch : TransactionExtractionBatchSuggestion}
    (contained :
      JsValue.Contains (ofString "occurredOn") property batch.toJson) :
    ∃ extracted, .extracted extracted ∈ batch.suggestions ∧
      property = .string extracted.occurredOn.val := by
  rw [TransactionExtractionBatchSuggestion.toJson, JsValue.contains_object]
    at contained
  obtain ⟨field, member, here⟩ := contained
  rw [List.mem_singleton] at member
  subst member
  rcases here with same | inner
  · simp [ofString] at same
  · obtain ⟨item, mapped, within⟩ := JsValue.contains_array.mp inner
    obtain ⟨suggestion, member, rfl⟩ := List.mem_map.mp mapped
    obtain ⟨extracted, rfl, written⟩ := occurredOn_of_suggestion within
    exact ⟨extracted, member, written⟩

end Positions

end XpensGo
