import Mathlib.Data.List.DropRight
import XpensGo.EcmaScript.Value

/-!
# Words between white space

The class `\s` of ECMAScript, and the division of a text into its first word
and what follows it.
-/

namespace EcmaScript

/-- `\s`: white space and line terminators. -/
def isWhiteSpace (unit : CodeUnit) : Bool :=
  (0x9 ≤ unit && unit ≤ 0xd) || unit == 0x20 || unit == 0xa0 ||
    unit == 0x1680 || (0x2000 ≤ unit && unit ≤ 0x200a) || unit == 0x2028 ||
    unit == 0x2029 || unit == 0x202f || unit == 0x205f || unit == 0x3000 ||
    unit == 0xfeff

/-- `\S`. -/
def isNonSpace (unit : CodeUnit) : Bool :=
  !isWhiteSpace unit

namespace JsString

/-- The first word of a text and what follows it. -/
def nextWord (text : JsString) : JsString × JsString :=
  let trimmed := text.dropWhile isWhiteSpace
  (trimmed.takeWhile isNonSpace, trimmed.dropWhile isNonSpace)

/-- `String.prototype.trim`. -/
def trim (text : JsString) : JsString :=
  (text.dropWhile isWhiteSpace).rdropWhile isWhiteSpace

/-- Whatever follows a word begins with white space. -/
def EndsWord (rest : JsString) : Prop :=
  ∀ unit, rest.head? = some unit → isWhiteSpace unit = true

theorem endsWord_of_all {rest : JsString} (blank : rest.all isWhiteSpace = true) :
    EndsWord rest := by
  intro unit head
  exact List.all_eq_true.mp blank unit (List.mem_of_head? head)

theorem EndsWord.append {gap rest : JsString} (nonempty : gap ≠ [])
    (blank : gap.all isWhiteSpace = true) : EndsWord (gap ++ rest) := by
  obtain ⟨first, others, rfl⟩ := List.exists_cons_of_ne_nil nonempty
  intro unit head
  exact endsWord_of_all blank unit head

variable {text lead word rest : JsString}

theorem dropWhile_of_all {test : CodeUnit → Bool} (passes : lead.all test = true)
    (stops : ∀ unit, rest.head? = some unit → test unit = false) :
    (lead ++ rest).dropWhile test = rest := by
  rw [List.dropWhile_append_of_pos (List.all_eq_true.mp passes)]
  cases rest with
  | nil => rfl
  | cons unit rest => simp [stops unit rfl]

theorem takeWhile_of_all {test : CodeUnit → Bool} (passes : word.all test = true)
    (stops : ∀ unit, rest.head? = some unit → test unit = false) :
    (word ++ rest).takeWhile test = word := by
  rw [List.takeWhile_append_of_pos (List.all_eq_true.mp passes)]
  cases rest with
  | nil => simp
  | cons unit rest => simp [stops unit rfl]

theorem nextWord_eq (blank : lead.all isWhiteSpace = true) (nonempty : word ≠ [])
    (solid : word.all isNonSpace = true) (ends : EndsWord rest) :
    nextWord (lead ++ (word ++ rest)) = (word, rest) := by
  have stopsLead : ∀ unit, (word ++ rest).head? = some unit →
      isWhiteSpace unit = false := by
    obtain ⟨first, others, rfl⟩ := List.exists_cons_of_ne_nil nonempty
    intro unit head
    simpa [isNonSpace] using
      List.all_eq_true.mp solid unit
        (@List.mem_of_mem_head? _ (first :: others) unit head)
  have stopsWord : ∀ unit, rest.head? = some unit → isNonSpace unit = false := by
    intro unit head
    simp [isNonSpace, ends unit head]
  simp only [nextWord, dropWhile_of_all blank stopsLead,
    takeWhile_of_all solid stopsWord, dropWhile_of_all solid stopsWord]

theorem nextWord_of_blank (blank : text.all isWhiteSpace = true) :
    nextWord text = ([], []) := by
  have dropped : (text ++ []).dropWhile isWhiteSpace = [] :=
    dropWhile_of_all blank (fun _ none => nomatch none)
  rw [List.append_nil] at dropped
  simp [nextWord, dropped]

/-- The parts of a text up to the end of its first word. -/
theorem exists_lead (text : JsString) :
    ∃ lead, text = lead ++ ((nextWord text).1 ++ (nextWord text).2) ∧
      lead = text.takeWhile isWhiteSpace ∧
      lead.all isWhiteSpace = true ∧
      (nextWord text).1.all isNonSpace = true ∧
      EndsWord (nextWord text).2 := by
  refine ⟨text.takeWhile isWhiteSpace, ?_, rfl, ?_, ?_, ?_⟩
  · simp [nextWord]
  · exact List.all_takeWhile
  · exact List.all_takeWhile
  · intro unit head
    have stops := List.head?_dropWhile_not isNonSpace
      (text.dropWhile isWhiteSpace)
    simp only [nextWord] at head
    rw [head] at stops
    simpa [isNonSpace] using stops

theorem rest_eq_nil (text : JsString) (none : (nextWord text).1 = []) :
    (nextWord text).2 = [] := by
  simp only [nextWord] at none ⊢
  cases trimmed : text.dropWhile isWhiteSpace with
  | nil => rfl
  | cons unit rest =>
      have stops := List.head?_dropWhile_not isWhiteSpace text
      rw [trimmed] at none stops
      simp only [List.head?_cons] at stops
      simp [isNonSpace, stops] at none

end JsString

end EcmaScript
