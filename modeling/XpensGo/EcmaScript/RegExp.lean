import XpensGo.EcmaScript.Value

/-!
# Regular expressions

The fragment of ECMAScript regular expressions without flags that consists of
code units, classes of code units with a greedy quantifier, alternatives,
optional parts and capturing groups.  `searches` lists the matches of a pattern
at the beginning of a text in the order in which a backtracking matcher meets
them.  `Matches` is the relation that these matches satisfy, whatever follows.
-/

namespace EcmaScript

/-- `\d`. -/
def isDigit (unit : CodeUnit) : Bool :=
  0x30 ≤ unit && unit ≤ 0x39

/-- Patterns.  The body of `optional` does not match the empty text. -/
inductive RegExp where
  | literal (text : JsString)
  | repeated (test : CodeUnit → Bool) (least : Nat) (most : Option Nat)
  | sequence (first second : RegExp)
  | either (left right : RegExp)
  | optional (body : RegExp)
  | group (index : Nat) (body : RegExp)

/-- The groups that took part in a match. -/
abbrev Captures := List (Nat × JsString)

/-- The text before a match, the match and the text after it. -/
structure RegExpMatch where
  taken : JsString
  rest : JsString
  captures : Captures

namespace RegExp

/-- The beginnings of a text that pass a test throughout, the longest first. -/
def runs (test : CodeUnit → Bool) :
    Option Nat → JsString → List (JsString × JsString)
  | some 0, text => [([], text)]
  | _, [] => [([], [])]
  | most, unit :: text =>
      if test unit then
        (runs test (most.map (· - 1)) text).map (fun run =>
          (unit :: run.1, run.2)) ++ [([], unit :: text)]
      else
        [([], unit :: text)]

def searches : RegExp → JsString → List RegExpMatch
  | .literal expected, text =>
      if expected.isPrefixOf text then
        [{ taken := expected
           rest := text.drop expected.length
           captures := [] }]
      else
        []
  | .repeated test least most, text =>
      ((runs test most text).filter (fun run => least ≤ run.1.length)).map
        (fun run =>
          { taken := run.1
            rest := run.2
            captures := [] })
  | .sequence first second, text =>
      (searches first text).flatMap (fun before =>
        (searches second before.rest).map (fun after =>
          { taken := before.taken ++ after.taken
            rest := after.rest
            captures := before.captures ++ after.captures }))
  | .either left right, text => searches left text ++ searches right text
  | .optional body, text =>
      searches body text ++
        [{ taken := []
           rest := text
           captures := [] }]
  | .group index body, text =>
      (searches body text).map (fun found =>
        { found with captures := (index, found.taken) :: found.captures })

/-- `exec` of a pattern between `^` and `$`. -/
def exec (pattern : RegExp) (text : JsString) : Option Captures :=
  ((searches pattern text).find? (fun found => found.rest.isEmpty)).map
    (·.captures)

/-- `test` of a pattern between `^` and `$`. -/
def test (pattern : RegExp) (text : JsString) : Bool :=
  (exec pattern text).isSome

end RegExp

/-- The text of a group; `none` stands for `undefined`. -/
def Captures.group (captures : Captures) (index : Nat) : Option JsString :=
  captures.lookup index

namespace RegExp

/-- A pattern matches a text, with the given captures. -/
inductive Matches : RegExp → JsString → Captures → Prop where
  | literal (text : JsString) : Matches (.literal text) text []
  | repeated {test : CodeUnit → Bool} {least : Nat} {most : Option Nat}
      {text : JsString} :
      text.all test = true →
      least ≤ text.length →
      most.all (fun most => text.length ≤ most) = true →
      Matches (.repeated test least most) text []
  | sequence {first second : RegExp} {before after : JsString}
      {left right : Captures} :
      Matches first before left →
      Matches second after right →
      Matches (.sequence first second) (before ++ after) (left ++ right)
  | left {left right : RegExp} {text : JsString} {captures : Captures} :
      Matches left text captures →
      Matches (.either left right) text captures
  | right {left right : RegExp} {text : JsString} {captures : Captures} :
      Matches right text captures →
      Matches (.either left right) text captures
  | present {body : RegExp} {text : JsString} {captures : Captures} :
      Matches body text captures →
      Matches (.optional body) text captures
  | absent {body : RegExp} : Matches (.optional body) [] []
  | group {index : Nat} {body : RegExp} {text : JsString}
      {captures : Captures} :
      Matches body text captures →
      Matches (.group index body) text ((index, text) :: captures)

section Searches

theorem mem_runs_iff {test : CodeUnit → Bool} {most : Option Nat}
    {text taken rest : JsString} :
    (taken, rest) ∈ runs test most text ↔
      text = taken ++ rest ∧ taken.all test = true ∧
        most.all (fun most => taken.length ≤ most) = true := by
  induction text generalizing most taken rest with
  | nil =>
      have empty : runs test most [] = [([], [])] := by
        cases most with
        | none => rfl
        | some most => cases most <;> rfl
      rw [empty, List.mem_singleton, Prod.mk.injEq]
      constructor
      · rintro ⟨rfl, rfl⟩
        simp
      · rintro ⟨split, _, _⟩
        have parts := List.append_eq_nil_iff.mp split.symm
        exact parts
  | cons unit text induction =>
      by_cases full : most = some 0
      · subst full
        rw [runs, List.mem_singleton, Prod.mk.injEq]
        constructor
        · rintro ⟨rfl, rfl⟩
          simp
        · rintro ⟨split, _, bounded⟩
          have none : taken = [] := by
            simpa using bounded
          subst none
          exact ⟨rfl, split.symm⟩
      · have next : runs test most (unit :: text) =
            if test unit then
              (runs test (most.map (· - 1)) text).map (fun run =>
                (unit :: run.1, run.2)) ++ [([], unit :: text)]
            else
              [([], unit :: text)] := by
          cases most with
          | none => rfl
          | some most =>
              cases most with
              | zero => exact (full rfl).elim
              | succ most => rfl
        rw [next]
        cases taken with
        | nil =>
            constructor
            · intro member
              refine ⟨?_, rfl, by simp⟩
              split at member
              · rcases List.mem_append.mp member with longer | none
                · simp at longer
                · simp at none
                  simp [none]
              · simp at member
                simp [member]
            · rintro ⟨split, _, _⟩
              simp at split
              subst split
              split <;> simp
        | cons first taken =>
            constructor
            · intro member
              split at member
              · rename_i passes
                rcases List.mem_append.mp member with longer | none
                · obtain ⟨run, earlier, same⟩ := List.mem_map.mp longer
                  cases same
                  obtain ⟨split, all, bounded⟩ := induction.mp earlier
                  refine ⟨by rw [split]; rfl, by simp [passes, all], ?_⟩
                  cases most with
                  | none => rfl
                  | some most =>
                      simp at bounded full ⊢
                      omega
                · simp at none
              · simp at member
            · rintro ⟨split, all, bounded⟩
              simp at split all
              obtain ⟨rfl, rfl⟩ := split
              rw [if_pos all.1]
              apply List.mem_append_left
              apply List.mem_map.mpr
              refine ⟨(taken, rest), induction.mpr ⟨rfl, ?_, ?_⟩, rfl⟩
              · simpa using all.2
              · cases most with
                | none => rfl
                | some most =>
                    simp at bounded full ⊢
                    omega

/-- The search finds the matches of the relation, and only these. -/
theorem mem_searches_iff {pattern : RegExp} {text : JsString}
    {found : RegExpMatch} :
    found ∈ searches pattern text ↔
      text = found.taken ++ found.rest ∧
        Matches pattern found.taken found.captures := by
  obtain ⟨taken, rest, captures⟩ := found
  induction pattern generalizing text taken rest captures with
  | literal expected =>
      rw [searches]
      constructor
      · intro member
        split at member
        · rename_i isPrefix
          obtain ⟨after, rfl⟩ := List.isPrefixOf_iff_prefix.mp isPrefix
          simp only [List.mem_singleton, RegExpMatch.mk.injEq] at member
          obtain ⟨rfl, rfl, rfl⟩ := member
          exact ⟨by simp, .literal taken⟩
        · cases member
      · rintro ⟨rfl, matched⟩
        cases matched
        simp
  | repeated test least most =>
      simp only [searches, List.mem_map, List.mem_filter, Prod.exists,
        mem_runs_iff, decide_eq_true_eq, RegExpMatch.mk.injEq]
      constructor
      · rintro ⟨_, _, ⟨⟨split, all, bounded⟩, enough⟩, rfl, rfl, rfl⟩
        exact ⟨split, .repeated all enough bounded⟩
      · rintro ⟨split, matched⟩
        cases matched with
        | repeated all enough bounded =>
            exact ⟨taken, rest, ⟨⟨split, all, bounded⟩, enough⟩, rfl, rfl, rfl⟩
  | sequence first second firstInduction secondInduction =>
      simp only [searches, List.mem_flatMap, List.mem_map]
      constructor
      · rintro ⟨⟨before, middle, left⟩, beforeFound,
          ⟨after, last, right⟩, afterFound, same⟩
        cases same
        obtain ⟨split, matchedFirst⟩ := (firstInduction _ _ _).mp beforeFound
        obtain ⟨rest, matchedSecond⟩ := (secondInduction _ _ _).mp afterFound
        simp only at split rest
        subst rest
        exact ⟨by simp [split], .sequence matchedFirst matchedSecond⟩
      · rintro ⟨split, matched⟩
        cases matched with
        | @sequence _ _ before after left right matchedFirst matchedSecond =>
            refine ⟨⟨before, after ++ rest, left⟩,
              (firstInduction _ _ _).mpr ⟨?_, matchedFirst⟩,
              ⟨after, rest, right⟩,
              (secondInduction _ _ _).mpr ⟨rfl, matchedSecond⟩, rfl⟩
            simpa using split
  | either left right leftInduction rightInduction =>
      simp only [searches, List.mem_append, leftInduction, rightInduction]
      constructor
      · rintro (⟨split, matched⟩ | ⟨split, matched⟩)
        · exact ⟨split, .left matched⟩
        · exact ⟨split, .right matched⟩
      · rintro ⟨split, matched⟩
        cases matched with
        | left matched => exact .inl ⟨split, matched⟩
        | right matched => exact .inr ⟨split, matched⟩
  | optional body induction =>
      simp only [searches, List.mem_append, List.mem_singleton, induction,
        RegExpMatch.mk.injEq]
      constructor
      · rintro (⟨split, matched⟩ | ⟨rfl, rfl, rfl⟩)
        · exact ⟨split, .present matched⟩
        · exact ⟨rfl, .absent⟩
      · rintro ⟨split, matched⟩
        cases matched with
        | present matched => exact .inl ⟨split, matched⟩
        | absent => exact .inr ⟨rfl, split.symm, rfl⟩
  | group index body induction =>
      simp only [searches, List.mem_map]
      constructor
      · rintro ⟨⟨_, _, inner⟩, member, same⟩
        cases same
        obtain ⟨split, matched⟩ := (induction _ _ _).mp member
        exact ⟨split, .group matched⟩
      · rintro ⟨split, matched⟩
        cases matched with
        | @group _ _ _ inner matched =>
            exact ⟨⟨taken, rest, inner⟩, (induction _ _ _).mpr
              ⟨split, matched⟩, rfl⟩

variable {pattern : RegExp} {text : JsString} {captures : Captures}

/-- What `exec` returns is a match of the whole text. -/
theorem matches_of_exec (found : exec pattern text = some captures) :
    Matches pattern text captures := by
  obtain ⟨first, searched, rfl⟩ := Option.map_eq_some_iff.mp found
  obtain ⟨split, matched⟩ :=
    mem_searches_iff.mp (List.mem_of_find?_eq_some searched)
  have atEnd : first.rest = [] := by
    simpa using List.find?_some searched
  rw [split, atEnd, List.append_nil]
  exact matched

theorem exec_eq_none_iff :
    exec pattern text = none ↔ ∀ captures, ¬Matches pattern text captures := by
  simp only [exec, Option.map_eq_none_iff, List.find?_eq_none]
  constructor
  · intro none captures matched
    refine none ⟨text, [], captures⟩ ?_ rfl
    exact mem_searches_iff.mpr ⟨(List.append_nil text).symm, matched⟩
  · intro none found member atEnd
    obtain ⟨split, matched⟩ := mem_searches_iff.mp member
    have rest : found.rest = [] := by
      simpa using atEnd
    rw [rest, List.append_nil] at split
    rw [← split] at matched
    exact none found.captures matched

theorem exec_eq_some_of_unique (matched : Matches pattern text captures)
    (unique : ∀ other, Matches pattern text other → other = captures) :
    exec pattern text = some captures := by
  cases found : exec pattern text with
  | none => exact (exec_eq_none_iff.mp found captures matched).elim
  | some other => rw [unique other (matches_of_exec found)]

theorem test_iff :
    test pattern text = true ↔ ∃ captures, Matches pattern text captures := by
  rw [test, Option.isSome_iff_exists]
  constructor
  · rintro ⟨captures, found⟩
    exact ⟨captures, matches_of_exec found⟩
  · rintro ⟨captures, matched⟩
    cases found : exec pattern text with
    | none => exact (exec_eq_none_iff.mp found captures matched).elim
    | some other => exact ⟨other, rfl⟩

end Searches

section Parts

variable {text : JsString} {captures : Captures}

@[simp] theorem matches_literal {expected : JsString} :
    Matches (.literal expected) text captures ↔
      text = expected ∧ captures = [] := by
  constructor
  · rintro ⟨⟩
    exact ⟨rfl, rfl⟩
  · rintro ⟨rfl, rfl⟩
    exact .literal text

@[simp] theorem matches_repeated {test : CodeUnit → Bool} {least : Nat}
    {most : Option Nat} :
    Matches (.repeated test least most) text captures ↔
      text.all test = true ∧ least ≤ text.length ∧
        most.all (fun most => text.length ≤ most) = true ∧ captures = [] := by
  constructor
  · rintro ⟨⟩
    exact ⟨‹_›, ‹_›, ‹_›, rfl⟩
  · rintro ⟨all, enough, bounded, rfl⟩
    exact .repeated all enough bounded

theorem matches_sequence {first second : RegExp} :
    Matches (.sequence first second) text captures ↔
      ∃ before after left right, Matches first before left ∧
        Matches second after right ∧ text = before ++ after ∧
          captures = left ++ right := by
  constructor
  · rintro ⟨⟩
    exact ⟨_, _, _, _, ‹_›, ‹_›, rfl, rfl⟩
  · rintro ⟨before, after, left, right, matchedFirst, matchedSecond, rfl, rfl⟩
    exact .sequence matchedFirst matchedSecond

theorem matches_either {left right : RegExp} :
    Matches (.either left right) text captures ↔
      Matches left text captures ∨ Matches right text captures := by
  constructor
  · intro matched
    cases matched with
    | left matched => exact .inl matched
    | right matched => exact .inr matched
  · rintro (matched | matched)
    · exact .left matched
    · exact .right matched

theorem matches_optional {body : RegExp} :
    Matches (.optional body) text captures ↔
      Matches body text captures ∨ text = [] ∧ captures = [] := by
  constructor
  · intro matched
    cases matched with
    | present matched => exact .inl matched
    | absent => exact .inr ⟨rfl, rfl⟩
  · rintro (matched | ⟨rfl, rfl⟩)
    · exact .present matched
    · exact .absent

theorem matches_group {index : Nat} {body : RegExp} :
    Matches (.group index body) text captures ↔
      ∃ inner, Matches body text inner ∧ captures = (index, text) :: inner := by
  constructor
  · rintro ⟨⟩
    exact ⟨_, ‹_›, rfl⟩
  · rintro ⟨inner, matched, rfl⟩
    exact .group matched

end Parts

section Units

/-- A pattern that admits only code units of a class. -/
def Within (units : CodeUnit → Bool) : RegExp → Prop
  | .literal text => text.all units = true
  | .repeated test _ _ => ∀ unit, test unit = true → units unit = true
  | .sequence first second => first.Within units ∧ second.Within units
  | .either left right => left.Within units ∧ right.Within units
  | .optional body => body.Within units
  | .group _ body => body.Within units

theorem Matches.all_units {units : CodeUnit → Bool} {pattern : RegExp}
    {text : JsString} {captures : Captures}
    (matched : Matches pattern text captures)
    (within : pattern.Within units) : text.all units = true := by
  induction matched with
  | literal text => exact within
  | repeated all _ _ =>
      rw [List.all_eq_true] at all ⊢
      intro unit member
      exact within unit (all unit member)
  | sequence _ _ first second =>
      rw [List.all_append, first within.1, second within.2]
      rfl
  | left _ left => exact left within.1
  | right _ right => exact right within.2
  | present _ body => exact body within
  | absent => rfl
  | group _ body => exact body within

theorem all_units_of_test {units : CodeUnit → Bool} {pattern : RegExp}
    {text : JsString} (within : pattern.Within units)
    (accepted : pattern.test text = true) : text.all units = true := by
  obtain ⟨captures, matched⟩ := test_iff.mp accepted
  exact matched.all_units within

end Units

end RegExp

end EcmaScript
