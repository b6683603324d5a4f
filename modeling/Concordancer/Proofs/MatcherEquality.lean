import Concordancer.Matcher
import Mathlib.Data.Finset.Dedup

/-!
# Equal matchers

Matchers are compared by how they are written: literals as a set with their treatment of case, an
expression by its pattern.  To be written alike is an equivalence (`equivalence_beq`).

Matchers that are written alike should accept the same values.  Literals do, and so does
the wildcard (`accepts_eq_of_writing_eq`).  But the pattern of an expression does not say
whether case was ignored when it was compiled.  So two expressions of one pattern are equal,
and need not accept the same values if case counts for one of them only
(`equal_matchers_differ_in_case`).  This is the only way in which equal matchers may differ
(`equal_matchers_accept_alike`).
-/

namespace Concordancer.Matcher

/-! ## What equality compares -/

/-- How a matcher is written. -/
inductive Writing
  | any
  | regex (pattern : String)
  | literals (values : Finset String) (caseSensitive : Bool)

def writing : Matcher → Writing
  | any => .any
  | regex pattern _ => .regex pattern
  | literals values caseSensitive => .literals values.toFinset caseSensitive

theorem writing_eq_regex_iff {matcher : Matcher} {pattern : String} :
    matcher.writing = .regex pattern ↔ ∃ expression, matcher = regex pattern expression := by
  constructor
  · intro hwriting
    cases matcher with
    | any => cases hwriting
    | regex other expression =>
        obtain rfl := Writing.regex.inj hwriting
        exact ⟨expression, rfl⟩
    | literals values caseSensitive => cases hwriting
  · rintro ⟨expression, rfl⟩
    rfl

private theorem all_contains_iff {values others : List String} :
    (values.all others.contains && others.all values.contains) = true ↔
      values.toFinset = others.toFinset := by
  simp only [Bool.and_eq_true, List.all_eq_true, List.contains_iff_mem, Finset.ext_iff,
    List.mem_toFinset]
  constructor
  · rintro ⟨hvalues, hothers⟩ value
    exact ⟨hvalues value, hothers value⟩
  · intro hsame
    exact ⟨fun value => (hsame value).mp, fun value => (hsame value).mpr⟩

/-- Matchers are equal if they are written alike. -/
theorem beq_iff_writing_eq {first second : Matcher} :
    (first == second) = true ↔ first.writing = second.writing := by
  show beq first second = true ↔ _
  cases first with
  | any => cases second <;> simp [beq, writing]
  | regex pattern expression => cases second <;> simp [beq, writing]
  | literals values caseSensitive =>
      cases second with
      | any => simp [beq, writing]
      | regex pattern expression => simp [beq, writing]
      | literals others othersCase =>
          rw [beq, Bool.and_eq_true, all_contains_iff, beq_iff_eq, writing, writing,
            Writing.literals.injEq]

theorem equivalence_beq : Equivalence fun first second : Matcher => (first == second) = true := by
  simp only [beq_iff_writing_eq]
  exact InvImage.equivalence Eq writing eq_equivalence

/-! ## What equal matchers accept -/

theorem accepts_literals_iff {values : List String} {caseSensitive : Bool} {value : String} :
    (literals values caseSensitive).accepts value = true ↔
      (if caseSensitive then value else Text.lowercase value) ∈ values.toFinset := by
  cases caseSensitive <;> simp [accepts]

/-- But for expressions, matchers that are written alike accept the same values. -/
theorem accepts_eq_of_writing_eq {first second : Matcher}
    (hwriting : first.writing = second.writing) (hplain : ∀ pattern, first.writing ≠ .regex pattern)
    (value : String) : first.accepts value = second.accepts value := by
  cases first with
  | any => cases second <;> simp_all [writing, accepts]
  | regex pattern expression => exact absurd rfl (hplain pattern)
  | literals values caseSensitive =>
      cases second with
      | any => cases hwriting
      | regex pattern expression => cases hwriting
      | literals others othersCase =>
          obtain ⟨hvalues, rfl⟩ := Writing.literals.inj hwriting
          rw [Bool.eq_iff_iff, accepts_literals_iff, accepts_literals_iff, hvalues]

/-! ## Compiled patterns -/

section

variable {descriptor : String} {pattern : Pattern} {caseSensitive : Bool} {dialect : Regex.Dialect}

theorem ofPattern_eq_regex_iff {text : String} {expression : Regex.Expression} :
    ofPattern descriptor pattern caseSensitive dialect = .ok (regex text expression) ↔
      pattern = .text text ∧ text ≠ wildcard ∧ dialect text (!caseSensitive) = some expression := by
  constructor
  · intro hcompile
    cases pattern with
    | integer value => cases hcompile
    | list items => cases hcompile
    | nested members => cases hcompile
    | text value =>
        rw [ofPattern] at hcompile
        by_cases hwildcard : value = wildcard
        · rw [if_pos hwildcard] at hcompile
          cases hcompile
        · rw [if_neg hwildcard] at hcompile
          cases hexpression : dialect value (!caseSensitive) with
          | none =>
              rw [hexpression] at hcompile
              cases hcompile
          | some compiled =>
              rw [hexpression] at hcompile
              cases hcompile
              exact ⟨rfl, hwildcard, hexpression⟩
  · rintro ⟨rfl, hwildcard, hexpression⟩
    rw [ofPattern, if_neg hwildcard, hexpression]

end

/-- **Equal matchers accept the same values, unless they differ in case.**  Equality of matchers
is an equivalence.  Matchers compiled from two patterns, each with or without regard to case, are
equal only if they accept the same values, or if both patterns are the same text and case counts
for one of them only.  Such a text, if it is not the wildcard, does give equal matchers;
one accepts what its expression matches, and the other what its expression matches when
case is ignored. -/
theorem equal_matchers_accept_alike (dialect : Regex.Dialect) :
    (Equivalence fun first second : Matcher => (first == second) = true) ∧
    (∀ descriptor pattern caseSensitive first,
      ofPattern descriptor pattern caseSensitive dialect = .ok first →
      ∀ otherDescriptor otherPattern otherCase second,
        ofPattern otherDescriptor otherPattern otherCase dialect = .ok second →
        (first == second) = true →
          (∀ value, first.accepts value = second.accepts value) ∨
            caseSensitive ≠ otherCase ∧
              ∃ text, text ≠ wildcard ∧ pattern = .text text ∧ otherPattern = .text text) ∧
    ∀ descriptor text exact folded, text ≠ wildcard →
      dialect text false = some exact → dialect text true = some folded →
        ∃ first second, ofPattern descriptor (.text text) true dialect = .ok first ∧
          ofPattern descriptor (.text text) false dialect = .ok second ∧
          (first == second) = true ∧
          ∀ value, first.accepts value = exact.matchesIn value ∧
            second.accepts value = folded.matchesIn value := by
  refine ⟨equivalence_beq, ?_, ?_⟩
  · intro descriptor pattern caseSensitive first hfirst otherDescriptor otherPattern otherCase
      second hsecond hequal
    have hwriting := beq_iff_writing_eq.mp hequal
    -- Only of expressions does equality compare less than what decides which values are accepted.
    by_cases hregex : ∃ text, first.writing = .regex text
    · obtain ⟨text, htext⟩ := hregex
      obtain ⟨expression, rfl⟩ := writing_eq_regex_iff.mp htext
      obtain ⟨other, rfl⟩ := writing_eq_regex_iff.mp (hwriting.symm.trans htext)
      obtain ⟨rfl, hwildcard, hexpression⟩ := ofPattern_eq_regex_iff.mp hfirst
      obtain ⟨rfl, -, hother⟩ := ofPattern_eq_regex_iff.mp hsecond
      by_cases hcase : caseSensitive = otherCase
      · -- The same text is compiled to the same expression.
        subst hcase
        obtain rfl := Option.some.inj (hexpression.symm.trans hother)
        exact .inl fun value => rfl
      · exact .inr ⟨hcase, text, hwildcard, rfl, rfl⟩
    · exact .inl (accepts_eq_of_writing_eq hwriting fun text htext => hregex ⟨text, htext⟩)
  · intro descriptor text exact folded hwildcard hexact hfolded
    refine ⟨regex text exact, regex text folded, ?_, ?_, ?_, fun value => ⟨rfl, rfl⟩⟩
    · exact ofPattern_eq_regex_iff.mpr ⟨rfl, hwildcard, hexact⟩
    · exact ofPattern_eq_regex_iff.mpr ⟨rfl, hwildcard, hfolded⟩
    · exact beq_iff_writing_eq.mpr rfl

/-- Lists that hold the same texts but for their case. -/
theorem equal_matchers_accept_alike_listed :
    ∃ first second,
      ofPattern "w" (.list [.text "Cat", .integer 2, .text "cat"]) false = .ok first ∧
      ofPattern "lw" (.list [.integer 2, .text "CAT"]) false = .ok second ∧
      (first == second) = true ∧ ∀ value, first.accepts value = second.accepts value := by
  have hequal : (literals (literalValues false [.text "Cat", .integer 2, .text "cat"]) false ==
      literals (literalValues false [.integer 2, .text "CAT"]) false) = true := by
    decide +kernel
  have hfirst : ofPattern "w" (.list [.text "Cat", .integer 2, .text "cat"]) false =
      .ok (literals (literalValues false [.text "Cat", .integer 2, .text "cat"]) false) := rfl
  have hsecond : ofPattern "lw" (.list [.integer 2, .text "CAT"]) false =
      .ok (literals (literalValues false [.integer 2, .text "CAT"]) false) := rfl
  obtain ⟨-, halike, -⟩ := equal_matchers_accept_alike Regex.compile?
  refine ⟨_, _, hfirst, hsecond, hequal, ?_⟩
  rcases halike _ _ _ _ hfirst _ _ _ _ hsecond hequal with haccepts | ⟨hcase, -⟩
  · exact haccepts
  · exact absurd rfl hcase

/-- The pattern `cat` gives equal matchers, of which only one accepts *Cat*. -/
theorem equal_matchers_differ_in_case :
    ∃ first second, ofPattern "w" (.text "cat") true = .ok first ∧
      ofPattern "w" (.text "cat") false = .ok second ∧ (first == second) = true ∧
      first.accepts "Cat" = false ∧ second.accepts "Cat" = true := by
  have hexact : (Regex.compile? "cat" false).map (·.matchesIn "Cat") = some false := by
    decide +kernel
  have hfolded : (Regex.compile? "cat" true).map (·.matchesIn "Cat") = some true := by
    decide +kernel
  obtain ⟨exact, hexpression, hrejects⟩ := Option.map_eq_some_iff.mp hexact
  obtain ⟨folded, hignoring, haccepts⟩ := Option.map_eq_some_iff.mp hfolded
  refine ⟨regex "cat" exact, regex "cat" folded, ?_, ?_, rfl, hrejects, haccepts⟩
  · exact ofPattern_eq_regex_iff.mpr ⟨rfl, by decide, hexpression⟩
  · exact ofPattern_eq_regex_iff.mpr ⟨rfl, by decide, hignoring⟩

end Concordancer.Matcher
