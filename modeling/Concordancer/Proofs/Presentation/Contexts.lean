import Concordancer.Concordance

/-!
# Contexts are rendered once

A concordance keeps the rendered contexts of the sentences that have had a line.
`Concordance.Faithful` is the invariant that makes this invisible: what is kept for an
identifier is what rendering the sentence under that identifier gives.  The empty
store is faithful, and a line leaves the store faithful (`faithful_line`), so every
line is the one that rendering its contexts afresh would give (`value_line`).
-/

namespace Concordancer.Concordance

/-- The line of a span when its contexts are rendered afresh. -/
def lineOf? (concordance : Concordance) (visible : VisibleSentence) (span : Span)
    (matched : String) : Option ConcordanceLine :=
  if matched.isEmpty || isAllPlaceholders matched concordance.separator then none
  else
    let tokens := (concordance.contextTokens visible).value
    let leftEnd := min span.leftEnd tokens.length
    let rightStart := min (max span.rightStart leftEnd) tokens.length
    let context := context visible span concordance.separator tokens
    some {
      source := concordance.source
      speaker := visible.sentence.speaker?.getD placeholder
      left := context 0 leftEnd
      matched
      right := context rightStart tokens.length }

/-- What this line is, if there is one. -/
def freshLine (concordance : Concordance) (visible : VisibleSentence) (span : Span)
    (matched : String) : ConcordanceLine :=
  let tokens := (concordance.contextTokens visible).value
  let leftEnd := min span.leftEnd tokens.length
  let rightStart := min (max span.rightStart leftEnd) tokens.length
  let context := context visible span concordance.separator tokens
  { source := concordance.source
    speaker := visible.sentence.speaker?.getD placeholder
    left := context 0 leftEnd
    matched
    right := context rightStart tokens.length }

theorem lineOf?_eq_freshLine (concordance : Concordance) (visible : VisibleSentence) (span : Span)
    (matched : String) :
    concordance.lineOf? visible span matched =
      if matched.isEmpty || isAllPlaceholders matched concordance.separator then none
      else some (concordance.freshLine visible span matched) := rfl

/-- The contexts that are kept are those of the sentences under whose identifiers they are
kept. -/
def Faithful (concordance : Concordance) : Prop :=
  ∀ id tokens, concordance.contexts[id]? = some tokens →
    ∃ visible, concordance.renderer.navigator.visible.sentence? id = some visible ∧
      tokens = (concordance.contextTokens visible).value

variable {concordance : Concordance} {visible : VisibleSentence}

theorem faithful_start (source : String) (renderer : Renderer) (plainContexts : Bool)
    (separator : String) : (start source renderer plainContexts separator).Faithful := by
  intro id tokens hkept
  simp [start] at hkept

private theorem value_line_eq (hfaithful : concordance.Faithful)
    (hfound : concordance.renderer.navigator.visible.sentence? visible.sentence.id =
      some visible) (span : Span) (matched : String) :
    (concordance.line visible span matched).value =
      match concordance.lineOf? visible span matched with
      | none => (none, concordance)
      | some line => (some line, { concordance with
          contexts := concordance.contexts.insert visible.sentence.id
            (concordance.contextTokens visible).value }) := by
  unfold line lineOf?
  by_cases hnothing : (matched.isEmpty || isAllPlaceholders matched concordance.separator) = true
  · rw [if_pos hnothing, if_pos hnothing]
    rfl
  · rw [if_neg hnothing, if_neg hnothing]
    -- whether contexts are kept or rendered, they are the same
    cases hkept : concordance.contexts[visible.sentence.id]? with
    | none =>
        simp only [hkept]
        rfl
    | some tokens =>
        obtain ⟨other, hother, rfl⟩ := hfaithful _ _ hkept
        obtain rfl := Option.some.inj (hfound.symm.trans hother)
        simp only [hkept]
        rfl

/-- A line is the one that rendering its contexts afresh gives. -/
theorem value_line (hfaithful : concordance.Faithful)
    (hfound : concordance.renderer.navigator.visible.sentence? visible.sentence.id =
      some visible) (span : Span) (matched : String) :
    (concordance.line visible span matched).value.1 = concordance.lineOf? visible span matched := by
  rw [value_line_eq hfaithful hfound]
  cases concordance.lineOf? visible span matched <;> rfl

/-- A line changes at most what is kept, and keeps it faithful. -/
theorem faithful_line (hfaithful : concordance.Faithful)
    (hfound : concordance.renderer.navigator.visible.sentence? visible.sentence.id =
      some visible) (span : Span) (matched : String) :
    ∃ contexts, (concordance.line visible span matched).value.2 = { concordance with contexts } ∧
      Faithful { concordance with contexts } := by
  rw [value_line_eq hfaithful hfound]
  cases concordance.lineOf? visible span matched with
  | none => exact ⟨concordance.contexts, rfl, hfaithful⟩
  | some line =>
      refine ⟨_, rfl, ?_⟩
      intro id tokens hkept
      rw [Std.TreeMap.getElem?_insert] at hkept
      split at hkept
      · next hid =>
          obtain rfl := Std.LawfulEqCmp.eq_of_compare hid
          exact ⟨visible, hfound, (Option.some.inj hkept).symm⟩
      · exact hfaithful id tokens hkept

end Concordancer.Concordance
