import Concordancer.Proofs.Presentation.Outputs
import Concordancer.Proofs.Presentation.Placement

/-!
# What stands around a match

A concordance line shows a span and its contexts.  In a well-numbered treebank no line loses
a token or repeats one: each position of the sentence is shown in the match or stands in
one of the contexts, and these list their positions in sentence order.  `LineOf` says so of
one line, and `answers_excerpts` of all lines that a run puts out.

Contexts are texts joined by a separator, and texts that are joined apart and then with each
other are joined at once (`joined_append`).  A line of a match that is shown as it is
therefore reads as its sentence does.
-/

namespace Concordancer

/-! ## Joining texts -/

/-- The texts that are not empty, with a separator between them. -/
def joined (separator : String) (texts : List String) : String :=
  separator.intercalate (texts.filter (!·.isEmpty))

section Joining

variable {separator : String}

theorem joined_eq_empty_iff {texts : List String} :
    joined separator texts = "" ↔ texts.filter (!·.isEmpty) = [] := by
  constructor
  · intro hjoined
    cases htexts : texts.filter (!·.isEmpty) with
    | nil => rfl
    | cons first rest =>
        have hmem : first ∈ texts.filter (!·.isEmpty) := htexts ▸ List.mem_cons_self
        have hfirst : first ≠ "" := by simpa using (List.mem_filter.mp hmem).2
        rw [joined, htexts] at hjoined
        cases rest with
        | nil => exact absurd (String.intercalate_singleton.symm.trans hjoined) hfirst
        | cons second further =>
            rw [String.intercalate_cons_cons, String.append_eq_empty_iff,
              String.append_eq_empty_iff] at hjoined
            exact absurd hjoined.1.1 hfirst
  · intro htexts
    rw [joined, htexts, String.intercalate_nil]

theorem joined_singleton (text : String) : joined separator [text] = text := by
  rw [joined, List.filter_singleton]
  cases hempty : text.isEmpty with
  | true => exact (String.isEmpty_iff.mp hempty).symm
  | false => exact String.intercalate_singleton

private theorem joined_empty_left (text : String) : joined separator ["", text] = text :=
  joined_singleton text

private theorem joined_empty_right (text : String) : joined separator [text, ""] = text := by
  have hdrop : [text, ""].filter (!·.isEmpty) = [text].filter (!·.isEmpty) := by
    simp [List.filter_cons]
  rw [joined, hdrop]
  exact joined_singleton text

private theorem joined_pair {first second : String} (hfirst : first ≠ "") (hsecond : second ≠ "") :
    joined separator [first, second] = first ++ separator ++ second := by
  have hkeeps : [first, second].filter (!·.isEmpty) = [first, second] := by
    simp [hfirst, hsecond]
  rw [joined, hkeeps, String.intercalate_cons_cons, String.intercalate_singleton]

/-- Texts that are joined apart and then with each other are joined at once. -/
theorem joined_append (early late : List String) :
    joined separator (early ++ late) =
      joined separator [joined separator early, joined separator late] := by
  by_cases hearly : early.filter (!·.isEmpty) = []
  · rw [joined_eq_empty_iff.mpr hearly, joined_empty_left, joined, List.filter_append, hearly,
      List.nil_append, joined]
  · by_cases hlate : late.filter (!·.isEmpty) = []
    · rw [joined_eq_empty_iff.mpr hlate, joined_empty_right, joined, List.filter_append, hlate,
        List.append_nil, joined]
    · rw [joined_pair (mt joined_eq_empty_iff.mp hearly) (mt joined_eq_empty_iff.mp hlate),
        joined, joined, joined, List.filter_append,
        String.intercalate_append_of_ne_nil hearly hlate]

theorem joined_cons (first : String) (rest : List String) :
    joined separator (first :: rest) = joined separator [first, joined separator rest] := by
  have happend : joined separator ([first] ++ rest) =
      joined separator [joined separator [first], joined separator rest] := joined_append _ _
  rwa [joined_singleton] at happend

end Joining

/-! ## Contexts -/

namespace CompiledQuery

variable (query : CompiledQuery) (search : Search)

/-- A token in all columns of the query. -/
def rendered (ref : TokenRef) : String := ((query.renderer search).token ref).value

/-- What contexts show of a token: its word as it stands in the corpus, or what would be shown of
a match. -/
def contextOf (ref : TokenRef) : String :=
  if query.hasPlainContexts then
    ((search.navigator.visible.corpus.token? ref).map Token.word).getD ""
  else query.rendered search ref

/-- What contexts show at a position of a sentence. -/
def contextAt (visible : VisibleSentence) (position : Nat) : String :=
  ((visible.at? position).map (query.contextOf search)).getD ""

variable {query search} {visible : VisibleSentence} {anchor : TokenRef} {span : Span}

theorem value_contextTokens (source separator : String) :
    ((Concordance.start source (query.renderer search) query.hasPlainContexts
      separator).contextTokens visible).value = visible.refs.map (query.contextOf search) := by
  unfold Concordance.contextTokens contextOf
  cases hplain : query.hasPlainContexts with
  | false => exact Told.value_traverse _ _
  | true =>
      refine (Told.value_traverse _ _).trans (List.map_congr_left fun ref _ => ?_)
      show (((query.renderer search).navigator.read ref .word).value).getD "" = _
      simp only [renderer, Navigator.read, if_true, Corpus.token?]
      cases search.navigator.visible.corpus.sentence? ref.sentence with
      | none => rfl
      | some sentence =>
          cases htoken : sentence.token? ref.index with
          | none => simp [htoken]
          | some token => simp [htoken]

theorem map_contextOf_refs :
    visible.refs.map (query.contextOf search) =
      (List.range visible.size).map (query.contextAt search visible) := by
  refine List.ext_getElem? fun position => ?_
  rw [List.getElem?_map, List.getElem?_map, VisibleSentence.getElem?_refs]
  rcases Nat.lt_or_ge position visible.size with hlt | hge
  · obtain ⟨ref, hat⟩ := VisibleSentence.exists_at?_iff.mpr hlt
    rw [List.getElem?_range hlt, hat, Option.map_some, Option.map_some, contextAt, hat]
    rfl
  · have hnone : visible.at? position = none := by
      refine Option.eq_none_iff_forall_ne_some.mpr fun ref hat => ?_
      exact Nat.not_lt.mpr hge (VisibleSentence.lt_size_of_at? hat)
    rw [hnone, List.getElem?_eq_none (by rwa [List.length_range])]
    rfl

/-- The context between two positions joins what it shows where the span shows nothing. -/
theorem context_eq (hplaced : span.Placed visible anchor) (separator : String) {first last : Nat}
    (hlast : last ≤ visible.size) :
    Concordance.context visible span separator
        ((List.range visible.size).map (query.contextAt search visible)) first last =
      joined separator ((span.hiddenBetween visible first last).map
        (query.contextAt search visible)) := by
  have hshown : ∀ position, (visible.at? position).any span.tokens.contains = true ↔
      position ∈ span.positions visible := by
    intro position
    rw [hplaced.mem_positions_iff, Option.any_eq_true]
    refine exists_congr fun ref => ?_
    rw [List.contains_iff_mem, and_comm]
  have hcontext : ∀ position ∈ List.range' first (last - first),
      (if (visible.at? position).any span.tokens.contains then none
        else ((List.range visible.size).map (query.contextAt search visible))[position]?) =
      if (decide (position ∉ span.positions visible)) = true then
        some (query.contextAt search visible position) else none := by
    intro position hposition
    have hlt : position < visible.size := by
      rw [List.mem_range'_1] at hposition
      omega
    rw [List.getElem?_map, List.getElem?_range hlt, Option.map_some]
    by_cases hmem : position ∈ span.positions visible
    · rw [if_pos ((hshown position).mpr hmem), if_neg (by simpa using hmem)]
    · rw [if_neg (mt (hshown position).mp hmem), if_pos (by simpa using hmem)]
  refine congrArg (joined separator) ?_
  rw [List.filterMap_congr hcontext, Span.hiddenBetween, ← List.filterMap_eq_map,
    List.filterMap_filter]
  rfl

/-! ## Excerpts -/

/-- A match in a visible sentence, and one of its spans. -/
structure Excerpt where
  visible : VisibleSentence
  anchor : TokenRef
  span : Span

variable (query search)

/-- The spans of a match in its sentence. -/
def excerptsOf (ref : TokenRef) : List Excerpt :=
  match search.navigator.visible.sentence? ref.sentence with
  | none => []
  | some visible => (query.repetition.spans visible ref).map (⟨visible, ref, ·⟩)

/-- The spans that get a line, if a query makes lines: those with a text to show. -/
def excerptsWithLine (found : TokenSet) : List Excerpt :=
  if query.layout.count || !query.options.concordance.isEnabled then []
  else (found.toList.flatMap (query.excerptsOf search)).filter fun excerpt =>
    query.showsText (query.textOf search excerpt.span)

/-- A line shows the match and what stands around it, so that every token is there once. -/
structure LineOf (excerpt : Excerpt) (line : ConcordanceLine) : Prop where
  matched_eq : line.matched = query.textOf search excerpt.span
  contexts_eq : ∃ left right, excerpt.visible.Surrounds excerpt.anchor excerpt.span left right ∧
    line.left = joined query.separator (left.map (query.contextAt search excerpt.visible)) ∧
    line.right = joined query.separator (right.map (query.contextAt search excerpt.visible))
  /-- If contexts show what is shown of a match, the line reads as the sentence does. -/
  reads_eq : query.layout.expansion = none → query.options.onlyFormatMatch = false →
    excerpt.anchor.isRoot = false →
      joined " " [line.left, line.matched, line.right] =
        joined " " (excerpt.visible.refs.map (query.rendered search))

/-- The line of a span, with contexts of what lies outside of its bounds and is not shown. -/
def lineFor (excerpt : Excerpt) : ConcordanceLine where
  source := search.navigator.visible.corpus.source
  speaker := excerpt.visible.sentence.speaker?.getD placeholder
  left := joined query.separator
    ((excerpt.span.hiddenBetween excerpt.visible 0 excerpt.span.leftEnd).map
      (query.contextAt search excerpt.visible))
  matched := query.textOf search excerpt.span
  right := joined query.separator
    ((excerpt.span.hiddenBetween excerpt.visible excerpt.span.rightStart
      excerpt.visible.size).map (query.contextAt search excerpt.visible))

variable {query search}

theorem freshLine_eq (hplaced : span.Placed visible anchor) :
    (Concordance.start search.navigator.visible.corpus.source (query.renderer search)
      query.hasPlainContexts query.separator).freshLine visible span (query.textOf search span) =
        query.lineFor search ⟨visible, anchor, span⟩ := by
  have hleft : min span.leftEnd visible.size = span.leftEnd :=
    Nat.min_eq_left (hplaced.leftEnd_le.trans hplaced.rightStart_le)
  have hright : min (max span.rightStart span.leftEnd) visible.size = span.rightStart := by
    rw [Nat.max_eq_left hplaced.leftEnd_le, Nat.min_eq_left hplaced.rightStart_le]
  rw [Concordance.freshLine, value_contextTokens, map_contextOf_refs, lineFor]
  simp only [List.length_map, List.length_range, hleft, hright]
  congr 1
  · exact context_eq hplaced _ (hplaced.leftEnd_le.trans hplaced.rightStart_le)
  · exact context_eq hplaced _ le_rfl

theorem textOf_eq_joined (span : Span) :
    query.textOf search span =
      joined query.separator (span.tokens.map (query.rendered search)) := by
  unfold textOf rendered
  simp only [Renderer.span, Told.value_bind, Told.value_pure, Told.value_traverse, joined]

theorem textsOf_eq_map (ref : TokenRef) :
    query.textsOf search ref =
      (query.excerptsOf search ref).map fun excerpt => query.textOf search excerpt.span := by
  unfold textsOf excerptsOf
  cases search.navigator.visible.sentence? ref.sentence with
  | none => rfl
  | some visible =>
      rw [List.map_map]
      rfl

/-- What is visible and not repeated has one span, which shows it. -/
theorem excerptsOf_eq_singleton (hexpansion : query.layout.expansion = none) {ref : TokenRef}
    (hshows : search.navigator.visible.shows ref = true) :
    ∃ excerpt, query.excerptsOf search ref = [excerpt] ∧ excerpt.span.tokens = [ref] := by
  obtain ⟨visible, hfound, hshows⟩ := Navigator.shows_iff.mp hshows
  obtain ⟨span, hspans, htokens⟩ := query.repetition.spans_eq_singleton hexpansion hshows
  refine ⟨⟨visible, ref, span⟩, ?_, htokens⟩
  unfold excerptsOf
  rw [hfound]
  show (query.repetition.spans visible ref).map _ = _
  rw [hspans, List.map_singleton]

theorem textsOf_eq_singleton (hexpansion : query.layout.expansion = none) {ref : TokenRef}
    (hshows : search.navigator.visible.shows ref = true) :
    query.textsOf search ref = [query.rendered search ref] := by
  obtain ⟨excerpt, hexcerpts, htokens⟩ := excerptsOf_eq_singleton hexpansion hshows
  rw [textsOf_eq_map, hexcerpts, List.map_singleton, textOf_eq_joined, htokens,
    List.map_singleton, joined_singleton]

/-- Where a match is shown by itself and contexts show tokens as they show a match, match and
contexts read as the sentence does. -/
theorem joined_of_surrounds {left right : List Nat}
    (hsurrounds : visible.Surrounds anchor span left right) (htokens : span.tokens = [anchor])
    (hexpansion : query.layout.expansion = none) (hformat : query.options.onlyFormatMatch = false)
    (hroot : anchor.isRoot = false) :
    joined " " [joined query.separator (left.map (query.contextAt search visible)),
        query.textOf search span,
        joined query.separator (right.map (query.contextAt search visible))] =
      joined " " (visible.refs.map (query.rendered search)) := by
  have hseparator : query.separator = " " := by
    rw [separator, hexpansion]
    rfl
  have hplain : query.hasPlainContexts = false := by
    rw [hasPlainContexts, hformat, hexpansion]
    rfl
  have hcontext : query.contextOf search = query.rendered search := by
    funext ref
    rw [contextOf, hplain]
    rfl
  obtain ⟨place, hanchor, horder⟩ := hsurrounds.append_eq_range htokens hroot
  have hmatched : query.textOf search span =
      joined " " ([place].map (query.contextAt search visible)) := by
    rw [textOf_eq_joined, htokens, hseparator, List.map_singleton, List.map_singleton, contextAt,
      hanchor, hcontext]
    rfl
  -- All three parts are joined with the same separator, so they may be joined as one list; and
  -- this lists the positions of the sentence in order.
  calc
    _ = joined " " ((left ++ ([place] ++ right)).map (query.contextAt search visible)) := by
        rw [hseparator, hmatched, List.map_append, List.map_append, joined_append, joined_append,
          joined_cons _ [_, _]]
    _ = joined " " (visible.refs.map (query.contextOf search)) := by
        rw [horder, map_contextOf_refs]
    _ = joined " " (visible.refs.map (query.rendered search)) := by
        rw [hcontext]

/-! ## The lines of a run -/

theorem mem_excerptsOf {ref : TokenRef} {excerpt : Excerpt} :
    excerpt ∈ query.excerptsOf search ref ↔
      search.navigator.visible.sentence? ref.sentence = some excerpt.visible ∧
        excerpt.anchor = ref ∧ excerpt.span ∈ query.repetition.spans excerpt.visible ref := by
  unfold excerptsOf
  cases search.navigator.visible.sentence? ref.sentence with
  | none => exact iff_of_false List.not_mem_nil nofun
  | some visible =>
      rw [List.mem_map]
      constructor
      · rintro ⟨span, hspan, rfl⟩
        exact ⟨rfl, rfl, hspan⟩
      · rintro ⟨hvisible, rfl, hspan⟩
        obtain rfl := Option.some.inj hvisible
        exact ⟨excerpt.span, hspan, rfl⟩

variable {treebank : Treebank} {lexicon : Lexicon}

/-- The spans of a match are placed in its sentence, but for grams whose end does not fit. -/
theorem placed_of_mem_excerptsOf (hnumbered : treebank.WellNumbered) {ref : TokenRef}
    {excerpt : Excerpt}
    (hmem : excerpt ∈ query.excerptsOf (query.search lexicon treebank.corpus) ref) :
    (excerpt.span.tokens = [] ∧ sizeLimit ≤ excerpt.span.leftEnd + query.options.gramSize) ∨
      excerpt.span.Placed excerpt.visible excerpt.anchor := by
  obtain ⟨hfound, rfl, hspan⟩ := mem_excerptsOf.mp hmem
  obtain ⟨parse, hparse, hid, hvisible⟩ :=
    (Treebank.sentence?_visible query.filter lexicon hnumbered).mp hfound
  rw [← hvisible] at hspan ⊢
  exact Repetition.placed_of_mem_spans (hnumbered.parses parse hparse) hid.symm hspan

theorem placed_of_showsText (hnumbered : treebank.WellNumbered) {ref : TokenRef}
    {excerpt : Excerpt}
    (hmem : excerpt ∈ query.excerptsOf (query.search lexicon treebank.corpus) ref)
    (htext : query.showsText (query.textOf (query.search lexicon treebank.corpus) excerpt.span)
      = true) :
    excerpt.span.Placed excerpt.visible excerpt.anchor := by
  rcases placed_of_mem_excerptsOf hnumbered hmem with ⟨htokens, -⟩ | hplaced
  · rw [textOf_eq_joined, htokens] at htext
    cases htext
  · exact hplaced

theorem lineOf_lineFor (hnumbered : treebank.WellNumbered) {ref : TokenRef} {excerpt : Excerpt}
    (hmem : excerpt ∈ query.excerptsOf (query.search lexicon treebank.corpus) ref)
    (htext : query.showsText (query.textOf (query.search lexicon treebank.corpus) excerpt.span)
      = true) :
    query.LineOf (query.search lexicon treebank.corpus) excerpt
      (query.lineFor (query.search lexicon treebank.corpus) excerpt) := by
  have hplaced := placed_of_showsText hnumbered hmem htext
  refine ⟨rfl, ⟨_, _, hplaced.surrounds, rfl, rfl⟩, fun hexpansion hformat hroot => ?_⟩
  obtain ⟨-, rfl, hspan⟩ := mem_excerptsOf.mp hmem
  have htokens : excerpt.span.tokens = [excerpt.anchor] :=
    Repetition.tokens_of_mem_spans hexpansion hspan
  exact joined_of_surrounds hplaced.surrounds htokens hexpansion hformat hroot

/-- The lines of a match are those of its spans that have something to show. -/
theorem linesOf_eq_map (hnumbered : treebank.WellNumbered)
    (henabled : query.options.concordance.isEnabled = true) (ref : TokenRef) :
    let search := query.search lexicon treebank.corpus
    query.linesOf search ref =
      ((query.excerptsOf search ref).filter fun excerpt =>
        query.showsText (query.textOf search excerpt.span)).map (query.lineFor search) := by
  intro search
  have hplaced : ∀ excerpt ∈ query.excerptsOf search ref,
      query.showsText (query.textOf search excerpt.span) = true →
        excerpt.span.Placed excerpt.visible excerpt.anchor :=
    fun excerpt hmem => placed_of_showsText hnumbered hmem
  unfold linesOf
  unfold excerptsOf at hplaced ⊢
  cases hfound : search.navigator.visible.sentence? ref.sentence with
  | none => rfl
  | some visible =>
      rw [hfound] at hplaced
      have hsingle : (query.repetition.spans visible ref).map (Excerpt.mk visible ref) =
          (query.repetition.spans visible ref).flatMap fun span => [⟨visible, ref, span⟩] :=
        List.map_eq_flatMap
      show (query.repetition.spans visible ref).flatMap (query.linesOfSpan search visible) =
        (((query.repetition.spans visible ref).map (Excerpt.mk visible ref)).filter _).map _
      rw [hsingle, List.filter_flatMap, List.map_flatMap]
      refine List.flatMap_congr fun span hspan => ?_
      rw [linesOfSpan_eq henabled, List.filter_singleton]
      -- Only of spans with a text is it known where they lie, and only these have a line.
      cases htext : query.showsText (query.textOf search span) with
      | true =>
          have hmem : Excerpt.mk visible ref span ∈
              (query.repetition.spans visible ref).map (Excerpt.mk visible ref) :=
            List.mem_map.mpr ⟨span, hspan, rfl⟩
          rw [if_pos rfl, freshLine_eq (hplaced _ hmem htext)]
          rfl
      | false => rfl

/-- The lines of a run are those of all spans that get one. -/
theorem concordance_answer (hnumbered : treebank.WellNumbered) (found : TokenSet) :
    let search := query.search lexicon treebank.corpus
    (query.answer search found.toList).concordance =
      (query.excerptsWithLine search found).map (query.lineFor search) := by
  intro search
  unfold answer excerptsWithLine
  cases hcount : query.layout.count with
  | true => rfl
  | false =>
      cases henabled : query.options.concordance.isEnabled with
      | false => exact List.flatMap_eq_nil_iff.mpr fun ref _ => linesOf_eq_nil henabled ref
      | true =>
          show found.toList.flatMap (query.linesOf search) =
            ((found.toList.flatMap (query.excerptsOf search)).filter _).map _
          rw [List.filter_flatMap, List.map_flatMap]
          exact List.flatMap_congr fun ref _ => linesOf_eq_map hnumbered henabled ref

/-- **A line loses no token and repeats none.**  In a well-numbered treebank, every span of a match
and the two contexts of this span divide the positions of the sentence.  The lines that a run
puts out are those of the spans with something to show, one after the other, and each shows
what it should.

Only a gram whose end does not fit in 64 bits has no contexts.  It shows nothing and gets no
line. -/
theorem answers_excerpts (query : CompiledQuery) (lexicon : Lexicon) {treebank : Treebank}
    (hnumbered : treebank.WellNumbered) :
    let search := query.search lexicon treebank.corpus
    ∃ found output, query.Answers lexicon treebank.corpus found output ∧
      (∀ ref ∈ found, ∀ excerpt ∈ query.excerptsOf search ref,
        (∃ left right, excerpt.visible.Surrounds excerpt.anchor excerpt.span left right) ∨
          excerpt.span.tokens = [] ∧
            sizeLimit ≤ excerpt.span.leftEnd + query.options.gramSize) ∧
      List.Forall₂ (query.LineOf search) (query.excerptsWithLine search found)
        output.concordance := by
  intro search
  refine ⟨query.matched search, query.answer search (query.matched search).toList,
    answers_matched (VisibleCorpus.knowsIds_ofSentences _ _ _ _), ?_, ?_⟩
  · intro ref _ excerpt hmem
    rcases placed_of_mem_excerptsOf hnumbered hmem with hnothing | hplaced
    · exact .inr hnothing
    · exact .inl ⟨_, _, hplaced.surrounds⟩
  · rw [concordance_answer hnumbered, List.forall₂_map_right_iff, List.forall₂_same]
    intro excerpt hmem
    unfold excerptsWithLine at hmem
    split at hmem
    · contradiction
    · obtain ⟨hmem, htext⟩ := List.mem_filter.mp hmem
      obtain ⟨ref, -, href⟩ := List.mem_flatMap.mp hmem
      exact lineOf_lineFor hnumbered href htext

theorem answers_excerpts_sample :
    Treebank.sample.WellNumbered ∧
      let search := (sample false).search .penn Treebank.sample.corpus
      ∃ found output, (sample false).Answers .penn Treebank.sample.corpus found output ∧
        (∀ ref ∈ found, ∀ excerpt ∈ (sample false).excerptsOf search ref,
          (∃ left right, excerpt.visible.Surrounds excerpt.anchor excerpt.span left right) ∨
            excerpt.span.tokens = [] ∧
              sizeLimit ≤ excerpt.span.leftEnd + (sample false).options.gramSize) ∧
        List.Forall₂ ((sample false).LineOf search) ((sample false).excerptsWithLine search found)
          output.concordance :=
  ⟨by decide, answers_excerpts (sample false) .penn (by decide)⟩

end CompiledQuery

end Concordancer
