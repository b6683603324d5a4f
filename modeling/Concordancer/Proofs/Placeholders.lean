import Concordancer.Proofs.Corpus.Roots
import Concordancer.Proofs.Presentation.Fragments

/-!
# Which texts are dropped

Texts that show nothing are left out of the results.  Showing nothing is meant of what a text
is made from: nothing at all, or placeholders only.  It is decided by looking at the text,
though, and there a value that reads as a placeholder looks like one.

`Keeps` says from the fragments of a span which texts are kept, and `answers_keeps` that these are
the results of a run.  A text is dropped if it is empty or each of its fragments can be
taken for a placeholder.  Where no value reads as one, that is, each is one; and if words are shown,
every match other than a root has its word in the results.

Values that read as placeholders do occur, and matches are lost by them (`answers_loses_none`).
-/

namespace Concordancer

/-! ## Words -/

theorem Treebank.exists_token? {treebank : Treebank} {filter : WordFilter} {lexicon : Lexicon}
    {ref : TokenRef} (hshows : (treebank.visible filter lexicon).shows ref = true)
    (hroot : ref.isRoot = false) :
    ∃ token ∈ treebank.rows, treebank.corpus.token? ref = some token := by
  obtain ⟨visible, hfound, hshows⟩ := Navigator.shows_iff.mp hshows
  have hpositive : 0 < ref.index := TokenRef.isRoot_eq_false_iff.mp hroot
  obtain ⟨token, htoken⟩ := Option.isSome_iff_exists.mp
    (isSome_token? hfound hpositive hshows)
  rw [sentence?_visible_eq_parse?] at hfound
  obtain ⟨parse, hparse, rfl⟩ := Option.map_eq_some_iff.mp hfound
  have hcorpus : treebank.corpus.token? ref = some token := by
    rw [Corpus.token?, sentence?_eq_parse?, hparse]
    exact htoken
  exact ⟨token, (mem_rows_of_token? hcorpus).1, hcorpus⟩

namespace Renderer

/-- In a single column of words, a token has its word as its only fragment. -/
theorem fragments_word {navigator : Navigator} {ref : TokenRef} (hroot : ref.isRoot = false)
    {token : Token} (htoken : navigator.visible.corpus.token? ref = some token) :
    (Renderer.mk navigator [.word]).fragments ref = [.value token.word] := by
  have hread : (navigator.read ref .word).value = some token.word := by
    obtain ⟨sentence, hsentence, htoken⟩ := Option.bind_eq_some_iff.mp htoken
    unfold Navigator.read
    rw [hsentence]
    simp only [htoken, Told.value_pure]
  have hfragment : (Renderer.mk navigator [.word]).fragment? .word ref =
      some (.value token.word) := by
    unfold fragment?
    rw [hroot, if_neg Bool.false_ne_true]
    exact congrArg (Option.map Fragment.value) hread
  show ([ref].filterMap ((Renderer.mk navigator [.word]).fragment? .word)) ++ [] = _
  rw [List.append_nil, List.filterMap_cons_some hfragment, List.filterMap_nil]

theorem fragments_word_root {navigator : Navigator} {ref : TokenRef} (hroot : ref.isRoot = true) :
    (Renderer.mk navigator [.word]).fragments ref = [] := by
  have hfragment : (Renderer.mk navigator [.word]).fragment? .word ref = none := by
    unfold fragment?
    rw [hroot]
    rfl
  show ([ref].filterMap ((Renderer.mk navigator [.word]).fragment? .word)) ++ [] = _
  rw [List.append_nil, List.filterMap_cons_none hfragment, List.filterMap_nil]

end Renderer

namespace CompiledQuery

variable (query : CompiledQuery) (search : Search)

/-! ## What is kept -/

/-- The fragments of a span, of those tokens that are rendered as something. -/
def fragmentsOf (span : Span) : List Fragment :=
  (span.tokens.filter fun ref => query.rendered search ref ≠ "").flatMap
    (query.renderer search).fragments

/-- A span is kept if there is a text to show with a fragment that cannot be taken for
placeholders. -/
def Keeps (span : Span) : Prop :=
  query.textOf search span ≠ "" ∧
    ∃ fragment ∈ query.fragmentsOf search span,
      ¬ fragment.PassesFor (separatorChar query.layout.expansion)

instance : DecidablePred (query.Keeps search) := fun span =>
  inferInstanceAs (Decidable (query.textOf search span ≠ "" ∧
    ∃ fragment ∈ query.fragmentsOf search span,
      ¬ fragment.PassesFor (separatorChar query.layout.expansion)))

/-- The texts of the spans of these matches that are kept. -/
def keptTexts (refs : List TokenRef) : List String :=
  ((refs.flatMap (query.excerptsOf search)).filter fun excerpt =>
    query.Keeps search excerpt.span).map fun excerpt => query.textOf search excerpt.span

/-- A span shows its fragments, and is dropped only for what they are. -/
structure ShowsFragments (span : Span) : Prop where
  /-- The text is that of the fragments of all tokens. -/
  text_eq : query.textOf search span = joined query.separator (span.tokens.map fun ref =>
    Fragment.joinedText ((query.renderer search).fragments ref))
  /-- What is dropped is empty, or each of its fragments can be taken for placeholders. -/
  dropped_iff : ¬ query.Keeps search span ↔ query.textOf search span = "" ∨
    ∀ fragment ∈ query.fragmentsOf search span,
      fragment.PassesFor (separatorChar query.layout.expansion)
  /-- Where no value reads as a placeholder, it is empty or has placeholders only. -/
  placeholders_of_dropped : ¬ query.Keeps search span →
    (∀ value, .value value ∈ query.fragmentsOf search span →
      ¬ ReadsAsPlaceholder (separatorChar query.layout.expansion) value) →
    query.textOf search span = "" ∨
      ∀ fragment ∈ query.fragmentsOf search span, fragment = .placeholder
  /-- A value that does not read as a placeholder keeps the span, if there is something in it. -/
  keeps_of_value : ∀ ref ∈ span.tokens, ∀ value,
    .value value ∈ (query.renderer search).fragments ref → value ≠ "" →
      ¬ ReadsAsPlaceholder (separatorChar query.layout.expansion) value → query.Keeps search span

variable {query search}

theorem rendered_eq_joinedText (ref : TokenRef) :
    query.rendered search ref = Fragment.joinedText ((query.renderer search).fragments ref) :=
  Renderer.value_token ref

/-- A span shows the fragments of its tokens. -/
theorem textOf_eq_fragments (span : Span) :
    query.textOf search span = joined query.separator
      (span.tokens.map fun ref => Fragment.joinedText ((query.renderer search).fragments ref)) := by
  rw [textOf_eq_joined]
  exact congrArg (joined query.separator)
    (List.map_congr_left fun ref _ => rendered_eq_joinedText ref)

theorem mem_fragmentsOf {span : Span} {fragment : Fragment} :
    fragment ∈ query.fragmentsOf search span ↔
      ∃ ref ∈ span.tokens, query.rendered search ref ≠ "" ∧
        fragment ∈ (query.renderer search).fragments ref := by
  simp only [fragmentsOf, List.mem_flatMap, List.mem_filter, decide_eq_true_eq, and_assoc]

/-- What is decided from the text of a span is whether it is kept. -/
theorem showsText_textOf_iff (span : Span) :
    query.showsText (query.textOf search span) = true ↔ query.Keeps search span := by
  rw [showsText, Bool.and_eq_true, Bool.not_eq_true', Bool.not_eq_true', ← Bool.not_eq_true,
    ← Bool.not_eq_true, String.isEmpty_iff]
  refine and_congr_right fun htext => ?_
  have hgroups : query.textOf search span =
      joined (String.singleton (separatorChar query.layout.expansion))
        ((span.tokens.map (query.renderer search).fragments).map Fragment.joinedText) := by
    rw [textOf_eq_fragments, List.map_map, separator, tokenSeparator_eq]
    rfl
  rw [hgroups] at htext
  rw [hgroups, separator, tokenSeparator_eq,
    isAllPlaceholders_joined_iff (separatorChar_eq_or _) htext]
  simp only [mem_fragmentsOf, rendered_eq_joinedText, List.forall_mem_map, not_forall,
    exists_prop]
  constructor
  · rintro ⟨ref, href, hshown, fragment, hfragment, hother⟩
    exact ⟨fragment, ⟨ref, href, hshown, hfragment⟩, hother⟩
  · rintro ⟨fragment, ⟨ref, href, hshown, hfragment⟩, hother⟩
    exact ⟨ref, href, hshown, fragment, hfragment, hother⟩

/-- Joining something gives something. -/
private theorem intercalate_ne_empty {separator : String} (hseparator : separator ≠ "")
    {texts : List String} {text : String} (hmem : text ∈ texts) (htext : text ≠ "") :
    separator.intercalate texts ≠ "" := by
  cases texts with
  | nil => contradiction
  | cons first rest =>
      cases rest with
      | nil =>
          rw [String.intercalate_singleton]
          exact List.mem_singleton.mp hmem ▸ htext
      | cons second further =>
          rw [String.intercalate_cons_cons]
          intro hempty
          rw [String.append_eq_empty_iff, String.append_eq_empty_iff] at hempty
          exact hseparator hempty.1.2

/-- A fragment with a text makes a text for its token and its span. -/
private theorem textOf_ne_empty {span : Span} {ref : TokenRef} (href : ref ∈ span.tokens)
    {fragment : Fragment} (hfragment : fragment ∈ (query.renderer search).fragments ref)
    (htext : fragment.text ≠ "") :
    query.rendered search ref ≠ "" ∧ query.textOf search span ≠ "" := by
  have hrendered : query.rendered search ref ≠ "" := by
    rw [rendered_eq_joinedText]
    exact intercalate_ne_empty (by decide) (List.mem_map_of_mem hfragment) htext
  refine ⟨hrendered, ?_⟩
  rw [textOf_eq_joined, ne_eq, joined_eq_empty_iff]
  apply List.ne_nil_of_mem (a := query.rendered search ref)
  exact List.mem_filter.mpr ⟨List.mem_map_of_mem href, by simpa using hrendered⟩

private theorem clean_ne_empty {value : String} (hvalue : value ≠ "") :
    Renderer.clean value ≠ "" := by
  by_cases hslash : '/' ∈ value.toList
  · intro hempty
    have hdash : '-' ∈ (Renderer.clean value).toList :=
      Text.subset_replaceChar hslash (by decide)
    rw [hempty] at hdash
    cases hdash
  · rwa [Renderer.clean, Text.replaceChar_of_not_mem hslash]

private theorem not_keeps_iff {span : Span} :
    ¬ query.Keeps search span ↔ query.textOf search span = "" ∨
      ∀ fragment ∈ query.fragmentsOf search span,
        fragment.PassesFor (separatorChar query.layout.expansion) := by
  rw [Keeps, not_and_or, not_not]
  refine or_congr_right ?_
  push Not
  rfl

theorem showsFragments (span : Span) : query.ShowsFragments search span where
  text_eq := textOf_eq_fragments span
  dropped_iff := not_keeps_iff
  placeholders_of_dropped := by
    intro hdropped hvalues
    refine (not_keeps_iff.mp hdropped).imp_right fun hpasses fragment hfragment => ?_
    have hpass := hpasses fragment hfragment
    cases fragment with
    | placeholder => rfl
    | rootLabel => exact hpass.elim
    | rootNumber number => exact hpass.elim
    | value value => exact absurd hpass (hvalues value hfragment)
  keeps_of_value := by
    intro ref href value hfragment hvalue hreads
    obtain ⟨hrendered, htext⟩ := textOf_ne_empty href hfragment (clean_ne_empty hvalue)
    exact ⟨htext, .value value, mem_fragmentsOf.mpr ⟨ref, href, hrendered, hfragment⟩, hreads⟩

/-! ## Results -/

/-- The texts with something to show are those that are kept. -/
theorem filter_textsOf_eq (refs : List TokenRef) :
    (refs.flatMap (query.textsOf search)).filter query.showsText =
      query.keptTexts search refs := by
  have htexts : refs.flatMap (query.textsOf search) =
      (refs.flatMap (query.excerptsOf search)).map fun excerpt =>
        query.textOf search excerpt.span := by
    rw [List.map_flatMap]
    exact List.flatMap_congr fun ref _ => textsOf_eq_map ref
  rw [htexts, List.filter_map, keptTexts]
  refine congrArg (List.map _) (List.filter_congr fun excerpt _ => ?_)
  rw [Bool.eq_iff_iff, decide_eq_true_iff]
  exact showsText_textOf_iff excerpt.span

theorem keptTexts_cons (ref : TokenRef) (rest : List TokenRef) :
    query.keptTexts search (ref :: rest) =
      query.keptTexts search [ref] ++ query.keptTexts search rest := by
  simp only [keptTexts, List.flatMap_cons, List.flatMap_nil, List.append_nil, List.filter_append,
    List.map_append]

/-! ## Words only -/

section

variable {ref : TokenRef} {span : Span}

private theorem textOf_single (htokens : span.tokens = [ref]) :
    query.textOf search span = Fragment.joinedText ((query.renderer search).fragments ref) := by
  rw [textOf_eq_fragments, htokens, List.map_singleton, joined_singleton]

variable (hlayout : query.layout = ⟨false, [.word]⟩)

include hlayout

private theorem renderer_word : query.renderer search = ⟨search.navigator, [.word]⟩ := by
  rw [renderer, hlayout]

private theorem expansion_word : query.layout.expansion = none := by
  rw [hlayout]
  rfl

private theorem not_keeps_root (htokens : span.tokens = [ref]) (hroot : ref.isRoot = true) :
    ¬ query.Keeps search span := by
  rintro ⟨htext, -⟩
  apply htext
  rw [textOf_single htokens, renderer_word hlayout, Renderer.fragments_word_root hroot]
  rfl

/-- A token is shown as its word, unless the word reads as a placeholder. -/
private theorem keeps_word (htokens : span.tokens = [ref]) (hroot : ref.isRoot = false)
    {token : Token} (htoken : search.navigator.visible.corpus.token? ref = some token)
    (hword : token.word ≠ "") (hreads : ¬ ReadsAsPlaceholder ' ' token.word) :
    query.Keeps search span ∧ query.textOf search span = Renderer.clean token.word := by
  have hfragments : (query.renderer search).fragments ref = [.value token.word] := by
    rw [renderer_word hlayout]
    exact Renderer.fragments_word hroot htoken
  constructor
  · have href : ref ∈ span.tokens := htokens ▸ List.mem_singleton.mpr rfl
    have hfragment : .value token.word ∈ (query.renderer search).fragments ref :=
      hfragments ▸ List.mem_singleton.mpr rfl
    apply (showsFragments span).keeps_of_value ref href token.word hfragment hword
    rwa [expansion_word hlayout]
  · rw [textOf_single htokens, hfragments]
    exact String.intercalate_singleton

/-- Shown words stand for the matches that are no roots, one for each. -/
private theorem forall₂_keptTexts_word {refs : List TokenRef}
    (hshows : ∀ ref ∈ refs, search.navigator.visible.shows ref = true)
    (hwords : ∀ ref ∈ refs, ref.isRoot = false → ∃ token,
      search.navigator.visible.corpus.token? ref = some token ∧ token.word ≠ "" ∧
        ¬ ReadsAsPlaceholder ' ' token.word) :
    List.Forall₂ (fun ref text => ∃ token,
        search.navigator.visible.corpus.token? ref = some token ∧
          text = Renderer.clean token.word)
      (refs.filter (!·.isRoot)) (query.keptTexts search refs) := by
  induction refs with
  | nil => exact .nil
  | cons ref rest ih =>
      obtain ⟨hshown, hshows⟩ := List.forall_mem_cons.mp hshows
      obtain ⟨hword, hwords⟩ := List.forall_mem_cons.mp hwords
      obtain ⟨excerpt, hexcerpts, htokens⟩ :=
        excerptsOf_eq_singleton (expansion_word hlayout) hshown
      have hrest := ih hshows hwords
      have hfirst : query.keptTexts search [ref] = ([excerpt].filter fun excerpt =>
          query.Keeps search excerpt.span).map fun excerpt => query.textOf search excerpt.span := by
        rw [keptTexts, List.flatMap_singleton, hexcerpts]
      rw [keptTexts_cons, hfirst, List.filter_singleton]
      -- A root is on neither side: the filter drops it, and it has no text to keep.
      cases hroot : ref.isRoot with
      | true =>
          have hleft : (ref :: rest).filter (!·.isRoot) = rest.filter (!·.isRoot) :=
            List.filter_cons_of_neg (by simp [hroot])
          rw [hleft, decide_eq_false (not_keeps_root hlayout htokens hroot)]
          exact hrest
      | false =>
          obtain ⟨token, htoken, hnonempty, hreads⟩ := hword hroot
          obtain ⟨hkeeps, htext⟩ := keeps_word hlayout htokens hroot htoken hnonempty hreads
          have hleft : (ref :: rest).filter (!·.isRoot) = ref :: rest.filter (!·.isRoot) :=
            List.filter_cons_of_pos (by simp [hroot])
          rw [hleft, decide_eq_true hkeeps]
          exact .cons ⟨token, htoken, htext⟩ hrest

end

/-! ## The results of a run -/

/-- **Only placeholders are dropped, and what reads as them.**  Let a query show texts.  Over any
treebank, its results are the texts of those spans of its matches that are kept, in order.

The text of a span is made from the fragments of its tokens.  It is dropped if it is empty or if
each of its fragments can be taken for placeholders.  If no value among them reads as one, it
is dropped only if it is empty or has placeholders only.  It is kept if one of its tokens
has a value that is not empty and does not read as a placeholder.

If only words are shown, and these are not empty and do not read as placeholders, each match that
is not a root is shown as its word, and nothing else is. -/
theorem answers_keeps (query : CompiledQuery) (lexicon : Lexicon) (treebank : Treebank)
    (hcount : query.layout.count = false) (htexts : query.options.concordance ≠ .only) :
    let search := query.search lexicon treebank.corpus
    ∃ found output, query.Answers lexicon treebank.corpus found output ∧
      output.results = .texts (query.keptTexts search found.toList) ∧
      (∀ span, query.ShowsFragments search span) ∧
      (query.layout = ⟨false, [.word]⟩ →
        (∀ row ∈ treebank.rows, row.word ≠ "" ∧ ¬ ReadsAsPlaceholder ' ' row.word) →
          ∃ texts, output.results = .texts texts ∧
            List.Forall₂ (fun ref text => ∃ token, treebank.corpus.token? ref = some token ∧
              text = Renderer.clean token.word) (found.toList.filter (!·.isRoot)) texts) := by
  intro search
  have hresults : (query.answer search (query.matched search).toList).results =
      .texts (query.keptTexts search (query.matched search).toList) := by
    rw [answer, hcount, if_neg Bool.false_ne_true, if_neg htexts, filter_textsOf_eq]
  refine ⟨query.matched search, query.answer search (query.matched search).toList,
    answers_matched (VisibleCorpus.knowsIds_ofSentences _ _ _ _), hresults, showsFragments, ?_⟩
  intro hlayout hrows
  -- What is found is shown, and what is shown and no root has a row.
  have hshows : ∀ ref ∈ (query.matched search).toList,
      search.navigator.visible.shows ref = true := by
    intro ref href
    obtain ⟨criterion, -, hfound⟩ := exists_mem_found (OrderedSet.mem_iff.mpr href)
    exact Search.shows_of_mem_found hfound
  refine ⟨_, hresults, forall₂_keptTexts_word hlayout hshows fun ref href hroot => ?_⟩
  obtain ⟨token, hrow, htoken⟩ := Treebank.exists_token? (hshows ref href) hroot
  exact ⟨token, htoken, hrows token hrow⟩

/-- The search `{"df": ["nsubj"]}` for what has a subject, showing words. -/
def wordSample : CompiledQuery := { sample false with layout := ⟨false, [.word]⟩ }

theorem answers_keeps_sample :
    wordSample.layout.count = false ∧ wordSample.options.concordance ≠ .only ∧
      (∀ row ∈ Treebank.sample.rows, row.word ≠ "" ∧ ¬ ReadsAsPlaceholder ' ' row.word) ∧
      ∃ found output, wordSample.Answers .penn Treebank.sample.corpus found output ∧
        ∃ texts, output.results = .texts texts ∧
          List.Forall₂ (fun ref text => ∃ token, Treebank.sample.corpus.token? ref = some token ∧
            text = Renderer.clean token.word) (found.toList.filter (!·.isRoot)) texts := by
  have htexts : wordSample.options.concordance ≠ .only := by decide
  have hrows : ∀ row ∈ Treebank.sample.rows,
      row.word ≠ "" ∧ ¬ ReadsAsPlaceholder ' ' row.word := by
    decide +kernel
  obtain ⟨found, output, hanswers, -, -, hwords⟩ :=
    answers_keeps wordSample .penn Treebank.sample rfl htexts
  exact ⟨rfl, htexts, hrows, found, output, hanswers, hwords rfl hrows⟩

/-- The search `{"w": ["none"]}`, showing words. -/
def noneSample : CompiledQuery where
  criteria := [⟨"w", .self, .word, none, false, .literals ["none"] false⟩]
  exclusions := []
  layout := ⟨false, [.word]⟩
  options := {}
  filter := .none

end CompiledQuery

/-- *none came.* -/
def Treebank.noneTale : Treebank where
  source := "tale"
  parses := [
    { id := 1
      rows := [
        .parsed 1 "none" "none" "NN" 2 "nsubj",
        .parsed 2 "came" "come" "VBD" 0 "root"]
      metadata := ∅ }]

namespace CompiledQuery

/-- The word *none* is found, is the only fragment of its text, and is dropped. -/
theorem answers_loses_none :
    (∀ row ∈ Treebank.noneTale.rows, row.word ≠ "") ∧
      noneSample.layout = ⟨false, [.word]⟩ ∧ noneSample.options.concordance ≠ .only ∧
      ∃ found output, noneSample.Answers .penn Treebank.noneTale.corpus found output ∧
        found.toList = [⟨1, 1⟩] ∧
        (noneSample.renderer (noneSample.search .penn Treebank.noneTale.corpus)).fragments
          ⟨1, 1⟩ = [.value "none"] ∧
        output.results = .texts [] := by
  refine ⟨by decide, rfl, by decide, _, _,
    answers_matched (VisibleCorpus.knowsIds_ofSentences _ _ _ _), ?_, ?_, ?_⟩
  · decide +kernel
  · decide +kernel
  · decide +kernel

end CompiledQuery

end Concordancer
