import Concordancer.Proofs.Agreement.Navigators
import Concordancer.Proofs.Presentation.Answer

/-!
# What agreeing navigators show

If the navigators of two searches agree, a match in their domain has the same texts
(`textsOf_eq`) and the same concordance lines but for the speaker (`linesOf_eq`),
whom a line takes from its sentence and not from what is visible of it.  Where the
speaker is the same as well, so are the lines (`linesOf_eq_of_speakerOf_eq`).

So in corpora that have the same sentence under an identifier, matches in it are shown
alike (`shown_eq`).
-/

namespace Concordancer

namespace ConcordanceLine

def spokenBy (speaker : String) (line : ConcordanceLine) : ConcordanceLine := { line with speaker }

/-- A line apart from its speaker. -/
def withoutSpeaker : ConcordanceLine → ConcordanceLine := spokenBy ""

theorem withoutSpeaker_spokenBy (speaker : String) (line : ConcordanceLine) :
    (line.spokenBy speaker).withoutSpeaker = line.withoutSpeaker := rfl

end ConcordanceLine

/-- Who speaks the sentence of a token, as a concordance line says it. -/
def Search.speakerOf (search : Search) (ref : TokenRef) : String :=
  ((search.navigator.visible.sentence? ref.sentence).bind (·.sentence.speaker?)).getD placeholder

namespace Concordance

variable {domain : TokenRef → Prop} {features : Feature → Prop} {first second : Navigator}
  {columns : List Column}

section

variable (hagrees : first.Agrees domain features second)
  (hcolumns : ∀ column ∈ columns, features column.feature) (hword : features .word)
  {visible other : VisibleSentence} (halike : visible.LooksLike other)
  (hrefs : ∀ ref ∈ visible.refs, domain ref) (source separator : String) (plainContexts : Bool)

include hagrees hcolumns hword halike hrefs

theorem contextTokens_eq :
    ((start source ⟨first, columns⟩ plainContexts separator).contextTokens visible).value =
      ((start source ⟨second, columns⟩ plainContexts separator).contextTokens other).value := by
  have hsame := halike.refs_eq
  unfold VisibleSentence.refs at hrefs hsame
  unfold contextTokens
  cases plainContexts with
  | true =>
      simp only [start, ← hsame, if_true, Told.value_traverse, Told.value_bind, Told.value_pure]
      refine List.map_congr_left fun ref hmem => ?_
      rw [hagrees.read_eq (hrefs ref hmem) hword]
  | false =>
      simp only [start, ← hsame, Bool.false_eq_true, if_false, Told.value_traverse]
      exact List.map_congr_left fun ref hmem => hagrees.token_eq hcolumns (hrefs ref hmem)

/-- A line is the same but for the speaker. -/
theorem lineOf?_eq (span : Span) (matched : String) :
    (start source ⟨first, columns⟩ plainContexts separator).lineOf? visible span matched =
      ((start source ⟨second, columns⟩ plainContexts separator).lineOf? other span matched).map
        (·.spokenBy (visible.sentence.speaker?.getD placeholder)) := by
  have hcontext : context visible span separator = context other span separator := by
    funext tokens left right
    simp only [context, halike.at?_eq]
  have htokens := contextTokens_eq hagrees hcolumns hword halike hrefs source separator
    plainContexts
  unfold lineOf?
  rw [htokens]
  cases hnothing : matched.isEmpty || isAllPlaceholders matched separator with
  | true => simp only [start, hnothing, if_true, Option.map_none]
  | false =>
      simp only [start, hnothing, Bool.false_eq_true, if_false, hcontext, Option.map_some]
      rfl

end

theorem speaker_of_lineOf? {concordance : Concordance} {visible : VisibleSentence} {span : Span}
    {matched : String} {line : ConcordanceLine}
    (hline : concordance.lineOf? visible span matched = some line) :
    line.speaker = visible.sentence.speaker?.getD placeholder := by
  unfold lineOf? at hline
  split at hline
  · contradiction
  · obtain rfl := Option.some.inj hline
    rfl

end Concordance

namespace CompiledQuery

variable {query : CompiledQuery} {domain : TokenRef → Prop} {features : Feature → Prop}
  {first second : Search} {ref : TokenRef}

theorem speaker_of_mem_linesOf {search : Search} {line : ConcordanceLine}
    (hline : line ∈ query.linesOf search ref) : line.speaker = search.speakerOf ref := by
  unfold linesOf at hline
  unfold Search.speakerOf
  cases hfound : search.navigator.visible.sentence? ref.sentence with
  | none => simp [hfound] at hline
  | some visible =>
      rw [hfound] at hline
      obtain ⟨span, -, hspan⟩ := List.mem_flatMap.mp hline
      obtain ⟨concordance, -, hconcordance⟩ :=
        Option.bind_eq_some_iff.mp (Option.mem_toList.mp hspan)
      exact Concordance.speaker_of_lineOf? hconcordance

section

variable (hagrees : first.navigator.Agrees domain features second.navigator)
  (hcolumns : ∀ column ∈ query.layout.columns, features column.feature) (href : domain ref)

include hagrees hcolumns href

private theorem textOf_eq {visible : VisibleSentence}
    (hfound : first.navigator.visible.sentence? ref.sentence = some visible) {span : Span}
    (hspan : span ∈ query.repetition.spans visible ref) :
    query.textOf first span = query.textOf second span := by
  refine hagrees.span_eq hcolumns fun token htoken => ?_
  rcases Repetition.mem_tokens_of_mem_spans hspan htoken with rfl | htoken
  · exact href
  · exact hagrees.domain_refs href hfound token htoken

theorem textsOf_eq : query.textsOf first ref = query.textsOf second ref := by
  unfold textsOf
  cases hfirst : first.navigator.visible.sentence? ref.sentence with
  | none => rw [hagrees.sentence?_eq_none href hfirst]
  | some visible =>
      obtain ⟨other, hsecond, halike⟩ := hagrees.exists_sentence? href hfirst
      rw [hsecond]
      simp only [← Repetition.spans_eq halike]
      exact List.map_congr_left fun span hspan => textOf_eq hagrees hcolumns href hfirst hspan

theorem linesOf_eq (hword : features .word)
    (hsource : first.navigator.visible.corpus.source = second.navigator.visible.corpus.source) :
    query.linesOf first ref =
      (query.linesOf second ref).map (·.spokenBy (first.speakerOf ref)) := by
  unfold linesOf Search.speakerOf
  cases hfirst : first.navigator.visible.sentence? ref.sentence with
  | none =>
      rw [hagrees.sentence?_eq_none href hfirst]
      rfl
  | some visible =>
      obtain ⟨other, hsecond, halike⟩ := hagrees.exists_sentence? href hfirst
      rw [hsecond]
      simp only [← Repetition.spans_eq halike, List.map_flatMap, Option.bind_some]
      refine List.flatMap_congr fun span hspan => ?_
      unfold linesOfSpan concordance? renderer
      rw [← textOf_eq hagrees hcolumns href hfirst hspan, hsource]
      cases query.options.concordance.isEnabled with
      | false => rfl
      | true =>
          simp only [if_true, Option.bind_some]
          rw [Concordance.lineOf?_eq hagrees hcolumns hword halike
            (hagrees.domain_refs href hfirst), Option.toList_map]

/-- A match is shown alike, but for the speaker. -/
theorem shown_eq_withoutSpeaker (hword : features .word)
    (hsource : first.navigator.visible.corpus.source = second.navigator.visible.corpus.source) :
    query.textsOf first ref = query.textsOf second ref ∧
      (query.linesOf first ref).map ConcordanceLine.withoutSpeaker =
        (query.linesOf second ref).map ConcordanceLine.withoutSpeaker := by
  refine ⟨textsOf_eq hagrees hcolumns href, ?_⟩
  rw [linesOf_eq hagrees hcolumns href hword hsource, List.map_map]
  exact List.map_congr_left fun line _ => ConcordanceLine.withoutSpeaker_spokenBy _ line

theorem linesOf_eq_of_speakerOf_eq (hword : features .word)
    (hsource : first.navigator.visible.corpus.source = second.navigator.visible.corpus.source)
    (hspeaker : first.speakerOf ref = second.speakerOf ref) :
    query.linesOf first ref = query.linesOf second ref := by
  have hsame : ∀ line ∈ query.linesOf second ref, line.spokenBy (first.speakerOf ref) = line := by
    intro line hline
    rw [hspeaker, ← speaker_of_mem_linesOf hline]
    rfl
  rw [linesOf_eq hagrees hcolumns href hword hsource, List.map_congr_left hsame, List.map_id'']
  exact fun _ => rfl

end

/-! ## Corpora with the same sentences -/

section

variable (query : CompiledQuery) (lexicon : Lexicon) {source : String}
  {sentences others : List Sentence} (within : Nat → Prop)
  (hsame : ∀ id, within id → (Corpus.ofSentences source sentences).sentence? id =
    (Corpus.ofSentences source others).sentence? id)

include hsame

/-- Where two corpora have the same sentences, searches of them agree. -/
theorem agrees_search :
    (query.search lexicon (.ofSentences source sentences)).navigator.Agrees
      (fun ref => within ref.sentence) (fun _ => True)
      (query.search lexicon (.ofSentences source others)).navigator := by
  refine Navigator.agrees_of_sentence?_eq within rfl rfl
    (VisibleCorpus.knowsIds_ofSentences query.filter lexicon source sentences) ?_ hsame
  intro id hid
  simp only [search, VisibleCorpus.sentence?_ofCorpus, hsame id hid]

/-- Where two corpora have the same sentences, matches are shown alike. -/
theorem shown_eq (href : within ref.sentence) :
    query.textsOf (query.search lexicon (.ofSentences source sentences)) ref =
        query.textsOf (query.search lexicon (.ofSentences source others)) ref ∧
      query.linesOf (query.search lexicon (.ofSentences source sentences)) ref =
        query.linesOf (query.search lexicon (.ofSentences source others)) ref := by
  have hagrees := agrees_search query lexicon within hsame
  refine ⟨textsOf_eq hagrees (fun _ _ => trivial) href,
    linesOf_eq_of_speakerOf_eq hagrees (fun _ _ => trivial) href trivial rfl ?_⟩
  simp only [Search.speakerOf, search, VisibleCorpus.sentence?_ofCorpus, hsame _ href]

end

end CompiledQuery

end Concordancer
