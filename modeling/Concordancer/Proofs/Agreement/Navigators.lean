import Concordancer.Proofs.Navigation
import Concordancer.Proofs.Presentation.Spans
import Concordancer.Rendering

/-!
# Navigators that agree

Many statements compare two runs: over a corpus with hidden tokens and one without
them, over a corpus and a part of it, over one corpus in two orders.  All of them
reduce to navigators that *agree* on a domain of tokens: from a token of the domain
both lead to the same tokens, which are again in the domain, and both read the same
features there.  `Navigator.Agrees` is this relation, for the features that a query
reads.

Everything that is rendered from a token of the domain is then the same
(`token_eq`, `span_eq`).  Navigators that find the very same sentences agree, on
all features (`agrees_of_sentence?_eq`).
-/

namespace Concordancer

namespace Navigator

/-- From the tokens of a domain, two navigators lead to the same tokens of the domain, and
read the same of these features. -/
structure Agrees (domain : TokenRef → Prop) (features : Feature → Prop)
    (first second : Navigator) : Prop where
  lexicon_eq : first.lexicon = second.lexicon
  sentence?_rel : ∀ {ref}, domain ref → Option.Rel VisibleSentence.LooksLike
    (first.visible.sentence? ref.sentence) (second.visible.sentence? ref.sentence)
  resolve_eq : ∀ {ref}, domain ref → ∀ role, first.resolve ref role = second.resolve ref role
  shift_eq : ∀ {ref}, domain ref → ∀ offset, first.shift ref offset = second.shift ref offset
  read_eq : ∀ {ref}, domain ref → ∀ {feature}, features feature →
    (first.read ref feature).value = (second.read ref feature).value
  domain_refs : ∀ {ref visible}, domain ref →
    first.visible.sentence? ref.sentence = some visible → ∀ other ∈ visible.refs, domain other
  domain_resolve : ∀ {ref target}, domain ref → ∀ role, target ∈ first.resolve ref role →
    domain target
  domain_shift : ∀ {ref target}, domain ref → ∀ offset, first.shift ref offset = some target →
    domain target

variable {domain : TokenRef → Prop} {features : Feature → Prop} {first second : Navigator}
  {ref : TokenRef}

namespace Agrees

variable (hagrees : first.Agrees domain features second)

include hagrees

theorem sentence?_eq_none (href : domain ref)
    (hfirst : first.visible.sentence? ref.sentence = none) :
    second.visible.sentence? ref.sentence = none := by
  have hrel := hagrees.sentence?_rel href
  rw [hfirst] at hrel
  cases hsecond : second.visible.sentence? ref.sentence with
  | none => rfl
  | some visible => simp [hsecond] at hrel

theorem exists_sentence? {visible : VisibleSentence} (href : domain ref)
    (hfirst : first.visible.sentence? ref.sentence = some visible) :
    ∃ other, second.visible.sentence? ref.sentence = some other ∧ visible.LooksLike other := by
  have hrel := hagrees.sentence?_rel href
  rw [hfirst] at hrel
  cases hsecond : second.visible.sentence? ref.sentence with
  | none => simp [hsecond] at hrel
  | some other => exact ⟨other, rfl, by simpa [hsecond] using hrel⟩

/-! ## Moves -/

theorem next?_eq (href : domain ref) : first.next? ref = second.next? ref := by
  unfold next?
  cases hfirst : first.visible.sentence? ref.sentence with
  | none => rw [hagrees.sentence?_eq_none href hfirst]
  | some visible =>
      obtain ⟨other, hsecond, halike⟩ := hagrees.exists_sentence? href hfirst
      rw [hsecond]
      simp only [Option.bind_eq_bind, Option.bind_some, halike.position?_eq, halike.at?_eq]

theorem domain_next? {target : TokenRef} (href : domain ref)
    (hnext : first.next? ref = some target) : domain target := by
  obtain ⟨visible, hvisible, hnext⟩ := Option.bind_eq_some_iff.mp hnext
  obtain ⟨position, -, hat⟩ := Option.bind_eq_some_iff.mp hnext
  exact hagrees.domain_refs href hvisible target (VisibleSentence.mem_refs_of_at? hat)

theorem follow_eq (href : domain ref) (step : Step) :
    first.follow ref step = second.follow ref step := by
  cases step with
  | governor => exact hagrees.resolve_eq href .governor
  | dependent => exact hagrees.resolve_eq href .dependent
  | next => rw [follow, follow, hagrees.next?_eq href]

theorem domain_follow {step : Step} {target : TokenRef} (href : domain ref)
    (hmem : target ∈ first.follow ref step) : domain target := by
  cases step with
  | governor => exact hagrees.domain_resolve href .governor hmem
  | dependent => exact hagrees.domain_resolve href .dependent hmem
  | next => exact hagrees.domain_next? href (Option.mem_toList.mp hmem)

theorem shiftBy_eq (href : domain ref) (adjacency : Option Int) :
    first.shiftBy ref adjacency = second.shiftBy ref adjacency := by
  cases adjacency with
  | none => rfl
  | some offset => exact hagrees.shift_eq href offset

theorem domain_shiftBy {adjacency : Option Int} {target : TokenRef} (href : domain ref)
    (hshift : first.shiftBy ref adjacency = some target) : domain target := by
  cases adjacency with
  | none => exact Option.some.inj hshift ▸ href
  | some offset => exact hagrees.domain_shift href offset hshift

/-! ## Rendering -/

variable {columns : List Column}

theorem value_eq (href : domain ref) {feature : Feature} (hfeature : features feature) :
    ((Renderer.mk first columns).value feature ref).value =
      ((Renderer.mk second columns).value feature ref).value := by
  unfold Renderer.value
  split
  · rfl
  · simp only [Told.value_bind, Told.value_pure, hagrees.read_eq href hfeature,
      hagrees.lexicon_eq]

variable (columns) in
/-- Steps lead to the same tokens, which are in the domain. -/
theorem reach_eq {refs : List TokenRef} (hrefs : ∀ ref ∈ refs, domain ref) (steps : List Step) :
    (Renderer.mk first columns).reach refs steps = (Renderer.mk second columns).reach refs steps ∧
      ∀ target ∈ (Renderer.mk first columns).reach refs steps, domain target := by
  -- By induction on the steps, for all tokens of the domain at once: the tokens reached by one
  -- step are those that the next one starts from.
  induction steps generalizing refs with
  | nil => exact ⟨rfl, hrefs⟩
  | cons step further ih =>
      have hfollow : refs.flatMap (first.follow · step) = refs.flatMap (second.follow · step) :=
        List.flatMap_congr fun ref href => hagrees.follow_eq (hrefs ref href) step
      have hnext : ∀ target ∈ (OrderedSet.ofList (refs.flatMap (first.follow · step))).toList,
          domain target := by
        intro target htarget
        obtain ⟨ref, href, hmem⟩ := List.mem_flatMap.mp (OrderedSet.mem_ofList.mp htarget)
        exact hagrees.domain_follow (hrefs ref href) hmem
      simp only [Renderer.reach, ← hfollow]
      split
      · exact ⟨rfl, List.forall_mem_nil _⟩
      · exact ih hnext

theorem column_eq (href : domain ref) {column : Column} (hfeature : features column.feature) :
    ((Renderer.mk first columns).column ref column).value =
      ((Renderer.mk second columns).column ref column).value := by
  unfold Renderer.column
  simp only
  rw [← hagrees.shiftBy_eq href]
  cases hshift : first.shiftBy ref column.adjacency with
  | none => rfl
  | some start =>
      have hstart : ∀ ref ∈ [start], domain ref := by
        intro ref hmem
        rw [List.mem_singleton.mp hmem]
        exact hagrees.domain_shiftBy href hshift
      obtain ⟨hreach, hdomain⟩ := hagrees.reach_eq columns hstart column.steps
      simp only [← hreach]
      cases hreached : (Renderer.mk first columns).reach [start] column.steps with
      | nil => rfl
      | cons target others =>
          rw [hreached] at hdomain
          have hvalues : ((target :: others).map fun ref =>
              ((Renderer.mk first columns).value column.feature ref).value) =
                (target :: others).map fun ref =>
                  ((Renderer.mk second columns).value column.feature ref).value :=
            List.map_congr_left fun ref hmem => hagrees.value_eq (hdomain ref hmem) hfeature
          simp only [Told.value_bind, Told.value_traverse, Told.value_pure, hvalues]

/-- A token of the domain is rendered alike. -/
theorem token_eq (hcolumns : ∀ column ∈ columns, features column.feature) (href : domain ref) :
    ((Renderer.mk first columns).token ref).value =
      ((Renderer.mk second columns).token ref).value := by
  unfold Renderer.token
  simp only [Told.value_bind, Told.value_traverse, Told.value_pure]
  rw [List.map_congr_left fun column hmem => hagrees.column_eq href (hcolumns column hmem)]

theorem span_eq (hcolumns : ∀ column ∈ columns, features column.feature) {separator : String}
    {span : Span} (hspan : ∀ ref ∈ span.tokens, domain ref) :
    ((Renderer.mk first columns).span separator span).value =
      ((Renderer.mk second columns).span separator span).value := by
  unfold Renderer.span
  simp only [Told.value_bind, Told.value_traverse, Told.value_pure]
  rw [List.map_congr_left fun ref hmem => hagrees.token_eq hcolumns (hspan ref hmem)]

end Agrees

/-! ## Navigators that find the same sentences -/

/-- Navigators that find the same sentences under some identifiers agree on the tokens of these
sentences, on all features. -/
theorem agrees_of_sentence?_eq (within : Nat → Prop)
    (hlexicon : first.lexicon = second.lexicon)
    (hlimit : first.distanceLimit = second.distanceLimit) (hknows : first.visible.KnowsIds)
    (hvisible : ∀ id, within id → first.visible.sentence? id = second.visible.sentence? id)
    (hcorpus : ∀ id, within id →
      first.visible.corpus.sentence? id = second.visible.corpus.sentence? id) :
    first.Agrees (fun ref => within ref.sentence) (fun _ => True) second where
  lexicon_eq := hlexicon
  sentence?_rel := by
    intro ref href
    rw [← hvisible _ href]
    cases first.visible.sentence? ref.sentence with
    | none => exact .none
    | some visible => exact .some (.refl visible)
  resolve_eq := by
    intro ref href role
    simp only [resolve, hvisible _ href]
  shift_eq := by
    intro ref href offset
    simp only [shift, hvisible _ href]
  read_eq := by
    intro ref href feature _
    simp only [read, hcorpus _ href, hlexicon, hlimit]
  domain_refs := by
    intro ref visible href hfound other hother
    rw [(VisibleSentence.mem_refs.mp hother).1, hknows _ _ hfound]
    exact href
  domain_resolve := by
    intro ref target href role hmem
    obtain ⟨-, -, hsame, -⟩ := mem_resolve.mp hmem
    rw [hsame]
    exact href
  domain_shift := by
    intro ref target href offset hshift
    obtain ⟨-, hsame, -⟩ := shift_eq_some_iff.mp hshift
    rw [hsame]
    exact href

end Navigator

end Concordancer
