import Concordancer.Proofs.Overflow
import Concordancer.Proofs.Presentation.Repetitions

/-!
# What a query is refused for

A query is compiled part by part: its search entries without their nesting, its exclusions
likewise, its show descriptors, and the punctuation pattern if punctuation is hidden.  A
query is refused if one of these parts would be refused by itself, and then for the first
such part (`Query.compile_eq_error_iff`).  `QueryPart.Fault` says what can be wrong with a
part: the shape of a descriptor is judged before its letters, and a pattern comes last.

A query that is refused is refused before a run looks at a sentence or at the signal, and
nothing else is an error: a compiled query has an output on every corpus
(`Query.refused_iff_faulty`).  Only a build that checks sums gives up on some queries that
compile (`Query.wide_window_overflows`).  Which patterns are well formed plays no part in any
of this, so the dialect is arbitrary.

## Strategy

Errors are compared by `refusal?`, which forgets what a result is unless it is an error.
Seen through it, steps that follow one another become alternatives (`refusal?_bind`), and
steps for all elements of a list become a search through the list (`refusal?_mapM`,
`refusal?_foldlM`).  Compiling a query is then a search through its parts.
-/

namespace Concordancer

/-! ## First errors -/

/-- The error, if the result is one. -/
def refusal? {ε α : Type} : Except ε α → Option ε
  | .ok _ => none
  | .error error => some error

section FirstErrors

variable {ε ε' α β : Type}

theorem refusal?_eq_some_iff {result : Except ε α} {error : ε} :
    refusal? result = some error ↔ result = .error error := by
  cases result with
  | ok a => exact iff_of_false nofun nofun
  | error other =>
      rw [refusal?, Option.some.injEq, Except.error.injEq]

theorem refusal?_eq_none_iff {result : Except ε α} :
    refusal? result = none ↔ ∃ a, result = .ok a := by
  cases result with
  | ok a => exact iff_of_true rfl ⟨a, rfl⟩
  | error other => exact iff_of_false nofun nofun

/-- If what comes next fails alike after whatever came first, it fails where the first did not. -/
theorem refusal?_bind {first : Except ε α} {next : α → Except ε β} {late : Option ε}
    (hnext : ∀ a, refusal? (next a) = late) :
    refusal? (first >>= next) = (refusal? first).or late := by
  cases first with
  | ok a => exact hnext a
  | error error => rfl

theorem refusal?_mapError (f : ε → ε') (result : Except ε α) :
    refusal? (result.mapError f) = (refusal? result).map f := by
  cases result with
  | ok a => rfl
  | error error => rfl

theorem refusal?_mapM (f : α → Except ε β) (elements : List α) :
    refusal? (elements.mapM f) = elements.findSome? fun a => refusal? (f a) := by
  induction elements with
  | nil => rfl
  | cons a rest ih =>
      have hrest : ∀ b, refusal? (do return b :: (← rest.mapM f)) = refusal? (rest.mapM f) := by
        intro b
        have hnone : ∀ further, refusal? (pure (b :: further) : Except ε (List β)) = none :=
          fun _ => rfl
        exact (refusal?_bind hnone).trans Option.or_none
      rw [List.mapM_cons, refusal?_bind hrest, ih, List.findSome?_cons]
      cases refusal? (f a) with
      | none => rfl
      | some error => rfl

/-- Steps that carry something along fail as they do by themselves if it has no say in this. -/
theorem refusal?_foldlM {f : β → α → Except ε β} {g : α → Option ε}
    (hstep : ∀ b a, refusal? (f b a) = g a) (elements : List α) (b : β) :
    refusal? (elements.foldlM f b) = elements.findSome? g := by
  induction elements generalizing b with
  | nil => rfl
  | cons a rest ih =>
      rw [List.foldlM_cons, refusal?_bind ih, hstep, List.findSome?_cons]
      cases g a with
      | none => rfl
      | some error => rfl

end FirstErrors

/-! ## Show descriptors -/

namespace Layout

/-- The layout with what one more text asks for. -/
def addText (layout : Layout) (text : String) : Except QueryError Layout :=
  (ShowDescriptor.ofText text >>= layout.add).mapError (QueryError.invalidDescriptor text)

theorem compile_eq_foldlM (shown : List String) :
    compile shown = do
      let layout ← shown.foldlM addText ⟨false, []⟩
      return if layout.columns.isEmpty && !layout.count then ⟨false, [.word]⟩ else layout := rfl

/-- What a layout already has does not matter for what can be added to it. -/
private theorem refusal?_addText (layout : Layout) (text : String) :
    refusal? (layout.addText text) = refusal? (addText ⟨false, []⟩ text) := by
  rw [addText, addText, refusal?_mapError, refusal?_mapError]
  refine congrArg (Option.map _) ?_
  cases ShowDescriptor.ofText text with
  | error fault => rfl
  | ok shown =>
      cases shown with
      | count => rfl
      | column descriptor =>
          show refusal? (do return { layout with
              columns := layout.columns ++ [← Column.ofDescriptor descriptor] }) =
            refusal? (do return (⟨false, [← Column.ofDescriptor descriptor]⟩ : Layout))
          cases Column.ofDescriptor descriptor with
          | error fault => rfl
          | ok column => rfl

private theorem refusal?_compile_eq_findSome? (shown : List String) :
    refusal? (compile shown) =
      shown.findSome? fun text => refusal? (addText ⟨false, []⟩ text) := by
  have hnone : ∀ layout : Layout, refusal? (pure (if layout.columns.isEmpty && !layout.count then
      ⟨false, [.word]⟩ else layout) : Except QueryError Layout) = none := fun _ => rfl
  calc
    refusal? (compile shown) = (refusal? (shown.foldlM addText ⟨false, []⟩)).or none := by
      rw [compile_eq_foldlM, refusal?_bind hnone]
    _ = _ := by
      rw [Option.or_none]
      exact refusal?_foldlM refusal?_addText shown _

theorem compile_singleton_eq_error_iff {text : String} {error : QueryError} :
    compile [text] = .error error ↔ addText ⟨false, []⟩ text = .error error := by
  rw [← refusal?_eq_some_iff, refusal?_compile_eq_findSome?, List.findSome?_singleton,
    refusal?_eq_some_iff]

/-- Of all show descriptors, the first that fails alone counts. -/
theorem refusal?_compile (shown : List String) :
    refusal? (compile shown) = shown.findSome? fun text => refusal? (compile [text]) := by
  rw [refusal?_compile_eq_findSome?]
  refine congrArg (shown.findSome? ·) (funext fun text => ?_)
  rw [refusal?_compile_eq_findSome?, List.findSome?_singleton]

end Layout

/-! ## The parts of a query -/

/-- A part of a query that is compiled by itself. -/
inductive QueryPart
  | criterion (descriptor : String) (pattern : Pattern)
  | column (text : String)
  | punctuation (pattern : String)

namespace QueryPart

variable (options : Options) (dialect : Regex.Dialect)

/-- Compiling this part alone fails with this error. -/
def Fails : QueryPart → QueryError → Prop
  | criterion descriptor pattern, error =>
    Criterion.compile options descriptor pattern dialect = .error error
  | column text, error => Layout.compile [text] = .error error
  | punctuation pattern, error =>
    dialect pattern false = none ∧ error = .invalidPattern Options.punctuationName

/-- What can be wrong with a part.  Each fault is one that is left when those before it are
ruled out. -/
inductive Fault : QueryPart → QueryError → Prop
  /-- The descriptor of a criterion has not the shape of one. -/
  | shape {descriptor : String} {pattern : Pattern} {fault : DescriptorFault}
    (hshape : Descriptor.ofSearchText descriptor = .error fault) :
    Fault (criterion descriptor pattern) (.invalidDescriptor descriptor fault)
  /-- Its letters name no role and feature. -/
  | letters {descriptor : String} {pattern : Pattern} {parts : Descriptor}
    {fault : DescriptorFault} (hshape : Descriptor.ofSearchText descriptor = .ok parts)
    (hletters : Criterion.readLetters parts.letters = .error fault) :
    Fault (criterion descriptor pattern) (.invalidDescriptor descriptor fault)
  /-- Its pattern is none of the dialect. -/
  | regex {descriptor text : String} {parts : Descriptor} {meaning : Role × Feature}
    (hshape : Descriptor.ofSearchText descriptor = .ok parts)
    (hletters : Criterion.readLetters parts.letters = .ok meaning) (htext : text ≠ wildcard)
    (hinvalid : dialect text (!options.caseSensitive) = none) :
    Fault (criterion descriptor (.text text)) (.invalidPattern descriptor)
  /-- Its pattern is nested, which no pattern of a query is once nesting is taken away. -/
  | nested {descriptor : String} {members : List (String × Pattern)} {parts : Descriptor}
    {meaning : Role × Feature} (hshape : Descriptor.ofSearchText descriptor = .ok parts)
    (hletters : Criterion.readLetters parts.letters = .ok meaning) :
    Fault (criterion descriptor (.nested members)) (.invalidDescriptor descriptor .nestedPattern)
  /-- A show descriptor has not the shape of one. -/
  | columnShape {text : String} {fault : DescriptorFault}
    (hshape : ShowDescriptor.ofText text = .error fault) :
    Fault (column text) (.invalidDescriptor text fault)
  /-- Its letters name no steps and no feature. -/
  | columnLetters {text : String} {parts : Descriptor} {fault : DescriptorFault}
    (hshape : ShowDescriptor.ofText text = .ok (.column parts))
    (hletters : Column.readLetters parts.letters = .error fault) :
    Fault (column text) (.invalidDescriptor text fault)
  /-- The punctuation pattern is none of the dialect. -/
  | punctuation {pattern : String} (hinvalid : dialect pattern false = none) :
    Fault (punctuation pattern) (.invalidPattern Options.punctuationName)

variable {options dialect}

private theorem readDescriptor_of_shape {descriptor : String} {parts : Descriptor}
    (hshape : Descriptor.ofSearchText descriptor = .ok parts) :
    Criterion.readDescriptor descriptor =
      (Criterion.readLetters parts.letters).map fun meaning => (parts, meaning) := by
  rw [Criterion.readDescriptor, hshape]
  show (do return (parts, ← Criterion.readLetters parts.letters)) = _
  cases Criterion.readLetters parts.letters with
  | error fault => rfl
  | ok meaning => rfl

theorem Fault.fails {part : QueryPart} {error : QueryError}
    (hfault : part.Fault options dialect error) : part.Fails options dialect error := by
  cases hfault with
  | shape hshape =>
      show Criterion.compile _ _ _ _ = _
      rw [Criterion.compile, Criterion.readDescriptor, hshape]
      rfl
  | letters hshape hletters =>
      show Criterion.compile _ _ _ _ = _
      rw [Criterion.compile, readDescriptor_of_shape hshape, hletters]
      rfl
  | regex hshape hletters htext hinvalid =>
      show Criterion.compile _ _ _ _ = _
      rw [Criterion.compile, readDescriptor_of_shape hshape, hletters, Matcher.ofPattern]
      simp only [if_neg htext, hinvalid]
      rfl
  | nested hshape hletters =>
      show Criterion.compile _ _ _ _ = _
      rw [Criterion.compile, readDescriptor_of_shape hshape, hletters]
      rfl
  | columnShape hshape =>
      refine Layout.compile_singleton_eq_error_iff.mpr ?_
      rw [Layout.addText, hshape]
      rfl
  | columnLetters hshape hletters =>
      refine Layout.compile_singleton_eq_error_iff.mpr ?_
      rw [Layout.addText, hshape]
      show Except.mapError _ (do return (⟨false, [← Column.ofDescriptor _]⟩ : Layout)) = _
      rw [Column.ofDescriptor, hletters]
      rfl
  | punctuation hinvalid => exact ⟨hinvalid, rfl⟩

/-- A descriptor that names a role and a feature fails for its pattern only. -/
private theorem fault_of_pattern {descriptor : String} {pattern : Pattern} {parts : Descriptor}
    {meaning : Role × Feature} {error : QueryError}
    (hshape : Descriptor.ofSearchText descriptor = .ok parts)
    (hletters : Criterion.readLetters parts.letters = .ok meaning)
    (hpattern : Matcher.ofPattern descriptor pattern options.caseSensitive dialect =
      .error error) :
    Fault options dialect (criterion descriptor pattern) error := by
  cases pattern with
  | integer value => cases hpattern
  | list items => cases hpattern
  | nested members =>
      cases hpattern
      exact .nested hshape hletters
  | text value =>
      rw [Matcher.ofPattern] at hpattern
      by_cases hwildcard : value = wildcard
      · rw [if_pos hwildcard] at hpattern
        cases hpattern
      · rw [if_neg hwildcard] at hpattern
        cases hregex : dialect value (!options.caseSensitive) with
        | some expression =>
            rw [hregex] at hpattern
            cases hpattern
        | none =>
            rw [hregex] at hpattern
            cases hpattern
            exact .regex hshape hletters hwildcard hregex

private theorem fault_of_criterion {descriptor : String} {pattern : Pattern} {error : QueryError}
    (hcompile : Criterion.compile options descriptor pattern dialect = .error error) :
    Fault options dialect (criterion descriptor pattern) error := by
  rw [Criterion.compile] at hcompile
  cases hshape : Descriptor.ofSearchText descriptor with
  | error fault =>
      rw [Criterion.readDescriptor, hshape] at hcompile
      cases hcompile
      exact .shape hshape
  | ok parts =>
      rw [readDescriptor_of_shape hshape] at hcompile
      cases hletters : Criterion.readLetters parts.letters with
      | error fault =>
          rw [hletters] at hcompile
          cases hcompile
          exact .letters hshape hletters
      | ok meaning =>
          rw [hletters] at hcompile
          -- What is left of compiling fails only where the pattern does.
          cases hpattern : Matcher.ofPattern descriptor pattern options.caseSensitive dialect with
          | error other =>
              simp only [Except.map, Except.mapError, hpattern] at hcompile
              cases hcompile
              exact fault_of_pattern hshape hletters hpattern
          | ok matcher =>
              simp only [Except.map, Except.mapError, hpattern] at hcompile
              cases hcompile

private theorem fault_of_column {text : String} {error : QueryError}
    (hcompile : Layout.compile [text] = .error error) :
    Fault options dialect (column text) error := by
  rw [Layout.compile_singleton_eq_error_iff, Layout.addText] at hcompile
  cases hshape : ShowDescriptor.ofText text with
  | error fault =>
      rw [hshape] at hcompile
      cases hcompile
      exact .columnShape hshape
  | ok shown =>
      rw [hshape] at hcompile
      cases shown with
      | count => cases hcompile
      | column descriptor =>
          have hcolumn : Except.mapError (QueryError.invalidDescriptor text)
              (do return (⟨false, [← Column.ofDescriptor descriptor]⟩ : Layout)) =
                .error error := hcompile
          cases hletters : Column.readLetters descriptor.letters with
          | error fault =>
              rw [Column.ofDescriptor, hletters] at hcolumn
              cases hcolumn
              exact .columnLetters hshape hletters
          | ok meaning =>
              rw [Column.ofDescriptor, hletters] at hcolumn
              cases hcolumn

theorem Fails.fault {part : QueryPart} {error : QueryError}
    (hfails : part.Fails options dialect error) : part.Fault options dialect error := by
  cases part with
  | criterion descriptor pattern => exact fault_of_criterion hfails
  | column text => exact fault_of_column hfails
  | punctuation pattern =>
      obtain ⟨hinvalid, rfl⟩ := hfails
      exact .punctuation hinvalid

/-- What a part is refused for when it is compiled alone. -/
private def refusal? (options : Options) (dialect : Regex.Dialect) :
    QueryPart → Option QueryError
  | criterion descriptor pattern =>
    Concordancer.refusal? (Criterion.compile options descriptor pattern dialect)
  | column text => Concordancer.refusal? (Layout.compile [text])
  | punctuation pattern =>
    if (dialect pattern false).isSome then none else some (.invalidPattern Options.punctuationName)

private theorem fails_iff_refusal? {part : QueryPart} {error : QueryError} :
    part.Fails options dialect error ↔ part.refusal? options dialect = some error := by
  cases part with
  | criterion descriptor pattern => exact refusal?_eq_some_iff.symm
  | column text => exact refusal?_eq_some_iff.symm
  | punctuation pattern =>
      rw [Fails, QueryPart.refusal?]
      cases dialect pattern false with
      | none =>
          rw [Option.isSome_none, if_neg Bool.false_ne_true, Option.some.injEq]
          exact ⟨fun h => h.2.symm, fun h => ⟨rfl, h.symm⟩⟩
      | some expression => exact iff_of_false (fun h => nomatch h.1) nofun

end QueryPart

namespace Query

variable {query : Query} {dialect : Regex.Dialect}

/-- The parts of a query, in the order in which they are compiled. -/
def parts (query : Query) : List QueryPart :=
  query.search.flatten.map (fun (descriptor, pattern) => .criterion descriptor pattern) ++
    (query.exclude.flatten.map (fun (descriptor, pattern) => .criterion descriptor pattern) ++
      (query.shown.map .column ++
        if query.options.stripPunctuation then [.punctuation query.options.punctuationPattern]
        else []))

/-- This is the error of the first part that fails when each is compiled alone. -/
def FirstFailure (query : Query) (dialect : Regex.Dialect) (error : QueryError) : Prop :=
  ∃ earlier part later, query.parts = earlier ++ part :: later ∧
    (∀ other ∈ earlier, ∀ fault, ¬other.Fails query.options dialect fault) ∧
    part.Fails query.options dialect error

private theorem refusal?_compileAll (options : Options) (mapping : SearchMapping) :
    refusal? (Criterion.compileAll options mapping dialect) =
      (mapping.flatten.map fun (descriptor, pattern) =>
        QueryPart.criterion descriptor pattern).findSome? (QueryPart.refusal? options dialect) := by
  rw [List.findSome?_map]
  exact refusal?_mapM _ _

private theorem refusal?_wordFilter (options : Options) :
    refusal? (options.wordFilter dialect) =
      (if options.stripPunctuation then [QueryPart.punctuation options.punctuationPattern]
        else []).findSome? (QueryPart.refusal? options dialect) := by
  unfold Options.wordFilter
  cases options.stripPunctuation with
  | false => rfl
  | true =>
      rw [if_pos rfl, if_pos rfl, List.findSome?_singleton, QueryPart.refusal?]
      cases dialect options.punctuationPattern false with
      | none => rfl
      | some expression => rfl

/-- Compiling a query is a search through its parts for one that fails. -/
private theorem refusal?_compile :
    refusal? (query.compile dialect) =
      query.parts.findSome? (QueryPart.refusal? query.options dialect) := by
  rw [parts, List.findSome?_append, List.findSome?_append, List.findSome?_append,
    ← refusal?_compileAll, ← refusal?_compileAll, ← refusal?_wordFilter, List.findSome?_map]
  have hshown : query.shown.findSome? (QueryPart.refusal? query.options dialect ∘ .column) =
      refusal? (Layout.compile query.shown) := (Layout.refusal?_compile query.shown).symm
  rw [hshown]
  -- No step fails because of what an earlier one has given.
  refine refusal?_bind fun criteria => ?_
  refine refusal?_bind fun exclusions => ?_
  refine refusal?_bind fun layout => ?_
  have hnone : ∀ filter, refusal? (pure ⟨criteria, exclusions, layout, query.options, filter⟩ :
      Except QueryError CompiledQuery) = none := fun _ => rfl
  exact (refusal?_bind hnone).trans Option.or_none

/-- A query is refused for the first of its parts that fails. -/
theorem compile_eq_error_iff {error : QueryError} :
    query.compile dialect = .error error ↔ query.FirstFailure dialect error := by
  rw [← refusal?_eq_some_iff, refusal?_compile, List.findSome?_eq_some_iff, FirstFailure]
  refine exists_congr fun earlier => exists_congr fun part => exists_congr fun later => ?_
  refine and_congr_right fun _ => ?_
  rw [and_comm, QueryPart.fails_iff_refusal?]
  refine and_congr_left fun _ => forall₂_congr fun other _ => ?_
  rw [Option.eq_none_iff_forall_ne_some]
  exact forall_congr' fun fault => not_congr QueryPart.fails_iff_refusal?.symm

-- Of an exclusion with a bad pattern and a bad show descriptor, the exclusion counts.
example :
    refusal? (({ exclude := [("gw", .text "(")], shown := ["!"] } : Query).compile
      fun _ _ => none) = some (.invalidPattern "gw") := by
  decide

/-- A query is refused if some part fails. -/
theorem exists_compile_eq_error_iff :
    (∃ error, query.compile dialect = .error error) ↔
      ∃ part ∈ query.parts, ∃ error, part.Fails query.options dialect error := by
  constructor
  · rintro ⟨error, hcompile⟩
    obtain ⟨earlier, part, later, hparts, -, hfails⟩ := compile_eq_error_iff.mp hcompile
    exact ⟨part, hparts ▸ List.mem_append_right _ List.mem_cons_self, error, hfails⟩
  · rintro ⟨part, hmem, error, hfails⟩
    have hpart : (part.refusal? query.options dialect).isSome :=
      Option.isSome_iff_exists.mpr ⟨error, QueryPart.fails_iff_refusal?.mp hfails⟩
    have hsome : (query.parts.findSome? (QueryPart.refusal? query.options dialect)).isSome :=
      List.findSome?_isSome_iff.mpr ⟨part, hmem, hpart⟩
    obtain ⟨first, hfirst⟩ := Option.isSome_iff_exists.mp hsome
    exact ⟨first, refusal?_eq_some_iff.mp (refusal?_compile.trans hfirst)⟩

/-! ## Running a query -/

variable {lexicon : Lexicon} {corpus : Corpus}

/-- Whatever comes after compiling a query, it does not come about if the query is refused. -/
private theorem outcome_of_compile_eq_error {α : Type} (next : CompiledQuery → Run α)
    {error : QueryError} (hcompile : query.compile dialect = .error error) (signal : Signal) :
    (query.prepare dialect >>= next).outcome signal = (.error error, .start) := by
  unfold prepare
  rw [hcompile]
  rfl

/-- A run that comes to an end begins with a query that compiles. -/
private theorem exists_compile_of_yields {α : Type} {next : CompiledQuery → Run α} {a : α}
    (hyields : (query.prepare dialect >>= next).Yields a) :
    ∃ compiled, query.compile dialect = .ok compiled := by
  cases hcompile : query.compile dialect with
  | error error =>
      have hrefused := outcome_of_compile_eq_error next hcompile .never
      have hboth : (Except.error error : Except QueryError α) = .ok a :=
        (congrArg Prod.fst hrefused).symm.trans (hyields .start)
      contradiction
  | ok compiled => exact ⟨compiled, rfl⟩

/-- If every compiled query runs to an end, refusals are what the other runs end with. -/
private theorem compile_eq_error_iff_outcome {α : Type} {next : CompiledQuery → Run α}
    (hyields : ∀ compiled, query.compile dialect = .ok compiled →
      ∃ a, (query.prepare dialect >>= next).Yields a) (error : QueryError) :
    query.compile dialect = .error error ↔
      ∀ signal, (query.prepare dialect >>= next).outcome signal = (.error error, .start) := by
  refine ⟨outcome_of_compile_eq_error next, fun houtcome => ?_⟩
  cases hcompile : query.compile dialect with
  | error other =>
      have hsame :=
        (outcome_of_compile_eq_error next hcompile .never).symm.trans (houtcome .never)
      rw [Except.error.inj (congrArg Prod.fst hsame)]
  | ok compiled =>
      -- A run that is not told to stop has only one outcome.
      obtain ⟨a, ha⟩ := hyields compiled hcompile
      have hboth : (Except.ok a : Except QueryError α) = .error error :=
        (ha .start).symm.trans (congrArg Prod.fst (houtcome .never))
      contradiction

theorem looks_prepare {compiled : CompiledQuery} (hcompile : query.compile dialect = .ok compiled) :
    (query.prepare dialect).Looks 0 compiled := by
  unfold prepare
  rw [hcompile]
  exact (Run.looks_pure compiled).bind_left
    ((Run.looks_tell _ _).bind_left (Run.looks_pure compiled))

/-- Compiling looks at nothing, so that a run looks as the compiled query does. -/
theorem looks_run {compiled : CompiledQuery} (hcompile : query.compile dialect = .ok compiled)
    (hknows : (compiled.search lexicon corpus).navigator.visible.KnowsIds) :
    (query.run lexicon corpus dialect).Looks (compiled.looks (compiled.search lexicon corpus))
      (compiled.answer (compiled.search lexicon corpus)
        (compiled.matched (compiled.search lexicon corpus)).toList) :=
  (looks_prepare hcompile).bind_right (CompiledQuery.looks_execute hknows)

theorem yields_run {compiled : CompiledQuery} (hcompile : query.compile dialect = .ok compiled)
    (lexicon : Lexicon) (source : String) (sentences : List Sentence) :
    (query.run lexicon (.ofSentences source sentences) dialect).Yields
      (compiled.answer (compiled.search lexicon (.ofSentences source sentences))
        (compiled.matched (compiled.search lexicon (.ofSentences source sentences))).toList) :=
  (looks_run hcompile (VisibleCorpus.knowsIds_ofSentences _ _ _ _)).yields

theorem looks_runChecked {compiled : CompiledQuery}
    (hcompile : query.compile dialect = .ok compiled)
    (hknows : (compiled.search lexicon corpus).navigator.visible.KnowsIds)
    (hfits : compiled.SumsFit lexicon corpus) :
    (query.runChecked lexicon corpus dialect).Looks
      (compiled.looks (compiled.search lexicon corpus))
      (some (compiled.answer (compiled.search lexicon corpus)
        (compiled.matched (compiled.search lexicon corpus)).toList)) :=
  (looks_prepare hcompile).bind_right (CompiledQuery.looks_executeChecked hknows hfits)

theorem yields_runChecked_none {compiled : CompiledQuery}
    (hcompile : query.compile dialect = .ok compiled)
    (hover : ¬compiled.SumsFit lexicon corpus) :
    (query.runChecked lexicon corpus dialect).Yields none := by
  obtain ⟨count, hlooks⟩ := CompiledQuery.looks_executeChecked_none hover
  exact ((looks_prepare hcompile).bind_right hlooks).yields

/-- **A query fails as a whole, early, and for its first fault only.**  In every dialect, a query is
refused if and only if some part of it fails by itself, and for the error of the first part
that does, which is what is found first to be wrong with this part.  It is refused if and only
if its run, against any corpus and under any signal, ends with this error before anything has
happened.  It compiles if and only if its run, when it is not told to stop, ends with an
output.

That is for a build that does not check sums.  A checked run is refused alike, and it ends with
the same output if all sums in it fit in 64 bits.  If they do not, it gives up. -/
theorem refused_iff_faulty (query : Query) (dialect : Regex.Dialect) (lexicon : Lexicon)
    (source : String) (sentences : List Sentence) :
    let corpus : Corpus := .ofSentences source sentences
    let run := query.run lexicon corpus dialect
    let checked := query.runChecked lexicon corpus dialect
    ((∃ error, query.compile dialect = .error error) ↔
      ∃ part ∈ query.parts, ∃ error, part.Fails query.options dialect error) ∧
    (∀ error, query.compile dialect = .error error ↔ query.FirstFailure dialect error) ∧
    (∀ (part : QueryPart) error, part.Fails query.options dialect error ↔
      part.Fault query.options dialect error) ∧
    (∀ error, query.compile dialect = .error error ↔
      ∀ signal, run.outcome signal = (.error error, .start)) ∧
    ((∃ compiled, query.compile dialect = .ok compiled) ↔ ∃ output, run.Yields output) ∧
    (∀ error, query.compile dialect = .error error ↔
      ∀ signal, checked.outcome signal = (.error error, .start)) ∧
    ∀ compiled, query.compile dialect = .ok compiled → ∃ output, run.Yields output ∧
      (compiled.SumsFit lexicon corpus → checked.Yields (some output)) ∧
      (¬compiled.SumsFit lexicon corpus → checked.Yields none) := by
  intro corpus run checked
  have hyields : ∀ compiled, query.compile dialect = .ok compiled → ∃ output, run.Yields output ∧
      (compiled.SumsFit lexicon corpus → checked.Yields (some output)) ∧
      (¬compiled.SumsFit lexicon corpus → checked.Yields none) := by
    intro compiled hcompile
    have hknows := VisibleCorpus.knowsIds_ofSentences compiled.filter lexicon source sentences
    exact ⟨_, yields_run hcompile lexicon source sentences,
      fun hfits => (looks_runChecked hcompile hknows hfits).yields,
      yields_runChecked_none hcompile⟩
  have houtput : ∀ compiled, query.compile dialect = .ok compiled → ∃ output, run.Yields output :=
    fun compiled hcompile => (hyields compiled hcompile).imp fun _ => And.left
  -- A checked run of a compiled query ends in any case, if with no output.
  have hresult : ∀ compiled, query.compile dialect = .ok compiled →
      ∃ result, checked.Yields result := by
    intro compiled hcompile
    obtain ⟨output, -, hfits, hover⟩ := hyields compiled hcompile
    by_cases hsums : compiled.SumsFit lexicon corpus
    · exact ⟨_, hfits hsums⟩
    · exact ⟨_, hover hsums⟩
  exact ⟨exists_compile_eq_error_iff, fun _ => compile_eq_error_iff,
    fun _ _ => ⟨QueryPart.Fails.fault, QueryPart.Fault.fails⟩,
    compile_eq_error_iff_outcome houtput,
    ⟨fun ⟨compiled, hcompile⟩ => houtput compiled hcompile,
      fun ⟨_, houtput⟩ => exists_compile_of_yields houtput⟩,
    compile_eq_error_iff_outcome hresult, hyields⟩

/-- Shows *He* beside each word that is no further from it than `radius`. -/
def besideHe (radius : Nat) : Query where
  search := [("w", .list [.text "He"])]
  shown := ["bw"]
  options := { caseSensitive := true, windowRadius := radius }

/-- What this query compiles to. -/
def compiledBesideHe (radius : Nat) : CompiledQuery where
  criteria := [⟨"w", .self, .word, none, false, .literals ["He"] true⟩]
  exclusions := []
  layout := ⟨false, [⟨some .window, none, [], .word⟩]⟩
  options := (besideHe radius).options
  filter := .none

theorem compile_besideHe (radius : Nat) :
    (besideHe radius).compile (fun _ _ => none) = .ok (compiledBesideHe radius) := rfl

/-- One sentence, *He swims*. -/
def swim : Treebank where
  source := "tale"
  parses := [
    { id := 1
      rows := [
        .parsed 1 "He" "he" "PRP" 2 "nsubj",
        .parsed 2 "swims" "swim" "VBZ" 0 "root"]
      metadata := ∅ }]

theorem refused_iff_faulty_swim :
    (besideHe 1).compile (fun _ _ => none) = .ok (compiledBesideHe 1) ∧
      (compiledBesideHe 1).SumsFit .penn swim.corpus ∧
      ∃ output, ((besideHe 1).run .penn swim.corpus fun _ _ => none).Yields output ∧
        ((besideHe 1).runChecked .penn swim.corpus fun _ _ => none).Yields (some output) := by
  have hnumbered : swim.WellNumbered := by decide
  have hfits : (compiledBesideHe 1).SumsFit .penn swim.corpus := by
    refine .inr ⟨by decide, fun ref _ visible hvisible => ?_⟩
    obtain ⟨parse, hparse, -, rfl⟩ :=
      (Treebank.sentence?_visible (compiledBesideHe 1).filter .penn hnumbered).mp hvisible
    obtain rfl := List.mem_singleton.mp hparse
    exact Repetition.fits_of_size_lt (hnumbered.parses _ List.mem_cons_self) (by decide +kernel)
      (by decide +kernel) ref
  obtain ⟨-, -, -, -, -, -, hcompiled⟩ := refused_iff_faulty (besideHe 1) (fun _ _ => none) .penn
    swim.source (swim.parses.map Parse.sentence)
  obtain ⟨output, houtput, hchecked, -⟩ := hcompiled _ (compile_besideHe 1)
  exact ⟨compile_besideHe 1, hfits, output, houtput, hchecked hfits⟩

/-- Half of `sizeLimit`. -/
def wideRadius : Nat := 9223372036854775808

/-- The window has more places than there are numbers of 64 bits.  A checked run gives up, and one
that does not check has one place left, where there is nothing to show.  A smaller window shows
what is beside *He*. -/
theorem wide_window_overflows :
    (∃ compiled, (besideHe wideRadius).compile (fun _ _ => none) = .ok compiled) ∧
      (¬∃ output, ((besideHe wideRadius).runChecked .penn swim.corpus fun _ _ => none).Yields
        (some output)) ∧
      ((besideHe wideRadius).run .penn swim.corpus fun _ _ => none).Yields ⟨.texts [], []⟩ ∧
      ((besideHe 1).run .penn swim.corpus fun _ _ => none).Yields ⟨.texts ["He_swims"], []⟩ := by
  have hrun : ∀ radius, ((besideHe radius).run .penn swim.corpus fun _ _ => none).Yields
      ((compiledBesideHe radius).answer ((compiledBesideHe radius).search .penn swim.corpus)
        ((compiledBesideHe radius).matched
          ((compiledBesideHe radius).search .penn swim.corpus)).toList) :=
    fun radius =>
      yields_run (compile_besideHe radius) .penn swim.source (swim.parses.map Parse.sentence)
  have hnothing : (compiledBesideHe wideRadius).answer
      ((compiledBesideHe wideRadius).search .penn swim.corpus)
      ((compiledBesideHe wideRadius).matched
        ((compiledBesideHe wideRadius).search .penn swim.corpus)).toList = ⟨.texts [], []⟩ := by
    decide +kernel
  have hpair : (compiledBesideHe 1).answer ((compiledBesideHe 1).search .penn swim.corpus)
      ((compiledBesideHe 1).matched
        ((compiledBesideHe 1).search .penn swim.corpus)).toList = ⟨.texts ["He_swims"], []⟩ := by
    decide +kernel
  have hover : ¬(compiledBesideHe wideRadius).SumsFit .penn swim.corpus := by
    rintro (hcount | ⟨htotal, -⟩)
    · cases hcount
    · exact absurd htotal (by decide)
  refine ⟨⟨_, compile_besideHe wideRadius⟩, ?_, hnothing ▸ hrun wideRadius, hpair ▸ hrun 1⟩
  rintro ⟨output, houtput⟩
  cases houtput.unique (yields_runChecked_none (compile_besideHe wideRadius) hover)

end Query

end Concordancer
