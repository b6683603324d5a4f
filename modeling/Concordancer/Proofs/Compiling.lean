import Concordancer.Engine
import Mathlib.Data.List.Forall2

/-!
# Queries that compile

A query compiles part by part, and each part to what it compiles to by itself
(`Query.compile_eq_ok_iff`).  A criterion takes its role, feature and adjacency from its
descriptor, its matcher from its pattern, and only the treatment of case and of mentions
from the options (`Criterion.compile_eq_ok_iff`).  So all criteria of a query treat mentions
alike (`expandsCoreference_of_compile`).
-/

namespace Concordancer

section Steps

variable {ε α β : Type}

theorem bind_eq_ok_iff {first : Except ε α} {next : α → Except ε β} {b : β} :
    first >>= next = .ok b ↔ ∃ a, first = .ok a ∧ next a = .ok b := by
  cases first with
  | error fault =>
      constructor
      · intro hfault
        cases hfault
      · rintro ⟨_, hfault, -⟩
        cases hfault
  | ok a =>
      constructor
      · exact fun hnext => ⟨a, rfl, hnext⟩
      · rintro ⟨_, hok, hnext⟩
        cases hok
        exact hnext

/-- Steps that follow one another fail where the first of them does that fails. -/
theorem bind_eq_error_iff {first : Except ε α} {next : α → Except ε β} {error : ε} :
    first >>= next = .error error ↔
      first = .error error ∨ ∃ a, first = .ok a ∧ next a = .error error := by
  cases first with
  | error other =>
      constructor
      · exact fun hother => .inl (congrArg Except.error (Except.error.inj hother))
      · rintro (hother | ⟨_, hok, -⟩)
        · exact congrArg Except.error (Except.error.inj hother)
        · cases hok
  | ok a =>
      constructor
      · exact fun hnext => .inr ⟨a, rfl, hnext⟩
      · rintro (hfault | ⟨_, hok, hnext⟩)
        · cases hfault
        · cases hok
          exact hnext

theorem map_eq_ok_iff {f : α → β} {result : Except ε α} {b : β} :
    result.map f = .ok b ↔ ∃ a, result = .ok a ∧ f a = b := by
  cases result with
  | error fault => exact iff_of_false nofun nofun
  | ok a => simp only [Except.map, Except.ok.injEq, exists_eq_left']

theorem mapError_eq_ok_iff {ε' : Type} {f : ε → ε'} {result : Except ε α} {a : α} :
    result.mapError f = .ok a ↔ result = .ok a := by
  cases result with
  | error fault => exact iff_of_false nofun nofun
  | ok b => rw [Except.mapError, Except.ok.injEq, Except.ok.injEq]

theorem mapM_eq_ok_iff {f : α → Except ε β} {elements : List α} {results : List β} :
    elements.mapM f = .ok results ↔
      List.Forall₂ (fun element result => f element = .ok result) elements results := by
  induction elements generalizing results with
  | nil =>
      rw [List.mapM_nil, List.forall₂_nil_left_iff]
      exact ⟨fun hnil => (Except.ok.inj hnil).symm, fun hnil => hnil ▸ rfl⟩
  | cons first rest ih =>
      rw [List.mapM_cons, bind_eq_ok_iff, List.forall₂_cons_left_iff]
      constructor
      · rintro ⟨result, hfirst, hrest⟩
        obtain ⟨further, hfurther, hresults⟩ := bind_eq_ok_iff.mp hrest
        exact ⟨result, further, hfirst, ih.mp hfurther, (Except.ok.inj hresults).symm⟩
      · rintro ⟨result, further, hfirst, hfurther, rfl⟩
        exact ⟨result, hfirst, bind_eq_ok_iff.mpr ⟨further, ih.mpr hfurther, rfl⟩⟩

end Steps

variable {options : Options} {dialect : Regex.Dialect}

/-! ## Criteria -/

namespace Criterion

/-- A criterion compiles from what its descriptor means and what its pattern compiles to. -/
theorem compile_eq_ok_iff {descriptor : String} {pattern : Pattern} {criterion : Criterion} :
    compile options descriptor pattern dialect = .ok criterion ↔
      ∃ parts role feature matcher,
        readDescriptor descriptor = .ok (parts, role, feature) ∧
        Matcher.ofPattern descriptor pattern options.caseSensitive dialect = .ok matcher ∧
        criterion = ⟨descriptor, role, feature, parts.adjacency, options.coreference, matcher⟩ := by
  unfold compile
  rw [bind_eq_ok_iff]
  constructor
  · rintro ⟨⟨parts, role, feature⟩, hmeaning, hrest⟩
    obtain ⟨matcher, hmatcher, hcriterion⟩ := bind_eq_ok_iff.mp hrest
    exact ⟨parts, role, feature, matcher, mapError_eq_ok_iff.mp hmeaning, hmatcher,
      (Except.ok.inj hcriterion).symm⟩
  · rintro ⟨parts, role, feature, matcher, hmeaning, hmatcher, rfl⟩
    exact ⟨(parts, role, feature), mapError_eq_ok_iff.mpr hmeaning,
      bind_eq_ok_iff.mpr ⟨matcher, hmatcher, rfl⟩⟩

theorem exists_compile_of_mem {mapping : SearchMapping} {criteria : List Criterion}
    (hcompile : compileAll options mapping dialect = .ok criteria) {criterion : Criterion}
    (hmem : criterion ∈ criteria) :
    ∃ entry ∈ mapping.flatten, compile options entry.1 entry.2 dialect = .ok criterion := by
  have hall := mapM_eq_ok_iff.mp hcompile
  obtain ⟨place, hplace, rfl⟩ := List.getElem_of_mem hmem
  have hbound : place < mapping.flatten.length := hall.length_eq ▸ hplace
  exact ⟨_, List.getElem_mem hbound, hall.get hbound hplace⟩

end Criterion

/-! ## Queries -/

namespace Query

variable {source : Query} {query : CompiledQuery}

/-- A query compiles to what its parts compile to. -/
theorem compile_eq_ok_iff :
    source.compile dialect = .ok query ↔
      Criterion.compileAll source.options source.search dialect = .ok query.criteria ∧
      Criterion.compileAll source.options source.exclude dialect = .ok query.exclusions ∧
      Layout.compile source.shown = .ok query.layout ∧
      source.options.wordFilter dialect = .ok query.filter ∧ source.options = query.options := by
  unfold compile
  simp only [bind_eq_ok_iff]
  constructor
  · rintro ⟨criteria, hcriteria, exclusions, hexclusions, layout, hlayout, filter, hfilter, hquery⟩
    cases hquery
    exact ⟨hcriteria, hexclusions, hlayout, hfilter, rfl⟩
  · rintro ⟨hcriteria, hexclusions, hlayout, hfilter, hoptions⟩
    refine ⟨_, hcriteria, _, hexclusions, _, hlayout, _, hfilter, ?_⟩
    rw [hoptions]
    rfl

/-- With coreference, every criterion that is searched for or excluded holds for all mentions. -/
theorem expandsCoreference_of_compile (hcompile : source.compile dialect = .ok query)
    {criterion : Criterion} (hmem : criterion ∈ query.criteria ++ query.exclusions) :
    criterion.expandsCoreference = source.options.coreference := by
  obtain ⟨hcriteria, hexclusions, -⟩ := compile_eq_ok_iff.mp hcompile
  obtain ⟨entry, hentry⟩ : ∃ entry : String × Pattern,
      Criterion.compile source.options entry.1 entry.2 dialect = .ok criterion := by
    rcases List.mem_append.mp hmem with hmem | hmem
    · obtain ⟨entry, -, hentry⟩ := Criterion.exists_compile_of_mem hcriteria hmem
      exact ⟨entry, hentry⟩
    · obtain ⟨entry, -, hentry⟩ := Criterion.exists_compile_of_mem hexclusions hmem
      exact ⟨entry, hentry⟩
  obtain ⟨_, _, _, _, -, -, rfl⟩ := Criterion.compile_eq_ok_iff.mp hentry
  rfl

end Query

end Concordancer
