import Concordancer.OrderedSet
import Concordancer.Query.Pattern
import Mathlib.Algebra.Group.Int.Defs
import Mathlib.Data.List.Forall2
import Mathlib.Data.List.Induction

/-!
# JSON values that are patterns

A JSON value is a pattern if it is an integer of 64 bits, a text, an array of these, or an object
all of whose values are patterns, nested in any way (`Json.IsPattern`).  The pattern that it stands
for looks like it (`Pattern.Mirrors`).  In an object, names may be repeated; the mapping that it
stands for has each name once, where it is given first, with the value that is given last.  This
holds at every level, and the values that others replace have to be patterns, too.

Together, the two say which values are read as patterns and as which (`ofJson?_eq_some_iff`): there
is no value that is taken for one of another shape.

## Strategy

A mapping is filled from its pairs in their order, so that what is said of it is shown by induction
from the last pair (`map_fst_ofPairs`, `lookup_ofPairs`).  On values, the induction has one case
for each of their shapes, and only objects have values inside that matter (`Json.induction`).
-/

namespace Concordancer

/-! ## Mappings -/

private theorem lookup_cons {α : Type} (name other : String) (value : α)
    (rest : List (String × α)) :
    List.lookup name ((other, value) :: rest) =
      if name = other then some value else rest.lookup name := by
  rw [List.lookup_cons]
  by_cases hname : name = other
  · rw [if_pos hname, beq_iff_eq.mpr hname]
  · rw [if_neg hname, beq_eq_false_iff_ne.mpr hname]

private theorem mem_of_lookup_eq_some {α : Type} {name : String} {value : α}
    {entries : List (String × α)} (hlookup : entries.lookup name = some value) :
    (name, value) ∈ entries := by
  obtain ⟨_, _, rfl, -⟩ := List.lookup_eq_some_iff.mp hlookup
  exact List.mem_append_right _ List.mem_cons_self

private theorem exists_lookup_iff {α : Type} {name : String} {entries : List (String × α)} :
    (∃ value, entries.lookup name = some value) ↔ name ∈ entries.map Prod.fst := by
  rw [← Option.isSome_iff_exists, List.lookup_isSome_iff, List.mem_map]
  simp only [beq_iff_eq, eq_comm (a := name)]

private theorem lookup_eq_none_of_not_mem {α : Type} {name : String}
    {entries : List (String × α)} (hname : name ∉ entries.map Prod.fst) :
    entries.lookup name = none :=
  Option.eq_none_iff_forall_ne_some.mpr fun value hvalue =>
    hname (exists_lookup_iff.mp ⟨value, hvalue⟩)

/-- Where no name is repeated, entries are known from the order of names and from what is found
under them. -/
private theorem eq_of_lookup_eq {α : Type} {first second : List (String × α)}
    (hnames : first.map Prod.fst = second.map Prod.fst) (hnodup : (first.map Prod.fst).Nodup)
    (hlookup : ∀ name, first.lookup name = second.lookup name) : first = second := by
  induction first generalizing second with
  | nil => exact (List.map_eq_nil_iff.mp hnames.symm).symm
  | cons entry rest ih =>
      obtain ⟨name, value⟩ := entry
      obtain ⟨⟨other, given⟩, others, rfl, hname, hrest⟩ := List.map_eq_cons_iff.mp hnames.symm
      obtain rfl : name = other := hname.symm
      obtain ⟨hnew, hdistinct⟩ := List.nodup_cons.mp hnodup
      simp only [lookup_cons] at hlookup
      have hvalue := hlookup name
      rw [if_pos rfl, if_pos rfl, Option.some.injEq] at hvalue
      have hothers : ∀ further, rest.lookup further = others.lookup further := by
        intro further
        by_cases hsame : further = name
        · rw [hsame, lookup_eq_none_of_not_mem hnew, lookup_eq_none_of_not_mem (hrest ▸ hnew)]
        · have hfound := hlookup further
          rw [if_neg hsame, if_neg hsame] at hfound
          exact hfound
      rw [hvalue, ih hrest.symm hdistinct hothers]

namespace SearchMapping

theorem map_fst_insert (mapping : SearchMapping) (descriptor : String) (pattern : Pattern) :
    (mapping.insert descriptor pattern).map Prod.fst =
      if descriptor ∈ mapping.map Prod.fst then mapping.map Prod.fst
      else mapping.map Prod.fst ++ [descriptor] := by
  induction mapping with
  | nil => rfl
  | cons entry rest ih =>
      obtain ⟨other, earlier⟩ := entry
      rw [insert]
      by_cases hsame : other = descriptor
      · have hmem : descriptor ∈ ((other, earlier) :: rest).map Prod.fst :=
          List.mem_cons.mpr (.inl hsame.symm)
        rw [if_pos hsame, if_pos hmem, ← hsame]
        rfl
      · have hmem : descriptor ∈ ((other, earlier) :: rest).map Prod.fst ↔
            descriptor ∈ rest.map Prod.fst := by
          rw [List.map_cons, List.mem_cons, or_iff_right (Ne.symm hsame)]
        rw [if_neg hsame, List.map_cons, ih, if_congr hmem rfl rfl]
        split
        · rfl
        · rfl

theorem lookup_insert (mapping : SearchMapping) (descriptor name : String) (pattern : Pattern) :
    (mapping.insert descriptor pattern).lookup name =
      if name = descriptor then some pattern else mapping.lookup name := by
  induction mapping with
  | nil => exact lookup_cons name descriptor pattern []
  | cons entry rest ih =>
      obtain ⟨other, earlier⟩ := entry
      rw [insert]
      by_cases hsame : other = descriptor
      · rw [if_pos hsame, hsame, lookup_cons, lookup_cons]
        by_cases hname : name = descriptor
        · rw [if_pos hname, if_pos hname]
        · rw [if_neg hname, if_neg hname, if_neg hname]
      · rw [if_neg hsame, lookup_cons, lookup_cons, ih]
        by_cases hname : name = other
        · have hother : ¬ name = descriptor := fun hdescriptor => hsame (hname ▸ hdescriptor)
          rw [if_pos hname, if_neg hother, if_pos hname]
        · rw [if_neg hname, if_neg hname]

/-- One more pair is given to the mapping of those before it. -/
theorem ofPairs_concat (pairs : List (String × Pattern)) (descriptor : String)
    (pattern : Pattern) :
    ofPairs (pairs ++ [(descriptor, pattern)]) = (ofPairs pairs).insert descriptor pattern := by
  rw [ofPairs, List.foldl_append]
  rfl

/-- Descriptors stand where they are given first. -/
theorem map_fst_ofPairs (pairs : List (String × Pattern)) :
    (ofPairs pairs).map Prod.fst = (pairs.map Prod.fst).eraseDups := by
  induction pairs using List.reverseRecOn with
  | nil => rfl
  | append_singleton pairs pair ih =>
      obtain ⟨descriptor, pattern⟩ := pair
      rw [ofPairs_concat, map_fst_insert, ih, List.map_append, List.eraseDups_append]
      simp only [List.mem_eraseDups, List.map_cons, List.map_nil]
      by_cases hgiven : descriptor ∈ pairs.map Prod.fst
      · rw [if_pos hgiven]
        simp [List.removeAll, hgiven]
      · rw [if_neg hgiven]
        simp [List.removeAll, hgiven, List.eraseDups_cons]

/-- A descriptor has the pattern that is given to it last. -/
theorem lookup_ofPairs (pairs : List (String × Pattern)) (name : String) :
    (ofPairs pairs).lookup name = pairs.reverse.lookup name := by
  induction pairs using List.reverseRecOn with
  | nil => rfl
  | append_singleton pairs pair ih =>
      obtain ⟨descriptor, pattern⟩ := pair
      rw [ofPairs_concat, lookup_insert, ih, List.reverse_append, List.reverse_singleton,
        List.singleton_append, lookup_cons]

end SearchMapping

/-! ## Equality of values -/

namespace Json

mutual

/-- Are two values the same, members of objects in the same order? -/
def same : Json → Json → Bool
  | null, null => true
  | bool first, bool second => first == second
  | integer first, integer second => first == second
  | real, real => true
  | string first, string second => first == second
  | array first, array second => sameItems first second
  | object first, object second => sameMembers first second
  | _, _ => false

def sameItems : List Json → List Json → Bool
  | [], [] => true
  | first :: firsts, second :: seconds => same first second && sameItems firsts seconds
  | _, _ => false

def sameMembers : List (String × Json) → List (String × Json) → Bool
  | [], [] => true
  | (name, first) :: firsts, (other, second) :: seconds =>
    name == other && same first second && sameMembers firsts seconds
  | _, _ => false

end

mutual

theorem same_iff : (first second : Json) → (same first second = true ↔ first = second)
  | .array first, second => by
      cases second with
      | array second => rw [same, sameItems_iff, array.injEq]
      | _ => simp [same]
  | .object first, second => by
      cases second with
      | object second => rw [same, sameMembers_iff, object.injEq]
      | _ => simp [same]
  | .null, second => by cases second <;> simp [same]
  | .bool _, second => by cases second <;> simp [same]
  | .integer _, second => by cases second <;> simp [same]
  | .real, second => by cases second <;> simp [same]
  | .string _, second => by cases second <;> simp [same]

theorem sameItems_iff : (first second : List Json) →
    (sameItems first second = true ↔ first = second)
  | [], [] => by simp [sameItems]
  | [], second :: seconds => by simp [sameItems]
  | first :: firsts, [] => by simp [sameItems]
  | first :: firsts, second :: seconds => by
      rw [sameItems, Bool.and_eq_true, same_iff, sameItems_iff, List.cons.injEq]

theorem sameMembers_iff : (first second : List (String × Json)) →
    (sameMembers first second = true ↔ first = second)
  | [], [] => by simp [sameMembers]
  | [], second :: seconds => by simp [sameMembers]
  | first :: firsts, [] => by simp [sameMembers]
  | (name, first) :: firsts, (other, second) :: seconds => by
      rw [sameMembers, Bool.and_eq_true, Bool.and_eq_true, same_iff, sameMembers_iff, beq_iff_eq,
        List.cons.injEq, Prod.mk.injEq]

end

instance : DecidableEq Json := fun first second => decidable_of_iff _ (same_iff first second)

end Json

/-! ## Values that are patterns -/

namespace Json

/-- An integer of 64 bits, or a text. -/
inductive IsLiteral : Json → Prop
  | integer {number : Int} (hrange : -2 ^ 63 ≤ number ∧ number < 2 ^ 63) :
    IsLiteral (.integer number)
  | string (text : String) : IsLiteral (.string text)

/-- A literal, an array of literals, or an object all of whose values are again patterns. -/
inductive IsPattern : Json → Prop
  | literal {value : Json} (hliteral : value.IsLiteral) : IsPattern value
  | array {items : List Json} (hitems : ∀ item ∈ items, item.IsLiteral) : IsPattern (.array items)
  | object {members : List (String × Json)}
    (hmembers : ∀ name value, (name, value) ∈ members → value.IsPattern) :
    IsPattern (.object members)

/-- The names of the members of an object, each where it is given first. -/
def names (members : List (String × Json)) : List String := (members.map Prod.fst).eraseDups

/-- The value that is given to a name last. -/
def given? (members : List (String × Json)) (name : String) : Option Json :=
  members.reverse.lookup name

theorem exists_given?_iff {members : List (String × Json)} {name : String} :
    (∃ value, given? members name = some value) ↔ name ∈ names members := by
  simp only [given?, exists_lookup_iff, names, List.mem_eraseDups, List.map_reverse,
    List.mem_reverse]

/-- What holds for all values but objects, and for an object if it holds for its values, holds for
every value. -/
theorem induction {motive : Json → Prop} (null : motive .null)
    (bool : ∀ value, motive (.bool value)) (integer : ∀ number, motive (.integer number))
    (real : motive .real) (string : ∀ text, motive (.string text))
    (array : ∀ items, motive (.array items))
    (object : ∀ members, (∀ name value, (name, value) ∈ members → motive value) →
      motive (.object members)) (value : Json) : motive value :=
  match value with
  | .null => null
  | .bool value => bool value
  | .integer number => integer number
  | .real => real
  | .string text => string text
  | .array items => array items
  | .object members => object members fun _ value _ =>
      induction null bool integer real string array object value
termination_by value
decreasing_by
  rename_i hmem
  have hsmaller := List.sizeOf_lt_of_mem hmem
  simp only [Prod.mk.sizeOf_spec, Json.object.sizeOf_spec] at hsmaller ⊢
  omega

end Json

/-! ## Patterns that mirror values -/

/-- The literal is written as this value. -/
inductive Literal.Mirrors : Literal → Json → Prop
  | integer (number : Int) : Mirrors (.integer number) (.integer number)
  | text (text : String) : Mirrors (.text text) (.string text)

/-- The pattern looks like this value.  Of an object it has the names, each where it is given
first, and for each of them a pattern that looks like the value given last. -/
inductive Pattern.Mirrors : Pattern → Json → Prop
  | integer (number : Int) : Mirrors (.integer number) (.integer number)
  | text (text : String) : Mirrors (.text text) (.string text)
  | list {literals : List Literal} {items : List Json}
    (hitems : List.Forall₂ Literal.Mirrors literals items) : Mirrors (.list literals) (.array items)
  | nested {mapping : SearchMapping} {members : List (String × Json)}
    (hnames : mapping.map Prod.fst = Json.names members)
    (hvalues : ∀ name pattern value, mapping.lookup name = some pattern →
      Json.given? members name = some value → Mirrors pattern value) :
    Mirrors (.nested mapping) (.object members)

/-! ## What values are read as -/

private theorem exists_forall₂_iff {α β : Type} {related : α → β → Prop} {elements : List α} :
    (∃ others, List.Forall₂ related elements others) ↔
      ∀ element ∈ elements, ∃ other, related element other := by
  induction elements with
  | nil => exact iff_of_true ⟨[], .nil⟩ fun _ hmem => absurd hmem List.not_mem_nil
  | cons element rest ih =>
      rw [List.forall_mem_cons, ← ih]
      constructor
      · rintro ⟨_, hfirst | ⟨hfirst, hrest⟩⟩
        exact ⟨⟨_, hfirst⟩, _, hrest⟩
      · rintro ⟨⟨other, hfirst⟩, others, hrest⟩
        exact ⟨other :: others, .cons hfirst hrest⟩

theorem Json.IsLiteral.exists_mirrors {value : Json} (hliteral : value.IsLiteral) :
    ∃ literal : Literal, literal.Mirrors value := by
  cases hliteral with
  | integer _ => exact ⟨_, .integer _⟩
  | string text => exact ⟨_, .text text⟩

theorem inPatternRange_iff {number : Int} :
    inPatternRange number = true ↔ -2 ^ 63 ≤ number ∧ number < 2 ^ 63 := by
  rw [inPatternRange, Bool.and_eq_true, decide_eq_true_eq, decide_eq_true_eq]
  omega

theorem Literal.Mirrors.unique : Relator.LeftUnique Literal.Mirrors := by
  rintro literal other value ⟨⟩ ⟨⟩
  · rfl
  · rfl

/-- Literals are read as the literals that are written so. -/
theorem Literal.ofJson?_eq_some_iff {value : Json} {literal : Literal} :
    ofJson? value = some literal ↔ value.IsLiteral ∧ literal.Mirrors value := by
  constructor
  · intro hread
    cases value with
    | integer number =>
        obtain ⟨hrange, hliteral⟩ := Option.ite_none_right_eq_some.mp hread
        cases hliteral
        exact ⟨.integer (inPatternRange_iff.mp hrange), .integer number⟩
    | string text =>
        cases hread
        exact ⟨.string text, .text text⟩
    | _ => cases hread
  · rintro ⟨hliteral, hmirrors⟩
    cases hmirrors with
    | text text => rfl
    | integer number =>
        cases hliteral with
        | integer hrange => exact if_pos (inPatternRange_iff.mpr hrange)

/-- The items of an array are read as a list of literals, one for each. -/
theorem Literal.mapM_ofJson?_eq_some_iff {items : List Json} {literals : List Literal} :
    items.mapM ofJson? = some literals ↔
      (∀ item ∈ items, item.IsLiteral) ∧ List.Forall₂ Literal.Mirrors literals items := by
  induction items generalizing literals with
  | nil =>
      rw [List.mapM_nil, List.forall₂_nil_right_iff]
      constructor
      · rintro ⟨⟩
        exact ⟨fun _ hitem => absurd hitem List.not_mem_nil, rfl⟩
      · rintro ⟨-, rfl⟩
        rfl
  | cons item rest ih =>
      rw [List.mapM_cons, List.forall_mem_cons, List.forall₂_cons_right_iff]
      simp only [Option.bind_eq_bind, Option.bind_eq_some_iff, Option.pure_def, Option.some.injEq,
        ofJson?_eq_some_iff, ih]
      constructor
      · rintro ⟨literal, ⟨hitem, hfirst⟩, further, ⟨hitems, hfurther⟩, rfl⟩
        exact ⟨⟨hitem, hitems⟩, literal, further, hfirst, hfurther, rfl⟩
      · rintro ⟨⟨hitem, hitems⟩, literal, further, hfirst, hfurther, rfl⟩
        exact ⟨literal, ⟨hitem, hfirst⟩, further, ⟨hitems, hfurther⟩, rfl⟩

namespace Pattern

/-- The member has the name and the pattern of the pair. -/
def ReadsPair (member : String × Json) (pair : String × Pattern) : Prop :=
  pair.1 = member.1 ∧ ofJson? member.2 = some pair.2

theorem ofMembers?_eq_some_iff {members : List (String × Json)}
    {pairs : List (String × Pattern)} :
    ofMembers? members = some pairs ↔ List.Forall₂ ReadsPair members pairs := by
  induction members generalizing pairs with
  | nil =>
      rw [ofMembers?, List.forall₂_nil_left_iff, Option.some.injEq, eq_comm]
  | cons member rest ih =>
      obtain ⟨name, value⟩ := member
      rw [ofMembers?, List.forall₂_cons_left_iff]
      simp only [Option.bind_eq_bind, Option.bind_eq_some_iff, Option.some.injEq, ih]
      constructor
      · rintro ⟨pattern, hpattern, further, hfurther, rfl⟩
        exact ⟨(name, pattern), further, ⟨rfl, hpattern⟩, hfurther, rfl⟩
      · rintro ⟨⟨_, pattern⟩, further, ⟨rfl, hpattern⟩, hfurther, rfl⟩
        exact ⟨pattern, hpattern, further, hfurther, rfl⟩

theorem map_fst_of_forall₂ {members : List (String × Json)} {pairs : List (String × Pattern)}
    (hpairs : List.Forall₂ ReadsPair members pairs) :
    pairs.map Prod.fst = members.map Prod.fst := by
  induction hpairs with
  | nil => rfl
  | cons hfirst _ ih => rw [List.map_cons, List.map_cons, hfirst.1, ih]

theorem lookup_of_forall₂ {members : List (String × Json)} {pairs : List (String × Pattern)}
    (hpairs : List.Forall₂ ReadsPair members pairs) (name : String) :
    pairs.lookup name = (members.lookup name).bind ofJson? := by
  induction hpairs with
  | nil => rfl
  | @cons member pair members pairs hfirst _ ih =>
      obtain ⟨hname, hpattern⟩ := hfirst
      obtain ⟨other, value⟩ := member
      obtain ⟨_, pattern⟩ := pair
      obtain rfl := hname
      rw [lookup_cons, lookup_cons, ih]
      split
      · exact hpattern.symm
      · rfl

theorem exists_readsPair_iff {member : String × Json} :
    (∃ pair, ReadsPair member pair) ↔ ∃ pattern, ofJson? member.2 = some pattern :=
  ⟨fun ⟨pair, hpair⟩ => ⟨pair.2, hpair.2⟩, fun ⟨pattern, hpattern⟩ =>
    ⟨(member.1, pattern), rfl, hpattern⟩⟩

/-- An object is read as the mapping of its members, in their order. -/
theorem ofJson?_object_eq_some_iff {members : List (String × Json)} {pattern : Pattern} :
    ofJson? (.object members) = some pattern ↔
      ∃ pairs, List.Forall₂ ReadsPair members pairs ∧
        nested (SearchMapping.ofPairs pairs) = pattern := by
  rw [ofJson?, Option.map_eq_some_iff]
  simp only [ofMembers?_eq_some_iff]

theorem exists_ofJson?_object_iff {members : List (String × Json)} :
    (∃ pattern, ofJson? (.object members) = some pattern) ↔
      ∀ name value, (name, value) ∈ members → ∃ pattern, ofJson? value = some pattern := by
  simp only [ofJson?_object_eq_some_iff]
  rw [exists_comm]
  simp only [exists_and_left, exists_eq', and_true, exists_forall₂_iff, exists_readsPair_iff,
    Prod.forall]

/-- Read are the values that are patterns, and no others. -/
theorem exists_ofJson?_iff (value : Json) :
    (∃ pattern, ofJson? value = some pattern) ↔ value.IsPattern := by
  constructor
  · induction value using Json.induction with
    | integer number =>
        rintro ⟨pattern, hread⟩
        obtain ⟨hrange, -⟩ := Option.ite_none_right_eq_some.mp hread
        exact .literal (.integer (inPatternRange_iff.mp hrange))
    | string text => exact fun _ => .literal (.string text)
    | array items =>
        rintro ⟨pattern, hread⟩
        obtain ⟨literals, hliterals, -⟩ := Option.map_eq_some_iff.mp hread
        exact .array (Literal.mapM_ofJson?_eq_some_iff.mp hliterals).1
    | object members ih =>
        intro hread
        have hvalues := exists_ofJson?_object_iff.mp hread
        exact .object fun name value hmem => ih name value hmem (hvalues name value hmem)
    -- Null, truth values and real numbers are no patterns.
    | _ =>
        rintro ⟨pattern, hread⟩
        cases hread
  · intro hpattern
    induction hpattern with
    | literal hliteral =>
        cases hliteral with
        | integer hrange => exact ⟨_, if_pos (inPatternRange_iff.mpr hrange)⟩
        | string text => exact ⟨_, rfl⟩
    | @array items hitems =>
        have hmirrored : ∀ item ∈ items, ∃ literal, flip Literal.Mirrors item literal :=
          fun item hitem => (hitems item hitem).exists_mirrors
        obtain ⟨literals, hliterals⟩ := exists_forall₂_iff.mpr hmirrored
        have hread := Literal.mapM_ofJson?_eq_some_iff.mpr ⟨hitems, hliterals.flip⟩
        exact ⟨list literals, Option.map_eq_some_iff.mpr ⟨literals, hread, rfl⟩⟩
    | object _ ih => exact exists_ofJson?_object_iff.mpr ih

/-- The pattern that a value is read as looks like it. -/
theorem mirrors_of_ofJson? {value : Json} {pattern : Pattern}
    (hread : ofJson? value = some pattern) : pattern.Mirrors value := by
  induction value using Json.induction generalizing pattern with
  | integer number =>
      obtain ⟨-, hpattern⟩ := Option.ite_none_right_eq_some.mp hread
      cases hpattern
      exact .integer number
  | string text =>
      cases hread
      exact .text text
  | array items =>
      obtain ⟨literals, hliterals, rfl⟩ := Option.map_eq_some_iff.mp hread
      exact .list (Literal.mapM_ofJson?_eq_some_iff.mp hliterals).2
  | object members ih =>
      obtain ⟨pairs, hpairs, rfl⟩ := ofJson?_object_eq_some_iff.mp hread
      refine .nested ?_ fun name pattern value hpattern hvalue => ?_
      · rw [SearchMapping.map_fst_ofPairs, map_fst_of_forall₂ hpairs, Json.names]
      · -- Under a name stands the pattern of the value that is given to it last.
        have hlast : members.reverse.lookup name = some value := hvalue
        rw [SearchMapping.lookup_ofPairs, lookup_of_forall₂ (List.rel_reverse hpairs),
          hlast] at hpattern
        exact ih name value (List.mem_reverse.mp (mem_of_lookup_eq_some hlast)) hpattern
  | _ => cases hread

theorem Mirrors.unique {value : Json} {pattern other : Pattern} (hpattern : pattern.Mirrors value)
    (hother : other.Mirrors value) : pattern = other := by
  induction hpattern generalizing other with
  | integer number =>
      cases hother
      rfl
  | text text =>
      cases hother
      rfl
  | list hitems =>
      cases hother with
      | list hothers =>
          exact congrArg Pattern.list
            (List.left_unique_forall₂' Literal.Mirrors.unique hitems hothers)
  | @nested mapping members hnames hvalues ih =>
      cases hother with
      | @nested others _ hothers hinner =>
          -- Both mappings have the names of the object, in its order, and no name twice.
          refine congrArg Pattern.nested
            (eq_of_lookup_eq (hnames.trans hothers.symm) ?_ fun name => ?_)
          · rw [hnames]
            exact nodup_eraseDups _
          · -- Under each name both have the pattern of the value given last, or both have none.
            have hsame : name ∈ mapping.map Prod.fst ↔ name ∈ others.map Prod.fst := by
              rw [hnames, hothers]
            by_cases hname : name ∈ mapping.map Prod.fst
            · obtain ⟨pattern, hpattern⟩ := exists_lookup_iff.mpr hname
              obtain ⟨other, hother⟩ := exists_lookup_iff.mpr (hsame.mp hname)
              obtain ⟨value, hvalue⟩ := Json.exists_given?_iff.mpr (hnames ▸ hname)
              rw [hpattern, hother, ih name pattern value hpattern hvalue
                (hinner name other value hother hvalue)]
            · rw [lookup_eq_none_of_not_mem hname, lookup_eq_none_of_not_mem (hname ∘ hsame.mpr)]

/-- Values are read as the patterns that they look like. -/
theorem ofJson?_eq_some_iff {value : Json} {pattern : Pattern} :
    ofJson? value = some pattern ↔ value.IsPattern ∧ pattern.Mirrors value := by
  constructor
  · intro hread
    exact ⟨(exists_ofJson?_iff value).mp ⟨pattern, hread⟩, mirrors_of_ofJson? hread⟩
  · rintro ⟨hpattern, hmirrors⟩
    obtain ⟨other, hread⟩ := (exists_ofJson?_iff value).mpr hpattern
    rw [hread, (mirrors_of_ofJson? hread).unique hmirrors]

end Pattern

end Concordancer
