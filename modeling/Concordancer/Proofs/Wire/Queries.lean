import Concordancer.Engine
import Concordancer.Proofs.Wire.Members
import Concordancer.Proofs.Wire.Patterns
import Concordancer.Query.Wire

/-!
# Queries that are written, and queries that are built

A query can be written as a JSON text, or it is built from the empty one by giving patterns to
descriptors (`Query.withSearch`).  Both ways lead to the same searches: a text whose one member is a
search mapping is read as the query that is given the members of this mapping one after the other
(`Query.ofText_search_eq`), so that descriptors that are repeated keep the same places and take the
same patterns.

Only patterns are read to values before their shape is judged; the mapping around them takes what
it reads into account at once, and never holds the values that are replaced later.

## Strategy

The text is known by the value that it is read as.  From this the members of its objects are taken,
as texts that are read one after the other (`valueOver_object`), and the loops that read the query
are run on the same texts, from the innermost one outwards.  Arrays and objects may be nested as
deep in a query as in a value: each loop that is passed on the way in takes one level of both.
-/

namespace Concordancer

open Reader

/-! ## Patterns -/

namespace Pattern

/-- The pattern that a value is read as; it is a fault if there is none. -/
def ofGiven (given : Json) : Except ReadFault Pattern :=
  match ofJson? given with
  | some pattern => .ok pattern
  | none => .error .mismatched

theorem ofGiven_eq_ok_iff {given : Json} {pattern : Pattern} :
    ofGiven given = .ok pattern ↔ ofJson? given = some pattern := by
  rw [ofGiven]
  cases ofJson? given with
  | none => exact iff_of_false nofun nofun
  | some found => rw [Except.ok.injEq, Option.some.injEq]

/-- A pattern is read to the end of a value before its shape is judged. -/
theorem reader_eq {depth : Nat} {text rest : List Char} {given : Json}
    (hvalue : value .strict depth text = .ok (given, rest)) :
    reader depth text = (ofGiven given).map (·, rest) := by
  rw [reader, bind_of_reads hvalue, ofGiven]
  cases ofJson? given with
  | none => rfl
  | some pattern => rfl

/-- A text is read as the patterns that look like its value, if this is a pattern. -/
theorem ofText_eq_ok_iff {text : String} {given : Json} {pattern : Pattern}
    (hread : whole (value .strict depthLimit) text = .ok given) :
    ofText text = .ok pattern ↔ given.IsPattern ∧ pattern.Mirrors given := by
  obtain ⟨rest, hvalue, hblank⟩ := exists_rest_of_whole hread
  rw [ofText, whole_of_eq_map (reader_eq hvalue) hblank, ofGiven_eq_ok_iff, ofJson?_eq_some_iff]

end Pattern

/-! ## Members as mappings -/

namespace SearchMapping

/-- Gives the pattern that a value is read as to its name. -/
def giveMember (mapping : SearchMapping) (member : String × Json) :
    Except ReadFault SearchMapping :=
  (Pattern.ofGiven member.2).map (mapping.insert member.1)

/-- Members are given one after the other; it is a fault if one of them is no pattern. -/
theorem foldlM_giveMember (members : List (String × Json)) (mapping : SearchMapping) :
    members.foldlM giveMember mapping =
      match Pattern.ofMembers? members with
      | some pairs => .ok (pairs.foldl (fun mapping (descriptor, pattern) =>
          mapping.insert descriptor pattern) mapping)
      | none => .error .mismatched := by
  induction members generalizing mapping with
  | nil => rfl
  | cons member rest ih =>
      obtain ⟨name, value⟩ := member
      rw [List.foldlM_cons, giveMember, Pattern.ofGiven, Pattern.ofMembers?]
      cases Pattern.ofJson? value with
      | none => rfl
      | some pattern =>
          show rest.foldlM giveMember (mapping.insert name pattern) = _
          rw [ih]
          cases Pattern.ofMembers? rest with
          | none => rfl
          | some pairs => rfl

end SearchMapping

section

variable {depth : Nat} {text opened rest : List Char} {members : List (String × Json)}

theorem mappingReader_eq (hopened : text.dropWhile isBlank = '\x7b' :: opened)
    (hmembers : MembersRead .strict (value .strict depth) (opened.length + 1) true opened members
      rest) :
    mappingReader depth text =
      (members.foldlM SearchMapping.giveMember []).map (·, rest) := by
  have hskip : skipOne ('\x7b' :: opened) = .ok ((), opened) := rfl
  have hrounds : rounds opened = .ok (opened.length + 1, opened) := rfl
  unfold mappingReader
  rw [bind_of_reads (peek_eq text), hopened]
  show (skipOne >>= _ : Reader SearchMapping) ('\x7b' :: opened) = _
  rw [bind_of_reads hskip, bind_of_reads hrounds]
  refine hmembers.foldMembers_eq (fun mapping name value afterName afterValue hvalue => ?_) []
  obtain ⟨_, _, hcolon, hvalue⟩ := reads_bind_iff.mp hvalue
  rw [bind_of_reads hcolon, bind_of_eq_map (Pattern.reader_eq hvalue), SearchMapping.giveMember]
  cases Pattern.ofGiven value with
  | error fault => rfl
  | ok pattern => rfl

/-- The member that holds the search mapping is read from the members of this. -/
theorem recordMember_search_eq {afterName afterValue : List Char}
    (hvalue : memberValue (value .strict (depth + 1)) afterName =
      .ok (.object members, afterValue)) :
    recordMember (Query.fields (depth + 1)) (Query.empty, []) "search" afterName =
      ((members.foldlM SearchMapping.giveMember []).map fun mapping =>
        ({ Query.empty with search := mapping }, ["search"])).map (·, afterValue) := by
  obtain ⟨_, _, hcolon, hsearch⟩ := reads_bind_iff.mp hvalue
  obtain ⟨inside, hinside, hinner⟩ := valueOver_object hsearch
  show (expect ':' >>= _ : Reader (Query × List String)) afterName = _
  rw [bind_of_reads hcolon]
  show ((mappingReader depth >>= fun mapping => pure { Query.empty with search := mapping }) >>= _ :
    Reader (Query × List String)) _ = _
  rw [bind_assoc, bind_of_eq_map (mappingReader_eq hinside hinner)]
  cases members.foldlM SearchMapping.giveMember [] with
  | error fault => rfl
  | ok mapping => rfl

theorem foldMembers_search_eq {fuel : Nat}
    (hmembers : MembersRead .strict (value .strict (depth + 1)) fuel true opened
      [("search", .object members)] rest) :
    foldMembers .strict (recordMember (Query.fields (depth + 1))) fuel true (Query.empty, [])
        opened =
      ((members.foldlM SearchMapping.giveMember []).map fun mapping =>
        ({ Query.empty with search := mapping }, ["search"])).map (·, rest) := by
  cases hmembers with
  | more hname hvalue hfurther =>
      cases hfurther with
      | done hend =>
          rw [foldMembers, bind_of_reads hname]
          show (recordMember _ _ "search" >>= _ : Reader (Query × List String)) _ = _
          rw [bind_of_eq_map (recordMember_search_eq hvalue)]
          cases members.foldlM SearchMapping.giveMember [] with
          | error fault => rfl
          | ok mapping =>
              show foldMembers _ _ _ _ _ _ = _
              rw [foldMembers, bind_of_reads hend]
              rfl

theorem record_search_eq (hopened : text.dropWhile isBlank = '\x7b' :: opened)
    (hmembers : MembersRead .strict (value .strict (depth + 1)) (opened.length + 1) true opened
      [("search", .object members)] rest) :
    record (Query.fields (depth + 1)) Query.empty text =
      ((members.foldlM SearchMapping.giveMember []).map fun mapping =>
        { Query.empty with search := mapping }).map (·, rest) := by
  have hskip : skipOne ('\x7b' :: opened) = .ok ((), opened) := rfl
  have hrounds : rounds opened = .ok (opened.length + 1, opened) := rfl
  unfold record
  rw [bind_of_reads (peek_eq text), hopened]
  show (skipOne >>= _ : Reader Query) ('\x7b' :: opened) = _
  rw [bind_of_reads hskip, bind_of_reads hrounds, bind_of_eq_map (foldMembers_search_eq hmembers)]
  cases members.foldlM SearchMapping.giveMember [] with
  | error fault => rfl
  | ok mapping => rfl

end

/-! ## Queries -/

namespace Query

/-- The query that also searches for these, given one after the other. -/
def withSearches (query : Query) (pairs : List (String × Pattern)) : Query :=
  pairs.foldl (fun query (descriptor, pattern) => query.withSearch descriptor pattern) query

theorem withSearches_eq (query : Query) (pairs : List (String × Pattern)) :
    query.withSearches pairs =
      { query with search := pairs.foldl (fun mapping (descriptor, pattern) =>
          mapping.insert descriptor pattern) query.search } := by
  induction pairs generalizing query with
  | nil => rfl
  | cons pair rest ih =>
      show (query.withSearch pair.1 pair.2).withSearches rest = _
      rw [ih]
      rfl

/-- A text of nothing but a search mapping is read as the query that is given the members of the
mapping one after the other, or is refused if one of them is no pattern. -/
theorem ofText_search_eq {text : String} {members : List (String × Json)}
    (hread : whole (value .strict depthLimit) text =
      .ok (.object [("search", .object members)])) :
    ofText text =
      match Pattern.ofMembers? members with
      | some pairs => .ok (empty.withSearches pairs)
      | none => .error (.unreadable .mismatched) := by
  obtain ⟨rest, hvalue, hblank⟩ := exists_rest_of_whole hread
  -- A pattern lies two levels deeper than the query that it is a part of.
  have hobject : valueOver .strict (some (value .strict (125 + 1))) text.toList =
      .ok (.object [("search", .object members)], rest) := hvalue
  obtain ⟨opened, hopened, hmembers⟩ := valueOver_object hobject
  have hwhole := whole_of_eq_map (record_search_eq hopened hmembers) hblank
  have hdepth : depthLimit - 1 = 125 + 1 := rfl
  rw [ofText, hdepth, hwhole, SearchMapping.foldlM_giveMember]
  cases Pattern.ofMembers? members with
  | none => rfl
  | some pairs => exact congrArg Except.ok (withSearches_eq empty pairs).symm

/-- What a query that is built searches for is what the object of its pairs is read as. -/
theorem ofJson?_object_eq_withSearches {members : List (String × Json)}
    {pairs : List (String × Pattern)} (hpairs : List.Forall₂ Pattern.ReadsPair members pairs) :
    Pattern.ofJson? (.object members) = some (.nested (empty.withSearches pairs).search) := by
  rw [withSearches_eq]
  exact Pattern.ofJson?_object_eq_some_iff.mpr ⟨pairs, hpairs, rfl⟩

theorem exists_ofText_search_iff {text : String} {members : List (String × Json)}
    (hread : whole (value .strict depthLimit) text =
      .ok (.object [("search", .object members)])) :
    (∃ query, ofText text = .ok query) ↔
      ∀ name given, (name, given) ∈ members → given.IsPattern := by
  have hvalues : (∃ pairs, Pattern.ofMembers? members = some pairs) ↔
      ∀ name given, (name, given) ∈ members → given.IsPattern := by
    simp only [← Pattern.exists_ofJson?_iff, ← Pattern.exists_ofJson?_object_iff, Pattern.ofJson?,
      Option.map_eq_some_iff, exists_comm (α := Pattern), exists_and_left, exists_eq', and_true]
  rw [← hvalues, ofText_search_eq hread]
  cases Pattern.ofMembers? members with
  | none =>
      refine iff_of_false ?_ ?_
      · rintro ⟨_, ⟨⟩⟩
      · rintro ⟨_, ⟨⟩⟩
  | some pairs => exact iff_of_true ⟨_, rfl⟩ ⟨pairs, rfl⟩

/-- **Queries that are written and queries that are built search for the same.**  Values are read as
patterns if they are patterns, and as the one pattern that looks like them, whether the value is at
hand or the text that it is read from.  Members of an object that are read as patterns are searched
for alike, at the same places, whether the object is read or they are given to a query in turn.  A
text whose one member is a search mapping is read as a query if all values of the mapping are
patterns.  It is then the query that is built from them, and the same criteria are made of it. -/
theorem written_and_built_alike :
    (∀ given, (∃ pattern, Pattern.ofJson? given = some pattern) ↔ given.IsPattern) ∧
    (∀ given pattern, Pattern.ofJson? given = some pattern →
      pattern.Mirrors given ∧ ∀ other : Pattern, other.Mirrors given → other = pattern) ∧
    (∀ members pairs, List.Forall₂ Pattern.ReadsPair members pairs →
      Pattern.ofJson? (.object members) = some (.nested (empty.withSearches pairs).search)) ∧
    ∀ text given, whole (value .strict depthLimit) text = .ok given →
      (∀ pattern, Pattern.ofText text = .ok pattern ↔ given.IsPattern ∧ pattern.Mirrors given) ∧
      ∀ members, given = .object [("search", .object members)] →
        ((∃ query, ofText text = .ok query) ↔
          ∀ name inner, (name, inner) ∈ members → inner.IsPattern) ∧
        ∀ pairs, List.Forall₂ Pattern.ReadsPair members pairs →
          let built := empty.withSearches pairs
          ofText text = .ok built ∧
          ∀ dialect, (do
              let query ← ofText text
              Criterion.compileAll query.options query.search dialect) =
            Criterion.compileAll built.options built.search dialect := by
  refine ⟨Pattern.exists_ofJson?_iff, fun given pattern hpattern => ?_,
    fun _ _ => ofJson?_object_eq_withSearches, ?_⟩
  · have hmirrors := Pattern.mirrors_of_ofJson? hpattern
    exact ⟨hmirrors, fun other hother => hother.unique hmirrors⟩
  · rintro text given hread
    refine ⟨fun pattern => Pattern.ofText_eq_ok_iff hread, ?_⟩
    rintro members rfl
    refine ⟨exists_ofText_search_iff hread, fun pairs hpairs => ?_⟩
    have hbuilt : ofText text = .ok (empty.withSearches pairs) := by
      rw [ofText_search_eq hread, Pattern.ofMembers?_eq_some_iff.mpr hpairs]
    refine ⟨hbuilt, fun dialect => ?_⟩
    rw [hbuilt]
    rfl

/-- A query in which the word, and the function of the governor, are given twice. -/
def sampleText : String :=
  "\x7b\"search\": \x7b\"w\": \"cat\", " ++
    "\"g\": \x7b\"f\": \"nsubj\", \"f\": [\"dobj\", 2]\x7d, \"w\": 3\x7d\x7d"

/-- The search mapping of the text. -/
def sampleMembers : List (String × Json) :=
  [("w", .string "cat"),
    ("g", .object [("f", .string "nsubj"), ("f", .array [.string "dobj", .integer 2])]),
    ("w", .integer 3)]

theorem whole_value_sampleText :
    whole (value .strict depthLimit) sampleText =
      .ok (.object [("search", .object sampleMembers)]) := by
  have hread : (whole (value .strict depthLimit) sampleText).toOption =
      some (.object [("search", .object sampleMembers)]) := by
    decide +kernel
  cases hwhole : whole (value .strict depthLimit) sampleText with
  | error fault =>
      rw [hwhole] at hread
      cases hread
  | ok given =>
      rw [hwhole] at hread
      exact congrArg Except.ok (Option.some.inj hread)

/-- The word keeps its place and takes the number, and the governor is known by the functions that
are given last. -/
theorem written_and_built_alike_sample :
    whole (value .strict depthLimit) sampleText =
      .ok (.object [("search", .object sampleMembers)]) ∧
    (∃ query, ofText sampleText = .ok query) ∧
    ofText sampleText = .ok { empty with search :=
      [("w", .integer 3), ("g", .nested [("f", .list [.text "dobj", .integer 2])])] } ∧
    Pattern.ofJson? (.object sampleMembers) = some (.nested
      [("w", .integer 3), ("g", .nested [("f", .list [.text "dobj", .integer 2])])]) := by
  obtain ⟨-, -, hobject, hof⟩ := written_and_built_alike
  obtain ⟨-, hsearch⟩ := hof sampleText _ whole_value_sampleText
  obtain ⟨-, hbuilt⟩ := hsearch sampleMembers rfl
  have hpairs : List.Forall₂ Pattern.ReadsPair sampleMembers
      [("w", .text "cat"), ("g", .nested [("f", .list [.text "dobj", .integer 2])]),
        ("w", .integer 3)] :=
    Pattern.ofMembers?_eq_some_iff.mp rfl
  have hquery := (hbuilt _ hpairs).1
  exact ⟨whole_value_sampleText, ⟨_, hquery⟩, hquery, hobject _ _ hpairs⟩

end Query

end Concordancer
