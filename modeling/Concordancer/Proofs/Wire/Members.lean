import Concordancer.Json.Reader

/-!
# Reading the members of objects

The members of an object are read in a loop, and what is made of them may differ: a value collects
them in a list, a mapping takes each of them into account at once.  What is read is the same.  The
reading of members is described here by itself (`MembersRead`), and both loops by what they do with
these members (`membersRead_of_foldMembers`, `MembersRead.foldMembers_eq`).

`valueOver_object` gives the members of a text whose value is an object.  No other shape of text has
such a value, as every shape makes values of its own kind only (`Gives`).
-/

namespace Concordancer.Reader

variable {α β σ : Type} {care : Care} {text rest : List Char}

/-! ## Readers in a row -/

theorem reads_bind_iff {reader : Reader α} {next : α → Reader β} {b : β} :
    (reader >>= next) text = .ok (b, rest) ↔
      ∃ a between, reader text = .ok (a, between) ∧ next a between = .ok (b, rest) := by
  show (reader text >>= fun read => next read.1 read.2) = .ok (b, rest) ↔ _
  cases reader text with
  | error fault =>
      refine iff_of_false (fun hfault => ?_) (fun ⟨_, _, hfault, _⟩ => ?_)
      · cases hfault
      · cases hfault
  | ok read =>
      constructor
      · intro hnext
        exact ⟨read.1, read.2, rfl, hnext⟩
      · rintro ⟨a, between, ⟨⟩, hnext⟩
        exact hnext

theorem bind_of_reads {reader : Reader α} {next : α → Reader β} {a : α}
    (hread : reader text = .ok (a, rest)) : (reader >>= next) text = next a rest := by
  show (reader text >>= fun read => next read.1 read.2) = _
  rw [hread]
  rfl

/-- Where a reader ends is known, so that its result decides what comes next. -/
theorem bind_of_eq_map {reader : Reader α} {next : α → Reader β} {result : Except ReadFault α}
    (hread : reader text = result.map (·, rest)) :
    (reader >>= next) text = result >>= fun a => next a rest := by
  show (reader text >>= fun read => next read.1 read.2) = _
  rw [hread]
  cases result with
  | error fault => rfl
  | ok a => rfl

theorem reads_pure_iff {a b : α} :
    (pure a : Reader α) text = .ok (b, rest) ↔ a = b ∧ text = rest := by
  show (Except.ok (a, text) : Except ReadFault (α × List Char)) = .ok (b, rest) ↔ _
  rw [Except.ok.injEq, Prod.mk.injEq]

theorem peek_eq (text : List Char) :
    peek text = .ok ((text.dropWhile isBlank).head?, text.dropWhile isBlank) := rfl

/-- Behind a whole text there is nothing but white space. -/
theorem exists_rest_of_whole {reader : Reader α} {text : String} {a : α}
    (hwhole : whole reader text = .ok a) :
    ∃ rest, reader text.toList = .ok (a, rest) ∧ rest.all isBlank = true := by
  unfold whole at hwhole
  cases hread : reader text.toList with
  | error fault =>
      rw [hread] at hwhole
      cases hwhole
  | ok read =>
      obtain ⟨value, rest⟩ := read
      rw [hread] at hwhole
      have hchecked : (if rest.all isBlank = true then Except.ok value
          else .error ReadFault.malformed) = .ok a := hwhole
      by_cases hblank : rest.all isBlank = true
      · rw [if_pos hblank, Except.ok.injEq] at hchecked
        exact ⟨rest, by rw [hchecked], hblank⟩
      · rw [if_neg hblank] at hchecked
        cases hchecked

/-- What a reader makes of all but white space is what it makes of the whole text. -/
theorem whole_of_eq_map {reader : Reader α} {text : String} {result : Except ReadFault α}
    (hread : reader text.toList = result.map (·, rest)) (hblank : rest.all isBlank = true) :
    whole reader text = result := by
  unfold whole
  rw [hread]
  cases result with
  | error fault => rfl
  | ok a => exact if_pos hblank

/-! ## Members of an object -/

/-- Takes the value of a member, with the colon in front of it. -/
def memberValue (inner : Reader α) : Reader α := do
  expect ':'
  inner

/-- From a text, these members of an object are read, and this is the rest. -/
inductive MembersRead (care : Care) (inner : Reader α) :
    (fuel : Nat) → (isFirst : Bool) → List Char → List (String × α) → List Char → Prop
  | done {fuel : Nat} {isFirst : Bool} {text rest : List Char}
    (hend : nextName care isFirst text = .ok (none, rest)) :
    MembersRead care inner (fuel + 1) isFirst text [] rest.tail
  | more {fuel : Nat} {isFirst : Bool} {text afterName afterValue rest : List Char} {name : String}
    {value : α} {members : List (String × α)}
    (hname : nextName care isFirst text = .ok (some name, afterName))
    (hvalue : memberValue inner afterName = .ok (value, afterValue))
    (hfurther : MembersRead care inner fuel false afterValue members rest) :
    MembersRead care inner (fuel + 1) isFirst text ((name, value) :: members) rest

/-- Collects one more member. -/
def collect (inner : Reader α) (members : List (String × α)) (name : String) :
    Reader (List (String × α)) := do
  expect ':'
  return (name, ← inner) :: members

theorem collect_eq_ok_iff {inner : Reader α} {members result : List (String × α)} {name : String} :
    collect inner members name text = .ok (result, rest) ↔
      ∃ value, memberValue inner text = .ok (value, rest) ∧ (name, value) :: members = result := by
  simp only [collect, memberValue, reads_bind_iff, reads_pure_iff]
  constructor
  · rintro ⟨_, between, hcolon, value, _, hvalue, rfl, rfl⟩
    exact ⟨value, ⟨_, between, hcolon, hvalue⟩, rfl⟩
  · rintro ⟨value, ⟨_, between, hcolon, hvalue⟩, rfl⟩
    exact ⟨_, between, hcolon, value, _, hvalue, rfl, rfl⟩

theorem membersRead_of_foldMembers {inner : Reader α} {fuel : Nat} {isFirst : Bool}
    {earlier collected : List (String × α)}
    (hread : foldMembers care (collect inner) fuel isFirst earlier text = .ok (collected, rest)) :
    ∃ members, collected = members.reverse ++ earlier ∧
      MembersRead care inner fuel isFirst text members rest := by
  -- By induction on the fuel, that is on the rounds of the loop; `earlier` grows in front.
  induction fuel generalizing isFirst earlier text with
  | zero => cases hread
  | succ fuel ih =>
      obtain ⟨name?, afterName, hname, hstep⟩ := reads_bind_iff.mp hread
      cases name? with
      | none =>
          obtain ⟨_, _, hskip, hdone⟩ := reads_bind_iff.mp hstep
          obtain ⟨rfl, rfl⟩ := reads_pure_iff.mp hdone
          cases hskip
          exact ⟨[], rfl, .done hname⟩
      | some name =>
          obtain ⟨_, afterValue, hcollect, hfurther⟩ := reads_bind_iff.mp hstep
          obtain ⟨value, hvalue, rfl⟩ := collect_eq_ok_iff.mp hcollect
          obtain ⟨members, hcollected, hmembers⟩ := ih hfurther
          refine ⟨(name, value) :: members, ?_, .more hname hvalue hmembers⟩
          rw [hcollected, List.reverse_cons, List.append_assoc]
          rfl

/-- Members that are collected may as well be taken into account one after the other, and with the
same faults as when this is done afterwards. -/
theorem MembersRead.foldMembers_eq {inner : Reader α} {fuel : Nat} {isFirst : Bool}
    {members : List (String × α)} (hread : MembersRead care inner fuel isFirst text members rest)
    {step : σ → String → Reader σ} {update : σ → String × α → Except ReadFault σ}
    (hstep : ∀ state name value afterName afterValue,
      memberValue inner afterName = .ok (value, afterValue) →
        step state name afterName = (update state (name, value)).map (·, afterValue))
    (state : σ) :
    foldMembers care step fuel isFirst state text =
      (members.foldlM update state).map (·, rest) := by
  induction hread generalizing state with
  | done hend =>
      rw [foldMembers, bind_of_reads hend]
      rfl
  | @more fuel isFirst text afterName afterValue rest name value members hname hvalue _ ih =>
      rw [foldMembers, bind_of_reads hname, List.foldlM_cons]
      show (step state name >>= fun state => foldMembers care step fuel false state) afterName = _
      rw [bind_of_eq_map (hstep state name value afterName afterValue hvalue)]
      cases update state (name, value) with
      | error fault => rfl
      | ok updated => exact ih updated

/-! ## Values that are objects -/

/-- Whatever the reader takes satisfies a condition. -/
def Gives (reader : Reader α) (p : α → Prop) : Prop :=
  ∀ text a rest, reader text = .ok (a, rest) → p a

theorem gives_pure {p : α → Prop} {a : α} (ha : p a) : Gives (pure a : Reader α) p := by
  intro text b rest hread
  obtain ⟨rfl, -⟩ := reads_pure_iff.mp hread
  exact ha

theorem gives_fail (fault : ReadFault) (p : α → Prop) : Gives (fail fault : Reader α) p :=
  fun _ _ _ hread => nomatch hread

theorem gives_bind {reader : Reader α} {next : α → Reader β} {p : β → Prop}
    (hnext : ∀ a, Gives (next a) p) : Gives (reader >>= next) p := by
  intro text b rest hread
  obtain ⟨a, between, -, hread⟩ := reads_bind_iff.mp hread
  exact hnext a between b rest hread

theorem gives_ite {p : α → Prop} {condition : Prop} [Decidable condition]
    {first second : Reader α} (hfirst : Gives first p) (hsecond : Gives second p) :
    Gives (if condition then first else second) p := by
  split
  · exact hfirst
  · exact hsecond

theorem gives_map {reader : Reader α} {f : α → β} {p : β → Prop} (hf : ∀ a, p (f a)) :
    Gives (f <$> reader) p := by
  rw [map_eq_pure_bind]
  exact gives_bind fun a => gives_pure (hf a)

/-- A value that is not an object. -/
def IsNoObject (value : Json) : Prop := ∀ members, value ≠ .object members

theorem isNoObject_of_value {parts : NumberParts} {value : Json}
    (hvalue : parts.value = .ok value) : IsNoObject value := by
  rintro members rfl
  unfold NumberParts.value at hvalue
  extract_lets whole isInteger fraction exponent at hvalue
  -- The parts of a number make an integer or a real number or are out of range.
  by_cases hinteger : isInteger = true
  · rw [if_pos hinteger] at hvalue
    cases hvalue
  · rw [if_neg hinteger] at hvalue
    split at hvalue
    · cases hvalue
    · cases hvalue

theorem gives_value_of_parts (parts : NumberParts) :
    Gives (match parts.value with
      | .ok value => (pure value : Reader Json)
      | .error fault => fail fault) IsNoObject := by
  cases hvalue : parts.value with
  | error fault => exact gives_fail fault _
  | ok value => exact gives_pure (isNoObject_of_value hvalue)

/-- Each part of a number is read in one of several ways, and then comes what is next.  The last
step makes the number, or fails. -/
theorem gives_number (care : Care) : Gives (number care) IsNoObject := by
  have hreal : Gives (pure Json.real : Reader Json) IsNoObject :=
    gives_pure fun _ hreal => nomatch hreal
  -- The steps are taken from the last one to the first, as each needs to know what comes next.
  unfold number
  refine gives_bind fun behindNothing => ?_
  extract_lets afterSign
  have hsign : ∀ isNegative, Gives (afterSign isNegative) IsNoObject := by
    intro isNegative
    refine gives_bind fun whole => ?_
    extract_lets afterFraction afterWhole
    have hfraction : ∀ fraction, Gives (afterFraction fraction) IsNoObject := by
      intro fraction
      refine gives_bind fun behindFraction => ?_
      extract_lets afterExponent
      have hexponent : ∀ exponent, Gives (afterExponent exponent) IsNoObject :=
        fun _ => gives_ite hreal (gives_value_of_parts _)
      split
      · exact gives_bind fun _ => gives_bind fun _ => gives_bind fun _ => gives_bind hexponent
      · exact gives_bind fun _ => gives_bind fun _ => gives_bind fun _ => gives_bind hexponent
      · exact gives_bind hexponent
    have hwhole : Gives (afterWhole ()) IsNoObject := by
      refine gives_bind fun behindWhole => ?_
      split
      · exact gives_bind fun _ => gives_bind hfraction
      · exact gives_bind hfraction
    exact gives_ite (gives_bind fun _ => hwhole) hwhole
  split
  · exact gives_bind fun _ => gives_bind hsign
  · exact gives_bind hsign

/-- An object begins with a brace, and its members follow. -/
theorem valueOver_object {inner : Reader Json} {members : List (String × Json)}
    (hread : valueOver care (some inner) text = .ok (.object members, rest)) :
    ∃ opened, text.dropWhile isBlank = '\x7b' :: opened ∧
      MembersRead care inner (opened.length + 1) true opened members rest := by
  unfold valueOver at hread
  rw [bind_of_reads (peek_eq text)] at hread
  cases hopened : text.dropWhile isBlank with
  | nil =>
      rw [hopened] at hread
      cases hread
  | cons first opened =>
      rw [hopened, List.head?_cons] at hread
      by_cases hbrace : first = '\x7b'
      · subst hbrace
        obtain ⟨_, _, hskip, hcounted⟩ := reads_bind_iff.mp hread
        cases hskip
        obtain ⟨_, _, hrounds, hloop⟩ := reads_bind_iff.mp hcounted
        cases hrounds
        obtain ⟨collected, _, hfold, hdone⟩ := reads_bind_iff.mp hloop
        obtain ⟨hobject, rfl⟩ := reads_pure_iff.mp hdone
        obtain ⟨found, rfl, hfound⟩ := membersRead_of_foldMembers hfold
        rw [List.append_nil, List.reverse_reverse, Json.object.injEq] at hobject
        exact ⟨opened, rfl, hobject ▸ hfound⟩
      · -- Behind any other character there is a value of another kind, or none.
        refine absurd rfl ((?_ : Gives _ IsNoObject) _ _ _ hread members)
        clear hread
        split
        · exact gives_fail _ _
        · exact gives_bind fun _ => gives_pure fun _ hnull => nomatch hnull
        · exact gives_bind fun _ => gives_pure fun _ hbool => nomatch hbool
        · exact gives_bind fun _ => gives_pure fun _ hbool => nomatch hbool
        · exact gives_bind fun _ => gives_map fun _ _ hstring => nomatch hstring
        · exact gives_bind fun _ => gives_bind fun _ => gives_bind fun _ =>
            gives_pure fun _ harray => nomatch harray
        · next hfirst _ => exact absurd (Option.some.inj hfirst) hbrace
        · split
          · exact gives_number care
          · exact gives_fail _ _

end Concordancer.Reader
