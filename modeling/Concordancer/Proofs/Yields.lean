import Concordancer.Trace
import Mathlib.Data.List.Range

/-!
# What a run yields

A run that is never told to stop ends with a result that depends neither on what
has happened before it nor on what it writes.  `Run.Yields part value` says so:
under the signal that is never set, `part` ends with `value` from every trace.

A signal may also be set from outside, at any moment.  All that a run learns of it is
what its looks read, one truth value for each: `Signal.reading reads` is the signal whose
looks read `reads 0`, `reads 1`, and so on.  `Run.Looks part count value` says what a part
of a run makes of these readings.  It looks `count` times and ends with `value`; but at
the first look that reads true it is cancelled, and looks no more.

## Strategy

Every part of a run is built with `>>=` from a few pieces: results, messages,
looks at the signal and results with messages.  One rule for each piece and one
for `>>=`, where the looks add up (`Looks.bind`), describe any run by following its
text, so nothing after this file opens a `Run`.  A signal that is never set lets every
look pass, so that what a run looks for it also yields (`Looks.yields`).
-/

namespace Concordancer

namespace Signal

/-- Each look reads what is set down for it, counted from the start of the run. -/
def reading (reads : Nat → Bool) : Signal := fun trace => reads trace.checks

theorem reading_false : reading (fun _ => false) = never := rfl

theorem reading_true : reading (fun _ => true) = always := rfl

end Signal

namespace Run

variable {α β : Type}

private theorem ext_run {first second : Run α}
    (hrun : ∀ signal trace, first.run signal trace = second.run signal trace) : first = second :=
  congrArg Run.mk (funext fun signal => funext fun trace => hrun signal trace)

instance : LawfulMonad Run := by
  refine .mk' Run ?_ (fun _ _ => rfl) ?_
  · intro α part
    refine ext_run fun signal trace => ?_
    show (part >>= fun a => pure (id a)).run signal trace = part.run signal trace
    rw [run_bind]
    cases part.run signal trace with
    | mk result after =>
        cases result with
        | error error => rfl
        | ok value => rfl
  · intro α β γ part next last
    refine ext_run fun signal trace => ?_
    rw [run_bind, run_bind, run_bind]
    cases part.run signal trace with
    | mk result after =>
        cases result with
        | error error => rfl
        | ok value => rfl

/-- Never told to stop, this part of a run ends with this value. -/
def Yields (part : Run α) (value : α) : Prop :=
  ∀ trace, (part.run Signal.never trace).1 = .ok value

/-- A run has only one result. -/
theorem Yields.unique {part : Run α} {a b : α} (ha : part.Yields a) (hb : part.Yields b) :
    a = b := by
  have hsame : (Except.ok a : Except QueryError α) = .ok b :=
    (ha Trace.start).symm.trans (hb Trace.start)
  injection hsame

/-- This part of a run ends with the value after so many looks, or is cancelled at the first
of them that reads true. -/
def Looks (part : Run α) (count : Nat) (value : α) : Prop :=
  ∀ reads trace,
    match (List.range' trace.checks count).find? reads with
    | none => ∃ log,
        part.run (.reading reads) trace = (.ok value, ⟨trace.checks + count, log⟩)
    | some look => ∃ log,
        part.run (.reading reads) trace = (.error .cancelled, ⟨look + 1, log⟩)

theorem Looks.yields {part : Run α} {count : Nat} {value : α} (hlooks : part.Looks count value) :
    part.Yields value := by
  intro trace
  have hrun := hlooks (fun _ => false) trace
  rw [List.find?_eq_none.mpr fun _ _ => Bool.false_ne_true] at hrun
  obtain ⟨log, hrun⟩ := hrun
  rw [← Signal.reading_false, hrun]

/-- Looks add up. -/
theorem Looks.bind {first : Run α} {next : α → Run β} {early late : Nat} {a : α} {b : β}
    (hfirst : first.Looks early a) (hnext : (next a).Looks late b) :
    (first >>= next).Looks (early + late) b := by
  intro reads trace
  have hearly := hfirst reads trace
  rw [run_bind, ← List.range'_append_1, List.find?_append]
  cases hread : (List.range' trace.checks early).find? reads with
  | some look =>
      rw [hread] at hearly
      obtain ⟨log, hrun⟩ := hearly
      rw [hrun]
      exact ⟨log, rfl⟩
  | none =>
      -- None of the early looks reads true, so the late ones go on from where they ended.
      rw [hread] at hearly
      obtain ⟨log, hrun⟩ := hearly
      rw [hrun, Option.none_or, ← Nat.add_assoc]
      exact hnext reads ⟨trace.checks + early, log⟩

/-- If only the first part looks, its looks are all there are. -/
theorem Looks.bind_left {first : Run α} {next : α → Run β} {count : Nat} {a : α} {b : β}
    (hfirst : first.Looks count a) (hnext : (next a).Looks 0 b) :
    (first >>= next).Looks count b :=
  hfirst.bind hnext

/-- If only the second part looks, its looks are all there are. -/
theorem Looks.bind_right {first : Run α} {next : α → Run β} {count : Nat} {a : α} {b : β}
    (hfirst : first.Looks 0 a) (hnext : (next a).Looks count b) :
    (first >>= next).Looks count b := by
  have hbind := hfirst.bind hnext
  rwa [Nat.zero_add] at hbind

/-! ## The pieces of a run -/

theorem looks_pure (value : α) : (pure value : Run α).Looks 0 value :=
  fun _ trace => ⟨trace.log, rfl⟩

theorem Looks.map {part : Run α} {count : Nat} {a : α} (hlooks : part.Looks count a) (f : α → β) :
    (f <$> part).Looks count (f a) :=
  hlooks.bind_left (looks_pure (f a))

theorem looks_write (messages : List Message) : (write messages).Looks 0 () :=
  fun _ trace => ⟨trace.log ++ messages, rfl⟩

theorem looks_tell (level : Level) (text : String) : (tell level text).Looks 0 () :=
  looks_write _

theorem looks_ofTold (told : Told α) : (ofTold told).Looks 0 told.value :=
  (looks_write told.messages).bind_left (looks_pure told.value)

theorem looks_check (warning : String) : (check warning).Looks 1 () := by
  intro reads trace
  have hstopped : isStopped.run (.reading reads) trace =
      (.ok (reads trace.checks), ⟨trace.checks + 1, trace.log⟩) := rfl
  rw [check, run_bind, hstopped, List.range'_one, List.find?_singleton]
  cases reads trace.checks with
  | true => exact ⟨_, rfl⟩
  | false => exact ⟨_, rfl⟩

/-- If the run for every element looks equally often, the looks are a product. -/
theorem looks_traverse {f : α → Run β} {g : α → β} {count : Nat}
    (hlooks : ∀ a, (f a).Looks count (g a)) (elements : List α) :
    (traverse f elements).Looks (elements.length * count) (elements.map g) := by
  induction elements with
  | nil =>
      rw [List.length_nil, Nat.zero_mul]
      exact looks_pure []
  | cons a rest ih =>
      rw [List.length_cons, Nat.succ_mul, Nat.add_comm]
      exact (hlooks a).bind (ih.bind_left (looks_pure _))

/-! ## Whole runs -/

/-- A run is cancelled if one of its looks reads true, and otherwise ends with its value. -/
theorem Looks.outcome_reading {part : Run α} {count : Nat} {value : α}
    (hlooks : part.Looks count value) (reads : Nat → Bool) :
    let (result, trace) := part.outcome (.reading reads)
    (result = .error .cancelled ↔ ∃ look < trace.checks, reads look = true) ∧
      (result = .ok value ↔ ∀ look < trace.checks, reads look = false) := by
  have hrun := hlooks reads Trace.start
  unfold outcome
  cases hread : (List.range' Trace.start.checks count).find? reads with
  | some look =>
      rw [hread] at hrun
      obtain ⟨log, hrun⟩ := hrun
      have htrue : reads look = true := List.find?_some hread
      rw [hrun]
      refine ⟨iff_of_true rfl ⟨look, Nat.lt_succ_self look, htrue⟩, iff_of_false nofun ?_⟩
      intro hnone
      rw [hnone look (Nat.lt_succ_self look)] at htrue
      contradiction
  | none =>
      rw [hread] at hrun
      obtain ⟨log, hrun⟩ := hrun
      have hnone : ∀ look < Trace.start.checks + count, reads look = false := by
        intro look hlook
        have hfalse := List.find?_eq_none.mp hread look
          (List.mem_range'_1.mpr ⟨Nat.zero_le look, hlook⟩)
        simpa using hfalse
      rw [hrun]
      refine ⟨iff_of_false nofun ?_, iff_of_true rfl hnone⟩
      rintro ⟨look, hlook, htrue⟩
      rw [hnone look hlook] at htrue
      contradiction

/-- A run that is told to stop before it begins is cancelled unless it never looks. -/
theorem Looks.outcome_always {part : Run α} {count : Nat} {value : α}
    (hlooks : part.Looks count value) :
    (part.outcome .always).1 = if count = 0 then .ok value else .error .cancelled := by
  have hrun := hlooks (fun _ => true) Trace.start
  unfold outcome
  cases count with
  | zero =>
      obtain ⟨log, hrun⟩ := hrun
      rw [← Signal.reading_true, hrun]
      rfl
  | succ count =>
      obtain ⟨log, hrun⟩ := hrun
      rw [← Signal.reading_true, hrun]
      rfl

end Run

end Concordancer
