import Concordancer.Query.Error

/-!
# Messages and cancellation

While a query runs it tells what it does, and it can be told to stop.  Both are kept apart
from its results.

## Strategy

Everything that only speaks is a `Told` value: a result with the messages that were written
on the way.  Since `Told.value` passes through every combination, a statement on results
never has to mention messages.

Where a query may stop it is a `Run`: it looks at a signal that may depend on what has
happened so far, and it ends with an error as soon as the signal is set where it looks.
-/

namespace Concordancer

inductive Level
  | trace | debug | info | warn | error
deriving DecidableEq, Repr

structure Message where
  level : Level
  text : String
deriving DecidableEq, Repr

/-! ## Results with messages -/

/-- A result and the messages written on the way to it, in order. -/
structure Told (α : Type) where
  value : α
  messages : List Message

namespace Told

instance : Monad Told where
  pure value := ⟨value, []⟩
  bind told next :=
    let after := next told.value
    ⟨after.value, told.messages ++ after.messages⟩

/-- Writes one message. -/
def tell (level : Level) (text : String) : Told Unit := ⟨(), [⟨level, text⟩]⟩

@[simp] theorem value_pure {α : Type} (a : α) : (pure a : Told α).value = a := rfl

@[simp] theorem value_bind {α β : Type} (told : Told α) (next : α → Told β) :
    (told >>= next).value = (next told.value).value := rfl

@[simp] theorem value_map {α β : Type} (f : α → β) (told : Told α) :
    (f <$> told).value = f told.value := rfl

@[simp] theorem value_tell (level : Level) (text : String) :
    (tell level text).value = () := rfl

/-- The results for all elements of a list, in order. -/
def traverse {α β : Type} (f : α → Told β) : List α → Told (List β)
  | [] => pure []
  | a :: rest => do
    let b ← f a
    let further ← traverse f rest
    pure (b :: further)

@[simp] theorem value_traverse {α β : Type} (f : α → Told β) (elements : List α) :
    (traverse f elements).value = elements.map fun a => (f a).value := by
  induction elements with
  | nil => rfl
  | cons a rest ih => simp [traverse, ih]

/-- The elements for which a condition holds. -/
def filter {α : Type} (f : α → Told Bool) : List α → Told (List α)
  | [] => pure []
  | a :: rest => do
    let keeps ← f a
    let further ← filter f rest
    pure (if keeps then a :: further else further)

@[simp] theorem value_filter {α : Type} (f : α → Told Bool) (elements : List α) :
    (filter f elements).value = elements.filter fun a => (f a).value := by
  induction elements with
  | nil => rfl
  | cons a rest ih => simp [filter, ih, List.filter_cons]

end Told

/-! ## Runs that can be cancelled -/

/-- What has happened in a run so far: how often it has looked at the signal, and what it
has written. -/
structure Trace where
  checks : Nat
  log : Array Message
deriving Repr

namespace Trace

def start : Trace := ⟨0, #[]⟩

end Trace

/-- Whether a run is told to stop, given what has happened when it looks. -/
abbrev Signal := Trace → Bool

namespace Signal

/-- The run is never told to stop. -/
def never : Signal := fun _ => false

/-- The run is told to stop before it begins. -/
def always : Signal := fun _ => true

/-- The run is told to stop by a message that begins with this text. -/
def onMessage (start : String) : Signal := fun trace =>
  trace.log.toList.any fun message => start.toList.isPrefixOf message.text.toList

end Signal

/-- A part of a run: it may look at the signal, write messages, and end with an error. -/
structure Run (α : Type) where
  run : Signal → Trace → Except QueryError α × Trace

namespace Run

instance : Monad Run where
  pure value := ⟨fun _ trace => (.ok value, trace)⟩
  bind first next := ⟨fun signal trace =>
    match first.run signal trace with
    | (.ok value, after) => (next value).run signal after
    | (.error error, after) => (.error error, after)⟩

variable {α β : Type}

@[simp] theorem run_pure (value : α) (signal : Signal) (trace : Trace) :
    (pure value : Run α).run signal trace = (.ok value, trace) := rfl

theorem run_bind (first : Run α) (next : α → Run β) (signal : Signal) (trace : Trace) :
    (first >>= next).run signal trace =
      match first.run signal trace with
      | (.ok value, after) => (next value).run signal after
      | (.error error, after) => (.error error, after) := rfl

/-- Writes messages. -/
def write (messages : List Message) : Run Unit :=
  ⟨fun _ trace => (.ok (), { trace with log := trace.log ++ messages })⟩

def tell (level : Level) (text : String) : Run Unit := write [⟨level, text⟩]

/-- Ends the run. -/
def fail (error : QueryError) : Run α := ⟨fun _ trace => (.error error, trace)⟩

/-- What may have failed before, as a part of a run. -/
def ofExcept : Except QueryError α → Run α
  | .ok value => pure value
  | .error error => fail error

/-- A result with its messages, as a part of a run. -/
def ofTold (told : Told α) : Run α := do
  write told.messages
  return told.value

/-- Looks at the signal, which counts as one look before it answers. -/
def isStopped : Run Bool :=
  ⟨fun signal trace => (.ok (signal trace), { trace with checks := trace.checks + 1 })⟩

/-- Looks at the signal.  If it is set, the run writes a last message and ends. -/
def check (warning : String) : Run Unit := do
  if ← isStopped then
    tell .warn warning
    fail .cancelled

/-- The results for all elements of a list, in order. -/
def traverse (f : α → Run β) : List α → Run (List β)
  | [] => return []
  | a :: rest => do
    let b ← f a
    return b :: (← traverse f rest)

/-- The outcome of a run, with all that has happened in it. -/
def outcome (part : Run α) (signal : Signal) : Except QueryError α × Trace :=
  part.run signal .start

end Run

end Concordancer
