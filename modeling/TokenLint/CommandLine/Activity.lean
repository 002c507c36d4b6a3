import TokenLint.Failure.Breakdown

/-!
# Activities

What a run of the program does to the world, as a list of events, and what it comes to. Activities follow
each other: the events of the second come after those of the first, and there is no second one if the
first breaks down.

## Main definitions

* `Event`: What can be seen of a run.
* `Activity`: Events and a result.
* `Activity.bind`: One activity after another.
* `Activity.output`, `Activity.complaints`, `Activity.commands`: The events of one kind.
-/

namespace TokenLint

/-- What can be seen of a run. -/
inductive Event where
  /-- Text is written. -/
  | out (s : String)
  /-- Text is written to where complaints and log records go. -/
  | err (s : String)
  /-- A command is started. -/
  | command (argv : List String)
  /-- A source is read. -/
  | read (path : Path)
deriving DecidableEq, Repr

/-- The events of something that is done, and what it comes to. -/
structure Activity (α : Type) where
  /-- The events in order. -/
  events : List Event
  /-- What it comes to. -/
  result : Except Breakdown α

namespace Activity

/-- Nothing is done. -/
def pure {α : Type} (a : α) : Activity α := ⟨[], .ok a⟩

/-- One activity, and then another one that depends on what the first came to. -/
def bind {α β : Type} (x : Activity α) (f : α → Activity β) : Activity β :=
  match x.result with
  | .ok a => ⟨x.events ++ (f a).events, (f a).result⟩
  | .error b => ⟨x.events, .error b⟩

instance : Monad Activity where
  pure := pure
  bind := bind

/-- Events only. -/
def emit (events : List Event) : Activity Unit := ⟨events, .ok ()⟩

/-- A result without events. -/
def ofResult {α : Type} (result : Except Breakdown α) : Activity α := ⟨[], result⟩

/-- A result without events, which a failure may take the place of. -/
def ofFailing {α : Type} (result : Except Failure α) : Activity α := ofResult (result.mapError .failure)

/-- The text that is written. -/
def output {α : Type} (x : Activity α) : String :=
  String.join (x.events.filterMap fun | .out s => some s | _ => none)

/-- The text that is written to where complaints and log records go. -/
def complaints {α : Type} (x : Activity α) : String :=
  String.join (x.events.filterMap fun | .err s => some s | _ => none)

/-- The commands that are started. -/
def commands {α : Type} (x : Activity α) : List (List String) :=
  x.events.filterMap fun | .command argv => some argv | _ => none

end Activity

end TokenLint
