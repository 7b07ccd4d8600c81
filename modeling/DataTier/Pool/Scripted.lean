/-
A factory that plays outcomes given beforehand, and keeps a journal of its resources.

Main definitions:

* `DataTier.Specimen` — a resource with a number and a tag;
* `DataTier.Workshop` — outcomes still to be played, and the journal;
* `DataTier.Workshop.factory` — the factory over workshops.
-/

import DataTier.Pool.Factory

set_option relaxedAutoImplicit false
set_option autoImplicit false

namespace DataTier

/-- A resource with a number and a tag. -/
structure Specimen where
  /-- The number, counting successful creations. -/
  id : Nat
  /-- What its holders have written on it. -/
  tag : String := ""
  deriving DecidableEq

/-- How many bytes a specimen takes: a word of eight for its number, and three for its tag. -/
def Specimen.bytes : Nat := 32

/-- The resource as a developer sees it. -/
def Specimen.debug (r : Specimen) : String := "Res#" ++ toString r.id ++ ":" ++ r.tag

/-- A line of the journal. -/
inductive JournalLine where
  /-- A resource was created. -/
  | created (id : Nat)
  /-- A creation failed. -/
  | createFailed
  /-- A resource is being closed. -/
  | closing (id : Nat)
  /-- A resource is gone. -/
  | dropped (id : Nat)
  deriving DecidableEq

/-- The text of a line. -/
def JournalLine.text : JournalLine → String
  | .created id => "create " ++ toString id
  | .createFailed => "create failed"
  | .closing id => "close " ++ toString id
  | .dropped id => "drop " ++ toString id

/-- Outcomes still to be played, and what has happened to the resources. -/
structure Workshop where
  /-- What the next creations come to; after that they succeed. -/
  creations : List (Attempt Unit) := []
  /-- What the next closings come to; after that they succeed. -/
  closings : List (Attempt Unit) := []
  /-- Whether closing does more than let go of the resource. -/
  ownClose : Bool := true
  /-- The number of the next resource. -/
  nextId : Nat := 0
  /-- The journal, the newest line last. -/
  journal : List JournalLine := []

namespace Workshop

/-- One more line in the journal. -/
def note (w : Workshop) (line : JournalLine) : Workshop :=
  { w with journal := w.journal ++ [line] }

/-- Creates a resource if the script says so. -/
def create (w : Workshop) : Creation Workshop Specimen :=
  let outcome := w.creations.headD (.ok ())
  let w := { w with creations := w.creations.tail }
  match outcome with
  | .ok () => ⟨.ok ⟨w.nextId, ""⟩, [], { w.note (.created w.nextId) with nextId := w.nextId + 1 }⟩
  | .failed error => ⟨.failed error, [], w.note .createFailed⟩
  | .panicked message => ⟨.panicked message, [], w⟩

/-- Lets go of a resource. -/
def drop (r : Specimen) (w : Workshop) : Workshop := w.note (.dropped r.id)

/-- Closes a resource; it is gone whatever the script says. -/
def close (r : Specimen) (w : Workshop) : Attempt Unit × Workshop :=
  if w.ownClose then
    let outcome := w.closings.headD (.ok ())
    (outcome, drop r ({ w with closings := w.closings.tail }.note (.closing r.id)))
  else (.ok (), drop r w)

/-- The factory of a workshop. -/
def factory : Factory Workshop Specimen where
  bytes := Specimen.bytes
  create := create
  close := close
  discard := drop

end Workshop

/-! ### Direct calls -/

/-- A factory at work without a pool. -/
structure FactoryRun where
  /-- The factory. -/
  factory : Factory Workshop Specimen
  /-- Its state. -/
  works : Workshop
  /-- Resources created and not yet closed, the oldest first. -/
  held : List Specimen := []
  /-- What has been logged. -/
  log : List Event := []

namespace FactoryRun

/-- What a direct call answers. -/
inductive Answer where
  /-- A resource was created. -/
  | created (id : Nat)
  /-- The oldest resource was closed. -/
  | closed
  /-- There is no resource to close. -/
  | nothingToClose
  /-- The factory failed. -/
  | failed (error : String)
  /-- The factory broke down. -/
  | broken (message : String)

/-- Creates a resource. -/
def create (r : FactoryRun) : Answer × FactoryRun :=
  let c := r.factory.create r.works
  let r := { r with works := c.state, log := r.log ++ c.effects.filterMap Effect.event? }
  match c.result with
  | .ok x => (.created x.id, { r with held := r.held ++ [x] })
  | .failed error => (.failed error, r)
  | .panicked message => (.broken message, r)

/-- Closes the oldest resource. -/
def close (r : FactoryRun) : Answer × FactoryRun :=
  match r.held with
  | [] => (.nothingToClose, r)
  | x :: held =>
    let (result, works) := r.factory.close x r.works
    let r := { r with works, held }
    match result with
    | .ok () => (.closed, r)
    | .failed error => (.failed error, r)
    | .panicked message => (.broken message, r)

end FactoryRun

end DataTier
