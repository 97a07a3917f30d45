import Keyring.Datum

/-!
# Log events and bound context

An event has a name, a level and named fields. Fields bound to the context are added to every event
logged while they are bound; a field of the event itself wins over a bound one of the same name.
-/

namespace Keyring.Log

inductive Level where
  | debug
  | info
  | warning
  deriving DecidableEq

def Level.name : Level → Text
  | debug => "debug"
  | info => "info"
  | warning => "warning"

abbrev Field := Datum

abbrev Fields := List (Text × Field)

namespace Fields

def get? (fields : Fields) (name : Text) : Option Field :=
  (fields.find? fun entry => entry.1 == name).map (·.2)

def set : Fields → Text → Field → Fields
  | [], name, value => [(name, value)]
  | entry :: rest, name, value =>
    if entry.1 = name then (name, value) :: rest else entry :: set rest name value

/-- All fields of both; where both have a name, the second value counts. -/
def update (fields more : Fields) : Fields :=
  more.foldl (fun fields entry => fields.set entry.1 entry.2) fields

def erase (fields : Fields) (names : List Text) : Fields :=
  fields.filter fun entry => !names.contains entry.1

end Fields

structure Event where
  name : Text
  level : Level
  fields : Fields
  deriving DecidableEq

abbrev Context := Fields

namespace Context

def enter (context : Context) (block : Fields) : Context :=
  context.update block

/-- The context after a block that bound fields: none of their names is bound any more. -/
def leave (context : Context) (block : Fields) : Context :=
  context.erase (block.map (·.1))

end Context

def Event.record (context : Context) (event : Event) : Fields :=
  ((context.update event.fields).set "level" (.text event.level.name)).set "event"
    (.text event.name)

structure Blocks where
  context : Context
  entered : List Fields

inductive LeaveFault where
  | noBlock
  | noSuchBlock
  deriving DecidableEq

def LeaveFault.message : LeaveFault → Text
  | noBlock => "pop from empty list"
  | noSuchBlock => "pop index out of range"

namespace Blocks

def none : Blocks := ⟨[], []⟩

def enter (blocks : Blocks) (block : Fields) : Blocks :=
  ⟨blocks.context.enter block, blocks.entered ++ [block]⟩

/-- Leaves the block at an index; a negative index counts from the last block entered. -/
def leave (blocks : Blocks) (index : Int) : Except LeaveFault Blocks :=
  let place := if index < 0 then index + blocks.entered.length else index
  if blocks.entered.isEmpty then .error .noBlock
  else if place < 0 then .error .noSuchBlock
  else
    match blocks.entered[place.toNat]? with
    | some block => .ok ⟨blocks.context.leave block, blocks.entered.eraseIdx place.toNat⟩
    | .none => .error .noSuchBlock

end Blocks

end Keyring.Log
