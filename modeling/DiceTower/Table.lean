import DiceTower.Execution

/-!
# Tables

At a table sit rollers, each with options of its own, who share one random source. A step lets one
of them carry out or read a text, write or check a command without rolling it, or seat a new roller
whose options are a revision of his own. `Table.run` plays steps in order and tells what each of
them came to; a step that fails leaves the table as it was, apart from what was drawn.
-/

namespace DiceTower

/-- What a roller can be asked to do. -/
inductive Action where
  /-- Carry out a text. -/
  | execute (text : Option String)
  /-- Read a text as a command. -/
  | read (text : Option String)
  /-- Write a command, or name the command in place of a blank one. -/
  | write (command : Option Command)
  /-- Check a command against limits, his own unless others are given. -/
  | check (command : Command) (limits : Option Limits)
  /-- Seat a new roller. -/
  | seat (revision : Revision)
deriving DecidableEq, Repr

/-- A request to the roller at a place. -/
structure Step where
  place : Nat
  action : Action
deriving DecidableEq, Repr

/-- What a step comes to. -/
inductive Answer where
  | report (report : Report)
  | command (command : Command)
  | text (text : String)
  | passed
  | seated (options : Options)
  /-- Nobody sits at the place. -/
  | vacant
deriving DecidableEq, Repr

/-- A step that was played. -/
structure Performed where
  result : Except Failure Answer
  calls : List Call
  events : List Event

/-- The rollers at a table and the source they share. -/
structure Table (σ : Type) where
  rollers : List Options
  source : σ

namespace Options

/-- Reads a text with the command of the options in place of a blank one. -/
def read (options : Options) (text : Option String) : Except Failure Command :=
  Command.read text options.command

/-- Writes a command, or names the command in place of a blank one. -/
def write (options : Options) (command : Option Command) : Except Failure String :=
  Command.writeOr command options.command

/-- Does what a roller with the options is asked for. -/
def perform {σ : Type} (options : Options) (source : Source σ) : Action → Play σ Answer
  | .execute text => .report <$> options.execute source text
  | .read text => .command <$> Play.ofExcept (options.read text)
  | .write command => .text <$> Play.ofExcept (options.write command)
  | .check command limits => do
    (limits.getD options.limits).check command
    return .passed
  | .seat revision => return .seated (options.revise revision)

end Options

namespace Table

/-- The rollers after a step: one more if a roller was seated. -/
def seatedAfter (rollers : List Options) : Except Failure Answer → List Options
  | .ok (.seated options) => rollers ++ [options]
  | _ => rollers

/-- Plays one step. -/
def step {σ : Type} (source : Source σ) (table : Table σ) (step : Step) :
    Performed × Table σ :=
  match table.rollers[step.place]? with
  | none => (⟨.ok .vacant, [], []⟩, table)
  | some options =>
    let ran := (options.perform source step.action).run table.source
    (⟨ran.result, ran.calls, ran.events⟩, ⟨seatedAfter table.rollers ran.result, ran.source⟩)

/-- Plays steps in order. -/
def run {σ : Type} (source : Source σ) (table : Table σ) : List Step → List Performed × Table σ
  | [] => ([], table)
  | first :: rest =>
    let (performed, table) := table.step source first
    let (others, table) := table.run source rest
    (performed :: others, table)

end Table

end DiceTower
