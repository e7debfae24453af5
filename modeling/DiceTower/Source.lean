/-!
# Random sources

A random source rolls a die between two bounds and draws a sample from a list. It is given by two
functions on a state, so a run is determined by the state it starts from. Nothing is asked of a
source here; `Source.Lawful` says what a fair one keeps to.

`Source.ofGenerator` makes a source from a function that gives the next number below a bound. The
rest of the module holds scripted sources, for runs whose dice are known beforehand.
-/

namespace DiceTower

/-- A source of rolls and samples with states of type `σ`. -/
structure Source (σ : Type) where
  /-- What the source calls itself. -/
  name : String
  /-- Rolls a number between two bounds, both included. -/
  die : σ → Int → Int → Int × σ
  /-- Draws a number of elements from a list, each place at most once, and refuses if there are
  not that many. -/
  sample : σ → List Int → Int → Option (List Int) × σ

/-- A call on a random source. -/
inductive Call where
  | die (low high : Int)
  | sample (population : List Int) (size : Int)
deriving DecidableEq, Repr

namespace Source

/-- A list drawn from a population: its elements are taken from distinct places. -/
def DrawnFrom (drawn population : List Int) : Prop :=
  ∃ rest, (drawn ++ rest).Perm population

/-- A source that keeps to its bounds, refuses just the samples that cannot be drawn, and draws
every other sample from the population. -/
structure Lawful {σ : Type} (source : Source σ) : Prop where
  die_mem : ∀ state low high, low ≤ high →
    low ≤ (source.die state low high).1 ∧ (source.die state low high).1 ≤ high
  sample_eq_none_iff : ∀ state population size,
    (source.sample state population size).1 = none ↔ size < 0 ∨ (population.length : Int) < size
  drawn_of_sample : ∀ state population size drawn,
    (source.sample state population size).1 = some drawn →
      (drawn.length : Int) = size ∧ DrawnFrom drawn population

/-! ## Sources from number generators -/

/-- Draws elements one after the other. Each one drawn is replaced by the first of the list, which
is taken off. -/
def pick {σ : Type} (below : σ → Nat → Nat × σ) : Nat → List Int → σ → List Int × σ
  | 0, _, state => ([], state)
  | _ + 1, [], state => ([], state)
  | count + 1, head :: rest, state =>
    let (place, state) := below state (rest.length + 1)
    let (drawn, left) :=
      match place with
      | 0 => (head, rest)
      | place + 1 => (rest.getD place head, rest.set place head)
    let (others, state) := pick below count left state
    (drawn :: others, state)

/-- A sample of a list by a function that draws, refused unless the list has that many. -/
def sampled {σ : Type} (draw : Nat → List Int → σ → List Int × σ)
    (state : σ) (population : List Int) (size : Int) : Option (List Int) × σ :=
  if size < 0 ∨ (population.length : Int) < size then
    (none, state)
  else
    let (drawn, state) := draw size.toNat population state
    (some drawn, state)

/-- The source that takes its numbers from a generator of numbers below a bound. -/
def ofGenerator {σ : Type} (name : String) (below : σ → Nat → Nat × σ) : Source σ where
  name := name
  die state low high :=
    let (offset, state) := below state (high - low + 1).toNat
    (low + offset, state)
  sample := sampled (pick below)

/-- The source of unforeseeable dice, on the state of a general purpose generator. -/
def system : Source StdGen :=
  ofGenerator "random.SystemRandom" fun state count => randNat state 0 (count - 1)

end Source

/-! ## Scripted sources -/

/-- The script of a source: what it rolls. Samples are the first elements of the population, from
its end when `backward`; a congruential script draws them by its numbers. -/
inductive Script where
  /-- Always the same number. -/
  | constant (value : Int) (backward : Bool)
  /-- The numbers of a list in turn, over and over; `next` is the place of the coming one. -/
  | cycle (values : Array Int) (next : Nat) (backward : Bool)
  /-- The numbers of a linear congruential generator. -/
  | congruential (state : UInt64)
deriving Repr

namespace Script

/-- One step of the generator: its high bits are the number it gives. -/
def step (state : UInt64) : Nat × UInt64 :=
  let state := state * 6364136223846793005 + 1442695040888963407
  ((state >>> 33).toNat, state)

/-- The next number of the generator, reduced below a bound. -/
def below (state : UInt64) (count : Nat) : Nat × UInt64 :=
  let (number, state) := step state
  (number % count, state)

/-- The congruential script that starts from a seed. -/
def seeded (seed : Int) : Script :=
  .congruential (UInt64.ofInt seed)

/-- The first elements of a list, or the last ones from the end. -/
def front (backward : Bool) (count : Nat) (population : List Int) : List Int :=
  (if backward then population.reverse else population).take count

/-- The roll a script gives, and the script from then on. -/
def die (script : Script) (low high : Int) : Int × Script :=
  match script with
  | constant value _ => (value, script)
  | cycle values next backward =>
    (values.getD (next % values.size) 0, cycle values (next + 1) backward)
  | congruential state =>
    let (offset, state) := below state (high - low + 1).toNat
    (low + offset, congruential state)

/-- The elements a script draws, and the script from then on. -/
def draw (count : Nat) (population : List Int) (script : Script) : List Int × Script :=
  match script with
  | constant _ backward => (front backward count population, script)
  | cycle _ _ backward => (front backward count population, script)
  | congruential state =>
    let (drawn, state) := Source.pick below count population state
    (drawn, congruential state)

end Script

/-- The source that follows a script. -/
def Source.scripted : Source Script where
  name := "scripted"
  die := Script.die
  sample := Source.sampled Script.draw

end DiceTower
