import DiceTower.Command
import DiceTower.Phrase

/-!
# Failures

What can go wrong between a text and a result. Two causes lie in the command itself and are told
to the user: a field above its limit, and a die without faces. The others are a numeral that is
too long, and a sample that the random source cannot draw. `Failure.message` is the wording of
each, and `Failure.worded` is what arises in place of a failure whose own wording holds a number
that cannot be written.
-/

namespace DiceTower

/-- The causes of failure. -/
inductive Failure where
  /-- The value of a field is above its limit. -/
  | overLimit (field : Field) (value limit : Int)
  /-- A die needs at least one face. -/
  | noFaces (faces : Int)
  /-- A numeral is too long. -/
  | numeral (fault : Numeral.Fault)
  /-- A sample is larger than what it is drawn from, or its size is negative. -/
  | unfitSample
deriving DecidableEq, Repr, Inhabited

namespace Failure

/-- The wording of a failure in pieces. -/
def phrase : Failure → Phrase
  | overLimit field value limit =>
    ["[THROTTLE_EXCEEDED] ", field.name, " (", value, ") exceeds the limit of ", limit,
      " that has been imposed"]
  | noFaces faces =>
    ["[DOMAIN_ERROR] Cannot roll a die with ", faces, " faces. Faces must be at least 1."]
  | numeral fault => [fault.message]
  | unfitSample => ["Sample larger than population or is negative"]

/-- The wording of a failure. -/
def message (failure : Failure) : String :=
  Phrase.text failure.phrase

/-- The failures that lie in the command and are told to the user. -/
def isUserFacing : Failure → Bool
  | overLimit .. => true
  | noFaces .. => true
  | _ => false

/-- The failure that arises for a cause: the cause itself if it can be worded, and otherwise the
numeral that stands in the way. -/
def worded (failure : Failure) : Failure :=
  if Phrase.legible failure.phrase then failure else numeral .unwritable

end Failure

/-- A phrase as part of a computation that may fail. -/
def Phrase.written (phrase : Phrase) : Except Failure String :=
  phrase.write.mapError Failure.numeral

end DiceTower
