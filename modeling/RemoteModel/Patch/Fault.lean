/-!
# Why an operation does not apply

The causes for which a patch operation is refused, and the words for each of them.
-/

namespace RemoteModel.Patch

/-- A cause for which an operation is refused. -/
inductive Fault where
  /-- The document does not hold the value that is tested for. -/
  | testFailed (path : String)
  /-- An operation with a source has none. -/
  | noSource (operation : String)
  /-- No element of the model has the identifier. -/
  | noElement (id : String)
  /-- A path is neither a model path nor a pointer. -/
  | notAPointer (path : String)
  /-- A step leads to nothing. -/
  | noValue (path : String)
  /-- A step into a list is no number. -/
  | notAnIndex (token : String)
  /-- A step into a list leads out of it. -/
  | outOfRange (index : Int)
  /-- A value that is neither a list nor an object cannot be added to. -/
  | addBelowScalar (path : String)
  /-- A value that is neither a list nor an object has nothing to replace. -/
  | replaceBelowScalar (path : String)
deriving DecidableEq, Repr

/-- The words for a cause. -/
def Fault.message : Fault → String
  | testFailed path => "test failed at " ++ path
  | noSource operation => "'" ++ operation ++ "' requires a 'from' location"
  | noElement id => "no element with id '" ++ id ++ "' in model"
  | notAPointer path => "invalid JSON pointer: " ++ path
  | noValue path => "path not found: " ++ path
  | notAnIndex token => "invalid list index '" ++ token ++ "'"
  | outOfRange index => "list index " ++ toString index ++ " out of range"
  | addBelowScalar path => "cannot add below a scalar at " ++ path
  | replaceBelowScalar path => "cannot replace below a scalar at " ++ path

end RemoteModel.Patch
