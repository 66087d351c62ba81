import FactoryGen.Number.Decimal

/-! Numbers as documents hold them: integers, and everything else as binary
floating point. -/
namespace FactoryGen

/-- A number of a document. -/
inductive Numeral where
  | integer (value : Int)
  | binary (value : Number.Binary)
deriving DecidableEq, Repr

namespace Numeral

/-- The text of a number in output. -/
def text : Numeral → String
  | .integer value => toString value
  | .binary value => Number.Layout.inOutput.text value

/-- Whether a number counts as something: neither zero nor too small for a full
significand. -/
def isTruthy : Numeral → Bool
  | .integer value => value != 0
  | .binary value => value.isNormal

end Numeral
end FactoryGen
