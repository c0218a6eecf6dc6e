/-!
# JSON values

The values a JSON text denotes. Objects keep the order of their members, and a number written
with a fraction or an exponent is kept apart from an integer.
-/

namespace ModuleLint.Json

/-- A JSON value. -/
inductive Value
  | null
  | bool (b : Bool)
  | int (n : Int)
  /-- The number `coefficient * 10 ^ exponent`, negated if `negative`. -/
  | decimal (negative : Bool) (coefficient : Nat) (exponent : Int)
  | string (s : String)
  | array (items : List Value)
  | object (members : List (String × Value))
  deriving Inhabited, Repr

/-- The member of an object with the given name, the last one if it is repeated. -/
def Value.member? (name : String) : Value → Option Value
  | .object members => (members.reverse.find? fun m => m.1 == name).map (·.2)
  | _ => none

/-- The floating-point number nearest to a decimal. Decimals from ten to the 310th on are
infinite, and those below ten to the minus 330th are zero. -/
def floatOfDecimal (negative : Bool) (coefficient : Nat) (exponent : Int) : Float :=
  let magnitude := (Nat.toDigits 10 coefficient).length + exponent
  let size : Float :=
    if coefficient = 0 ∨ magnitude < -330 then 0
    else if 310 < magnitude then 1 / 0
    else Float.ofScientific coefficient (exponent < 0) exponent.natAbs
  if negative then -size else size

end ModuleLint.Json
