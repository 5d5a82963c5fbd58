import Wallboard.Json.Basic

namespace Wallboard.Log

inductive PatternFault
  | tooFewArguments
  | argumentsLeft
  | fieldsWanted
  | missingField (name : Text)
  | incomplete
  | incompleteName
  | unknownConversion (conversion : Char) (index : Nat)
  | starWantsInteger
  | widthTooBig
  | placesTooBig
  | numberWanted (conversion : Char) (found : Json)
  | integerWanted (conversion : Char) (found : Json)
  | realWanted (found : Json)
  | characterWanted
  | characterOutOfRange
  | infiniteInteger
  | undefinedInteger
  | doubleOverflow
  | widthOverflow
  | placesOverflow
  | unprintable

namespace PatternFault

def message : PatternFault → Text
  | tooFewArguments => "not enough arguments for format string".toList
  | argumentsLeft => "not all arguments converted during string formatting".toList
  | fieldsWanted => "format requires a mapping".toList
  | missingField name => Text.quoted name
  | incomplete => "incomplete format".toList
  | incompleteName => "incomplete format key".toList
  | unknownConversion conversion index =>
      let code := conversion.toNat
      let seen := if 31 ≤ code ∧ code ≤ 126 then conversion else '?'
      "unsupported format character '".toList ++ seen :: "' (0x".toList ++ Nat.toDigits 16 code ++
        ") at index ".toList ++ Integer.digits index
  | starWantsInteger => "* wants int".toList
  | widthTooBig => "width too big".toList
  | placesTooBig => "precision too big".toList
  | numberWanted conversion found =>
      '%' :: conversion :: " format: a real number is required, not ".toList ++ found.kindName
  | integerWanted conversion found =>
      '%' :: conversion :: " format: an integer is required, not ".toList ++ found.kindName
  | realWanted found => "must be real number, not ".toList ++ found.kindName
  | characterWanted => "%c requires int or char".toList
  | characterOutOfRange => "%c arg not in range(0x110000)".toList
  | infiniteInteger => "cannot convert float infinity to integer".toList
  | undefinedInteger => "cannot convert float NaN to integer".toList
  | doubleOverflow => "int too large to convert to float".toList
  | widthOverflow => "Python int too large to convert to C ssize_t".toList
  | placesOverflow => "Python int too large to convert to C int".toList
  | unprintable => Integer.unprintableMessage

end PatternFault

end Wallboard.Log
