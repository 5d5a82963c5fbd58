import Wallboard.Number.Integer
import Wallboard.Text.Hex
import Wallboard.Web.Percent

namespace Wallboard.Host

/-- Whether a text is four runs of digits with any one character between two runs. `separators`
counts the separators to come, and `open` tells whether the current run has a digit. -/
def isQuad (separators : Nat) (opened : Bool) : Text → Bool
  | [] => separators = 0 && opened
  | char :: rest =>
      (char.isDigit && isQuad separators true rest) ||
        (opened && 0 < separators && isQuad (separators - 1) false rest)

def isOctet (digits : Text) : Bool :=
  !digits.isEmpty && digits.all Char.isDigit && digits.length ≤ 3 &&
    (digits.length = 1 || digits.head? != some '0') && Integer.value digits ≤ 255

def isFourOctets (text : Text) : Bool :=
  let parts := Text.splitAt '.' text
  parts.length = 4 && parts.all isOctet

def isGroup (digits : Text) : Bool :=
  !digits.isEmpty && digits.length ≤ 4 && digits.all fun char => (Text.hexValue? char).isSome

/-- The parts between colons, four octets at the end counted as two groups. -/
def groups? (text : Text) : Option (List Text) :=
  let parts := Text.splitAt ':' text
  if parts.length < 3 then none
  else
    match parts.reverse with
    | [] => none
    | last :: others =>
        if last.contains '.' then
          if isFourOctets last then some (others.reverse ++ [['0'], ['0']]) else none
        else some parts

/-- The groups on one side of the double colon; an empty one may only be the sole one. -/
def side? (groups : List Text) : Option (List Text) :=
  if groups = [[]] then some [] else if groups.all isGroup then some groups else none

def isEightGroups (parts : List Text) : Bool :=
  let inner := (parts.drop 1).dropLast
  match inner.findIdx? List.isEmpty with
  | none => parts.length = 8 && parts.all isGroup
  | some index =>
      let high := parts.take (index + 1)
      let low := parts.drop (index + 2)
      match side? high, side? low with
      | some high, some low => high.length + low.length < 8
      | _, _ => false

def withoutZone? (text : Text) : Option Text :=
  match Text.cut '%' text with
  | (address, none) => some address
  | (address, some zone) => if zone.isEmpty || zone.contains '%' then none else some address

def isWideAddress (text : Text) : Bool :=
  !text.contains '/' &&
    match withoutZone? text with
    | none => false
    | some address => ((groups? address).map isEightGroups).getD false

def isBracketed (text : Text) : Bool :=
  text.head? = some '[' && 2 ≤ text.length && text.getLast? = some ']'

def keeps (char : Char) : Bool := "!$&'()*+,;=\"`\x7b\x7d%|\\".toList.contains char

inductive Fault
  | narrowAddress
  | wideAddress
  | name
  deriving DecidableEq

def normal (host : Text) : Except Fault Text :=
  if host.isEmpty then .ok []
  else if isQuad 3 false host then if isFourOctets host then .ok host else .error .narrowAddress
  else if isBracketed host then
    let address := (host.drop 1).dropLast
    if isWideAddress address then .ok address else .error .wideAddress
  else if host.all fun char => char.toNat < 0x80 then
    .ok (Percent.encode keeps (host.map Char.toLower))
  else .error .name

end Wallboard.Host
