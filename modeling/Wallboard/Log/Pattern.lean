import Wallboard.Log.Pattern.Value

/-!
Patterns of log lines and messages. A percent sign starts a conversion, which draws a value from a
row of arguments or, by a name in parentheses, from named fields, and writes its text.
-/
namespace Wallboard.Log.Pattern

def source (supply : Supply) : Text → Except PatternFault (Supply × Text)
  | '(' :: rest =>
      if supply.fields.isNone then .error .fieldsWanted
      else
        match fieldName 1 rest with
        | none => .error .incompleteName
        | some (name, rest) => (supply.narrow name).map fun supply => (supply, rest)
  | rest => .ok (supply, rest)

/-- One conversion after its percent sign: its text and what follows. A second percent sign stands
for itself. `length` is the length of the whole pattern. -/
def conversion (length : Nat) (supply : Supply) :
    Text → Except PatternFault (Text × Supply × Text)
  | '%' :: rest => .ok (['%'], supply, rest)
  | rest => do
      let (supply, rest) ← source supply rest
      let (style, supply, rest) ← style supply rest
      let (value, supply) ← supply.next
      let text ← convert style (length - rest.length - 1) value
      .ok (text, supply, rest)

/-- Fills in a pattern. Every conversion consumes a percent sign, so that a fuel of the length of
the pattern is never used up. -/
def fill (length : Nat) : Nat → Supply → Text → Except PatternFault Text
  | 0, _, _ => .error .incomplete
  | fuel + 1, supply, pattern =>
      let (plain, after) := Text.cut '%' pattern
      match after with
      | none =>
          if supply.fields.isNone && !supply.pending.isEmpty then .error .argumentsLeft
          else .ok plain
      | some rest => do
          let (text, supply, rest) ← conversion length supply rest
          let tail ← fill length fuel supply rest
          .ok (plain ++ text ++ tail)

def format (supply : Supply) (pattern : Text) : Except PatternFault Text :=
  fill pattern.length (pattern.length + 1) supply pattern

end Wallboard.Log.Pattern
