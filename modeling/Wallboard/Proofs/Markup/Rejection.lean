import Wallboard.Proofs.Markup.Tag

namespace Wallboard.Tag

/-- If the building is rejected, then for an option of this kind of tag. -/
def RejectsOption {α : Type} (kind : TagKind) (built : Build α) : Prop :=
  ∀ error, built = .error (.rejected error) → ∃ fault, error = .invalidOption kind fault

namespace RejectsOption

variable {α β : Type} {kind : TagKind}

theorem ok (value : α) : RejectsOption kind (.ok value) := by
  intro error failed
  cases failed

theorem refuse (fault : OptionFault) : RejectsOption kind (Tag.refuse kind fault : Build α) := by
  intro error failed
  cases failed
  exact ⟨fault, rfl⟩

theorem bind {first : Build α} {next : α → Build β} (head : RejectsOption kind first)
    (tail : ∀ value, RejectsOption kind (next value)) : RejectsOption kind (first >>= next) := by
  intro error failed
  rcases bind_eq_error_iff.mp failed with failed | ⟨value, _, failed⟩
  · exact head error failed
  · exact tail value error failed

theorem readInteger (option : IntegerOption) (text : Text) :
    RejectsOption kind (Tag.readInteger kind option text) := by
  unfold Tag.readInteger
  split
  · exact refuse _
  · split
    · exact ok _
    · intro error failed
      cases failed

theorem readNatural (option : IntegerOption) (text : Text) :
    RejectsOption kind (Tag.readNatural kind option text) := by
  apply bind (readInteger option text)
  intro value
  split
  · exact refuse _
  · exact ok value

theorem readPadWidth (argument : Option Text) :
    RejectsOption kind (Tag.readPadWidth kind argument) := by
  cases argument with
  | none => exact ok none
  | some text => exact bind (readNatural .padWidth text) fun width => ok (some width)

theorem readScale (argument : Option Text) : RejectsOption .item (Tag.readScale argument) := by
  cases argument with
  | none => exact ok _
  | some text =>
      unfold Tag.readScale
      dsimp only
      split
      · exact ok _
      · exact refuse _

theorem readDecimals (argument : Option Text) :
    RejectsOption .gps (Tag.readDecimals argument) := by
  cases argument with
  | none => exact ok _
  | some text => exact readNatural .decimals text

variable (arguments : List Text)

theorem buildMass : RejectsOption .mass (Tag.buildMass arguments) :=
  bind (readPadWidth _) fun _ => ok _

theorem buildItem : RejectsOption .item (Tag.buildItem arguments) := by
  unfold Tag.buildItem
  split
  · exact refuse _
  · exact bind (readScale _) fun _ => bind (readPadWidth _) fun _ => ok _

theorem buildGas : RejectsOption .gas (Tag.buildGas arguments) := by
  unfold Tag.buildGas
  split
  · exact refuse _
  · split
    · exact refuse _
    · exact bind (readPadWidth _) fun _ => ok _

theorem buildCoordinate : RejectsOption .gps (Tag.buildCoordinate arguments) := by
  unfold Tag.buildCoordinate
  split
  · exact refuse _
  · split
    · exact refuse _
    · exact bind (readDecimals _) fun _ => bind (readPadWidth _) fun _ => ok _

theorem buildPower : RejectsOption .power (Tag.buildPower arguments) := by
  unfold Tag.buildPower
  split
  · exact refuse _
  · exact bind (readInteger .divisor _) fun _ => bind (readPadWidth _) fun _ => ok _

theorem buildKind : RejectsOption kind (Tag.buildKind kind arguments) := by
  cases kind with
  | mass => exact buildMass arguments
  | item => exact buildItem arguments
  | gas => exact buildGas arguments
  | gps => exact buildCoordinate arguments
  | power => exact buildPower arguments

end RejectsOption

theorem build_not_unterminated {body : Text} {offset : Nat} :
    build body ≠ .error (.rejected (.unterminatedTag offset)) := by
  intro failed
  unfold build at failed
  dsimp only at failed
  split at failed
  · cases failed
  · rename_i kind _
    obtain ⟨fault, impossible⟩ := RejectsOption.buildKind _ _ failed
    cases impossible

end Wallboard.Tag
