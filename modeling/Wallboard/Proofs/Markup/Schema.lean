import Wallboard.Proofs.Markup.Arguments
import Wallboard.Proofs.Markup.Build
import Wallboard.Proofs.Markup.Rejection

/-!
The language of tags. Each kind has a schema of arguments by place, which says what is accepted
there and what the element takes from it; a tag is built exactly if its arguments fit the schema of
its kind, and else rejected for an option of that kind.
-/
namespace Wallboard

namespace Integer

/-- The text is an optional sign before at least one ASCII digit. -/
inductive Spells : Text → Numeral → Prop
  | unsigned {digits : Text} (filled : digits ≠ [])
      (numeric : ∀ char ∈ digits, char.isDigit = true) : Spells digits ⟨false, digits⟩
  | plus {digits : Text} (filled : digits ≠ [])
      (numeric : ∀ char ∈ digits, char.isDigit = true) : Spells ('+' :: digits) ⟨false, digits⟩
  | minus {digits : Text} (filled : digits ≠ [])
      (numeric : ∀ char ∈ digits, char.isDigit = true) : Spells ('-' :: digits) ⟨true, digits⟩

/-- The text is an integer of some value, however many digits it has. -/
def Spelled (text : Text) (value : Int) : Prop :=
  ∃ numeral, Spells text numeral ∧ numeral.value = value

variable {text : Text} {numeral : Numeral} {value : Int}

theorem spells_iff : Spells text numeral ↔ Numeral.ofText? text = some numeral := by
  constructor
  · intro spells
    cases spells with
    | unsigned filled numeric => exact Numeral.ofText?_of_digits filled numeric
    | @plus digits filled numeric =>
        have read := Numeral.magnitude?_eq_some_iff.mpr ⟨rfl, filled, numeric⟩
        simp [Numeral.ofText?, read]
    | @minus digits filled numeric =>
        have read := Numeral.magnitude?_eq_some_iff.mpr ⟨rfl, filled, numeric⟩
        simp [Numeral.ofText?, read]
  · intro written
    unfold Numeral.ofText? at written
    split at written
    · obtain ⟨digits, read, rfl⟩ := Option.map_eq_some_iff.mp written
      obtain ⟨rfl, filled, numeric⟩ := Numeral.magnitude?_eq_some_iff.mp read
      exact .minus filled numeric
    · obtain ⟨digits, read, rfl⟩ := Option.map_eq_some_iff.mp written
      obtain ⟨rfl, filled, numeric⟩ := Numeral.magnitude?_eq_some_iff.mp read
      exact .plus filled numeric
    · obtain ⟨digits, read, rfl⟩ := Option.map_eq_some_iff.mp written
      obtain ⟨rfl, filled, numeric⟩ := Numeral.magnitude?_eq_some_iff.mp read
      exact .unsigned filled numeric

theorem Spells.length_digits_le (spells : Spells text numeral) :
    numeral.digits.length ≤ text.length := by
  cases spells with
  | unsigned filled numeric => exact Nat.le_refl _
  | plus filled numeric => exact Nat.le_succ _
  | minus filled numeric => exact Nat.le_succ _

theorem Readable.spelled (readable : Readable text value) : Spelled text value := by
  obtain ⟨numeral, written, _, same⟩ := readable
  exact ⟨numeral, spells_iff.mpr written, same⟩

theorem Spelled.readable (spelled : Spelled text value)
    (short : ∀ numeral, Spells text numeral → numeral.digits.length ≤ 4300) :
    Readable text value := by
  obtain ⟨numeral, spells, same⟩ := spelled
  exact ⟨numeral, spells_iff.mp spells, short numeral spells, same⟩

theorem Overlong.not_short {digits : Nat} (overlong : Overlong text digits) :
    ¬ ∀ numeral, Spells text numeral → numeral.digits.length ≤ 4300 := by
  intro short
  obtain ⟨numeral, written, counted, long⟩ := overlong
  have fits := short numeral (spells_iff.mpr written)
  rw [counted] at fits
  exact Nat.not_lt.mpr fits long

end Integer

theorem Scale.ofLetter?_eq_some_iff {text : Text} {scale : Scale} :
    Scale.ofLetter? text = some scale ↔ text = [scale.letter] := by
  unfold Scale.ofLetter?
  cases scale <;> split <;> simp_all [Scale.letter]

theorem Axis.ofSymbol?_eq_some_iff {symbol : Text} {axis : Axis} :
    Axis.ofSymbol? symbol = some axis ↔ symbol = axis.symbol := by
  constructor
  · intro known
    unfold Axis.ofSymbol? at known
    split_ifs at known with x y z
    · rw [x, ← Option.some.inj known]
    · rw [y, ← Option.some.inj known]
    · rw [z, ← Option.some.inj known]
  · rintro rfl
    cases axis <;> decide

namespace Tag

open Integer

/-- The argument at a place between commas, stripped, unless it is missing or blank. -/
def given (body : Text) (place : Nat) : Option Text :=
  (stripped body)[place]?.filter fun text => decide (text ≠ [])

def integerPlaces : TagKind → List Nat
  | .mass => [1]
  | .item => [1]
  | .gas => [1]
  | .gps => [1, 2]
  | .power => [0, 1]

/-- No integer among the arguments has more than 4300 digits. -/
def ShortIntegers (body : Text) (kind : TagKind) : Prop :=
  ∀ place ∈ integerPlaces kind, ∀ text ∈ given body place,
    ∀ numeral, Spells text numeral → numeral.digits.length ≤ 4300

def NaturalIfGiven (argument : Option Text) : Prop :=
  ∀ text ∈ argument, ∃ value, Spelled text value ∧ 0 ≤ value

/-- The first letter of the text becomes the letter of a scale in lower case. -/
def NamesScale (text : Text) (scale : Scale) : Prop :=
  ∃ first rest, text = first :: rest ∧ Text.lowerChar first = [scale.letter]

/-- The arguments fit the schema of a kind. Every kind may have a pad width in the second place. -/
def Fits (body : Text) (kind : TagKind) : Prop :=
  NaturalIfGiven (given body 1) ∧
    match kind with
    | .mass => True
    | .item =>
        (∃ key, given body 0 = some key) ∧ ∀ text ∈ given body 2, ∃ scale, NamesScale text scale
    | .gas => ∃ text ∈ given body 0, ∃ gas : Gas, Text.upper text = gas.symbol
    | .gps =>
        (∃ text ∈ given body 0, ∃ axis : Axis, Text.upper text = axis.symbol) ∧
          NaturalIfGiven (given body 2)
    | .power => ∃ text ∈ given body 0, ∃ value, Spelled text value

def TakenFrom {α : Type} (argument : Option Text) (means : Text → α → Prop) (default value : α) :
    Prop :=
  match argument with
  | none => value = default
  | some text => means text value

def MeansWidth (text : Text) (padWidth : Option Int) : Prop :=
  ∃ width, Spelled text width ∧ padWidth = some width

def Holds (body : Text) : TagKind → Element → Prop
  | .mass, .mass padWidth dry =>
      TakenFrom (given body 1) MeansWidth none padWidth ∧
        (dry = true ↔ ∃ text ∈ given body 0, Text.lower text = "dry".toList)
  | .item, .itemCount resourceKey padWidth scale =>
      TakenFrom (given body 1) MeansWidth none padWidth ∧
        given body 0 = some resourceKey ∧
        TakenFrom (given body 2) NamesScale .thousands scale
  | .gas, .gas gas padWidth display =>
      TakenFrom (given body 1) MeansWidth none padWidth ∧
        (∃ text ∈ given body 0, Text.upper text = gas.symbol) ∧
        (display = .percentage ↔ given body 2 = some ['%'])
  | .gps, .coordinate axis padWidth decimals =>
      TakenFrom (given body 1) MeansWidth none padWidth ∧
        (∃ text ∈ given body 0, Text.upper text = axis.symbol) ∧
        TakenFrom (given body 2) Spelled 2 decimals
  | .power, .power divisor padWidth =>
      TakenFrom (given body 1) MeansWidth none padWidth ∧
        ∃ text ∈ given body 0, ∃ value, Spelled text value ∧ divisor = max value 1
  | _, _ => False

variable {body : Text} {kind : TagKind} {element : Element} {argument : Option Text}

theorem argument?_eq_filter (arguments : List Text) (place : Nat) :
    argument? arguments place = arguments[place]?.filter fun text => decide (text ≠ []) := by
  unfold argument?
  cases arguments[place]? with
  | none => rfl
  | some text => cases text <;> simp [Option.filter]

theorem argument?_of_allowed {place arity : Nat} (allowed : place < arity) (body : Text) :
    argument? (Tag.arguments arity (Text.cut ':' body).2) place = given body place := by
  rw [arguments_eq_take, argument?_eq_filter, List.getElem?_take_of_lt allowed, given]

theorem argument?_first (kind : TagKind) (body : Text) :
    argument? (Tag.arguments kind.arity (Text.cut ':' body).2) 0 = given body 0 :=
  argument?_of_allowed (by cases kind <;> decide) body

theorem argument?_second (kind : TagKind) (body : Text) :
    argument? (Tag.arguments kind.arity (Text.cut ':' body).2) 1 = given body 1 :=
  argument?_of_allowed (by cases kind <;> decide) body

theorem scale?_eq_some_iff {text : Text} {scale : Scale} :
    scale? text = some scale ↔ NamesScale text scale := by
  cases text with
  | nil => simp [scale?, NamesScale]
  | cons first rest => simp [scale?, NamesScale, Scale.ofLetter?_eq_some_iff]

theorem PadWidthOf.taken {padWidth : Option Int} (padded : PadWidthOf argument padWidth) :
    TakenFrom argument MeansWidth none padWidth ∧ NaturalIfGiven argument := by
  cases argument with
  | none =>
      cases padWidth with
      | none => exact ⟨rfl, by simp [NaturalIfGiven]⟩
      | some width => cases padded
  | some text =>
      cases padWidth with
      | none => cases padded
      | some width =>
          have spelled := padded.1.spelled
          exact ⟨⟨width, spelled, rfl⟩, by simpa [NaturalIfGiven] using ⟨width, spelled, padded.2⟩⟩

theorem DecimalsOf.taken {decimals : Int} (placed : DecimalsOf argument decimals) :
    TakenFrom argument Spelled 2 decimals ∧ NaturalIfGiven argument := by
  cases argument with
  | none => exact ⟨placed, by simp [NaturalIfGiven]⟩
  | some text =>
      have spelled := placed.1.spelled
      exact ⟨spelled, by simpa [NaturalIfGiven] using ⟨decimals, spelled, placed.2⟩⟩

theorem ScaleOf.taken {scale : Scale} (scaled : ScaleOf argument scale) :
    TakenFrom argument NamesScale .thousands scale ∧
      ∀ text ∈ argument, ∃ scale, NamesScale text scale := by
  cases argument with
  | none => exact ⟨scaled, by simp⟩
  | some text =>
      have named := scale?_eq_some_iff.mp scaled
      exact ⟨named, by simpa using ⟨scale, named⟩⟩

theorem Denotes.fits_holds
    (denoted : Denotes (Tag.arguments kind.arity (Text.cut ':' body).2) kind element) :
    Fits body kind ∧ Holds body kind element := by
  have first := argument?_first kind body
  have second := argument?_second kind body
  cases denoted with
  | mass padded =>
      rw [second] at padded
      refine ⟨⟨padded.taken.2, trivial⟩, padded.taken.1, ?_⟩
      rw [first]
      cases given body 0 <;> simp [isDry]
  | item key scaled padded =>
      rw [first] at key
      rw [second] at padded
      rw [argument?_of_allowed (by decide)] at scaled
      exact ⟨⟨padded.taken.2, ⟨_, key⟩, scaled.taken.2⟩, padded.taken.1, key, scaled.taken.1⟩
  | gas symbol known padded =>
      rw [first] at symbol
      rw [second] at padded
      have capital := Gas.ofSymbol?_eq_some_iff.mp known
      refine ⟨⟨padded.taken.2, _, symbol, _, capital⟩, padded.taken.1, ⟨_, symbol, capital⟩, ?_⟩
      rw [argument?_of_allowed (by decide), displayOf]
      split <;> simp_all
  | gps symbol known placed padded =>
      rw [first] at symbol
      rw [second] at padded
      rw [argument?_of_allowed (by decide)] at placed
      have capital := Axis.ofSymbol?_eq_some_iff.mp known
      exact ⟨⟨padded.taken.2, ⟨_, symbol, _, capital⟩, placed.taken.2⟩, padded.taken.1,
        ⟨_, symbol, capital⟩, placed.taken.1⟩
  | power written readable padded =>
      rw [first] at written
      rw [second] at padded
      exact ⟨⟨padded.taken.2, _, written, _, readable.spelled⟩, padded.taken.1, _, written, _,
        readable.spelled, rfl⟩

theorem NaturalIfGiven.exists_readable {text : Text} (natural : NaturalIfGiven (some text))
    (short : ∀ numeral, Spells text numeral → numeral.digits.length ≤ 4300) :
    ∃ value, Readable text value ∧ 0 ≤ value := by
  obtain ⟨value, spelled, nonneg⟩ := natural text rfl
  exact ⟨value, spelled.readable short, nonneg⟩

theorem exists_padWidthOf (natural : NaturalIfGiven argument)
    (short : ∀ text ∈ argument, ∀ numeral, Spells text numeral → numeral.digits.length ≤ 4300) :
    ∃ padWidth, PadWidthOf argument padWidth := by
  cases argument with
  | none => exact ⟨none, trivial⟩
  | some text =>
      obtain ⟨width, padded⟩ := natural.exists_readable (short text rfl)
      exact ⟨some width, padded⟩

theorem exists_decimalsOf (natural : NaturalIfGiven argument)
    (short : ∀ text ∈ argument, ∀ numeral, Spells text numeral → numeral.digits.length ≤ 4300) :
    ∃ decimals, DecimalsOf argument decimals := by
  cases argument with
  | none => exact ⟨2, rfl⟩
  | some text => exact natural.exists_readable (short text rfl)

theorem exists_scaleOf (named : ∀ text ∈ argument, ∃ scale, NamesScale text scale) :
    ∃ scale, ScaleOf argument scale := by
  cases argument with
  | none => exact ⟨.thousands, rfl⟩
  | some text =>
      obtain ⟨scale, names⟩ := named text rfl
      exact ⟨scale, scale?_eq_some_iff.mpr names⟩

theorem Fits.exists_denoted (fits : Fits body kind) (short : ShortIntegers body kind) :
    ∃ element, Denotes (Tag.arguments kind.arity (Text.cut ':' body).2) kind element := by
  have first := argument?_first kind body
  have second := argument?_second kind body
  obtain ⟨padWidth, padded⟩ :=
    exists_padWidthOf fits.1 (short 1 (by cases kind <;> decide))
  rw [← second] at padded
  cases kind with
  | mass => exact ⟨_, .mass padded⟩
  | item =>
      obtain ⟨⟨key, keyed⟩, named⟩ := fits.2
      obtain ⟨scale, scaled⟩ := exists_scaleOf named
      rw [← @argument?_of_allowed 2 TagKind.item.arity (by decide) body] at scaled
      exact ⟨_, .item (first.trans keyed) scaled padded⟩
  | gas =>
      obtain ⟨symbol, among, gas, capital⟩ := fits.2
      exact ⟨_, .gas (first.trans among) (Gas.ofSymbol?_eq_some_iff.mpr capital) padded⟩
  | gps =>
      obtain ⟨⟨symbol, among, axis, capital⟩, natural⟩ := fits.2
      obtain ⟨decimals, placed⟩ := exists_decimalsOf natural (short 2 (by decide))
      rw [← @argument?_of_allowed 2 TagKind.gps.arity (by decide) body] at placed
      exact ⟨_, .gps (first.trans among) (Axis.ofSymbol?_eq_some_iff.mpr capital) placed padded⟩
  | power =>
      obtain ⟨text, among, value, spelled⟩ := fits.2
      exact ⟨_, .power (first.trans among) (spelled.readable (short 0 (by decide) text among))
        padded⟩

theorem MeetsOverlong.at_integerPlace {digits : Nat}
    (stopped : MeetsOverlong (Tag.arguments kind.arity (Text.cut ':' body).2) digits kind) :
    ∃ place ∈ integerPlaces kind, ∃ text ∈ given body place, Overlong text digits := by
  have first := argument?_first kind body
  have second := argument?_second kind body
  cases kind with
  | mass =>
      rw [MeetsOverlong, second] at stopped
      exact ⟨1, by decide, stopped⟩
  | item =>
      rw [MeetsOverlong, second] at stopped
      exact ⟨1, by decide, stopped.2.2⟩
  | gas =>
      rw [MeetsOverlong, second] at stopped
      exact ⟨1, by decide, stopped.2⟩
  | gps =>
      have third := @argument?_of_allowed 2 TagKind.gps.arity (by decide) body
      rw [MeetsOverlong, second, third] at stopped
      rcases stopped.2 with decimals | width
      · exact ⟨2, by decide, decimals⟩
      · exact ⟨1, by decide, width.2⟩
  | power =>
      rw [MeetsOverlong, first, second] at stopped
      obtain ⟨divisor, among, divided | width⟩ := stopped
      · exact ⟨0, by decide, divisor, among, divided⟩
      · exact ⟨1, by decide, width.2⟩

theorem buildKind_of_not_fits (unfit : ¬ Fits body kind) (short : ShortIntegers body kind) :
    ∃ fault, buildKind kind (Tag.arguments kind.arity (Text.cut ':' body).2) =
      .error (.rejected (.invalidOption kind fault)) := by
  cases built : buildKind kind (Tag.arguments kind.arity (Text.cut ':' body).2) with
  | ok element => exact absurd (buildKind_eq_ok_iff.mp built).fits_holds.1 unfit
  | error fault =>
      cases fault with
      | rejected error =>
          obtain ⟨fault, rfl⟩ := RejectsOption.buildKind _ error built
          exact ⟨fault, rfl⟩
      | oversized numeral =>
          have stopped : MeetsOverlong (Tag.arguments kind.arity (Text.cut ':' body).2)
              numeral.digits kind := buildKind_eq_oversized_iff.mp built
          obtain ⟨place, integer, text, among, overlong⟩ := stopped.at_integerPlace
          exact absurd (short place integer text among) overlong.not_short

theorem build_of_known (known : kind.name = (Text.cut ':' body).1) :
    build body = buildKind kind (Tag.arguments kind.arity (Text.cut ':' body).2) := by
  simp only [build, ofName?_eq_some_iff.mpr known]

theorem build_of_unknown (unknown : ∀ kind : TagKind, kind.name ≠ (Text.cut ':' body).1) :
    build body = .error (.rejected (.unknownElementKind (Text.cut ':' body).1)) := by
  have nameless : TagKind.ofName? (Text.cut ':' body).1 = none := by
    rw [Option.eq_none_iff_forall_ne_some]
    intro kind known
    exact unknown kind (ofName?_eq_some_iff.mp known)
  simp only [build, nameless]

theorem build_eq_unknownElementKind_iff {name : Text} :
    build body = .error (.rejected (.unknownElementKind name)) ↔
      name = (Text.cut ':' body).1 ∧ ∀ kind : TagKind, kind.name ≠ name := by
  constructor
  · intro rejected
    by_cases unknown : ∀ kind : TagKind, kind.name ≠ (Text.cut ':' body).1
    · rw [build_of_unknown unknown] at rejected
      cases rejected
      exact ⟨rfl, unknown⟩
    · obtain ⟨kind, known⟩ := not_forall_not.mp unknown
      rw [build_of_known known] at rejected
      obtain ⟨fault, impossible⟩ := RejectsOption.buildKind _ _ rejected
      cases impossible
  · rintro ⟨rfl, unknown⟩
    exact build_of_unknown unknown

theorem fits_holds_of_build_eq_ok (known : kind.name = (Text.cut ':' body).1)
    (built : build body = .ok element) : Fits body kind ∧ Holds body kind element := by
  rw [build_of_known known, buildKind_eq_ok_iff] at built
  exact built.fits_holds

theorem build_succeeds_iff (known : kind.name = (Text.cut ':' body).1)
    (short : ShortIntegers body kind) : (∃ element, build body = .ok element) ↔ Fits body kind := by
  constructor
  · intro success
    obtain ⟨element, built⟩ := success
    exact (fits_holds_of_build_eq_ok known built).1
  · intro fits
    obtain ⟨element, denoted⟩ := fits.exists_denoted short
    refine ⟨element, ?_⟩
    rw [build_of_known known, buildKind_eq_ok_iff]
    exact denoted

/-- A tag whose integers have at most 4300 digits is of an unknown kind, and then rejected for its
name; or its arguments fit the schema of its kind, and the element holds what they say; or it is
rejected for an option of its kind. -/
theorem built_by_schema {body : Text}
    (short : ∀ kind : TagKind, kind.name = (Text.cut ':' body).1 → ShortIntegers body kind) :
    (∀ name, build body = .error (.rejected (.unknownElementKind name)) ↔
      name = (Text.cut ':' body).1 ∧ ∀ kind : TagKind, kind.name ≠ name) ∧
    ∀ kind : TagKind, kind.name = (Text.cut ':' body).1 →
      ((∃ element, build body = .ok element) ↔ Fits body kind) ∧
      (∀ element, build body = .ok element → Holds body kind element) ∧
      (¬ Fits body kind →
        ∃ fault, build body = .error (.rejected (.invalidOption kind fault))) := by
  constructor
  · intro name
    exact build_eq_unknownElementKind_iff
  · intro kind known
    refine ⟨build_succeeds_iff known (short kind known), ?_, ?_⟩
    · intro element built
      exact (fits_holds_of_build_eq_ok known built).2
    · intro unfit
      rw [build_of_known known]
      exact buildKind_of_not_fits unfit (short kind known)

/-- Signs, leading zeros and a surplus argument; a Kelvin sign, whose lower case is the letter of
the thousands; a negative number of decimals after a wrong axis; and a kind that is spelled in
capitals. -/
theorem built_over_signs_and_letters :
    (∀ text ∈ ["gps: z ,+007,-0,x".toList, "item:a:b,,\u212a9".toList, "gps:w,,-1".toList,
        "Mass:dry".toList],
      ∀ kind : TagKind, kind.name = (Text.cut ':' text).1 → ShortIntegers text kind) ∧
    Holds "gps: z ,+007,-0,x".toList .gps (.coordinate .z (some 7) 0) ∧
    Fits "item:a:b,,\u212a9".toList .item ∧
    (∃ fault, build "gps:w,,-1".toList = .error (.rejected (.invalidOption .gps fault))) ∧
    build "Mass:dry".toList = .error (.rejected (.unknownElementKind "Mass".toList)) := by
  have brief {text : Text} {kind : TagKind}
      (bounded : ∀ place ∈ integerPlaces kind, ∀ argument ∈ given text place,
        argument.length ≤ 4300) : ShortIntegers text kind := by
    intro place integer argument among numeral spells
    exact Nat.le_trans spells.length_digits_le (bounded place integer argument among)
  have short : ∀ text ∈ ["gps: z ,+007,-0,x".toList, "item:a:b,,\u212a9".toList,
      "gps:w,,-1".toList, "Mass:dry".toList],
      ∀ kind : TagKind, kind.name = (Text.cut ':' text).1 → ShortIntegers text kind := by
    intro text member kind _
    apply brief
    revert text
    cases kind <;> decide
  have schema (text : Text) (member) := built_by_schema (short text member)
  refine ⟨short, ?_, ?_, ?_, ?_⟩
  · apply ((schema _ (by decide)).2 .gps (by decide)).2.1
    decide +kernel
  · apply ((schema _ (by decide)).2 .item (by decide)).1.mp
    exact ⟨.itemCount "a:b".toList none .thousands, by decide +kernel⟩
  · apply ((schema _ (by decide)).2 .gps (by decide)).2.2
    intro fits
    obtain ⟨symbol, among, axis, capital⟩ := fits.2.1
    obtain rfl : "w".toList = symbol := Option.some.inj among
    revert capital
    cases axis <;> decide +kernel
  · apply ((schema _ (by decide)).1 _).mpr
    refine ⟨by decide, ?_⟩
    intro kind
    cases kind <;> decide

end Tag
end Wallboard
