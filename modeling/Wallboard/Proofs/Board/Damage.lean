import Mathlib.Data.List.Forall2
import Wallboard.Proofs.Attempt
import Wallboard.Proofs.Board.Loading
import Wallboard.Proofs.Board.Stored
import Wallboard.Station

namespace Wallboard

/-- The text of a member, which is empty if there is no member of the name. -/
def Json.HasText (members : List (Text × Json)) (name text : Text) : Prop :=
  Json.member? name members = some (.string text) ∨ Json.member? name members = none ∧ text = []

def Panel.Documented (value : Json) (panel : Panel) : Prop :=
  ∃ members, value = .object members ∧
    Json.member? "device_id".toList members = some (.string panel.device) ∧
    Json.HasText members "custom_data".toList panel.customData ∧
    Json.HasText members "text".toList panel.text

namespace Panels

/-- The content of a file is a JSON object that says for each device what its panel is. -/
def Held (content : ByteArray) (panels : Panels) : Prop :=
  ∃ text members, fileText? content = some text ∧ Json.read text = .ok (.object members) ∧
    List.Forall₂ (fun member entry => member.1 = entry.1 ∧ Panel.Documented member.2 entry.2)
      members panels

/-- The content of a file is not UTF-8, or it is JSON with an integer that is too long to be read,
another value than an object, or an object with a member that is no panel. -/
inductive Damaged (content : ByteArray) : Prop
  | undecodable (undecoded : fileText? content = none)
  | oversized {text : Text} {numeral : Integer.Oversized} (decoded : fileText? content = some text)
      (long : Json.read text = .error (.oversized numeral))
  | foreign {text : Text} {found : Json} (decoded : fileText? content = some text)
      (read : Json.read text = .ok found) (other : ∀ members, found ≠ .object members)
  | invalid {text : Text} {members : List (Text × Json)} {member : Text × Json}
      (decoded : fileText? content = some text) (read : Json.read text = .ok (.object members))
      (among : member ∈ members) (undocumented : ∀ panel, ¬ Panel.Documented member.2 panel)

end Panels

namespace Check

variable {members : List (Text × Json)} {name found : Text}

theorem under_text_eq_ok_iff {step : Step} {value : Json} :
    under step (text value) = .ok found ↔ value = .string found := by
  cases value <;> simp [text, under, fail]

theorem required_text_eq_ok_iff :
    required name text members = .ok found ↔ Json.member? name members = some (.string found) := by
  rw [required]
  cases Json.member? name members with
  | none => simp [under, fail]
  | some value => simp [under_text_eq_ok_iff]

theorem optional_text_eq_ok_iff :
    optional name [] text members = .ok found ↔ Json.HasText members name found := by
  rw [optional, Json.HasText]
  cases Json.member? name members with
  | none => simp [eq_comm]
  | some value => simp [under_text_eq_ok_iff]

end Check

theorem Panel.ofJson_eq_ok_iff {value : Json} {panel : Panel} :
    Panel.ofJson value = .ok panel ↔ Panel.Documented value panel := by
  cases value with
  | object members =>
      rcases panel with ⟨device, customData, text⟩
      simp [Panel.ofJson, Panel.Documented, bind_eq_ok_iff, Check.both_eq_ok_iff,
        Check.required_text_eq_ok_iff, Check.optional_text_eq_ok_iff]
  | _ => simp [Panel.ofJson, Panel.Documented, Check.fail]

namespace Panels

variable {members : List (Text × Json)} {panels : Panels} {disk kept : Disk} {path : Path}
  {content : ByteArray}

theorem ofMembers_eq_ok_iff :
    ofMembers members = .ok panels ↔
      List.Forall₂ (fun member entry => member.1 = entry.1 ∧ Panel.Documented member.2 entry.2)
        members panels := by
  induction members generalizing panels with
  | nil => simp [ofMembers, eq_comm]
  | cons member rest ih =>
      rcases member with ⟨device, value⟩
      simp only [ofMembers, bind_eq_ok_iff, Panel.ofJson_eq_ok_iff, ih, List.forall₂_cons_left_iff]
      constructor
      · rintro ⟨panel, documented, others, agree, same⟩
        exact ⟨(device, panel), others, ⟨rfl, documented⟩, agree, (Except.ok.inj same).symm⟩
      · rintro ⟨⟨_, panel⟩, others, ⟨rfl, documented⟩, agree, rfl⟩
        exact ⟨panel, documented, others, agree, rfl⟩

theorem ofMembers_succeeds_iff :
    (∃ panels, ofMembers members = .ok panels) ↔
      ∀ member ∈ members, ∃ panel, Panel.Documented member.2 panel := by
  induction members with
  | nil => simp [ofMembers]
  | cons member rest ih =>
      rcases member with ⟨device, value⟩
      simp only [ofMembers, bind_eq_ok_iff, Panel.ofJson_eq_ok_iff, List.forall_mem_cons, ← ih]
      constructor
      · rintro ⟨_, panel, documented, others, checked, _⟩
        exact ⟨⟨panel, documented⟩, others, checked⟩
      · rintro ⟨⟨panel, documented⟩, others, checked⟩
        exact ⟨_, panel, documented, others, checked, rfl⟩

theorem ofJson_object_eq_ok_iff :
    ofJson (.object members) = .ok panels ↔ ofMembers members = .ok panels := by
  rw [ofJson]
  cases ofMembers members <;> simp [Except.mapError]

theorem ofFileText_eq_ok_iff {text : Text} :
    ofFileText text = .ok panels ↔
      (∃ left, Json.read text = .error (.malformed left)) ∧ panels = [] ∨
        ∃ members, Json.read text = .ok (.object members) ∧ ofMembers members = .ok panels := by
  unfold ofFileText
  cases read : Json.read text with
  | error fault => cases fault <;> simp [eq_comm]
  | ok value =>
      cases value with
      | object members => simpa using ofJson_object_eq_ok_iff
      | _ => simp [ofJson]

theorem held_of_decoded {text : Text} (decoded : fileText? content = some text) :
    Held content panels ↔
      ∃ members, Json.read text = .ok (.object members) ∧ ofMembers members = .ok panels := by
  simp [Held, decoded, ofMembers_eq_ok_iff]

theorem ofMembers_fails_iff :
    (∃ issues, ofMembers members = .error issues) ↔
      ∃ member ∈ members, ∀ panel, ¬ Panel.Documented member.2 panel := by
  have failing : (∃ issues, ofMembers members = .error issues) ↔
      ¬ ∃ panels, ofMembers members = .ok panels := by
    cases ofMembers members <;> simp
  rw [failing, ofMembers_succeeds_iff]
  simp only [not_forall, not_exists, exists_prop]

theorem ofJson_fails_iff {found : Json} :
    (∃ fault, ofJson found = .error fault) ↔
      (∀ members, found ≠ .object members) ∨
        ∃ members, found = .object members ∧
          ∃ member ∈ members, ∀ panel, ¬ Panel.Documented member.2 panel := by
  cases found with
  | object members =>
      have same : (∃ fault, ofJson (.object members) = .error fault) ↔
          ∃ issues, ofMembers members = .error issues := by
        rw [ofJson]
        cases ofMembers members <;> simp [Except.mapError]
      simp [same, ofMembers_fails_iff]
  | _ => simp [ofJson]

theorem damaged_of_decoded {text : Text} (decoded : fileText? content = some text) :
    Damaged content ↔ ∃ fault, ofFileText text = .error fault := by
  have own {other : Text} (alsoDecoded : fileText? content = some other) : text = other :=
    Option.some.inj (decoded.symm.trans alsoDecoded)
  constructor
  · intro damaged
    cases damaged with
    | undecodable undecoded =>
        rw [decoded] at undecoded
        cases undecoded
    | oversized alsoDecoded long =>
        obtain rfl := own alsoDecoded
        exact ⟨_, by rw [ofFileText, long]⟩
    | foreign alsoDecoded read other =>
        obtain rfl := own alsoDecoded
        rw [ofFileText, read]
        exact ofJson_fails_iff.mpr (.inl other)
    | invalid alsoDecoded read among undocumented =>
        obtain rfl := own alsoDecoded
        rw [ofFileText, read]
        exact ofJson_fails_iff.mpr (.inr ⟨_, rfl, _, among, undocumented⟩)
  · rintro ⟨fault, failed⟩
    unfold ofFileText at failed
    split at failed
    · cases failed
    · rename_i numeral long
      exact .oversized decoded long
    · rename_i found read
      rcases ofJson_fails_iff.mp ⟨fault, failed⟩ with other | ⟨members, rfl, member, among, none⟩
      · exact .foreign decoded read other
      · exact .invalid decoded read among none

theorem harmless_of_malformed {text : Text} {left : Nat} (decoded : fileText? content = some text)
    (malformed : Json.read text = .error (.malformed left)) :
    ¬ Damaged content ∧ ∀ panels, ¬ Held content panels := by
  constructor
  · rw [damaged_of_decoded decoded, ofFileText, malformed]
    rintro ⟨fault, ⟨⟩⟩
  · intro panels held
    obtain ⟨members, object, _⟩ := (held_of_decoded decoded).mp held
    cases malformed.symm.trans object

theorem damaged_iff_of_read (found : disk.read path = .ok content) :
    Damaged content ↔ ∃ fault, load disk path = .error fault := by
  cases decoded : fileText? content with
  | none => simp [load, found, decoded, Damaged.undecodable decoded]
  | some text =>
      have loaded : load disk path = ofFileText text := by simp only [load, found, decoded]
      rw [loaded, damaged_of_decoded decoded]

theorem held_of_load (loaded : load disk path = .ok panels) :
    (∃ content, disk.read path = .ok content ∧ Held content panels) ∨
      panels = [] ∧ ∀ content others, disk.read path = .ok content → ¬ Held content others := by
  cases found : disk.read path with
  | error fault =>
      have none : [] = panels := by simpa [load, found] using loaded
      exact .inr ⟨none.symm, by simp⟩
  | ok content =>
      cases decoded : fileText? content with
      | none => simp [load, found, decoded] at loaded
      | some text =>
          have read : ofFileText text = .ok panels := by simpa [load, found, decoded] using loaded
          rcases ofFileText_eq_ok_iff.mp read with ⟨⟨left, malformed⟩, rfl⟩ | document
          · refine .inr ⟨rfl, ?_⟩
            intro other others same
            obtain rfl := Except.ok.inj same
            exact (harmless_of_malformed decoded malformed).2 others
          · exact .inl ⟨content, rfl, (held_of_decoded decoded).mpr document⟩

end Panels

namespace Board

variable {disk kept : Disk} {path : Path}

/-- A board opens on every file that is not damaged, and starts with the panels that the file holds.
Whatever else is in it, or if there is no file to read, the board starts without panels. -/
theorem opens_unless_damaged (made : disk.ensureTree path.parent = .ok kept) :
    ((∃ board, openAt disk (some path) = (kept, .ok board)) ↔
        ∀ content, kept.read path = .ok content → ¬ Panels.Damaged content) ∧
      ∀ board, openAt disk (some path) = (kept, .ok board) → board.path = some path ∧
        ((∃ content, kept.read path = .ok content ∧ Panels.Held content board.panels) ∨
          board.panels = [] ∧
            ∀ content panels, kept.read path = .ok content → ¬ Panels.Held content panels) := by
  rw [openAt_of_made made]
  constructor
  · constructor
    · rintro ⟨board, opened⟩ content found damaged
      obtain ⟨fault, failed⟩ := (Panels.damaged_iff_of_read found).mp damaged
      rw [failed] at opened
      cases (Prod.mk.inj opened).2
    · intro sound
      cases loaded : Panels.load kept path with
      | ok panels => exact ⟨⟨panels, some path⟩, rfl⟩
      | error fault =>
          cases found : kept.read path with
          | error cause => simp [Panels.load, found] at loaded
          | ok content =>
              exact absurd ((Panels.damaged_iff_of_read found).mpr ⟨fault, loaded⟩)
                (sound content found)
  · intro board opened
    cases loaded : Panels.load kept path with
    | error fault =>
        rw [loaded] at opened
        cases (Prod.mk.inj opened).2
    | ok panels =>
        rw [loaded] at opened
        obtain rfl : ⟨panels, some path⟩ = board := Except.ok.inj (Prod.mk.inj opened).2
        exact ⟨rfl, Panels.held_of_load loaded⟩

/-- A file that breaks off after a few characters, and one that holds a list. -/
theorem opens_on_fragment_only :
    let path : Path := ⟨false, ["tmp".toList, "panels.json".toList]⟩
    let holding (text : Text) : Disk :=
      ⟨[(["tmp".toList], .directory), (path.names, .file (fileContent text))]⟩
    (∀ text, (holding text).ensureTree path.parent = .ok (holding text)) ∧
      (∃ board, openAt (holding ['{', 'n']) (some path) = (holding ['{', 'n'], .ok board) ∧
        board.panels = []) ∧
      ¬ ∃ board, openAt (holding ['[', ']']) (some path) = (holding ['[', ']'], .ok board) := by
  intro path holding
  have made (text : Text) : (holding text).ensureTree path.parent = .ok (holding text) :=
    Disk.ensureTree_of_directory rfl
  have found (text : Text) : (holding text).read path = .ok (fileContent text) := rfl
  have decoded (text : Text) := fileText?_fileContent text
  have list : Json.read ['[', ']'] = .ok (.array []) := rfl
  obtain ⟨harmless, empty⟩ := @Panels.harmless_of_malformed _ _ 1 (decoded ['{', 'n']) rfl
  refine ⟨made, ?_, ?_⟩
  · obtain ⟨board, opened⟩ := (opens_unless_damaged (made ['{', 'n'])).1.mpr <| by
      intro content same
      obtain rfl := Except.ok.inj ((found ['{', 'n']).symm.trans same)
      exact harmless
    refine ⟨board, opened, ?_⟩
    rcases ((opens_unless_damaged (made ['{', 'n'])).2 board opened).2 with
      ⟨content, same, held⟩ | ⟨none, _⟩
    · obtain rfl := Except.ok.inj ((found ['{', 'n']).symm.trans same)
      exact absurd held (empty board.panels)
    · exact none
  · intro opens
    apply (opens_unless_damaged (made ['[', ']'])).1.mp opens _ (found ['[', ']'])
    exact .foreign (decoded ['[', ']']) list (by rintro members ⟨⟩)

/-- A file that holds a list keeps the board from opening, and with it the station. -/
theorem list_keeps_board_from_opening :
    let place := "panels.json".toList
    let path : Path := ⟨false, [place]⟩
    let disk : Disk := ⟨[([place], .file (fileContent ['[', ']']))]⟩
    Path.ofText place = path ∧ disk.read path = .ok (fileContent ['[', ']']) ∧
      (∀ kept board, openAt disk (some path) ≠ (kept, .ok board)) ∧
      ∀ kept station,
        Station.openAt disk { boardPath := some place } none ≠ (kept, .ok station) := by
  intro place path disk
  have plain : Path.ofText place = path := by decide
  have found : disk.read path = .ok (fileContent ['[', ']']) := rfl
  have read : Json.read ['[', ']'] = .ok (.array []) := rfl
  have loaded : Panels.load disk path = .error (.notAnObject (.array [])) := by
    have decoded : fileText? (fileContent ['[', ']']) = some ['[', ']'] := fileText?_fileContent _
    simp only [Panels.load, found, decoded, Panels.ofFileText, read, Panels.ofJson]
  have closed : openAt disk (some path) = (disk, .error (.notAnObject (.array []))) := by
    rw [@openAt_of_made disk disk path (Disk.ensureTree_of_directory rfl), loaded]
    rfl
  refine ⟨plain, found, ?_, ?_⟩
  · intro kept board opened
    cases closed.symm.trans opened
  · intro kept station opened
    have failed : Station.openAt disk { boardPath := some place } none =
        (disk, .error (.notAnObject (.array []))) := by
      simp only [Station.openAt, Option.map_some, plain, closed]
      rfl
    cases failed.symm.trans opened

end Board
end Wallboard
