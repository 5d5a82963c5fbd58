import Wallboard.Board.Basic
import Wallboard.Proofs.Disk
import Wallboard.Proofs.Keyed

namespace Wallboard

theorem Json.distinct_of_read {text : Text} {members : List (Text × Json)}
    (found : Json.read text = .ok (.object members)) : Keyed.Distinct members := by
  unfold Json.read at found
  cases document : Reader.document
      (fun numeral => numeral.digits.length ≤ Integer.digitLimit) text with
  | error fault =>
      rw [document] at found
      cases found
  | ok value =>
      rw [document] at found
      have same : value.settled = .object members := Except.ok.inj found
      cases value with
      | object written =>
          simp only [Json.settled, Json.object.injEq] at same
          rw [← same]
          exact Keyed.Distinct.putAll .nil _
      | _ => cases same

namespace Panels

variable {members : List (Text × Json)} {panels : Panels} {disk : Disk} {path : Path}

theorem keys_ofMembers (checked : ofMembers members = .ok panels) :
    Keyed.keys panels = Keyed.keys members := by
  induction members generalizing panels with
  | nil =>
      obtain rfl : [] = panels := Except.ok.inj checked
      rfl
  | cons entry rest ih =>
      rcases entry with ⟨device, value⟩
      cases first : Panel.ofJson value with
      | error issues =>
          simp only [ofMembers, first] at checked
          cases checked
      | ok panel =>
          cases others : ofMembers rest with
          | error issues =>
              simp only [ofMembers, first, others] at checked
              cases checked
          | ok remaining =>
              simp only [ofMembers, first, others] at checked
              obtain rfl : (device, panel) :: remaining = panels := Except.ok.inj checked
              simp only [Keyed.keys, List.map_cons] at ih ⊢
              rw [ih others]

theorem distinct_ofFileText {text : Text} (read : ofFileText text = .ok panels) :
    Keyed.Distinct panels := by
  unfold ofFileText at read
  split at read
  · obtain rfl : [] = panels := Except.ok.inj read
    exact .nil
  · cases read
  · rename_i found document
    unfold ofJson at read
    split at read
    · rename_i members
      cases checked : ofMembers members with
      | error issues =>
          rw [checked] at read
          cases read
      | ok known =>
          rw [checked] at read
          obtain rfl : known = panels := Except.ok.inj read
          unfold Keyed.Distinct
          rw [keys_ofMembers checked]
          exact Json.distinct_of_read document
    · cases read

theorem distinct_load (loaded : load disk path = .ok panels) : Keyed.Distinct panels := by
  unfold load at loaded
  split at loaded
  · obtain rfl : [] = panels := Except.ok.inj loaded
    exact .nil
  · split at loaded
    · cases loaded
    · exact distinct_ofFileText loaded

end Panels

namespace Board

theorem openAt_of_made {disk kept : Disk} {path : Path}
    (made : disk.ensureTree path.parent = .ok kept) :
    openAt disk (some path) =
      (kept, (Panels.load kept path).map fun panels => ⟨panels, some path⟩) := by
  simp only [openAt, made]

theorem openAt_again {disk kept : Disk} {path : Path} {board : Board}
    (opened : openAt disk (some path) = (kept, .ok board)) :
    openAt kept (some path) = (kept, .ok board) := by
  cases ensured : disk.ensureTree path.parent with
  | error fault =>
      simp only [openAt, ensured] at opened
      cases (Prod.mk.inj opened).2
  | ok made =>
      rw [openAt_of_made ensured] at opened
      obtain ⟨rfl, loaded⟩ := Prod.mk.inj opened
      rw [openAt_of_made (Disk.ensureTree_again ensured), loaded]

theorem openAt_cases {disk kept : Disk} {path : Path} {board : Board}
    (opened : openAt disk (some path) = (kept, .ok board)) :
    ∃ panels, Panels.load kept path = .ok panels ∧ board = ⟨panels, some path⟩ := by
  unfold openAt at opened
  dsimp only at opened
  split at opened
  · cases (Prod.mk.inj opened).2
  · rename_i made _
    cases loaded : Panels.load made path with
    | error fault =>
        rw [loaded] at opened
        cases (Prod.mk.inj opened).2
    | ok panels =>
        rw [loaded] at opened
        obtain ⟨rfl, found⟩ := Prod.mk.inj opened
        exact ⟨panels, loaded, (Except.ok.inj found).symm⟩

theorem distinct_openAt {disk kept : Disk} {path : Option Path} {board : Board}
    (opened : openAt disk path = (kept, .ok board)) : Keyed.Distinct board.panels := by
  cases path with
  | none =>
      obtain rfl : {} = board := Except.ok.inj (Prod.mk.inj opened).2
      exact .nil
  | some place =>
      obtain ⟨panels, loaded, rfl⟩ := openAt_cases opened
      exact Panels.distinct_load loaded

end Board
end Wallboard
