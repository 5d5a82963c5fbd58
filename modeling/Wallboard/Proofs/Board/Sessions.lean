import Wallboard.Proofs.Board.Loading
import Wallboard.Proofs.Board.Stored
import Wallboard.Proofs.Station.Saving

namespace Wallboard.Board

inductive Call
  | assign (device customData : Text)
  | write (device text : Text)
  | remove (device : Text)

def Call.outcome (disk : Disk) (board : Board) : Call → Outcome Unit
  | .assign device customData =>
      let outcome := board.assign disk device customData
      ⟨outcome.result.map fun _ => (), outcome.board, outcome.disk⟩
  | .write device text => board.write disk device text
  | .remove device => board.remove disk device

/-- The boards that are kept in a file, whatever it holds at first: opened on it, after calls, and
opened again on what another one left there, while no operation on files fails. The flag says
whether a call has succeeded, as calls for unknown panels do not. -/
inductive Kept (path : Path) : Bool → Disk → Board → Prop
  | opened {before disk : Disk} {board : Board}
      (opening : openAt before (some path) = (disk, .ok board)) : Kept path false disk board
  | reopened {saved : Bool} {before disk : Disk} {left board : Board}
      (earlier : Kept path saved before left)
      (opening : openAt before (some path) = (disk, .ok board)) : Kept path saved disk board
  | called {saved : Bool} {disk : Disk} {board : Board} (earlier : Kept path saved disk board)
      (call : Call)
      (undisturbed : ∀ fault, (call.outcome disk board).result ≠ .error (.disk fault)) :
      Kept path (saved || (call.outcome disk board).result.isOk) (call.outcome disk board).disk
        (call.outcome disk board).board

structure Saved (path : Path) (disk : Disk) (board : Board) : Prop where
  tree : disk.ensureTree path.parent = .ok disk
  file : disk.read path = .ok (fileContent board.panels.fileText)

variable {path : Path} {disk : Disk} {board : Board} {saved : Bool}

theorem saved_of_commit (kept : board.path = some path) (panels : Panels)
    (undisturbed : ∀ fault, (commit disk board panels ()).result ≠ .error (.disk fault)) :
    Saved path (commit disk board panels ()).disk (commit disk board panels ()).board := by
  cases written : save disk { board with panels } with
  | error fault =>
      simp only [commit, written] at undisturbed
      exact absurd rfl (undisturbed fault)
  | ok after =>
      simp only [commit, written]
      simp only [save, kept] at written
      exact ⟨Disk.ensureTree_of_write written, Disk.read_of_write written⟩

theorem Call.outcome_cases (call : Call) (disk : Disk) (board : Board) :
    (∃ device, call.outcome disk board = ⟨.error (.unknownPanel device), board, disk⟩) ∨
      ∃ panels, call.outcome disk board = commit disk board panels () := by
  cases call with
  | assign device customData =>
      refine .inr ⟨(board.panels.assign device customData).2, ?_⟩
      simp only [outcome, Board.assign, commit]
      cases save disk { board with panels := (board.panels.assign device customData).2 } <;> rfl
  | write device text =>
      simp only [outcome, Board.write]
      cases board.panels.write? device text with
      | none => exact .inl ⟨device, rfl⟩
      | some panels => exact .inr ⟨panels, rfl⟩
  | remove device =>
      simp only [outcome, Board.remove]
      cases board.panels.remove? device with
      | none => exact .inl ⟨device, rfl⟩
      | some panels => exact .inr ⟨panels, rfl⟩

theorem Call.path_outcome (call : Call) (disk : Disk) (board : Board) :
    (call.outcome disk board).board.path = board.path := by
  rcases call.outcome_cases disk board with ⟨device, unknown⟩ | ⟨panels, done⟩
  · rw [unknown]
  · rw [done, commit_board]

theorem Call.distinct_outcome (distinct : Keyed.Distinct board.panels) (call : Call) (disk : Disk) :
    Keyed.Distinct (call.outcome disk board).board.panels := by
  cases call with
  | assign device customData => exact distinct_assign distinct disk device customData
  | write device text => exact distinct_write distinct disk device text
  | remove device => exact distinct_remove distinct disk device

theorem Saved.openAt (stored : Saved path disk board) (distinct : Keyed.Distinct board.panels) :
    Board.openAt disk (some path) = (disk, .ok ⟨board.panels.inOrder, some path⟩) := by
  simp only [Board.openAt, stored.tree, Panels.load_of_read distinct stored.file]
  rfl

/-- A board that is opened anew at the path would have the panels of this one: either the file holds
them, or there are none and the file has not been touched. -/
structure Lasting (path : Path) (disk : Disk) (board : Board) : Prop where
  placed : board.path = some path
  backed : Saved path disk board ∨ board.panels = [] ∧ openAt disk (some path) = (disk, .ok board)

namespace Lasting

theorem of_absent {before : Disk} (opened : openAt before (some path) = (disk, .ok board))
    (absent : ∀ content, disk.read path ≠ .ok content) :
    board = { path := some path } ∧ Lasting path disk board := by
  obtain ⟨panels, loaded, rfl⟩ := openAt_cases opened
  cases found : disk.read path with
  | ok content => exact absurd found (absent content)
  | error fault =>
      obtain rfl : [] = panels := by simpa [Panels.load, found] using loaded
      exact ⟨rfl, rfl, .inr ⟨rfl, openAt_again opened⟩⟩

theorem called (lasting : Lasting path disk board) (call : Call)
    (undisturbed : ∀ fault, (call.outcome disk board).result ≠ .error (.disk fault)) :
    Lasting path (call.outcome disk board).disk (call.outcome disk board).board := by
  constructor
  case placed => rw [call.path_outcome, lasting.placed]
  case backed =>
    rcases call.outcome_cases disk board with ⟨device, unknown⟩ | ⟨panels, done⟩
    · rw [unknown]
      exact lasting.backed
    · rw [done] at undisturbed ⊢
      exact .inl (saved_of_commit lasting.placed panels undisturbed)

theorem write_undisturbed (lasting : Lasting path disk board) (device text : Text)
    (fault : DiskFault) : (board.write disk device text).result ≠ .error (.disk fault) := by
  unfold Board.write
  cases changed : board.panels.write? device text with
  | none => simp
  | some panels =>
      rcases lasting.backed with stored | ⟨none, _⟩
      · obtain ⟨after, written⟩ :=
          Disk.write_of_read stored.file (fileContent (Panels.fileText panels))
        have done : save disk { board with panels } = .ok after := by
          simp only [save, lasting.placed, written]
        simp [commit, done]
      · simp [none, Panels.write?, Keyed.find?] at changed

theorem openAt (lasting : Lasting path disk board) (distinct : Keyed.Distinct board.panels) :
    ∃ panels, Board.openAt disk (some path) = (disk, .ok ⟨panels, some path⟩) ∧
      panels.Perm board.panels ∧ Lasting path disk ⟨panels, some path⟩ := by
  rcases lasting.backed with stored | ⟨none, reopened⟩
  · refine ⟨board.panels.inOrder, stored.openAt distinct, Panels.inOrder_perm board.panels, rfl,
      .inl ⟨stored.tree, ?_⟩⟩
    rw [stored.file, Panels.fileText_inOrder distinct]
  · have same : board = ⟨board.panels, some path⟩ := by rw [← lasting.placed]
    rw [same] at reopened
    exact ⟨board.panels, reopened, .refl _, rfl, .inr ⟨none, reopened⟩⟩

end Lasting

theorem Kept.path_eq (kept : Kept path saved disk board) : board.path = some path := by
  induction kept with
  | opened opening =>
      obtain ⟨panels, _, rfl⟩ := openAt_cases opening
      rfl
  | reopened _ opening _ =>
      obtain ⟨panels, _, rfl⟩ := openAt_cases opening
      rfl
  | called _ call _ ih => rw [call.path_outcome, ih]

theorem Kept.distinct (kept : Kept path saved disk board) : Keyed.Distinct board.panels := by
  induction kept with
  | opened opening => exact distinct_openAt opening
  | reopened _ opening _ => exact distinct_openAt opening
  | called _ call _ ih => exact call.distinct_outcome ih _

theorem Kept.stored (kept : Kept path saved disk board) (succeeded : saved = true) :
    Saved path disk board := by
  induction kept with
  | opened opening => cases succeeded
  | reopened earlier opening ih =>
      rename_i saved before after left board
      have stored := ih succeeded
      rw [stored.openAt earlier.distinct] at opening
      obtain ⟨rfl, found⟩ := Prod.mk.inj opening
      obtain rfl := Except.ok.inj found
      refine ⟨stored.tree, ?_⟩
      -- The new board has its panels in another order, which the file does not show.
      rw [stored.file, Panels.fileText_inOrder earlier.distinct]
  | called earlier call undisturbed ih =>
      rename_i saved disk board
      rcases call.outcome_cases disk board with ⟨device, unknown⟩ | ⟨panels, done⟩
      · -- A call for an unknown panel is no success, so there was one before it.
        rw [unknown] at succeeded ⊢
        simp only [Except.isOk, Except.toBool, Bool.or_false] at succeeded
        exact ih succeeded
      · rw [done] at undisturbed ⊢
        exact saved_of_commit earlier.path_eq panels undisturbed

/-- Once a call has succeeded, and after every further call, a board that is opened on the file has
the same panels in the order of their devices; and the file depends on nothing but the panels, so
that all boards with these have left the same file. -/
theorem file_holds_the_panels (kept : Kept path true disk board) :
    (∃ reopened, openAt disk (some path) = (disk, .ok reopened) ∧
      (∀ device, reopened.find? device = board.find? device) ∧
      (Keyed.keys reopened.panels).Pairwise Text.Before) ∧
    ∃ content, disk.read path = .ok content ∧
      ∀ {otherPath : Path} {otherDisk : Disk} {other : Board},
        Kept otherPath true otherDisk other →
        (∀ device, other.find? device = board.find? device) →
          otherDisk.read otherPath = .ok content := by
  have stored := kept.stored rfl
  constructor
  · refine ⟨⟨board.panels.inOrder, some path⟩, stored.openAt kept.distinct, ?_, ?_⟩
    · exact Panels.find?_inOrder kept.distinct
    · exact Panels.keys_inOrder kept.distinct
  · refine ⟨_, stored.file, ?_⟩
    intro otherPath otherDisk other alsoKept same
    have order : other.panels.inOrder = board.panels.inOrder :=
      Panels.inOrder_eq_of_find?_eq alsoKept.distinct kept.distinct same
    calc
      otherDisk.read otherPath = .ok (fileContent other.panels.fileText) :=
        (alsoKept.stored rfl).file
      _ = .ok (fileContent board.panels.fileText) := by
        rw [Panels.fileText, order, Panels.fileText]

/-- Two boards get the same panels in different orders, one of them after a call for a panel that it
does not have, and leave the same file. -/
theorem same_file_in_either_order :
    ∃ path disk board otherDisk other, Kept path true disk board ∧
      Kept path true otherDisk other ∧ board.panels ≠ other.panels ∧
        otherDisk.read path = disk.read path := by
  have fresh : Kept (Path.ofText "panels.json".toList) false {}
      ⟨[], some (Path.ofText "panels.json".toList)⟩ := .opened rfl
  have first := fresh.called (.assign ['a'] ['1']) (by rintro _ ⟨⟩)
  have forward := first.called (.assign ['b'] ['\r']) (by rintro _ ⟨⟩)
  have unknown := fresh.called (.remove ['a']) (by rintro _ ⟨⟩)
  have second := unknown.called (.assign ['b'] ['\r']) (by rintro _ ⟨⟩)
  have backward := second.called (.assign ['a'] ['1']) (by rintro _ ⟨⟩)
  refine ⟨_, _, _, _, _, forward, backward, ?_, ?_⟩
  · intro same
    cases congrArg Keyed.keys same
  · obtain ⟨content, read, only⟩ := (file_holds_the_panels forward).2
    have same := only backward fun device =>
      backward.distinct.find?_of_perm (.swap _ _ _) device
    exact same.trans read.symm

end Wallboard.Board
