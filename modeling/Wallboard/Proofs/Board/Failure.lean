import Wallboard.Proofs.Board.Sessions

/-!
Calls that fail. A call for a panel that the board does not have changes nothing. A call whose file
cannot be written leaves the files alone and changes the panels in memory nonetheless: the board
answers from then on like one that has no file.
-/
namespace Wallboard

namespace Board

def Call.device : Call → Text
  | .assign device _ => device
  | .write device _ => device
  | .remove device => device

/-- The call is about a panel that there has to be, and there is none. -/
def Call.Unknown (panels : Panels) : Call → Prop
  | .assign _ _ => False
  | .write device _ => Keyed.find? device panels = none
  | .remove device => Keyed.find? device panels = none

def Call.applied (panels : Panels) : Call → Panels
  | .assign device customData => (panels.assign device customData).2
  | .write device text => (panels.write? device text).getD panels
  | .remove device => (panels.remove? device).getD panels

/-- The board after calls one after the other, each of which may succeed or fail. -/
def after (disk : Disk) (board : Board) : List Call → Board
  | [] => board
  | call :: later => after (call.outcome disk board).disk (call.outcome disk board).board later

/-- The answers of two boards to every question about a panel, about the custom data of all panels
and about all panels. -/
structure AnswersAlike (left right : Board) : Prop where
  find : ∀ device, left.find? device = right.find? device
  customData : left.panels.customData = right.panels.customData
  scan : left.panels.scan = right.panels.scan

variable {disk : Disk} {board other : Board} {call : Call}

theorem AnswersAlike.of_panels (same : board.panels = other.panels) : AnswersAlike board other := by
  constructor
  case find =>
    intro device
    rw [find?, find?, same]
  case customData => rw [same]
  case scan => rw [same]

namespace Call

theorem find?_of_unknown (unknown : call.Unknown board.panels) : board.find? call.device = none := by
  cases call with
  | assign device customData => exact unknown.elim
  | write device text => exact unknown
  | remove device => exact unknown

theorem applied_of_unknown {panels : Panels} (unknown : call.Unknown panels) :
    call.applied panels = panels := by
  cases call with
  | assign device customData => exact unknown.elim
  | write device text =>
      have missing : Keyed.find? device panels = none := unknown
      simp [applied, Panels.write?, missing]
  | remove device =>
      have missing : Keyed.find? device panels = none := unknown
      simp [applied, Panels.remove?, Keyed.contains, missing]

theorem outcome_of_unknown (unknown : call.Unknown board.panels) (disk : Disk) :
    call.outcome disk board = ⟨.error (.unknownPanel call.device), board, disk⟩ := by
  cases call with
  | assign device customData => exact unknown.elim
  | write device text =>
      have missing : Keyed.find? device board.panels = none := unknown
      simp [outcome, Board.write, Panels.write?, missing, Call.device]
  | remove device =>
      have missing : Keyed.find? device board.panels = none := unknown
      simp [outcome, Board.remove, Panels.remove?, Keyed.contains, missing, Call.device]

theorem outcome_of_known (known : ¬ call.Unknown board.panels) (disk : Disk) :
    call.outcome disk board = commit disk board (call.applied board.panels) () := by
  cases call with
  | assign device customData =>
      simp only [outcome, Board.assign, commit, applied]
      cases save disk { board with panels := (board.panels.assign device customData).2 } <;> rfl
  | write device text =>
      obtain ⟨panel, found⟩ := Option.ne_none_iff_exists'.mp known
      simp [outcome, Board.write, applied, Panels.write?, found]
  | remove device =>
      obtain ⟨panel, found⟩ := Option.ne_none_iff_exists'.mp known
      simp [outcome, Board.remove, applied, Panels.remove?, Keyed.contains, found]

theorem panels_outcome (call : Call) (disk : Disk) (board : Board) :
    (call.outcome disk board).board.panels = call.applied board.panels := by
  by_cases unknown : call.Unknown board.panels
  · rw [outcome_of_unknown unknown, applied_of_unknown unknown]
  · rw [outcome_of_known unknown, commit_board]

end Call

/-- The file never reaches the panels: calls make of them what they make of them in memory. -/
theorem panels_after (disk : Disk) (board : Board) (calls : List Call) :
    (after disk board calls).panels = calls.foldl Call.applied board.panels := by
  induction calls generalizing disk board with
  | nil => rfl
  | cons call later ih =>
      calc
        (after disk board (call :: later)).panels
            = later.foldl Call.applied (call.outcome disk board).board.panels := ih _ _
        _ = later.foldl Call.applied (call.applied board.panels) := by rw [call.panels_outcome]
        _ = (call :: later).foldl Call.applied board.panels := rfl

theorem AnswersAlike.afterwards (same : board.panels = other.panels) (disk otherDisk : Disk)
    (later : List Call) : AnswersAlike (after disk board later) (after otherDisk other later) := by
  apply AnswersAlike.of_panels
  rw [panels_after, panels_after, same]

theorem commit_failed {panels : Panels} {fault : BoardFault}
    (failed : (commit disk board panels ()).result = .error fault) :
    (∃ reason, fault = .disk reason) ∧ board.path ≠ none ∧
      (commit disk board panels ()).disk = disk := by
  unfold commit at failed ⊢
  cases saved : save disk { board with panels } with
  | ok kept =>
      simp only [saved] at failed
      cases failed
  | error reason =>
      simp only [saved] at failed
      refine ⟨⟨reason, (Except.error.inj failed).symm⟩, ?_, by simp only [saved]⟩
      intro unsaved
      simp [save, unsaved] at saved

theorem Call.failed_cases {fault : BoardFault}
    (failed : (call.outcome disk board).result = .error fault) :
    (call.Unknown board.panels ∧ fault = .unknownPanel call.device ∧
        call.outcome disk board = ⟨.error fault, board, disk⟩) ∨
      (¬ call.Unknown board.panels ∧ (∃ reason, fault = .disk reason) ∧ board.path ≠ none ∧
        (call.outcome disk board).disk = disk) := by
  by_cases unknown : call.Unknown board.panels
  · have done := call.outcome_of_unknown unknown disk
    have same : .unknownPanel call.device = fault := by
      rw [done] at failed
      exact Except.error.inj failed
    rw [same] at done
    exact .inl ⟨unknown, same.symm, done⟩
  · have carried := call.outcome_of_known unknown disk
    rw [carried] at failed ⊢
    exact .inr ⟨unknown, commit_failed failed⟩

theorem Call.outcome_inMemory (known : ¬ call.Unknown board.panels) (disk : Disk) :
    (call.outcome disk { board with path := none }).result = .ok () := by
  have inMemory : ¬ call.Unknown ({ board with path := none } : Board).panels := known
  rw [call.outcome_of_known inMemory disk]
  rfl

/-- A call that fails leaves the files as they were. If it failed because the board does not have
the panel, it has changed nothing: every later answer is the one that the board would have given
without it. If it failed at the file, the change stays in memory: every later answer, also after
further calls, is the one of a board without a file, on which the call succeeds. -/
theorem answers_after_failed_call {fault : BoardFault}
    (failed : (call.outcome disk board).result = .error fault) :
    (call.outcome disk board).disk = disk ∧
      (∀ device, fault = .unknownPanel device →
        call.device = device ∧ board.find? device = none ∧
          ∀ later, AnswersAlike (after disk board (call :: later)) (after disk board later)) ∧
      ∀ reason, fault = .disk reason →
        board.path ≠ none ∧
          (call.outcome disk { board with path := none }).result = .ok () ∧
          ∀ later, AnswersAlike (after disk board (call :: later))
            (after disk { board with path := none } (call :: later)) := by
  rcases Call.failed_cases failed with ⟨unknown, rfl, done⟩ | ⟨known, ⟨reason, rfl⟩, saved, kept⟩
  · refine ⟨by rw [done], ?_, ?_⟩
    · intro device same
      obtain rfl := BoardFault.unknownPanel.inj same
      refine ⟨rfl, call.find?_of_unknown unknown, ?_⟩
      intro later
      rw [after, done]
      exact AnswersAlike.afterwards rfl disk disk later
    · intro reason impossible
      cases impossible
  · refine ⟨kept, ?_, ?_⟩
    · intro device impossible
      cases impossible
    · intro _ _
      refine ⟨saved, Call.outcome_inMemory known disk, ?_⟩
      intro later
      exact @AnswersAlike.afterwards board { board with path := none } rfl disk disk (call :: later)

/-- The file of a board is a directory: a panel that is set is there although the call failed, and a
panel that is removed next is unknown. -/
theorem answers_over_a_directory :
    let path : Path := ⟨false, ["panels".toList]⟩
    let disk : Disk := ⟨[(["panels".toList], .directory)]⟩
    let board : Board := ⟨[], some path⟩
    let put : Call := .assign ['a'] "hi".toList
    let remove : Call := .remove ['b']
    let changed := after disk board [put]
    openAt disk (some path) = (disk, .ok board) ∧
      (put.outcome disk board).result = .error (.disk .isDirectory) ∧
      (remove.outcome disk changed).result = .error (.unknownPanel ['b']) ∧
      AnswersAlike changed (after disk {} [put]) ∧
      AnswersAlike (after disk changed [remove]) changed ∧
      (after disk changed [remove]).find? ['a'] = some { device := ['a'], customData := "hi".toList } := by
  intro path disk board put remove changed
  have stopped : (put.outcome disk board).result = .error (.disk .isDirectory) := rfl
  have missing : (remove.outcome disk changed).result = .error (.unknownPanel ['b']) := rfl
  have afterStop := (answers_after_failed_call stopped).2.2 _ rfl
  have afterMiss := (answers_after_failed_call missing).2.1 _ rfl
  exact ⟨rfl, stopped, missing, afterStop.2.2 [], afterMiss.2.2 [], rfl⟩

/-- A call that failed is not always as if it had not been made: on a board whose file is a
directory the new panel is found. -/
theorem failed_call_leaves_a_panel :
    let path : Path := ⟨false, ["panels".toList]⟩
    let disk : Disk := ⟨[(["panels".toList], .directory)]⟩
    let board : Board := ⟨[], some path⟩
    let put : Call := .assign ['a'] "hi".toList
    openAt disk (some path) = (disk, .ok board) ∧
      (put.outcome disk board).result = .error (.disk .isDirectory) ∧
      ¬ AnswersAlike (after disk board [put]) (after disk board []) := by
  intro path disk board put
  refine ⟨rfl, rfl, ?_⟩
  intro alike
  have found : (after disk board [put]).find? ['a'] =
      some { device := ['a'], customData := "hi".toList } := rfl
  have none : (after disk board []).find? ['a'] = none := rfl
  have same := alike.find ['a']
  rw [found, none] at same
  cases same

end Board
end Wallboard
