import Wallboard.Proofs.Station.Refresh

namespace Wallboard

namespace Panels

variable {panels changed : Panels} {device text : Text}

theorem distinct_write? (distinct : Keyed.Distinct panels)
    (written : panels.write? device text = some changed) : Keyed.Distinct changed := by
  obtain ⟨panel, _, rfl⟩ := Option.map_eq_some_iff.mp written
  exact distinct.put device { panel with text }

theorem distinct_remove? (distinct : Keyed.Distinct panels)
    (removed : panels.remove? device = some changed) : Keyed.Distinct changed := by
  unfold remove? at removed
  split at removed
  · obtain rfl : Keyed.erase device panels = changed := Option.some.inj removed
    exact distinct.erase device
  · cases removed

end Panels

namespace Board

variable {disk : Disk} {board : Board} {panels : Panels} {device text : Text}

theorem commit_cases {α : Type} (disk : Disk) (board : Board) (panels : Panels) (answer : α) :
    (∃ saved, commit disk board panels answer = ⟨.ok answer, { board with panels }, saved⟩) ∨
      ∃ fault, commit disk board panels answer =
        ⟨.error (.disk fault), { board with panels }, disk⟩ := by
  simp only [commit]
  cases save disk { board with panels } with
  | ok saved => exact .inl ⟨saved, rfl⟩
  | error fault => exact .inr ⟨fault, rfl⟩

theorem commit_board {α : Type} (answer : α) :
    (commit disk board panels answer).board = { board with panels } := by
  rcases commit_cases disk board panels answer with ⟨saved, done⟩ | ⟨fault, done⟩ <;> rw [done]

theorem commit_inMemory {α : Type} (answer : α) :
    commit disk { panels := board.panels } panels answer =
      ⟨.ok answer, { panels }, disk⟩ := rfl

theorem distinct_write (distinct : Keyed.Distinct board.panels) (disk : Disk)
    (device text : Text) : Keyed.Distinct (board.write disk device text).board.panels := by
  unfold write
  cases written : board.panels.write? device text with
  | none => exact distinct
  | some changed =>
      dsimp only
      rw [commit_board]
      exact Panels.distinct_write? distinct written

theorem distinct_remove (distinct : Keyed.Distinct board.panels) (disk : Disk) (device : Text) :
    Keyed.Distinct (board.remove disk device).board.panels := by
  unfold remove
  cases removed : board.panels.remove? device with
  | none => exact distinct
  | some changed =>
      dsimp only
      rw [commit_board]
      exact Panels.distinct_remove? distinct removed

theorem distinct_assign (distinct : Keyed.Distinct board.panels) (disk : Disk)
    (device customData : Text) :
    Keyed.Distinct (board.assign disk device customData).board.panels := by
  simp only [assign, commit_board]
  exact distinct.put device _

end Board

namespace Station

open Registry

variable {station : Station} {texts reported : List (Text × Text)} {snapshot : Snapshot}

def inMemory (station : Station) : Station :=
  ⟨{ panels := station.board.panels }, station.registry, {}⟩

theorem writeTexts_inMemory_of_ok (returned : (station.writeTexts texts).result = .ok ()) :
    (station.inMemory.writeTexts texts).result = .ok () ∧
      (station.inMemory.writeTexts texts).station = (station.writeTexts texts).station.inMemory := by
  induction texts generalizing station with
  | nil => exact ⟨rfl, rfl⟩
  | cons entry rest ih =>
      rcases entry with ⟨device, text⟩
      cases written : station.board.panels.write? device text with
      | none =>
          have refused (path : Option Path) (disk : Disk) :
              Board.write disk { panels := station.board.panels, path } device text =
                ⟨.error (.unknownPanel device), { panels := station.board.panels, path }, disk⟩ := by
            simp only [Board.write, written]
          simp only [writeTexts, refused station.board.path] at returned ⊢
          simp only [inMemory, refused none]
          exact ih returned
      | some panels =>
          have kept : Board.write {} { panels := station.board.panels } device text =
              ⟨.ok (), { panels }, {}⟩ := by
            simp only [Board.write, written, Board.commit_inMemory]
          have saved : station.board.write station.disk device text =
              Board.commit station.disk station.board panels () := by
            simp only [Board.write, written]
          rcases Board.commit_cases station.disk station.board panels () with
            ⟨disk, done⟩ | ⟨fault, done⟩
          · simp only [writeTexts, saved, done] at returned ⊢
            simp only [inMemory, kept]
            exact ih returned
          · simp only [writeTexts, saved, done] at returned
            cases returned

theorem written_of_cycle {outputs : List (Text × Text)}
    (returned : (station.cycle snapshot reported).result = .ok outputs) :
    ∃ synced,
      (station.registry.sync Template.compile
        (Keyed.putAll station.board.panels.customData reported)).result = .ok () ∧
      (station.registry.sync Template.compile
        (Keyed.putAll station.board.panels.customData reported)).registry = synced ∧
      (writeTexts { station with registry := synced } (synced.texts snapshot)).result = .ok () ∧
      synced.texts snapshot = outputs := by
  cases outcome : (station.registry.sync Template.compile
      (Keyed.putAll station.board.panels.customData reported)).result with
  | error cause =>
      rw [(cycle_of_error outcome).1] at returned
      cases returned
  | ok done =>
      refine ⟨_, rfl, rfl, ?_⟩
      generalize reached : (station.registry.sync Template.compile
        (Keyed.putAll station.board.panels.customData reported)).registry = synced
      cases written : (writeTexts { station with registry := synced }
          (synced.texts snapshot)).result with
      | ok finished =>
          rw [(cycle_of_written outcome reached written).1] at returned
          exact ⟨rfl, Except.ok.inj returned⟩
      | error fault =>
          simp only [cycle, outcome, reached, texts_evaluations, written] at returned
          cases returned

theorem cycle_inMemory_of_ok {outputs : List (Text × Text)}
    (returned : (station.cycle snapshot reported).result = .ok outputs) :
    (station.inMemory.cycle snapshot reported).result = .ok outputs ∧
      (station.inMemory.cycle snapshot reported).station =
        (station.cycle snapshot reported).station.inMemory := by
  obtain ⟨synced, outcome, reached, written, rfl⟩ := written_of_cycle returned
  obtain ⟨kept, same⟩ := writeTexts_inMemory_of_ok written
  obtain ⟨result, after⟩ := @cycle_of_written snapshot reported station.inMemory synced outcome
    reached kept
  refine ⟨result, ?_⟩
  rw [after, (cycle_of_written outcome reached written).2]
  exact same

theorem refreshed_of_returned {outputs : List (Text × Text)}
    (coherent : Coherent Template.compile station.registry)
    (distinct : Keyed.Distinct station.board.panels)
    (returned : (station.cycle snapshot reported).result = .ok outputs) :
    Refreshed station.registry.marker (Keyed.putAll station.board.panels.customData reported)
      snapshot station.board.panels outputs (station.cycle snapshot reported).station.inMemory := by
  obtain ⟨_, outcome, _⟩ := written_of_cycle returned
  obtain ⟨same, after⟩ := cycle_inMemory_of_ok returned
  obtain ⟨found, result, refreshed⟩ := @cycle_of_synced station.registry station.board.panels {}
    snapshot reported coherent distinct outcome
  obtain rfl : found = outputs := Except.ok.inj (result.symm.trans same)
  rw [← after]
  exact refreshed

theorem panels_of_returned {outputs : List (Text × Text)}
    (coherent : Coherent Template.compile station.registry)
    (distinct : Keyed.Distinct station.board.panels)
    (returned : (station.cycle snapshot reported).result = .ok outputs) :
    (station.cycle snapshot reported).station.board.panels =
      station.board.panels.withTexts outputs :=
  congrArg Board.panels (refreshed_of_returned coherent distinct returned).written

theorem distinct_writeTexts (distinct : Keyed.Distinct station.board.panels)
    (texts : List (Text × Text)) :
    Keyed.Distinct (station.writeTexts texts).station.board.panels := by
  induction texts generalizing station with
  | nil => exact distinct
  | cons entry rest ih =>
      rcases entry with ⟨device, text⟩
      have kept := Board.distinct_write distinct station.disk device text
      cases written : (station.board.write station.disk device text).result with
      | ok done =>
          simp only [writeTexts, written]
          apply ih
          exact kept
      | error fault =>
          cases fault with
          | disk fault =>
              simp only [writeTexts, written]
              exact kept
          | unknownPanel unknown =>
              simp only [writeTexts, written]
              apply ih
              exact distinct

theorem distinct_cycle (distinct : Keyed.Distinct station.board.panels) (snapshot : Snapshot)
    (reported : List (Text × Text)) :
    Keyed.Distinct (station.cycle snapshot reported).station.board.panels := by
  cases synced : (station.registry.sync Template.compile
      (Keyed.putAll station.board.panels.customData reported)).result with
  | error cause =>
      simp only [cycle, synced]
      exact distinct
  | ok done =>
      simp only [cycle, synced]
      -- The texts are written to the panels that there were, whatever they are.
      generalize (evaluations _ snapshot).map _ = texts
      have kept := @distinct_writeTexts
        { station with registry := (station.registry.sync Template.compile
          (Keyed.putAll station.board.panels.customData reported)).registry } distinct texts
      split <;> exact kept

end Station
end Wallboard
