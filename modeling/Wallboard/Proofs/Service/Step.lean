import Wallboard.Proofs.Station.Saving
import Wallboard.Service.Handler

namespace Wallboard

open Registry

/-- The state that every station keeps, also when a request fails half way. -/
structure Station.Sound (marker : Text) (station : Station) : Prop where
  coherent : Coherent Template.compile station.registry
  marked : station.registry.marker = marker
  distinct : Keyed.Distinct station.board.panels

def Panels.assigned (panels : Panels) (device customData : Text) : Panel :=
  (panels.assign device customData).1

def Board.assigned (board : Board) (device customData : Text) : Board :=
  { board with panels := (board.panels.assign device customData).2 }

namespace Service

variable {station : Station} {device customData marker : Text} {snapshot : Snapshot}

/-- New custom data changes the panel first. If that was saved, the device is observed, and shown if
its text could be compiled. -/
theorem putPanel_cases (station : Station) (device customData : Text) :
    let observed := station.registry.observe Template.compile device customData
    (∃ disk, putPanel station device customData =
        (.internalError, ⟨station.board.assigned device customData, station.registry, disk⟩)) ∨
      (∃ disk numeral, observed.result = .error numeral ∧ putPanel station device customData =
        (.internalError, ⟨station.board.assigned device customData, observed.registry, disk⟩)) ∨
      ∃ disk asked, observed.result = .ok asked ∧
        let after : Station := ⟨station.board.assigned device customData, observed.registry, disk⟩
        putPanel station device customData =
          (.ofJson (panelView after (station.board.panels.assigned device customData)), after) := by
  have changed : station.board.assign station.disk device customData =
      Board.commit station.disk station.board (station.board.panels.assign device customData).2
        (station.board.panels.assigned device customData) := rfl
  have own : (station.board.panels.assigned device customData).customData = customData := rfl
  rcases Board.commit_cases station.disk station.board
      (station.board.panels.assign device customData).2
      (station.board.panels.assigned device customData) with ⟨disk, done⟩ | ⟨fault, done⟩
  · cases result : (station.registry.observe Template.compile device customData).result with
    | error numeral =>
        refine .inr (.inl ⟨disk, numeral, result, ?_⟩)
        simp only [putPanel, changed, done, Station.observe, own, result, Except.map,
          Board.assigned]
    | ok asked =>
        refine .inr (.inr ⟨disk, asked, result, ?_⟩)
        simp only [putPanel, changed, done, Station.observe, own, result, Except.map,
          Board.assigned]
  · refine .inl ⟨station.disk, ?_⟩
    simp only [putPanel, changed, done, Board.assigned]

theorem putPanel_board (station : Station) (device customData : Text) :
    (putPanel station device customData).2.board = station.board.assigned device customData := by
  rcases putPanel_cases station device customData with
    ⟨disk, done⟩ | ⟨disk, numeral, _, done⟩ | ⟨disk, asked, _, done⟩ <;> rw [done]

theorem deletePanel_cases (station : Station) (device : Text) :
    (device ∉ Keyed.keys station.board.panels ∧ (deletePanel station device).2 = station) ∨
      (∃ disk, deletePanel station device = (.internalError,
        ⟨{ station.board with panels := Keyed.erase device station.board.panels },
          station.registry, disk⟩)) ∨
      ∃ disk, deletePanel station device = ({ status := 204 },
        ⟨{ station.board with panels := Keyed.erase device station.board.panels },
          station.registry.forget device, disk⟩) := by
  by_cases known : Keyed.contains device station.board.panels = true
  · have removed : station.board.remove station.disk device =
        Board.commit station.disk station.board (Keyed.erase device station.board.panels) () := by
      simp only [Board.remove, Panels.remove?, known, if_true]
    rcases Board.commit_cases station.disk station.board
        (Keyed.erase device station.board.panels) () with ⟨disk, done⟩ | ⟨fault, done⟩
    · refine .inr (.inr ⟨disk, ?_⟩)
      simp only [deletePanel, removed, done]
    · refine .inr (.inl ⟨station.disk, ?_⟩)
      simp only [deletePanel, removed, done]
  · have unknown : device ∉ Keyed.keys station.board.panels := by
      rwa [Keyed.contains_iff] at known
    have refused : station.board.remove station.disk device =
        ⟨.error (.unknownPanel device), station.board, station.disk⟩ := by
      simp only [Board.remove, Panels.remove?, known]
      rfl
    refine .inl ⟨unknown, ?_⟩
    simp only [deletePanel, refused]

theorem refreshPanels_snd (station : Station) (snapshot : Snapshot) :
    (refreshPanels station snapshot).2 = (station.cycle snapshot []).station := by
  simp only [refreshPanels]
  split <;> rfl

theorem cycle_of_refreshPanels
    (completed : (refreshPanels station snapshot).1.status ≠ 500) :
    ∃ outputs, (station.cycle snapshot []).result = .ok outputs := by
  cases result : (station.cycle snapshot []).result with
  | ok outputs => exact ⟨outputs, rfl⟩
  | error fault =>
      simp only [refreshPanels, result] at completed
      exact absurd rfl completed

theorem found_of_served {method path : Text} {endpoint : Endpoint}
    (served : Route.ofRequest method path = .served endpoint) :
    (endpointsAt path).find? (fun endpoint => endpoint.method = method) = some endpoint := by
  unfold Route.ofRequest at served
  dsimp only at served
  split at served
  · rename_i found suitable
    obtain rfl : found = endpoint := Route.served.inj served
    exact suitable
  · repeat' split at served
    all_goals cases served

theorem method_of_served {method path : Text} {endpoint : Endpoint}
    (served : Route.ofRequest method path = .served endpoint) : endpoint.method = method := by
  simpa using List.find?_some (found_of_served served)

theorem method_ne_head (endpoint : Endpoint) : endpoint.method ≠ "HEAD".toList := by
  have others : "POST".toList ≠ "HEAD".toList ∧ "GET".toList ≠ "HEAD".toList ∧
      "PUT".toList ≠ "HEAD".toList ∧ "DELETE".toList ≠ "HEAD".toList := by decide
  obtain ⟨post, get, put, delete⟩ := others
  cases endpoint with
  | render => exact post
  | listPanels => exact get
  | putPanel device => exact put
  | deletePanel device => exact delete
  | refreshPanels => exact post
  | health => exact get
  | welcome => exact get

variable {request : Request} {endpoint : Endpoint}

theorem handle_of_served
    (served : Route.ofRequest request.method request.path = .served endpoint) :
    handle station request = serve station request endpoint := by
  have whole : request.method ≠ "HEAD".toList := by
    rw [← method_of_served served]
    exact method_ne_head endpoint
  simp only [handle, answer, served, if_neg whole]

theorem handle_of_not_served
    (unserved : ∀ endpoint, Route.ofRequest request.method request.path ≠ .served endpoint) :
    (handle station request).2 = station := by
  have unchanged : (answer station request).2 = station := by
    unfold answer
    split
    · rename_i endpoint served
      exact absurd served (unserved endpoint)
    all_goals rfl
  simp only [handle]
  split <;> exact unchanged

/-- A request is put to one of the three functions that change a station, or changes nothing. -/
theorem handle_cases (station : Station) (request : Request) :
    (handle station request).2 = station ∨
      (∃ device customData, handle station request = putPanel station device customData) ∨
      (∃ device, handle station request = deletePanel station device) ∨
      ∃ snapshot, handle station request = refreshPanels station snapshot := by
  by_cases route : ∃ endpoint, Route.ofRequest request.method request.path = .served endpoint
  · obtain ⟨endpoint, served⟩ := route
    rw [handle_of_served served]
    cases endpoint with
    | render =>
        refine .inl ?_
        simp only [serve, answerWith]
        split <;> rfl
    | putPanel device =>
        cases found : request.checked checkCustomData with
        | error refusal => exact .inl (by simp only [serve, found, answerWith])
        | ok customData =>
            exact .inr (.inl ⟨device, customData, by simp only [serve, found, answerWith]⟩)
    | deletePanel device => exact .inr (.inr (.inl ⟨device, rfl⟩))
    | refreshPanels =>
        cases found : request.checked checkSnapshot with
        | error refusal => exact .inl (by simp only [serve, found, answerWith])
        | ok snapshot =>
            exact .inr (.inr (.inr ⟨snapshot, by simp only [serve, found, answerWith]⟩))
    | listPanels => exact .inl rfl
    | health => exact .inl rfl
    | welcome => exact .inl rfl
  · exact .inl (handle_of_not_served (not_exists.mp route))

end Service

namespace Station.Sound

open Service

variable {station : Station} {marker : Text}

theorem empty (marker : Text) (path : Option Path) (disk : Disk) :
    Sound marker ⟨{ path }, { marker }, disk⟩ :=
  ⟨Coherent.empty Template.compile marker, rfl, .nil⟩

theorem putPanel (sound : Sound marker station) (device customData : Text) :
    Sound marker (Service.putPanel station device customData).2 := by
  have distinct : Keyed.Distinct (station.board.assigned device customData).panels :=
    sound.distinct.put device _
  have observed := sound.coherent.observe device customData
  have marked := (marker_observe sound.coherent device customData).trans sound.marked
  rcases putPanel_cases station device customData with
    ⟨disk, done⟩ | ⟨disk, numeral, _, done⟩ | ⟨disk, asked, _, done⟩
  · rw [done]
    exact ⟨sound.coherent, sound.marked, distinct⟩
  · rw [done]
    exact ⟨observed, marked, distinct⟩
  · rw [done]
    exact ⟨observed, marked, distinct⟩

theorem deletePanel (sound : Sound marker station) (device : Text) :
    Sound marker (Service.deletePanel station device).2 := by
  have distinct := sound.distinct.erase device
  rcases deletePanel_cases station device with ⟨_, same⟩ | ⟨disk, done⟩ | ⟨disk, done⟩
  · rwa [same]
  · rw [done]
    exact ⟨sound.coherent, sound.marked, distinct⟩
  · rw [done]
    exact ⟨sound.coherent.forget device, sound.marked, distinct⟩

theorem refreshPanels (sound : Sound marker station) (snapshot : Snapshot) :
    Sound marker (Service.refreshPanels station snapshot).2 := by
  obtain ⟨kept, marked⟩ := cycle_preserves sound.coherent snapshot []
  rw [refreshPanels_snd]
  exact ⟨kept, marked.trans sound.marked, distinct_cycle sound.distinct snapshot []⟩

theorem handle (sound : Sound marker station) (request : Service.Request) :
    Sound marker (Service.handle station request).2 := by
  rcases handle_cases station request with
    same | ⟨device, customData, stored⟩ | ⟨device, removed⟩ | ⟨snapshot, refreshed⟩
  · rwa [same]
  · rw [stored]
    exact sound.putPanel device customData
  · rw [removed]
    exact sound.deletePanel device
  · rw [refreshed]
    exact sound.refreshPanels snapshot

end Station.Sound
end Wallboard
