import Wallboard.Proofs.Board.Sessions
import Wallboard.Proofs.Service.History

/-!
A service that is stopped and started again on the file it left. It has the same panels, but what
was bound was known in memory only: no panel is bound until it is stored again or a cycle has run,
and after the first cycle the two services show the same.
-/
namespace Wallboard

namespace Station

open Registry

variable {station : Station} {path : Path} {disk kept : Disk} {settings : Settings} {place : Text}
  {snapshot : Snapshot}

theorem openAt_eq_ok_iff (located : settings.boardPath = some place) :
    openAt disk settings none = (kept, .ok station) ↔
      ∃ board, Board.openAt disk (some (Path.ofText place)) = (kept, .ok board) ∧
        station = ⟨board, { marker := settings.marker }, kept⟩ := by
  rw [openAt, located, Option.map_some]
  rcases Board.openAt disk (some (Path.ofText place)) with ⟨found, fault | board⟩
  · simp [Except.map]
  · simp only [Except.map, Prod.mk.injEq, Except.ok.injEq, Option.getD_none]
    constructor
    · rintro ⟨rfl, rfl⟩
      exact ⟨board, ⟨rfl, rfl⟩, rfl⟩
    · rintro ⟨other, ⟨rfl, rfl⟩, rfl⟩
      exact ⟨rfl, rfl⟩

theorem writeTexts_of_lasting (lasting : Board.Lasting path station.disk station.board)
    (texts : List (Text × Text)) :
    (station.writeTexts texts).result = .ok () ∧
      Board.Lasting path (station.writeTexts texts).station.disk
        (station.writeTexts texts).station.board := by
  induction texts generalizing station with
  | nil => exact ⟨rfl, lasting⟩
  | cons entry rest ih =>
      rcases entry with ⟨device, text⟩
      have undisturbed := lasting.write_undisturbed device text
      have after := lasting.called (.write device text) undisturbed
      cases written : (station.board.write station.disk device text).result with
      | ok done =>
          simp only [writeTexts, written]
          exact ih after
      | error fault =>
          cases fault with
          | disk fault => exact absurd written (undisturbed fault)
          | unknownPanel unknown =>
              simp only [writeTexts, written]
              exact ih lasting

theorem cycle_of_lasting (lasting : Board.Lasting path station.disk station.board)
    (snapshot : Snapshot) :
    Board.Lasting path (station.cycle snapshot []).station.disk
        (station.cycle snapshot []).station.board ∧
      ((station.registry.sync Template.compile station.board.panels.customData).result = .ok () →
        ∃ outputs, (station.cycle snapshot []).result = .ok outputs) := by
  cases outcome : (station.registry.sync Template.compile
      station.board.panels.customData).result with
  | error cause =>
      obtain ⟨failed, after⟩ := @cycle_of_error snapshot [] station cause outcome
      rw [after]
      exact ⟨lasting, nofun⟩
  | ok done =>
      generalize reached : (station.registry.sync Template.compile
        station.board.panels.customData).registry = synced
      obtain ⟨written, kept⟩ := @writeTexts_of_lasting { station with registry := synced } path
        lasting (synced.texts snapshot)
      obtain ⟨returned, after⟩ := @cycle_of_written snapshot [] station synced outcome reached
        written
      rw [after]
      exact ⟨kept, fun _ => ⟨_, returned⟩⟩

theorem InStep.sync_eq_ok {marker : Text} (inStep : InStep marker station) {registry : Registry}
    (coherent : Coherent Template.compile registry) (marked : registry.marker = marker)
    {panels : Panels} (same : panels.Perm station.board.panels) :
    (registry.sync Template.compile panels.customData).result = .ok () := by
  apply (sync_eq_ok_iff coherent _).mpr
  intro field member
  obtain ⟨⟨device, panel⟩, listed, rfl⟩ := List.mem_map.mp member
  have found : station.board.find? device = some panel :=
    inStep.distinct.find?_eq_some_iff.mpr (same.mem_iff.mp listed)
  rw [marked]
  by_cases wanted : Text.startsWith panel.customData marker = true
  · have bound := (inStep.bound device panel.customData).mpr ⟨by rw [found]; rfl, wanted⟩
    obtain ⟨binding, held, text⟩ := Option.map_eq_some_iff.mp bound
    have read := inStep.coherent.current device binding held
    rw [text, inStep.marked] at read
    exact ⟨some binding, read⟩
  · exact ⟨none, if_neg wanted⟩

end Station

namespace Service

def unboundView (panel : Panel) : Json :=
  .object
    [("device_id".toList, .string panel.device),
     ("custom_data".toList, .string panel.customData),
     ("text".toList, .string panel.text),
     ("bound".toList, .bool false)]

/-- Two services after a restart: they list the same panels, of which the new service binds none.
A refresh has the same answer from both, and they show the same panels after it. -/
structure Resumes (marker : Text) (left fresh : Station) : Prop where
  listed : ∃ panels, Lists left.board panels ∧
    ∀ request, Route.ofRequest request.method request.path = .served .listPanels →
      (handle left request).1 = .ofJson (.array (panels.map (markedView marker))) ∧
        (handle fresh request).1 = .ofJson (.array (panels.map unboundView))
  refreshed : ∀ request snapshot,
    Route.ofRequest request.method request.path = .served .refreshPanels →
      request.checked checkSnapshot = .ok snapshot →
        (handle left request).1.status = 200 ∧
          (handle fresh request).1 = (handle left request).1 ∧
          panelViews (handle fresh request).2 = panelViews (handle left request).2

theorem Lists.unique {board other : Board} {listed others : List Panel}
    (lists : Lists board listed) (alsoLists : Lists other others)
    (same : board.panels.Perm other.panels) : listed = others := by
  have perm : listed.Perm others :=
    lists.each.trans ((same.map _).trans alsoLists.each.symm)
  apply perm.eq_of_pairwise _ (List.pairwise_map.mp lists.increasing)
    (List.pairwise_map.mp alsoLists.increasing)
  intro left right _ _ forward backward
  exact absurd (Text.precedes_antisymm forward.1 backward.1) forward.2

end Service

namespace Board.Lasting

open Service

variable {station : Station} {path : Path} {device customData : Text}

theorem putPanel (lasting : Lasting path station.disk station.board)
    (completed : (Service.putPanel station device customData).1.status ≠ 500) :
    Lasting path (Service.putPanel station device customData).2.disk
      (Service.putPanel station device customData).2.board := by
  have after := lasting.called (.assign device customData)
  simp only [Call.outcome] at after
  cases assigned : (station.board.assign station.disk device customData).result with
  | error fault =>
      simp only [Service.putPanel, assigned] at completed
      exact absurd rfl completed
  | ok panel =>
      have kept := after (by simp [assigned, Except.map])
      simp only [Service.putPanel, assigned]
      split <;> exact kept

theorem deletePanel (lasting : Lasting path station.disk station.board)
    (completed : (Service.deletePanel station device).1.status ≠ 500) :
    Lasting path (Service.deletePanel station device).2.disk
      (Service.deletePanel station device).2.board := by
  have after := lasting.called (.remove device)
  simp only [Call.outcome] at after
  cases removed : (station.board.remove station.disk device).result with
  | ok done =>
      simp only [Service.deletePanel, removed]
      exact after (by simp [removed])
  | error fault =>
      cases fault with
      | unknownPanel unknown =>
          simp only [Service.deletePanel, removed]
          exact after (by simp [removed])
      | disk fault =>
          simp only [Service.deletePanel, removed] at completed
          exact absurd rfl completed

theorem refreshPanels (lasting : Lasting path station.disk station.board) (snapshot : Snapshot) :
    Lasting path (Service.refreshPanels station snapshot).2.disk
      (Service.refreshPanels station snapshot).2.board := by
  rw [refreshPanels_snd]
  exact (Station.cycle_of_lasting lasting snapshot).1

theorem handle (lasting : Lasting path station.disk station.board) (request : Request)
    (completed : (Service.handle station request).1.status ≠ 500) :
    Lasting path (Service.handle station request).2.disk
      (Service.handle station request).2.board := by
  rcases handle_cases station request with
    same | ⟨device, customData, stored⟩ | ⟨device, removed⟩ | ⟨snapshot, refreshed⟩
  · rwa [same]
  · rw [stored] at completed ⊢
    exact lasting.putPanel completed
  · rw [removed] at completed ⊢
    exact lasting.deletePanel completed
  · rw [refreshed]
    exact lasting.refreshPanels snapshot

theorem afterAll (lasting : Lasting path station.disk station.board) {requests : List Request}
    (completed : ∀ exchange ∈ exchanges station requests, exchange.response.status ≠ 500) :
    Lasting path (Service.afterAll station requests).disk
      (Service.afterAll station requests).board := by
  induction requests generalizing station with
  | nil => exact lasting
  | cons request rest ih =>
      rw [exchanges, List.forall_mem_cons] at completed
      exact ih (lasting.handle request completed.1) completed.2

end Board.Lasting

namespace Service

variable {marker : Text} {path : Path} {deeds : List Deed} {left fresh : Station}
  {panels : Panels} {snapshot : Snapshot}

theorem status_refreshPanels {outputs : List (Text × Text)}
    (returned : (left.cycle snapshot []).result = .ok outputs) :
    (refreshPanels left snapshot).1.status = 200 := by
  simp only [refreshPanels, returned]
  rfl

theorem refreshPanels_agree (remembers : Remembers marker deeds left)
    (alsoRemembers : Remembers marker deeds fresh) (sound : left.Sound marker)
    (alsoSound : fresh.Sound marker) (orderly : left.board.Orderly)
    (alsoOrderly : fresh.board.Orderly)
    (completed : (refreshPanels left snapshot).1.status ≠ 500)
    (alsoCompleted : (refreshPanels fresh snapshot).1.status ≠ 500) :
    (refreshPanels fresh snapshot).1 = (refreshPanels left snapshot).1 ∧
      panelViews (refreshPanels fresh snapshot).2 = panelViews (refreshPanels left snapshot).2 := by
  obtain ⟨after, listed, lists, response⟩ :=
    Station.InStep.refreshPanels_shown sound orderly completed
  obtain ⟨alsoAfter, others, alsoLists, alsoResponse⟩ :=
    Station.InStep.refreshPanels_shown alsoSound alsoOrderly alsoCompleted
  have told := remembers.refreshed sound completed
  have alsoTold := alsoRemembers.refreshed alsoSound alsoCompleted
  have same : (refreshPanels fresh snapshot).2.board.panels.Perm
      (refreshPanels left snapshot).2.board.panels :=
    alsoAfter.distinct.perm_of_find?_eq after.distinct fun device =>
      (alsoTold device).unique (told device)
  constructor
  · rw [alsoResponse, response, alsoLists.unique lists same]
  · rw [alsoAfter.panelViews_eq, after.panelViews_eq,
      alsoAfter.orderly.lists_listing.unique after.orderly.lists_listing same]

theorem resumes_of_perm (remembers : Remembers marker deeds left) (inStep : left.InStep marker)
    (lasting : Board.Lasting path left.disk left.board)
    (alsoLasting : Board.Lasting path left.disk ⟨panels, some path⟩)
    (same : panels.Perm left.board.panels) :
    Resumes marker left ⟨⟨panels, some path⟩, { marker }, left.disk⟩ := by
  have distinct : Keyed.Distinct panels := inStep.distinct.of_perm same.symm
  have found : Board.find? ⟨panels, some path⟩ = left.board.find? :=
    funext (distinct.find?_of_perm same)
  have orderly : Board.Orderly ⟨panels, some path⟩ := ⟨distinct, by
    rw [found]
    exact inStep.labelled⟩
  have empty := Registry.Coherent.empty Template.compile marker
  constructor
  case listed =>
    refine ⟨left.board.listing, inStep.orderly.lists_listing, ?_⟩
    intro request served
    rw [handle_of_served served, handle_of_served served]
    refine ⟨congrArg Response.ofJson inStep.panelViews_eq, ?_⟩
    rw [← orderly.lists_listing.unique inStep.orderly.lists_listing same]
    rfl
  case refreshed =>
    intro request snapshot served checked
    rw [handle_of_served served, handle_of_served served]
    simp only [serve, checked, answerWith]
    -- Neither cycle can fail: what is bound was compiled, and the file was written before.
    obtain ⟨outputs, returned⟩ := (Station.cycle_of_lasting lasting snapshot).2
      (inStep.sync_eq_ok inStep.coherent inStep.marked (.refl _))
    obtain ⟨others, alsoReturned⟩ :=
      (@Station.cycle_of_lasting ⟨⟨panels, some path⟩, { marker }, left.disk⟩ path alsoLasting
        snapshot).2 (inStep.sync_eq_ok empty rfl same)
    have completed := status_refreshPanels returned
    have alsoCompleted := status_refreshPanels alsoReturned
    have alsoRemembers : Remembers marker deeds ⟨⟨panels, some path⟩, { marker }, left.disk⟩ := by
      intro device
      rw [found]
      exact remembers device
    exact ⟨completed, refreshPanels_agree remembers alsoRemembers inStep.toSound
      ⟨empty, rfl, distinct⟩ inStep.orderly orderly (by simp [completed])
      (by simp [alsoCompleted])⟩

/-- As long as no request fails half way, a service that started without a file leaves one on which
a new service starts with the same panels, in the same order and with the same custom data and
texts. The new one has bound none of them until the first refresh, whose answer is the one that the
old service would have given, as are the panels after it. -/
theorem panels_survive_restart {disk kept : Disk} {settings : Settings} {place : Text}
    {start : Station} (located : settings.boardPath = some place)
    (started : Station.openAt disk settings none = (kept, .ok start))
    (absent : ∀ content, kept.read (Path.ofText place) ≠ .ok content) (requests : List Request)
    (completed : ∀ exchange ∈ exchanges start requests, exchange.response.status ≠ 500) :
    let left := afterAll start requests
    ∃ fresh, Station.openAt left.disk settings none = (left.disk, .ok fresh) ∧
      Resumes settings.marker left fresh := by
  intro left
  obtain ⟨board, opened, rfl⟩ := (Station.openAt_eq_ok_iff located).mp started
  obtain ⟨rfl, lastingStart⟩ := Board.Lasting.of_absent opened absent
  obtain ⟨remembers, inStep⟩ := (Remembers.empty settings.marker _ kept).afterAll
    (Station.InStep.empty settings.marker _ kept) completed
  have lasting : Board.Lasting (Path.ofText place) left.disk left.board :=
    lastingStart.afterAll completed
  obtain ⟨panels, reopened, same, alsoLasting⟩ := lasting.openAt inStep.distinct
  refine ⟨_, (Station.openAt_eq_ok_iff located).mpr ⟨_, reopened, rfl⟩, ?_⟩
  exact resumes_of_perm remembers inStep lasting alsoLasting same

/-- Two panels that were refreshed and then changed, and one that was removed. -/
theorem survives_restart_after_changes :
    let request (method path : String) (document : Json) : Request :=
      { method := method.toList, origin := [], path := path.toList, body := Json.write document }
    let store (path customData : String) : Request :=
      request "PUT" path (.object [("custom_data".toList, .string customData.toList)])
    let requests : List Request :=
      [store "/panels/b" "#\n<mass>", store "/panels/a" "#\n<volume>", store "/panels/c" "",
        request "POST" "/panels/refresh" (.object [("total_mass_kg".toList, .int 2000)]),
        store "/panels/a" "off", store "/panels/b" "#\n\"\r\"", request "DELETE" "/panels/c" .null]
    let settings : Settings := { marker := ['#'], boardPath := some "tmp/panels.json".toList }
    let path : Path := ⟨false, ["tmp".toList, "panels.json".toList]⟩
    let kept : Disk := ⟨[(["tmp".toList], .directory)]⟩
    let start : Station := ⟨{ path := some path }, { marker := ['#'] }, kept⟩
    let left := afterAll start requests
    Station.openAt {} settings none = (kept, .ok start) ∧
      (∀ content, kept.read path ≠ .ok content) ∧
      (∀ exchange ∈ exchanges start requests, exchange.response.status ≠ 500) ∧
      ∃ fresh, Station.openAt left.disk settings none = (left.disk, .ok fresh) ∧
        Resumes ['#'] left fresh := by
  intro request store requests settings path kept start left
  have plain : Path.ofText "tmp/panels.json".toList = path := by decide
  have started : Station.openAt {} settings none = (kept, .ok start) := by
    refine (Station.openAt_eq_ok_iff rfl).mpr ⟨{ path := some path }, ?_, rfl⟩
    rw [plain]
    rfl
  have absent : ∀ content, kept.read path ≠ .ok content := by
    intro content found
    have missing : kept.read path = .error .notFound := rfl
    cases missing.symm.trans found
  have completed : ∀ exchange ∈ exchanges start requests, exchange.response.status ≠ 500 := by
    decide +kernel
  refine ⟨started, absent, completed, ?_⟩
  rw [← plain] at absent
  exact panels_survive_restart rfl started absent requests completed

/-- A panel with the marker is bound before the restart and not after it. -/
theorem restart_unbinds_panels :
    let list : Request := { method := "GET".toList, origin := [], path := "/panels".toList }
    let store : Request :=
      { method := "PUT".toList, origin := [], path := "/panels/a".toList
        body := Json.write (.object [("custom_data".toList, .string "#infoscreen\nhi".toList)]) }
    let settings : Settings := { boardPath := some "panels.json".toList }
    let start : Station :=
      ⟨{ path := some ⟨false, ["panels.json".toList]⟩ }, { marker := settings.marker }, {}⟩
    let left := (handle start store).2
    let listed (station : Station) : Text := (handle station list).1.bodyText
    Station.openAt {} settings none = ({}, .ok start) ∧
      (handle start store).1.status = 200 ∧
      ∃ kept fresh, Station.openAt left.disk settings none = (kept, .ok fresh) ∧
        listed fresh ≠ listed left := by
  intro list store settings start left listed
  have plain : Path.ofText "panels.json".toList = ⟨false, ["panels.json".toList]⟩ := by decide
  have started : Station.openAt {} settings none = ({}, .ok start) := by
    refine (Station.openAt_eq_ok_iff rfl).mpr ⟨start.board, ?_, rfl⟩
    rw [plain]
    rfl
  have differ : (match (Station.openAt left.disk settings none).2 with
      | .ok fresh => decide (listed fresh ≠ listed left)
      | .error _ => false) = true := by decide +kernel
  refine ⟨started, by decide +kernel, ?_⟩
  cases opened : Station.openAt left.disk settings none with
  | mk kept outcome =>
      rw [opened] at differ
      cases outcome with
      | error fault => cases differ
      | ok fresh => exact ⟨kept, fresh, rfl, of_decide_eq_true differ⟩

end Service
end Wallboard
