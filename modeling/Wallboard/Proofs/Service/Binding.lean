import Wallboard.Proofs.Board.Order
import Wallboard.Proofs.Service.Step

/-!
The panels of a station and its bindings. Each request changes the one and brings the other in line,
so that after any requests, as long as none fails half way, exactly the panels whose custom data has
the marker are bound, and every answer shows them so.
-/
namespace Wallboard

open Registry

/-- The registry binds exactly the panels whose custom data has the marker, each to the template of
that custom data, and every panel is kept for its own device. -/
structure Station.InStep (marker : Text) (station : Station) : Prop
    extends Station.Sound marker station where
  labelled : ∀ device panel, station.board.find? device = some panel → panel.device = device
  bound : ∀ device customData,
    (station.registry.find? device).map (·.rawText) = some customData ↔
      (station.board.find? device).map (·.customData) = some customData ∧
        Text.startsWith customData marker = true

structure Board.Orderly (board : Board) : Prop where
  distinct : Keyed.Distinct board.panels
  labelled : ∀ device panel, board.find? device = some panel → panel.device = device

def Board.listing (board : Board) : List Panel :=
  board.panels.scan.mergeSort fun left right => Text.precedes left.device right.device

namespace Service

structure Exchange where
  request : Request
  response : Response
  after : Station

def exchanges (station : Station) : List Request → List Exchange
  | [] => []
  | request :: rest =>
      let (response, after) := handle station request
      ⟨request, response, after⟩ :: exchanges after rest

/-- The view of a panel that is bound exactly if its custom data has the marker. -/
def markedView (marker : Text) (panel : Panel) : Json :=
  .object
    [("device_id".toList, .string panel.device),
     ("custom_data".toList, .string panel.customData),
     ("text".toList, .string panel.text),
     ("bound".toList, .bool (Text.startsWith panel.customData marker))]

structure Lists (board : Board) (listed : List Panel) : Prop where
  each : listed.Perm board.panels.scan
  increasing : (listed.map (·.device)).Pairwise Text.Before

/-- What the answer to a request shows of the panels, by the endpoint that served it. -/
def Shows (marker : Text) (exchange : Exchange) : Endpoint → Prop
  | .putPanel device =>
      ∀ customData, exchange.request.checked checkCustomData = .ok customData →
        ∃ text, exchange.after.board.find? device = some { device, customData, text } ∧
          exchange.response = .ofJson (markedView marker { device, customData, text })
  | .listPanels =>
      ∃ listed, Lists exchange.after.board listed ∧
        exchange.response = .ofJson (.array (listed.map (markedView marker)))
  | .refreshPanels =>
      ∀ snapshot, exchange.request.checked checkSnapshot = .ok snapshot →
        ∃ listed, Lists exchange.after.board listed ∧
          let count := listed.countP fun panel => Text.startsWith panel.customData marker
          exchange.response = .ofJson (.object
            [("bound".toList, .int count),
             ("panels".toList, .array (listed.map (markedView marker)))])
  | _ => True

end Service

theorem Registry.rawText_of_reading {fault : Type} {compile : Compiler fault}
    {marker device text : Text} {asked : Option Binding}
    (read : reading compile marker device text = .ok asked) :
    asked.map (·.rawText) = if Text.startsWith text marker then some text else none := by
  unfold reading at read
  by_cases marked : Text.startsWith text marker = true
  · rw [if_pos marked] at read ⊢
    cases compiled : compile (templateBody text) with
    | error cause =>
        rw [compiled] at read
        cases read
    | ok template =>
        rw [compiled] at read
        obtain rfl : some ⟨device, text, template⟩ = asked := Except.ok.inj read
        rfl
  · rw [if_neg marked] at read ⊢
    obtain rfl : none = asked := Except.ok.inj read
    rfl

theorem Station.Refreshed.length_outputs {marker : Text} {snapshot : Snapshot} {panels : Panels}
    {outputs : List (Text × Text)} {after : Station}
    (refreshed : Refreshed marker panels.customData snapshot panels outputs after)
    (distinct : Keyed.Distinct panels) :
    outputs.length = panels.countP fun entry => Text.startsWith entry.2.customData marker := by
  let marked := panels.filter fun entry => Text.startsWith entry.2.customData marker
  have once : Keyed.Distinct marked := (List.filter_sublist.map _).nodup distinct
  have same : (Keyed.keys outputs).Perm (Keyed.keys marked) := by
    rw [List.perm_ext_iff_of_nodup refreshed.once once]
    intro device
    constructor
    · intro listed
      obtain ⟨entry, member, rfl⟩ := List.mem_map.mp listed
      obtain ⟨customData, field, wanted⟩ := refreshed.marked entry member
      obtain ⟨source, present, shape⟩ := List.mem_map.mp field
      obtain ⟨device, rfl⟩ := Prod.mk.inj shape
      exact List.mem_map.mpr ⟨source, List.mem_filter.mpr ⟨present, wanted⟩, device⟩
    · intro listed
      obtain ⟨source, member, rfl⟩ := List.mem_map.mp listed
      obtain ⟨present, wanted⟩ := List.mem_filter.mp member
      have field : (source.1, source.2.customData) ∈ panels.customData :=
        List.mem_map.mpr ⟨source, present, rfl⟩
      obtain ⟨_, text, _, _, shown⟩ :=
        refreshed.shown source.1 source.2.customData field wanted
      exact List.mem_map.mpr ⟨(source.1, text), shown, rfl⟩
  have lengths := same.length_eq
  rw [Keyed.keys, Keyed.keys, List.length_map, List.length_map] at lengths
  rw [lengths, List.countP_eq_length_filter]

namespace Board.Orderly

variable {board : Board}

theorem mem_scan_iff (orderly : Orderly board) {panel : Panel} :
    panel ∈ board.panels.scan ↔ board.find? panel.device = some panel := by
  constructor
  · intro member
    obtain ⟨⟨device, shown⟩, listed, rfl⟩ := List.mem_map.mp member
    have found := orderly.distinct.find?_eq_some_iff.mpr listed
    rwa [orderly.labelled device shown found]
  · intro found
    exact List.mem_map.mpr ⟨_, Keyed.mem_of_find? found, rfl⟩

theorem devices_scan (orderly : Orderly board) :
    board.panels.scan.map (·.device) = Keyed.keys board.panels := by
  rw [Panels.scan, List.map_map]
  apply List.map_congr_left
  intro entry member
  exact orderly.labelled entry.1 entry.2 (orderly.distinct.find?_eq_some_iff.mpr member)

theorem lists_listing (orderly : Orderly board) : Service.Lists board board.listing := by
  have perm : board.listing.Perm board.panels.scan := List.mergeSort_perm _ _
  have single : (board.listing.map (·.device)).Nodup := by
    rw [(perm.map _).nodup_iff, orderly.devices_scan]
    exact orderly.distinct
  have ordered : (board.listing.map (·.device)).Pairwise fun left right =>
      Text.precedes left right = true := by
    apply List.pairwise_map.mpr
    apply List.pairwise_mergeSort
    · intro left middle right
      exact Text.precedes_trans
    · intro left right
      exact Text.precedes_total left.device right.device
  exact ⟨perm, ordered.and single⟩

end Board.Orderly

namespace Station.InStep

open Service

variable {station : Station} {marker device customData : Text} {snapshot : Snapshot}

theorem orderly (inStep : InStep marker station) : station.board.Orderly :=
  ⟨inStep.distinct, inStep.labelled⟩

theorem empty (marker : Text) (path : Option Path) (disk : Disk) :
    InStep marker ⟨{ path }, { marker }, disk⟩ where
  toSound := .empty marker path disk
  labelled := by
    intro device panel found
    cases found
  bound := by
    intro device customData
    simp [Registry.find?, Board.find?, Keyed.find?]

theorem assigned (inStep : InStep marker station) {asked : Option Binding} (disk : Disk)
    (observed : (station.registry.observe Template.compile device customData).result = .ok asked) :
    InStep marker ⟨station.board.assigned device customData,
      (station.registry.observe Template.compile device customData).registry, disk⟩ := by
  obtain ⟨result, settled⟩ := observe_eq_settle inStep.coherent device customData
  rw [observed] at result
  have panelOf (other : Text) : (station.board.assigned device customData).find? other =
      if other = device then some (station.board.panels.assigned device customData)
      else station.board.find? other :=
    Keyed.find?_put device other _ station.board.panels
  constructor
  case toSound =>
    exact ⟨inStep.coherent.observe device customData,
      (marker_observe inStep.coherent device customData).trans inStep.marked,
      inStep.distinct.put device _⟩
  case labelled =>
    intro other panel found
    rw [panelOf] at found
    split at found
    · rename_i same
      rw [← Option.some.inj found]
      exact same.symm
    · exact inStep.labelled other panel found
  case bound =>
    intro other text
    rw [settled, ← result, panelOf]
    by_cases same : other = device
    · subst same
      rw [find?_settle_self, rawText_of_reading result.symm, inStep.marked, if_pos rfl]
      by_cases marked : Text.startsWith customData marker = true
      · rw [if_pos marked]
        constructor
        · intro shown
          obtain rfl : customData = text := Option.some.inj shown
          exact ⟨rfl, marked⟩
        · rintro ⟨shown, _⟩
          exact shown
      · rw [if_neg marked]
        constructor
        · intro shown
          cases shown
        · rintro ⟨shown, other⟩
          obtain rfl : customData = text := Option.some.inj shown
          exact absurd other marked
    · rw [find?_settle_of_ne same, if_neg same]
      exact inStep.bound other text

theorem erased (inStep : InStep marker station) (device : Text) (disk : Disk) :
    InStep marker ⟨{ station.board with panels := Keyed.erase device station.board.panels },
      station.registry.forget device, disk⟩ := by
  constructor
  case toSound =>
    exact ⟨inStep.coherent.forget device, inStep.marked, inStep.distinct.erase device⟩
  case labelled =>
    intro other panel found
    rw [Board.find?, Keyed.find?_erase] at found
    split at found
    · cases found
    · exact inStep.labelled other panel found
  case bound =>
    intro other text
    rw [find?_forget, Board.find?, Keyed.find?_erase]
    by_cases same : other = device
    · simp [same]
    · rw [if_neg same, if_neg same]
      exact inStep.bound other text

theorem of_returned (sound : Sound marker station) (orderly : station.board.Orderly)
    {outputs : List (Text × Text)}
    (returned : (station.cycle snapshot []).result = .ok outputs) :
    InStep marker (station.cycle snapshot []).station := by
  have after := refreshed_of_returned sound.coherent sound.distinct returned
  have panels := panels_of_returned sound.coherent sound.distinct returned
  obtain ⟨kept, marked⟩ := cycle_preserves sound.coherent snapshot []
  constructor
  case toSound =>
    exact ⟨kept, marked.trans sound.marked, distinct_cycle sound.distinct snapshot []⟩
  case labelled =>
    intro device panel found
    rw [Board.find?, panels, Panels.find?_withTexts] at found
    obtain ⟨earlier, known, rfl⟩ := Option.map_eq_some_iff.mp found
    exact orderly.labelled device earlier known
  case bound =>
    intro device customData
    have fields : Keyed.Distinct station.board.panels.customData := sound.distinct.map _
    have field : (device, customData) ∈ station.board.panels.customData ↔
        (station.board.find? device).map (·.customData) = some customData := by
      rw [← fields.find?_eq_some_iff, Panels.customData, Keyed.find?_map]
      rfl
    have shown : ((station.cycle snapshot []).station.board.find? device).map (·.customData) =
        (station.board.find? device).map (·.customData) := by
      rw [Board.find?, panels, Panels.find?_withTexts, Option.map_map]
      rfl
    rw [shown, ← field, ← sound.marked]
    have known : (device, customData) ∈ station.board.panels.customData →
        device ∈ Keyed.keys station.board.panels := by
      intro member
      have listed : device ∈ Keyed.keys station.board.panels.customData :=
        List.mem_map.mpr ⟨_, member, rfl⟩
      rwa [Panels.customData, Keyed.keys_map] at listed
    constructor
    · intro bound
      exact ((after.bound device customData).mp bound).2
    · intro wanted
      exact (after.bound device customData).mpr ⟨known wanted.1, wanted⟩

theorem isBound (inStep : InStep marker station) {panel : Panel}
    (found : station.board.find? device = some panel) :
    station.isBound device = Text.startsWith panel.customData marker := by
  have bound := inStep.bound device panel.customData
  rw [found] at bound
  rw [Bool.eq_iff_iff, Station.isBound, Registry.contains, Keyed.contains,
    Option.isSome_iff_exists]
  constructor
  · rintro ⟨binding, held⟩
    obtain ⟨shown, marked⟩ := (inStep.bound device binding.rawText).mp (congrArg _ held)
    rw [found] at shown
    have same : panel.customData = binding.rawText := Option.some.inj shown
    rwa [same]
  · intro marked
    obtain ⟨binding, held, _⟩ := Option.map_eq_some_iff.mp (bound.mpr ⟨rfl, marked⟩)
    exact ⟨binding, held⟩

theorem panelView_eq (inStep : InStep marker station) {panel : Panel}
    (found : station.board.find? device = some panel) :
    panelView station panel = markedView marker panel := by
  rw [panelView, markedView, inStep.labelled device panel found, inStep.isBound found]

theorem panelViews_eq (inStep : InStep marker station) :
    panelViews station = .array (station.board.listing.map (markedView marker)) := by
  rw [panelViews]
  congr 1
  apply List.map_congr_left
  intro panel member
  have listed := (List.mergeSort_perm _ _).mem_iff.mp member
  exact inStep.panelView_eq (inStep.orderly.mem_scan_iff.mp listed)

theorem length_outputs (sound : Sound marker station) {outputs : List (Text × Text)}
    (returned : (station.cycle snapshot []).result = .ok outputs) :
    outputs.length = (station.cycle snapshot []).station.board.panels.scan.countP fun panel =>
      Text.startsWith panel.customData marker := by
  have after := refreshed_of_returned sound.coherent sound.distinct returned
  have panels := panels_of_returned sound.coherent sound.distinct returned
  rw [after.length_outputs sound.distinct, sound.marked, panels, Panels.scan, Panels.withTexts,
    List.countP_map, List.countP_map]
  rfl

theorem refreshPanels_shown (sound : Sound marker station) (orderly : station.board.Orderly)
    (completed : (refreshPanels station snapshot).1.status ≠ 500) :
    InStep marker (refreshPanels station snapshot).2 ∧
      ∃ listed, Lists (refreshPanels station snapshot).2.board listed ∧
        (refreshPanels station snapshot).1 = .ofJson (.object
          [("bound".toList, .int (listed.countP fun panel =>
              Text.startsWith panel.customData marker)),
           ("panels".toList, .array (listed.map (markedView marker)))]) := by
  obtain ⟨outputs, result⟩ := cycle_of_refreshPanels completed
  have after := of_returned sound orderly result
  have lists := after.orderly.lists_listing
  refine ⟨by rwa [refreshPanels_snd], _, by rwa [refreshPanels_snd], ?_⟩
  simp only [refreshPanels, result]
  rw [length_outputs sound result, after.panelViews_eq, lists.each.countP_eq]

theorem putPanel_shown (inStep : InStep marker station)
    (completed : (putPanel station device customData).1.status ≠ 500) :
    InStep marker (putPanel station device customData).2 ∧
      ∃ text, (putPanel station device customData).2.board.find? device =
          some { device, customData, text } ∧
        (putPanel station device customData).1 =
          .ofJson (markedView marker { device, customData, text }) := by
  rcases putPanel_cases station device customData with
    ⟨disk, done⟩ | ⟨disk, numeral, _, done⟩ | ⟨disk, asked, observed, done⟩
  · rw [done] at completed
    exact absurd rfl completed
  · rw [done] at completed
    exact absurd rfl completed
  · have after := inStep.assigned disk observed
    have found := Keyed.find?_put_self device (station.board.panels.assigned device customData)
      station.board.panels
    rw [done]
    exact ⟨after, _, found, congrArg Response.ofJson (after.panelView_eq found)⟩

theorem deletePanel_inStep (inStep : InStep marker station)
    (completed : (deletePanel station device).1.status ≠ 500) :
    InStep marker (deletePanel station device).2 := by
  rcases deletePanel_cases station device with ⟨_, same⟩ | ⟨disk, done⟩ | ⟨disk, done⟩
  · rwa [same]
  · rw [done] at completed
    exact absurd rfl completed
  · rw [done]
    exact inStep.erased device disk

/-- One request that does not fail half way keeps bindings and panels in step, and its answer shows
the panels as their custom data says. -/
theorem serve (inStep : InStep marker station) (request : Service.Request) (endpoint : Endpoint)
    (completed : (Service.serve station request endpoint).1.status ≠ 500) :
    InStep marker (Service.serve station request endpoint).2 ∧
      Shows marker ⟨request, (Service.serve station request endpoint).1,
        (Service.serve station request endpoint).2⟩ endpoint := by
  cases endpoint with
  | render =>
      refine ⟨?_, trivial⟩
      simp only [Service.serve, answerWith]
      split <;> exact inStep
  | listPanels => exact ⟨inStep, _, inStep.orderly.lists_listing, congrArg Response.ofJson inStep.panelViews_eq⟩
  | putPanel device =>
      cases found : request.checked checkCustomData with
      | error refusal =>
          simp only [Service.serve, found, answerWith]
          exact ⟨inStep, by simp [Shows, found]⟩
      | ok customData =>
          simp only [Service.serve, found, answerWith] at completed ⊢
          obtain ⟨after, shown⟩ := inStep.putPanel_shown completed
          refine ⟨after, ?_⟩
          intro given checked
          obtain rfl : customData = given := Except.ok.inj (found.symm.trans checked)
          exact shown
  | deletePanel device => exact ⟨inStep.deletePanel_inStep completed, trivial⟩
  | refreshPanels =>
      cases found : request.checked checkSnapshot with
      | error refusal =>
          simp only [Service.serve, found, answerWith]
          exact ⟨inStep, by simp [Shows, found]⟩
      | ok snapshot =>
          simp only [Service.serve, found, answerWith] at completed ⊢
          obtain ⟨after, shown⟩ := refreshPanels_shown inStep.toSound inStep.orderly completed
          refine ⟨after, ?_⟩
          intro given checked
          obtain rfl : snapshot = given := Except.ok.inj (found.symm.trans checked)
          exact shown
  | health => exact ⟨inStep, trivial⟩
  | welcome => exact ⟨inStep, trivial⟩

theorem handle (inStep : InStep marker station) (request : Service.Request)
    (completed : (Service.handle station request).1.status ≠ 500) :
    InStep marker (Service.handle station request).2 ∧
      ∀ endpoint, Route.ofRequest request.method request.path = .served endpoint →
        Shows marker ⟨request, (Service.handle station request).1,
          (Service.handle station request).2⟩ endpoint := by
  by_cases route : ∃ endpoint, Route.ofRequest request.method request.path = .served endpoint
  · obtain ⟨endpoint, served⟩ := route
    rw [handle_of_served served] at completed ⊢
    obtain ⟨after, shown⟩ := inStep.serve request endpoint completed
    refine ⟨after, ?_⟩
    intro other alsoServed
    obtain rfl : endpoint = other := Route.served.inj (served.symm.trans alsoServed)
    exact shown
  · have unserved := not_exists.mp route
    refine ⟨?_, fun endpoint served => absurd served (unserved endpoint)⟩
    rwa [handle_of_not_served unserved]

theorem exchanges (inStep : InStep marker station) {requests : List Service.Request}
    (completed : ∀ exchange ∈ Service.exchanges station requests,
      exchange.response.status ≠ 500) :
    ∀ exchange ∈ Service.exchanges station requests, InStep marker exchange.after ∧
      ∀ endpoint,
        Route.ofRequest exchange.request.method exchange.request.path = .served endpoint →
          Shows marker exchange endpoint := by
  induction requests generalizing station with
  | nil => simp [Service.exchanges]
  | cons request rest ih =>
      rw [Service.exchanges, List.forall_mem_cons] at completed ⊢
      have first := inStep.handle request completed.1
      exact ⟨first, ih first.1 completed.2⟩

end Station.InStep

namespace Service

/-- As long as no request fails half way, exactly the panels whose custom data has the marker are
bound after every request to a service that starts without panels, each to its custom data; and all
answers show the panels so, a list every panel once and in order. -/
theorem bindings_in_step_with_panels (marker : Text) (path : Option Path) (disk : Disk)
    (requests : List Request)
    (completed : ∀ exchange ∈ exchanges ⟨{ path }, { marker }, disk⟩ requests,
      exchange.response.status ≠ 500) :
    ∀ exchange ∈ exchanges ⟨{ path }, { marker }, disk⟩ requests,
      exchange.after.InStep marker ∧
        ∀ endpoint,
          Route.ofRequest exchange.request.method exchange.request.path = .served endpoint →
            Shows marker exchange endpoint :=
  (Station.InStep.empty marker path disk).exchanges completed

/-- A panel with the marker and one that loses it again, a body that is refused, a panel that is
not there, and a panel that is removed. -/
theorem in_step_over_refusals_and_changes :
    let request (method path : String) (document : Json) : Request :=
      { method := method.toList, origin := [], path := path.toList, body := Json.write document }
    let store (path customData : String) : Request :=
      request "PUT" path (.object [("custom_data".toList, .string customData.toList)])
    let requests : List Request :=
      [store "/panels/b" "#\n<mass>", store "/panels/a" "#\n<volume>",
        request "PUT" "/panels/b" (.array []), request "DELETE" "/panels/c" .null,
        request "POST" "/panels/refresh" (.object [("total_mass_kg".toList, .int 2000)]),
        store "/panels/a" "off", request "GET" "/panels" .null,
        request "DELETE" "/panels/b" .null, request "POST" "/render" .null]
    let start : Station := ⟨{}, { marker := ['#'] }, {}⟩
    (∀ exchange ∈ exchanges start requests, exchange.response.status ≠ 500) ∧
      (exchanges start requests).map (·.response.status) =
        [200, 200, 422, 404, 200, 200, 200, 204, 422] ∧
      (exchanges start requests).map (·.after.registry.devices) =
        [[['b']], [['b'], ['a']], [['b'], ['a']], [['b'], ['a']], [['b'], ['a']], [['b']], [['b']],
          [], []] ∧
      ∀ exchange ∈ exchanges start requests, exchange.after.InStep ['#'] := by
  intro request store requests start
  have completed : ∀ exchange ∈ exchanges start requests, exchange.response.status ≠ 500 := by
    decide +kernel
  have kept := bindings_in_step_with_panels ['#'] none {} requests completed
  exact ⟨completed, by decide +kernel, by decide +kernel, fun exchange member =>
    (kept exchange member).1⟩

end Service
end Wallboard
