import Wallboard.Proofs.Registry.Steady
import Wallboard.Proofs.Service.Binding

namespace Wallboard.Service

/-- What an accepted request does to the panels. -/
inductive Deed
  | store (device customData : Text)
  | remove (device : Text)
  | refresh (snapshot : Snapshot)
  deriving DecidableEq

def Request.deed? (request : Request) : Option Deed :=
  match Route.ofRequest request.method request.path with
  | .served (.putPanel device) => (request.checked checkCustomData).toOption.map (.store device)
  | .served (.deletePanel device) => some (.remove device)
  | .served .refreshPanels => (request.checked checkSnapshot).toOption.map .refresh
  | _ => none

/-- The deeds of some requests, the latest first. -/
def history (requests : List Request) : List Deed := (requests.filterMap Request.deed?).reverse

def customData? (device : Text) : List Deed → Option Text
  | [] => none
  | .store other customData :: earlier =>
      if other = device then some customData else customData? device earlier
  | .remove other :: earlier => if other = device then none else customData? device earlier
  | .refresh _ :: earlier => customData? device earlier

/-- The latest refresh, since the panel of a device was made, that found its custom data with the
marker: that custom data, and the snapshot of the refresh. -/
def shown? (marker device : Text) : List Deed → Option (Text × Snapshot)
  | [] => none
  | .store _ _ :: earlier => shown? marker device earlier
  | .remove other :: earlier => if other = device then none else shown? marker device earlier
  | .refresh snapshot :: earlier =>
      match customData? device earlier with
      | none => shown? marker device earlier
      | some customData =>
          if Text.startsWith customData marker then some (customData, snapshot)
          else shown? marker device earlier

/-- The text that is left by what was shown last, empty if nothing was. -/
def Displays : Option (Text × Snapshot) → Text → Prop
  | none, text => text = []
  | some (customData, snapshot), text =>
      ∃ template, Template.compile (templateBody customData) = .ok template ∧
        template.Shows snapshot text

def Recalls (marker device : Text) (deeds : List Deed) : Option Panel → Prop
  | none => customData? device deeds = none
  | some panel =>
      panel.device = device ∧ customData? device deeds = some panel.customData ∧
        Displays (shown? marker device deeds) panel.text

def afterAll (station : Station) (requests : List Request) : Station :=
  requests.foldl (fun reached request => (handle reached request).2) station

/-- A deed that may give a panel another text: its removal, or a refresh that finds the marker. -/
def Deed.Touches (marker : Text) (panel : Panel) : Deed → Prop
  | store _ _ => False
  | remove device => device = panel.device
  | refresh _ => Text.startsWith panel.customData marker = true

variable {marker device : Text} {deeds : List Deed} {station : Station} {request : Request}

theorem Displays.unique {shown : Option (Text × Snapshot)} {first second : Text}
    (left : Displays shown first) (right : Displays shown second) : first = second := by
  rcases shown with _ | ⟨customData, snapshot⟩
  · exact left.trans right.symm
  · obtain ⟨template, compiled, shows⟩ := left
    obtain ⟨other, alsoCompiled, alsoShows⟩ := right
    rw [compiled] at alsoCompiled
    rw [shows.eq_evaluate, alsoShows.eq_evaluate, Except.ok.inj alsoCompiled]

theorem shown?_of_absent (absent : customData? device deeds = none) :
    shown? marker device deeds = none := by
  induction deeds with
  | nil => rfl
  | cons deed earlier ih =>
      cases deed with
      | store other customData =>
          by_cases same : other = device
          · simp [customData?, same] at absent
          · simp only [customData?, same, if_false] at absent
            exact ih absent
      | remove other =>
          by_cases same : other = device
          · simp [shown?, same]
          · simp only [customData?, same, if_false] at absent
            simp only [shown?, same, if_false]
            exact ih absent
      | refresh snapshot =>
          simp only [customData?] at absent
          simp only [shown?, absent]
          exact ih absent

theorem Recalls.shown {panel : Panel} (recalls : Recalls marker device deeds (some panel))
    (snapshot : Snapshot) :
    shown? marker device (.refresh snapshot :: deeds) =
      if Text.startsWith panel.customData marker then some (panel.customData, snapshot)
      else shown? marker device deeds := by
  simp only [shown?, recalls.2.1]

theorem Recalls.stored {panel? : Option Panel} (recalls : Recalls marker device deeds panel?)
    (customData : Text) :
    Recalls marker device (.store device customData :: deeds)
      (some { device, customData, text := (panel?.map (·.text)).getD [] }) := by
  refine ⟨rfl, by simp [customData?], ?_⟩
  cases panel? with
  | none =>
      have nothing : shown? marker device deeds = none := shown?_of_absent recalls
      rw [shown?, nothing]
      rfl
  | some panel => exact recalls.2.2

theorem Recalls.of_same {deed : Deed} {panel? : Option Panel}
    (recalls : Recalls marker device deeds panel?)
    (data : customData? device (deed :: deeds) = customData? device deeds)
    (shown : shown? marker device (deed :: deeds) = shown? marker device deeds) :
    Recalls marker device (deed :: deeds) panel? := by
  cases panel? with
  | none => exact data.trans recalls
  | some panel => exact ⟨recalls.1, data.trans recalls.2.1, by rw [shown]; exact recalls.2.2⟩

theorem Recalls.customData_eq {panel? : Option Panel}
    (recalls : Recalls marker device deeds panel?) :
    panel?.map (·.customData) = customData? device deeds := by
  cases panel? with
  | none => exact Eq.symm recalls
  | some panel => exact recalls.2.1.symm

theorem Recalls.unique {first second : Option Panel} (left : Recalls marker device deeds first)
    (right : Recalls marker device deeds second) : first = second := by
  have same := left.customData_eq.trans right.customData_eq.symm
  cases first with
  | none => exact (Option.map_eq_none_iff.mp same.symm).symm
  | some panel =>
      obtain ⟨other, rfl, data⟩ := Option.map_eq_some_iff.mp same.symm
      have device : panel.device = other.device := left.1.trans right.1.symm
      have text : panel.text = other.text := left.2.2.unique right.2.2
      have whole : panel = other := by
        cases panel
        cases other
        exact Panel.mk.injEq _ _ _ _ _ _ ▸ ⟨device, data.symm, text⟩
      rw [whole]

theorem Recalls.keeps {deed : Deed} {panel : Panel}
    (recalls : Recalls marker device deeds (some panel)) (spared : ¬ deed.Touches marker panel) :
    ∃ customData, Recalls marker device (deed :: deeds)
      (some { device, customData, text := panel.text }) := by
  obtain ⟨own, data, displays⟩ := id recalls
  cases deed with
  | store other customData =>
      by_cases same : other = device
      · exact ⟨customData, rfl, by simp [customData?, same], displays⟩
      · exact ⟨panel.customData, rfl, by simp [customData?, same, data], displays⟩
  | remove other =>
      have differ : other ≠ device := by
        intro same
        exact spared (same.trans own.symm)
      refine ⟨panel.customData, rfl, by simp [customData?, differ, data], ?_⟩
      simpa [shown?, differ] using displays
  | refresh snapshot =>
      refine ⟨panel.customData, rfl, data, ?_⟩
      have plain : ¬ Text.startsWith panel.customData marker = true := spared
      rw [recalls.shown snapshot, if_neg plain]
      exact displays

theorem Recalls.removed (marker device : Text) (deeds : List Deed) :
    Recalls marker device (.remove device :: deeds) none := by
  simp [Recalls, customData?]

end Wallboard.Service

namespace Wallboard.Station.Refreshed

variable {marker device : Text} {snapshot : Snapshot} {panels : Panels}
  {outputs : List (Text × Text)} {after : Station} {panel : Panel}

theorem output_of_marked
    (refreshed : Refreshed marker panels.customData snapshot panels outputs after)
    (found : Keyed.find? device panels = some panel)
    (marked : Text.startsWith panel.customData marker = true) :
    ∃ template text, Template.compile (templateBody panel.customData) = .ok template ∧
      template.Shows snapshot text ∧ Keyed.find? device outputs = some text := by
  have field : (device, panel.customData) ∈ panels.customData :=
    List.mem_map.mpr ⟨_, Keyed.mem_of_find? found, rfl⟩
  obtain ⟨template, text, compiled, shows, shown⟩ :=
    refreshed.shown device panel.customData field marked
  exact ⟨template, text, compiled, shows, refreshed.once.find?_eq_some_iff.mpr shown⟩

theorem output_of_plain
    (refreshed : Refreshed marker panels.customData snapshot panels outputs after)
    (distinct : Keyed.Distinct panels) (found : Keyed.find? device panels = some panel)
    (plain : Text.startsWith panel.customData marker = false) :
    Keyed.find? device outputs = none := by
  cases output : Keyed.find? device outputs with
  | none => rfl
  | some text =>
      have fields : Keyed.Distinct panels.customData := distinct.map _
      have field : (device, panel.customData) ∈ panels.customData :=
        List.mem_map.mpr ⟨_, Keyed.mem_of_find? found, rfl⟩
      obtain ⟨customData, listed, marked⟩ := refreshed.marked _ (Keyed.mem_of_find? output)
      rw [fields.value_unique listed field, plain] at marked
      cases marked

end Wallboard.Station.Refreshed

namespace Wallboard.Service

variable {marker device : Text} {deeds : List Deed} {station : Station} {request : Request}

def Remembers (marker : Text) (deeds : List Deed) (station : Station) : Prop :=
  ∀ device, Recalls marker device deeds (station.board.find? device)

namespace Remembers

theorem empty (marker : Text) (path : Option Path) (disk : Disk) :
    Remembers marker [] ⟨{ path }, { marker }, disk⟩ := by
  intro device
  rfl

theorem stored (remembers : Remembers marker deeds station) (device customData : Text) :
    Remembers marker (.store device customData :: deeds) (putPanel station device customData).2 := by
  intro other
  have found : (putPanel station device customData).2.board.find? other =
      if other = device then some (station.board.panels.assigned device customData)
      else station.board.find? other := by
    rw [putPanel_board]
    exact Keyed.find?_put device other _ station.board.panels
  rw [found]
  by_cases same : other = device
  · subst same
    rw [if_pos rfl]
    exact (remembers other).stored customData
  · rw [if_neg same]
    apply (remembers other).of_same
    · simp [customData?, Ne.symm same]
    · rfl

theorem removed (remembers : Remembers marker deeds station) (device : Text) :
    Remembers marker (.remove device :: deeds) (deletePanel station device).2 := by
  have erased : ∀ registry disk, Remembers marker (.remove device :: deeds)
      ⟨{ station.board with panels := Keyed.erase device station.board.panels }, registry, disk⟩ := by
    intro registry disk other
    rw [Board.find?, Keyed.find?_erase]
    by_cases same : other = device
    · subst same
      rw [if_pos rfl]
      exact Recalls.removed marker other deeds
    · rw [if_neg same]
      apply (remembers other).of_same
      · simp [customData?, Ne.symm same]
      · simp [shown?, Ne.symm same]
  rcases deletePanel_cases station device with ⟨unknown, unchanged⟩ | ⟨disk, done⟩ | ⟨disk, done⟩
  · rw [unchanged]
    have absent := Keyed.erase_of_not_mem unknown
    have kept := erased station.registry station.disk
    rwa [absent] at kept
  · rw [done]
    exact erased station.registry disk
  · rw [done]
    exact erased (station.registry.forget device) disk

theorem refreshed (remembers : Remembers marker deeds station) (sound : station.Sound marker)
    {snapshot : Snapshot} (completed : (refreshPanels station snapshot).1.status ≠ 500) :
    Remembers marker (.refresh snapshot :: deeds) (refreshPanels station snapshot).2 := by
  intro device
  obtain ⟨outputs, returned⟩ := cycle_of_refreshPanels completed
  have outcome := Station.refreshed_of_returned sound.coherent sound.distinct returned
  rw [sound.marked] at outcome
  have recalls := remembers device
  rw [refreshPanels_snd, Board.find?,
    Station.panels_of_returned sound.coherent sound.distinct returned, Panels.find?_withTexts]
  cases found : Keyed.find? device station.board.panels with
  | none =>
      rw [Board.find?, found] at recalls
      exact recalls
  | some panel =>
      rw [Board.find?, found] at recalls
      refine ⟨recalls.1, recalls.2.1, ?_⟩
      rw [recalls.shown snapshot]
      cases marked : Text.startsWith panel.customData marker with
      | true =>
          obtain ⟨template, text, compiled, shows, output⟩ :=
            outcome.output_of_marked found marked
          refine ⟨template, compiled, ?_⟩
          rw [output]
          exact shows
      | false =>
          rw [outcome.output_of_plain sound.distinct found marked]
          exact recalls.2.2

theorem handle (remembers : Remembers marker deeds station) (inStep : station.InStep marker)
    (completed : (Service.handle station request).1.status ≠ 500) :
    Remembers marker (request.deed?.toList ++ deeds) (Service.handle station request).2 := by
  by_cases route : ∃ endpoint, Route.ofRequest request.method request.path = .served endpoint
  · obtain ⟨endpoint, served⟩ := route
    rw [handle_of_served served] at completed ⊢
    -- A request that is refused, or that only asks, leaves the station and the history as they are.
    have idle (silent : request.deed? = none)
        (same : (serve station request endpoint).2 = station) :
        Remembers marker (request.deed?.toList ++ deeds) (serve station request endpoint).2 := by
      rw [silent, same]
      exact remembers
    cases endpoint with
    | render =>
        apply idle
        · simp [Request.deed?, served]
        · simp only [serve, answerWith]
          split <;> rfl
    | putPanel device =>
        cases found : request.checked checkCustomData with
        | error refusal =>
            apply idle
            · simp [Request.deed?, served, found, Except.toOption]
            · simp only [serve, found, answerWith]
        | ok customData =>
            have asked : request.deed? = some (.store device customData) := by
              simp [Request.deed?, served, found, Except.toOption]
            rw [asked]
            simp only [serve, found, answerWith]
            exact remembers.stored device customData
    | deletePanel device =>
        have asked : request.deed? = some (.remove device) := by simp [Request.deed?, served]
        rw [asked]
        exact remembers.removed device
    | refreshPanels =>
        cases found : request.checked checkSnapshot with
        | error refusal =>
            apply idle
            · simp [Request.deed?, served, found, Except.toOption]
            · simp only [serve, found, answerWith]
        | ok snapshot =>
            have asked : request.deed? = some (.refresh snapshot) := by
              simp [Request.deed?, served, found, Except.toOption]
            rw [asked]
            simp only [serve, found, answerWith] at completed ⊢
            exact remembers.refreshed inStep.toSound completed
    | listPanels => exact idle (by simp [Request.deed?, served]) rfl
    | health => exact idle (by simp [Request.deed?, served]) rfl
    | welcome => exact idle (by simp [Request.deed?, served]) rfl
  · have unserved := not_exists.mp route
    have silent : request.deed? = none := by
      unfold Request.deed?
      split
      case h_4 => rfl
      all_goals exact absurd ‹_› (unserved _)
    rw [handle_of_not_served unserved, silent]
    exact remembers

theorem afterAll (remembers : Remembers marker deeds station) (inStep : station.InStep marker)
    {requests : List Request}
    (completed : ∀ exchange ∈ exchanges station requests, exchange.response.status ≠ 500) :
    Remembers marker (history requests ++ deeds) (Service.afterAll station requests) ∧
      (Service.afterAll station requests).InStep marker := by
  induction requests generalizing station deeds with
  | nil => exact ⟨remembers, inStep⟩
  | cons request rest ih =>
      rw [exchanges, List.forall_mem_cons] at completed
      have first := remembers.handle inStep completed.1
      have kept := (inStep.handle request completed.1).1
      have deeds_cons : history (request :: rest) ++ deeds =
          history rest ++ (request.deed?.toList ++ deeds) := by
        rw [history, history, ← List.append_assoc]
        cases deed : request.deed? with
        | none => simp [deed]
        | some asked => simp [deed]
      rw [deeds_cons]
      exact ih first kept completed.2

end Remembers

/-- As long as no request fails half way, every panel of a service that starts without panels is as
the requests tell: its custom data was stored last, and its text is what the latest refresh that
found the marker showed. A further request changes the text only by removing the panel or by a
refresh that finds the marker. -/
theorem panels_as_the_requests_tell (marker : Text) (path : Option Path) (disk : Disk)
    (requests : List Request)
    (completed : ∀ exchange ∈ exchanges ⟨{ path }, { marker }, disk⟩ requests,
      exchange.response.status ≠ 500) :
    let after := afterAll ⟨{ path }, { marker }, disk⟩ requests
    ∀ device, Recalls marker device (history requests) (after.board.find? device) ∧
      ∀ panel request, after.board.find? device = some panel →
        (handle after request).1.status ≠ 500 →
        (∀ deed, request.deed? = some deed → ¬ deed.Touches marker panel) →
          ∃ customData, (handle after request).2.board.find? device =
            some { device, customData, text := panel.text } := by
  intro after device
  obtain ⟨remembers, inStep⟩ := (Remembers.empty marker path disk).afterAll
    (Station.InStep.empty marker path disk) completed
  rw [List.append_nil] at remembers
  refine ⟨remembers device, ?_⟩
  intro panel request found succeeded spared
  have recalls := remembers device
  have later := remembers.handle inStep succeeded device
  rw [found] at recalls
  cases asked : request.deed? with
  | none =>
      rw [asked] at later
      have same := recalls.unique later
      rw [← same, ← recalls.1]
      exact ⟨panel.customData, rfl⟩
  | some deed =>
      rw [asked] at later
      obtain ⟨customData, kept⟩ := recalls.keeps (spared deed asked)
      exact ⟨customData, later.unique kept⟩

/-- A panel that loses the marker and keeps its text, also when it gets the marker back, beside one
that is removed and made again. -/
theorem history_over_unbinding_and_removal :
    let request (method path : String) (document : Json) : Request :=
      { method := method.toList, origin := [], path := path.toList, body := Json.write document }
    let store (path customData : String) : Request :=
      request "PUT" path (.object [("custom_data".toList, .string customData.toList)])
    let refresh (mass : Int) : Request :=
      request "POST" "/panels/refresh" (.object [("total_mass_kg".toList, .int mass)])
    let requests : List Request :=
      [store "/panels/a" "#\n<mass>", store "/panels/b" "#\n<mass>", refresh 2000,
        store "/panels/a" "off", refresh 5000, request "DELETE" "/panels/b" .null,
        store "/panels/b" "#\nup"]
    let start : Station := ⟨{}, { marker := ['#'] }, {}⟩
    let after := afterAll start requests
    let again := store "/panels/a" "#\nhi"
    (∀ exchange ∈ exchanges start requests, exchange.response.status ≠ 500) ∧
      shown? ['#'] ['a'] (history requests) = some ("#\n<mass>".toList, { totalMassKg := 2000 }) ∧
      shown? ['#'] ['b'] (history requests) = none ∧
      after.board.find? ['a'] = some ⟨['a'], "off".toList, ['2']⟩ ∧
      after.board.find? ['b'] = some ⟨['b'], "#\nup".toList, []⟩ ∧
      Recalls ['#'] ['a'] (history requests) (after.board.find? ['a']) ∧
      (handle after again).1.status ≠ 500 ∧
      ∃ customData,
        (handle after again).2.board.find? ['a'] = some ⟨['a'], customData, ['2']⟩ := by
  intro request store refresh requests start after again
  have completed : ∀ exchange ∈ exchanges start requests, exchange.response.status ≠ 500 := by
    decide +kernel
  have shownFirst : shown? ['#'] ['a'] (history requests) =
      some ("#\n<mass>".toList, { totalMassKg := 2000 }) := by decide +kernel
  have shownSecond : shown? ['#'] ['b'] (history requests) = none := by decide +kernel
  have first : after.board.find? ['a'] = some ⟨['a'], "off".toList, ['2']⟩ := by decide +kernel
  have second : after.board.find? ['b'] = some ⟨['b'], "#\nup".toList, []⟩ := by decide +kernel
  have succeeded : (handle after again).1.status ≠ 500 := by decide +kernel
  have asked : again.deed? = some (.store ['a'] "#\nhi".toList) := by decide +kernel
  have told := panels_as_the_requests_tell ['#'] none {} requests completed ['a']
  have same : after = afterAll ⟨{ path := none }, { marker := ['#'] }, {}⟩ requests := rfl
  rw [← same] at told
  -- From here on the station is only known by these facts, so that nothing evaluates it again.
  clear same
  clear_value after again
  have spared : ∀ deed, again.deed? = some deed →
      ¬ deed.Touches ['#'] ⟨['a'], "off".toList, ['2']⟩ := by
    intro deed given touches
    rw [asked] at given
    obtain rfl := Option.some.inj given
    exact touches
  have kept := told.2 ⟨['a'], "off".toList, ['2']⟩ again first succeeded spared
  exact ⟨completed, shownFirst, shownSecond, first, second, told.1, succeeded, kept⟩

end Wallboard.Service
