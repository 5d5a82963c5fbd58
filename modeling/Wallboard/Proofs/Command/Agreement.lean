import Wallboard.Command.Run
import Wallboard.Proofs.Board.Loading
import Wallboard.Proofs.Board.Stored
import Wallboard.Proofs.Number.Decimal
import Wallboard.Proofs.Service.Step

/-!
Three ways to see what a markup file will show: the preview of its template, the check of the file,
and the panel that the file is stored in. Whatever the station held before, they agree.
-/
namespace Wallboard

open Command

theorem Text.plain_eq_self {text : Text} (printable : '\x1b' ∉ text) : plain text = text := by
  induction text with
  | nil => simp [plain]
  | cons char rest ih =>
      rw [List.mem_cons, not_or] at printable
      rw [plain, ih printable.2]
      intro after escape
      exact absurd escape.symm printable.1

namespace Service

/-- The stations that a service with a marker can be in: opened on any files, and after any
requests, those that failed among them, while others may change the files. -/
inductive Reached (marker : Text) : Station → Prop
  | opened {disk kept : Disk} {settings : Settings} {given : Option Text} {station : Station}
      (opening : Station.openAt disk settings given = (kept, .ok station))
      (same : station.registry.marker = marker) : Reached marker station
  | handled {station : Station} (reached : Reached marker station) (request : Request) :
      Reached marker (handle station request).2
  | disturbed {station : Station} (reached : Reached marker station) (disk : Disk) :
      Reached marker { station with disk }

structure Asks (endpoint : Endpoint) (document : Json) (request : Request) : Prop where
  served : Route.ofRequest request.method request.path = .served endpoint
  carries : request.document = .ok document

theorem asks_of_plain {endpoint : Endpoint} {members : List (Text × Json)} {request : Request}
    (plain : Json.IsPlain (.object members))
    (served : Route.ofRequest request.method request.path = .served endpoint)
    (written : request.body = Json.write (.object members)) :
    Asks endpoint (.object members) request := by
  refine ⟨served, ?_⟩
  obtain ⟨head, tail, shape, _⟩ := Json.Writer.value_head plain 0
  have filled : (Json.write (.object members)).isEmpty = false := by
    rw [Json.write, shape, List.isEmpty_cons]
  simp only [Request.document, written, filled, Json.sentText?_write, Json.read_write plain,
    Bool.false_eq_true, if_false]

theorem asks_of_write {endpoint : Endpoint} {members : List (Text × Json)} {request : Request}
    (textual : Json.IsTextual (.object members))
    (served : Route.ofRequest request.method request.path = .served endpoint)
    (written : request.body = Json.write (.object members)) :
    Asks endpoint (.object members) request := asks_of_plain textual.isPlain served written

variable {marker : Text} {station : Station}

theorem Reached.sound (reached : Reached marker station) : Station.Sound marker station := by
  induction reached with
  | opened opening same =>
      rename_i disk kept settings given station
      unfold Station.openAt at opening
      cases found : Board.openAt disk (settings.boardPath.map Path.ofText) with
      | mk after outcome =>
          rw [found] at opening
          cases outcome with
          | error fault => cases (Prod.mk.inj opening).2
          | ok board =>
              obtain rfl := Except.ok.inj (Prod.mk.inj opening).2
              subst same
              exact ⟨Registry.Coherent.empty Template.compile _, rfl, Board.distinct_openAt found⟩
  | handled earlier request ih => exact ih.handle request
  | disturbed earlier disk ih => exact ⟨ih.coherent, ih.marked, ih.distinct⟩

theorem Asks.checked {endpoint : Endpoint} {document : Json} {request : Request} {α : Type}
    {check : Json → Check α} {value : α} (asks : Asks endpoint document request)
    (accepted : check document = .ok value) : request.checked check = .ok value := by
  have found : request.checked check =
      (Check.under (.member "body".toList) (check document)).mapError .ofIssues := by
    rw [Request.checked, asks.carries]
    rfl
  rw [found, accepted]
  rfl

theorem checkRendering_renderCall {payload : Json} {snapshot : Snapshot} (markup : Text)
    (accepted : checkSnapshot payload = .ok snapshot) :
    checkRendering (Plan.renderCall markup payload).document = .ok (markup, snapshot) := by
  have fields : checkRendering (Plan.renderCall markup payload).document =
      Check.both (.ok markup)
        (Check.under (.member "snapshot".toList) (checkSnapshot payload)) := rfl
  rw [fields, accepted]
  rfl

theorem checkCustomData_storeCall (device text : Text) :
    checkCustomData (Plan.storeCall device text).document = .ok text := rfl

/-- The answer to a request to render: whether the template is valid, and the text in its place. -/
structure Previewed (answer : Response) (valid : Bool) (text : Text) : Prop where
  status : answer.status = 200
  members : ∃ members, answer.content = .json (.object members) ∧
    Json.member? "valid".toList members = some (.bool valid) ∧
      Json.member? "text".toList members = some (.string text)

theorem previewed {preview : Request} {payload : Json} {snapshot : Snapshot} {body : Text}
    {template : Template} (accepted : checkSnapshot payload = .ok snapshot)
    (asks : Asks .render (Plan.renderCall body payload).document preview)
    (compiled : Template.compile body = .ok template) :
    ∃ valid text, Previewed (handle station preview).1 valid text ∧
      template.Shows snapshot text ∧ (valid = true ↔ ∃ elements, template = .valid elements) := by
  have answer : (handle station preview).1 = render body snapshot := by
    rw [handle_of_served asks.served]
    simp only [serve, asks.checked (checkRendering_renderCall body accepted), answerWith]
  rw [answer, render, compiled]
  cases template with
  | valid elements =>
      exact ⟨true, _, ⟨rfl, _, rfl, rfl, rfl⟩, .valid elements snapshot, by simp⟩
  | invalid error =>
      exact ⟨false, _, ⟨rfl, _, rfl, rfl, rfl⟩, .invalid error snapshot, by simp⟩

theorem display_eq (sound : Station.Sound marker station) {store refresh : Request}
    {payload : Json} {snapshot : Snapshot} {device text : Text}
    (marked : Text.startsWith text marker = true)
    (accepted : checkSnapshot payload = .ok snapshot)
    (stores : Asks (.putPanel device) (Plan.storeCall device text).document store)
    (refreshes : Asks .refreshPanels (Plan.refreshCall payload).document refresh)
    (refreshed : (handle (handle station store).2 refresh).1.status ≠ 500) :
    ∃ template shown, Template.compile (templateBody text) = .ok template ∧
      template.Shows snapshot shown ∧
      let after := (handle (handle station store).2 refresh).2
      after.board.find? device = some ⟨device, text, shown⟩ ∧
        after.registry.find? device = some ⟨device, text, template⟩ := by
  rw [handle_of_served stores.served] at refreshed ⊢
  simp only [serve, stores.checked (checkCustomData_storeCall device text), answerWith]
    at refreshed ⊢
  rw [handle_of_served refreshes.served] at refreshed ⊢
  simp only [serve, refreshes.checked accepted, answerWith] at refreshed ⊢
  have stored := sound.putPanel device text
  have panel : (putPanel station device text).2.board.find? device =
      some (station.board.panels.assigned device text) := by
    rw [putPanel_board]
    exact Keyed.find?_put_self device _ station.board.panels
  generalize (putPanel station device text).2 = held at *
  obtain ⟨outputs, returned⟩ := cycle_of_refreshPanels refreshed
  have refreshed := Station.refreshed_of_returned stored.coherent stored.distinct returned
  have coherent := (Station.cycle_preserves stored.coherent snapshot []).1
  have field : (device, text) ∈ held.board.panels.customData :=
    List.mem_map.mpr ⟨_, Keyed.mem_of_find? panel, rfl⟩
  rw [stored.marked] at refreshed
  obtain ⟨template, shown, compiled, shows, output⟩ := refreshed.shown device text field marked
  have panels := Station.panels_of_returned stored.coherent stored.distinct returned
  refine ⟨template, shown, compiled, shows, ?_, ?_⟩
  · rw [refreshPanels_snd, Board.find?, panels, Panels.find?_withTexts,
      refreshed.once.find?_eq_some_iff.mpr output]
    simp only [Board.find?] at panel
    rw [panel]
    rfl
  · have bound := (refreshed.bound device text).mpr
      ⟨List.mem_map.mpr ⟨_, Keyed.mem_of_find? panel, rfl⟩, field, marked⟩
    obtain ⟨⟨own, rawText, kept⟩, found, rfl⟩ := Option.map_eq_some_iff.mp bound
    have current := Registry.reading_eq_some_iff.mp (coherent.current device _ found)
    obtain rfl : own = device := current.2.1
    have same : kept = template := Except.ok.inj (current.2.2.2.symm.trans compiled)
    rw [refreshPanels_snd, ← same]
    exact found

end Service

namespace Command

open Service

variable {σ : Type} {marker text file : Text} {settings : Settings} {disk : Disk}

/-- The program and the registry cut the same body off a marked text. -/
theorem bodyOf_of_marked (marked : Text.startsWith text marker = true) :
    Plan.bodyOf marker text = templateBody text := by
  rw [Plan.bodyOf, if_pos marked, templateBody]
  rcases Text.cut '\n' text with ⟨first, _ | body⟩ <;> rfl

def countLine (elements : List Element) : Text :=
  "Template OK (".toList ++ Integer.digits elements.length ++ " elements).\n".toList

theorem line_count (elements : List Element) :
    Preview.line ("Template OK (".toList ++ Integer.digits elements.length ++
      " elements).".toList) = countLine elements := by
  have plain : '\x1b' ∉ "Template OK (".toList ++ Integer.digits elements.length ++
      " elements).".toList := by
    intro member
    rcases List.mem_append.mp member with member | member
    · rcases List.mem_append.mp member with member | member
      · exact absurd member (by decide +kernel)
      · exact absurd (Integer.isDigit_of_mem_digits member) (by decide)
    · exact absurd member (by decide +kernel)
  have ending : " elements).".toList ++ ['\n'] = " elements).\n".toList := by decide +kernel
  unfold Preview.line countLine
  rw [Text.plain_eq_self plain, List.append_assoc, ending]

theorem check_eq {template : Template} (server : Server σ) (state : σ) (config : Config)
    (base : Url) (present : namesFile disk file = true)
    (content : Plan.readText disk file = .ok text)
    (marked : Text.startsWith text settings.marker = true)
    (compiled : Template.compile (templateBody text) = .ok template) :
    match template with
    | .valid elements =>
        (perform server state settings disk config base (.check file)).1.exitCode = 0 ∧
          (perform server state settings disk config base (.check file)).1.output =
            countLine elements
    | .invalid _ =>
        (perform server state settings disk config base (.check file)).1.exitCode = 1 := by
  have files : (Action.check file).files.all (namesFile disk) = true := by
    simp [Action.files, present]
  have plan : Plan.ofAction settings disk (.check file) = Plan.check (templateBody text) := by
    rw [Plan.ofAction, content, ← bodyOf_of_marked marked]
    rfl
  cases template with
  | valid elements =>
      simp only [perform, files, plan, Plan.check, compiled, line_count]
      exact ⟨rfl, rfl⟩
  | invalid error =>
      simp only [perform, files, plan, Plan.check, compiled]
      rfl

/-- Unless showing it fails, a marked text shows on its panel what the preview of its body shows,
whatever the station held before; and the check of a file with that text succeeds exactly if the
preview is of a valid template, which is then the one that is bound, with its number of elements. -/
theorem preview_check_and_display_agree {station : Station} (reached : Reached marker station)
    (marked : Text.startsWith text marker = true) {payload : Json} {snapshot : Snapshot}
    (accepted : checkSnapshot payload = .ok snapshot) {device : Text}
    {preview store refresh : Request}
    (previews : Asks .render
      (Plan.renderCall (Plan.bodyOf marker text) payload).document preview)
    (stores : Asks (.putPanel device) (Plan.storeCall device text).document store)
    (refreshes : Asks .refreshPanels (Plan.refreshCall payload).document refresh)
    (completed : (handle (handle station store).2 refresh).1.status ≠ 500)
    (server : Server σ) (state : σ) (config : Config) (base : Url)
    (same : settings.marker = marker) (present : namesFile disk file = true)
    (content : Plan.readText disk file = .ok text) :
    let after := (handle (handle station store).2 refresh).2
    let checked := (perform server state settings disk config base (.check file)).1
    ∃ valid panel binding, Previewed (handle station preview).1 valid panel.text ∧
      after.board.find? device = some panel ∧ after.registry.find? device = some binding ∧
      (valid = true ↔ ∃ elements, binding.template = .valid elements) ∧
      (checked.exitCode = 0 ↔ valid = true) ∧
      ∀ elements, binding.template = .valid elements → checked.output = countLine elements := by
  obtain ⟨template, shown, compiled, shows, panel, bound⟩ :=
    display_eq reached.sound marked accepted stores refreshes completed
  rw [bodyOf_of_marked marked] at previews
  obtain ⟨valid, text, previewed, alsoShows, sound⟩ :=
    @previewed station _ _ _ _ _ accepted previews compiled
  obtain rfl : text = shown := alsoShows.eq_evaluate.trans shows.eq_evaluate.symm
  subst same
  have checked := check_eq server state config base present content marked compiled
  refine ⟨valid, _, _, previewed, panel, bound, sound, ?_, ?_⟩
  · rw [sound]
    cases template with
    | valid elements => simp [checked.1]
    | invalid fault => simp [checked]
  · rintro elements rfl
    exact checked.2

/-- A file that is stored over another template of the same device. -/
theorem agreement_over_an_older_binding :
    let text := "#board\nLoad: <mass>".toList
    let settings : Settings := { marker := ['#'], boardPath := none }
    let start : Station := ⟨{}, { marker := ['#'] }, {}⟩
    let request (method path : String) (document : Json) : Request :=
      { method := method.toList, origin := [], path := path.toList, body := Json.write document }
    let older := request "PUT" "/panels/a" (Plan.storeCall ['a'] "#\n<volume>".toList).document
    let station := (handle start older).2
    let preview := request "POST" "/render"
      (Plan.renderCall (Plan.bodyOf ['#'] text) (.object [])).document
    let store := request "PUT" "/panels/a" (Plan.storeCall ['a'] text).document
    let refresh := request "POST" "/panels/refresh" (Plan.refreshCall (.object [])).document
    let after := (handle (handle station store).2 refresh).2
    let disk : Disk := ⟨[([['f']], .file (fileContent text))]⟩
    let base : Url := ⟨[], [], [], none, [], none, none⟩
    let checked := (perform stationServer station settings disk (Config.load [] none none) base
      (.check ['f'])).1
    ∃ panel, Previewed (handle station preview).1 true panel.text ∧
      after.board.find? ['a'] = some panel ∧ checked.exitCode = 0 := by
  intro text settings start request older station preview store refresh after disk base checked
  have opening : Station.openAt {} settings none = ({}, .ok start) := rfl
  have reached : Reached ['#'] station := .handled (.opened opening rfl) older
  have accepted : checkSnapshot (.object []) = .ok {} := rfl
  have custom : Json.IsTextual (Plan.storeCall ['a'] text).document :=
    ⟨List.nodup_singleton _, trivial, trivial⟩
  have rendering : Json.IsTextual
      (Plan.renderCall (Plan.bodyOf ['#'] text) (.object [])).document := by
    have names : ["markup".toList, "snapshot".toList].Nodup := by decide
    exact ⟨names, trivial, ⟨.nil, trivial⟩, trivial⟩
  have previews : Asks .render
      (Plan.renderCall (Plan.bodyOf ['#'] text) (.object [])).document preview :=
    asks_of_write rendering (by decide +kernel) rfl
  have stores : Asks (.putPanel ['a']) (Plan.storeCall ['a'] text).document store :=
    asks_of_write custom (by decide +kernel) rfl
  have refreshes : Asks .refreshPanels (Plan.refreshCall (.object [])).document refresh :=
    asks_of_write ⟨.nil, trivial⟩ (by decide +kernel) rfl
  have completed : (handle (handle station store).2 refresh).1.status ≠ 500 := by decide +kernel
  have content : Plan.readText disk ['f'] = .ok text := by
    have found : disk.read (Path.ofText ['f']) = .ok (fileContent text) := rfl
    have plain : '\r' ∉ text := by decide +kernel
    simp only [Plan.readText, found, fileText?_fileContent, Text.unifyNewlines_of_no_return plain]
  have same : settings.marker = ['#'] := rfl
  have present : namesFile disk ['f'] = true := rfl
  obtain ⟨valid, panel, _, answer, found, _, _, succeeds, _⟩ :=
    preview_check_and_display_agree reached (by decide +kernel) accepted previews stores refreshes
      completed stationServer station (Config.load [] none none) base same present content
  have checks : checked.exitCode = 0 := by
    decide +kernel
  rw [succeeds.mp checks] at answer
  exact ⟨panel, answer, found, checks⟩

end Command
end Wallboard
