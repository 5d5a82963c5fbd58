import Wallboard.Proofs.Command.Addressee
import Wallboard.Proofs.Command.Agreement

namespace Wallboard

open Command

namespace Service

variable {station : Station} {request : Request} {endpoint : Endpoint}
  {device customData path : Text}

theorem status_handle (station : Station) (request : Request) :
    (handle station request).1.status = (answer station request).1.status := by
  unfold handle
  dsimp only
  split <;> rfl

theorem served_of_success (success : (handle station request).1.status < 300) :
    ∃ endpoint, Route.ofRequest request.method request.path = .served endpoint := by
  rw [status_handle] at success
  cases route : Route.ofRequest request.method request.path with
  | served endpoint => exact ⟨endpoint, rfl⟩
  | wrongMethod =>
      simp only [answer, route] at success
      exact absurd success (by decide)
  | redirected path =>
      simp only [answer, route] at success
      exact absurd success (by decide)
  | unknown =>
      simp only [answer, route] at success
      exact absurd success (by decide)

theorem putPanel_of_served (served : Route.ofRequest "PUT".toList path = .served endpoint) :
    ∃ device, endpoint = .putPanel device ∧ deviceOf? path = some device := by
  have method := method_of_served served
  have others : ∀ entry ∈ fixedPaths, entry.2.method ≠ "PUT".toList := by decide +kernel
  have deleting : "DELETE".toList ≠ "PUT".toList := by decide +kernel
  rcases List.mem_append.mp (List.mem_of_find?_eq_some (found_of_served served)) with fixed | named
  · obtain ⟨entry, member, rfl⟩ := List.mem_map.mp fixed
    exact absurd method (others entry (List.mem_filter.mp member).1)
  · cases found : deviceOf? path with
    | none =>
        rw [found] at named
        cases named
    | some device =>
        rw [found] at named
        simp only [List.mem_cons, List.not_mem_nil, or_false] at named
        rcases named with rfl | rfl
        · exact ⟨device, rfl, rfl⟩
        · exact absurd method deleting

/-- One panel has the custom data, and every other one is what it was. -/
structure Stores (device customData : Text) (before after : Board) : Prop where
  own : ∃ text, after.find? device = some ⟨device, customData, text⟩
  others : ∀ other, other ≠ device → after.find? other = before.find? other

theorem stores_assigned (board : Board) (device customData : Text) :
    Stores device customData board (board.assigned device customData) := by
  constructor
  · exact ⟨_, Keyed.find?_put_self device _ board.panels⟩
  · intro other different
    simp only [Board.find?, Board.assigned, Panels.assign, Keyed.find?_put, different, if_false]

theorem stores_of_asks {stored : Text}
    (asks : Asks (.putPanel stored) (Plan.storeCall device customData).document request) :
    Stores stored customData station.board (handle station request).2.board := by
  rw [handle_of_served asks.served]
  simp only [serve, asks.checked (checkCustomData_storeCall device customData), answerWith,
    putPanel_board]
  exact stores_assigned station.board stored customData

end Service

namespace Command

open Service

section

variable {σ : Type} {server : Server σ} {state : σ} {settings : Settings} {disk : Disk}
  {config : Config} {base : Url} {call : Call} {display : Display} {device file : Text}

theorem isSuccess_of_ofReply {reply : Reply}
    (succeeded : (Outcome.ofReply display reply).exitCode = 0) : reply.isSuccess = true := by
  cases success : reply.isSuccess with
  | true => rfl
  | false =>
      simp only [Outcome.ofReply, success] at succeeded
      cases succeeded

theorem sent_of_exchange
    (succeeded : (exchange server state config base call display).1.exitCode = 0) :
    ∃ url reply, base.resolve call.target = .ok url ∧
      server state (.ofUrl call.method url (Json.write call.document)) =
        (.ok reply, (exchange server state config base call display).2) ∧
      reply.isSuccess = true := by
  unfold exchange at succeeded ⊢
  cases resolved : base.resolve call.target with
  | error fault =>
      rw [resolved] at succeeded
      cases succeeded
  | ok url =>
      rw [resolved] at succeeded
      dsimp only at succeeded ⊢
      cases sent : server state (.ofUrl call.method url (Json.write call.document)) with
      | mk answer after =>
          rw [sent] at succeeded
          cases answer with
          | error reason => cases succeeded
          | ok reply => exact ⟨url, reply, rfl, sent, isSuccess_of_ofReply succeeded⟩

theorem perform_setPanel
    (succeeded : (perform server state settings disk config base
      (.setPanel device file)).1.exitCode = 0) :
    ∃ text, Plan.readText disk file = .ok text ∧
      perform server state settings disk config base (.setPanel device file) =
        exchange server state config base (Plan.storeCall device text) .stored := by
  unfold perform at succeeded ⊢
  split at succeeded
  · rename_i present
    cases content : Plan.readText disk file with
    | error failure =>
        simp only [Plan.ofAction, content, bind, Except.bind] at succeeded
        cases failure with
        | reported message => cases succeeded
        | crashed crash => cases succeeded
    | ok text =>
        refine ⟨text, rfl, ?_⟩
        simp only [if_pos present, Plan.ofAction, content, bind, Except.bind]
  · cases succeeded

end

theorem stationServer_eq (station : Station) (request : Request) :
    stationServer station request =
      (.ok ⟨(handle station request).1.status, (handle station request).1.bodyText⟩,
        (handle station request).2) := rfl

variable {station : Station} {environment : Environment} {disk : Disk} {arguments : List Text}
  {invocation : Invocation} {config : Config} {base : Url} {device file text : Text}

theorem stores_of_exchange (absolute : base.isAbsolute = true) (root : base.target = ['/'])
    (succeeded : (exchange stationServer station config base (Plan.storeCall device text)
      .stored).1.exitCode = 0) :
    ∃ stored, addressee? device = some stored ∧
      Stores stored text station.board (exchange stationServer station config base
        (Plan.storeCall device text) .stored).2.board := by
  obtain ⟨url, reply, resolved, sent, success⟩ := sent_of_exchange succeeded
  obtain ⟨request, made⟩ : ∃ request, request = Request.ofUrl (Plan.storeCall device text).method
      url (Json.write (Plan.storeCall device text).document) := ⟨_, rfl⟩
  rw [← made, stationServer_eq] at sent
  obtain ⟨answer, left⟩ := Prod.mk.inj sent
  have accepted : (handle station request).1.status < 300 := by
    obtain rfl := Except.ok.inj answer
    simp only [Reply.isSuccess, Bool.and_eq_true, decide_eq_true_eq] at success
    exact success.2
  have method : request.method = "PUT".toList := by
    have upper : "PUT".toList.map Char.toUpper = "PUT".toList := by decide +kernel
    rw [made]
    exact upper
  obtain ⟨endpoint, served⟩ := served_of_success accepted
  obtain ⟨stored, rfl, named⟩ := putPanel_of_served (method ▸ served)
  have textual : Json.IsTextual (Plan.storeCall device text).document :=
    ⟨List.nodup_singleton _, trivial, trivial⟩
  have asks : Asks (.putPanel stored) (Plan.storeCall device text).document request :=
    asks_of_write textual served (by rw [made]; rfl)
  rw [made] at named
  refine ⟨stored, addressee?_of_resolve absolute root resolved named, ?_⟩
  rw [← left]
  exact stores_of_asks asks

/-- Whatever the board held before, a run that reports success has stored the text of the file for
one device and left every other panel alone. The device is the one that the service finds in the
path, which is the one that was asked for exactly if its name is safe in a path. -/
theorem set_panel_stores_for_the_addressee
    (read : Invocation.ofArguments arguments = .ok invocation)
    (asked : invocation.action = .ok (.setPanel device file))
    (opened : Url.ofBase
      (Config.load environment invocation.baseUrl invocation.timeout).baseUrl = .ok base)
    (absolute : base.isAbsolute = true) (root : base.target = ['/'])
    (succeeded : (run stationServer station environment disk arguments).1.exitCode = 0) :
    let after := (run stationServer station environment disk arguments).2
    ∃ text stored, Plan.readText disk file = .ok text ∧ addressee? device = some stored ∧
      Stores stored text station.board after.board ∧ (stored = device ↔ PathSafe device) := by
  have whole : run stationServer station environment disk arguments =
      let config := Config.load environment invocation.baseUrl invocation.timeout
      let done := perform stationServer station (Settings.ofEnvironment environment) disk config base
        (.setPanel device file)
      ({ done.1 with config := some config }, done.2) := by
    simp only [run, read, opened, asked]
  rw [whole] at succeeded ⊢
  dsimp only at succeeded ⊢
  obtain ⟨text, content, performed⟩ := perform_setPanel succeeded
  rw [performed] at succeeded ⊢
  obtain ⟨stored, address, stores⟩ := stores_of_exchange absolute root succeeded
  refine ⟨text, stored, content, address, stores, ?_⟩
  rw [← addressee?_eq_self_iff, address, Option.some.injEq]

/-- A name that needs to be encoded, and is almost an escape, next to another panel. -/
theorem set_panel_beside_another :
    let device := "50% \u00e9".toList
    let text := "#board\nhi".toList
    let arguments := ["set-panel".toList, device, ['f']]
    let disk : Disk := ⟨[([['f']], .file (fileContent text))]⟩
    let station : Station := ⟨{ panels := [(['5'], ⟨['5'], [], []⟩)] }, { marker := ['#'] }, {}⟩
    let done := run stationServer station [] disk arguments
    done.1.exitCode = 0 ∧ Stores device text station.board done.2.board := by
  intro device text arguments disk station done
  have succeeded : (run stationServer station [] disk arguments).1.exitCode = 0 := by
    decide +kernel
  have content : Plan.readText disk ['f'] = .ok text := by
    have found : disk.read (Path.ofText ['f']) = .ok (fileContent text) := rfl
    have plain : '\r' ∉ text := by decide +kernel
    simp only [Plan.readText, found, fileText?_fileContent, Text.unifyNewlines_of_no_return plain]
  have safe : PathSafe device := by
    constructor <;> decide +kernel
  have read : Invocation.ofArguments arguments =
      .ok ⟨none, none, .ok (.setPanel device ['f'])⟩ := rfl
  have opened : Url.ofBase (Config.load [] none none).baseUrl =
      .ok ⟨"http".toList, [], "localhost".toList, some 8000, [], none, none⟩ := by
    decide +kernel
  clear_value device text arguments disk station
  obtain ⟨found, stored, given, _, stores, same⟩ :=
    set_panel_stores_for_the_addressee read rfl opened (by decide +kernel) rfl succeeded
  rw [content] at given
  obtain rfl := Except.ok.inj given
  obtain rfl := same.mpr safe
  exact ⟨succeeded, stores⟩

/-- The text after a hash is taken for the fragment of the URL, so another panel gets the text. -/
theorem set_panel_misses_a_name_with_a_hash :
    let device := ['a', '#', 'b']
    let disk : Disk := ⟨[([['f']], .file (fileContent "hi".toList))]⟩
    let station : Station := ⟨{}, { marker := ['#'] }, {}⟩
    let done := run stationServer station [] disk ["set-panel".toList, device, ['f']]
    done.1.exitCode = 0 ∧ done.2.board.find? device = none ∧
      done.2.board.find? ['a'] = some ⟨['a'], "hi".toList, []⟩ := by
  decide +kernel

end Command
end Wallboard
