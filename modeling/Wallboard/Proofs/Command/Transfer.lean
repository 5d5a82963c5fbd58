import Wallboard.Proofs.Command.Agreement
import Wallboard.Proofs.Schema.Snapshot

namespace Wallboard

theorem Gas.symbol_injective : Function.Injective symbol := by
  intro first second same
  have read := @ofSymbol?_eq_some_iff first.symbol
  have alsoRead := (read.mpr same : ofSymbol? first.symbol = some second)
  rw [read.mpr rfl] at alsoRead
  exact Option.some.inj alsoRead

namespace Snapshot

variable {snapshot : Snapshot} {text : Text}

theorem isPlain_tankJson {tank : Tank}
    (natural : Integer.Natural tank.current ∧ Integer.Natural tank.capacity) :
    Json.IsPlain (tankJson tank) := by
  have names : ["current".toList, "capacity".toList].Nodup := by decide
  exact ⟨names, natural.1.2, natural.2.2, trivial⟩

theorem isPlain_positionJson {position : Position} (finite : position.isFinite = true) :
    Json.IsPlain (positionJson position) := by
  have names : [['x'], ['y'], ['z']].Nodup := by decide
  simp only [Position.isFinite, Bool.and_eq_true] at finite
  exact ⟨names, finite.1.1, finite.1.2, finite.2, trivial⟩

theorem Sound.isPlain (sound : snapshot.Sound) (finite : snapshot.position.isFinite = true) :
    Json.IsPlain snapshot.toJson := by
  have names : ["quantities".toList, "total_mass_kg".toList, "power_raw".toList,
      "position".toList, "gas".toList].Nodup := by decide
  have quantities : Json.IsPlain (.object
      (snapshot.quantities.map fun entry => (entry.1, .int entry.2))) :=
    ⟨sound.quantities.map _, Json.arePlain_map fun entry among => (sound.counts entry among).2⟩
  have gas : Json.IsPlain (.object
      (snapshot.gas.map fun entry => (entry.1.symbol, tankJson entry.2))) := by
    refine ⟨?_, Json.arePlain_map fun entry among => isPlain_tankJson (sound.tanks entry among)⟩
    have symbols := List.Nodup.map Gas.symbol_injective sound.gas
    rw [Keyed.Distinct, Keyed.keys, List.map_map]
    rwa [Keyed.keys, List.map_map] at symbols
  exact ⟨names, quantities, sound.mass.2, sound.power, isPlain_positionJson finite, gas, trivial⟩

end Snapshot

namespace Service

open Command

variable {request : Request} {station : Station} {snapshot : Snapshot}

theorem handle_refresh (asks : Asks .refreshPanels (Plan.refreshCall snapshot.toJson).document request)
    (sound : snapshot.Sound) : handle station request = refreshPanels station snapshot := by
  have accepted : checkSnapshot snapshot.toJson = .ok snapshot := Check.snapshot_toJson sound _
  rw [handle_of_served asks.served, serve, asks.checked accepted]
  rfl

theorem handle_render {markup : Text}
    (asks : Asks .render (Plan.renderCall markup snapshot.toJson).document request)
    (sound : snapshot.Sound) : handle station request = (render markup snapshot, station) := by
  have accepted : checkSnapshot snapshot.toJson = .ok snapshot := Check.snapshot_toJson sound _
  rw [handle_of_served asks.served, serve, asks.checked (checkRendering_renderCall markup accepted)]
  rfl

end Service

namespace Command

open Service

/-- A snapshot that is read from a text, with finite coordinates, has a document that the service
takes for the same snapshot, also after the document was written and read again. The file of the
text gives this document, and requests with it are answered from the snapshot: none is refused for
it. -/
theorem snapshot_reaches_service_unchanged {text : Text} {snapshot : Snapshot}
    (accepted : Snapshot.ofText text = .ok snapshot)
    (finite : snapshot.position.isFinite = true) :
    checkSnapshot snapshot.toJson = .ok snapshot ∧
      Json.read (Json.write snapshot.toJson) = .ok snapshot.toJson ∧
      (∀ disk file, Plan.readText disk file = .ok text →
        Plan.readSnapshot disk file = .ok snapshot.toJson) ∧
      ∀ (station : Station) (request : Request),
        (Route.ofRequest request.method request.path = .served .refreshPanels →
          request.body = Json.write (Plan.refreshCall snapshot.toJson).document →
            handle station request = refreshPanels station snapshot) ∧
        ∀ markup, Route.ofRequest request.method request.path = .served .render →
          request.body = Json.write (Plan.renderCall markup snapshot.toJson).document →
            handle station request = (render markup snapshot, station) := by
  have sound := Snapshot.sound_of_ofText accepted
  have plain := sound.isPlain finite
  refine ⟨Check.snapshot_toJson sound _, Json.read_write plain, ?_, ?_⟩
  · intro disk file content
    simp only [Plan.readSnapshot, content, accepted, bind, Except.bind, Except.mapError, finite,
      if_true]
  · intro station request
    constructor
    · intro served written
      exact handle_refresh (asks_of_plain plain served written) sound
    · intro markup served written
      have names : ["markup".toList, "snapshot".toList].Nodup := by decide
      exact handle_render (asks_of_plain ⟨names, trivial, plain, trivial⟩ served written) sound

/-- A text with members in any order, some of them twice or unknown, and with numbers as texts,
truth values and doubles, refreshes the panels from what it means. -/
theorem loose_snapshot_reaches_service :
    let text := ("\x7b\"power_raw\": true, \"note\": [null], \"gas\": \x7b\"O2\": " ++
      "\x7b\"capacity\": \"10\", \"current\": false\x7d\x7d, \"power_raw\": -7.0, " ++
      "\"total_mass_kg\": \" 12 \", \"quantities\": \x7b\"Ore\": 3, \"Ice\": 2.0, " ++
      "\"Ore\": \"4\"\x7d, \"position\": \x7b\"y\": -0.0, \"x\": \"1e2\"\x7d\x7d").toList
    let snapshot : Snapshot :=
      { quantities := [("Ore".toList, 4), ("Ice".toList, 2)], totalMassKg := 12, powerRaw := -7,
        position := { x := .ofInt 100, y := .ofMagnitude true 0 }, gas := [(.oxygen, ⟨0, 10⟩)] }
    let request : Request :=
      { method := "POST".toList, origin := [], path := "/panels/refresh".toList,
        body := Json.write (Plan.refreshCall snapshot.toJson).document }
    Snapshot.ofText text = .ok snapshot ∧ snapshot.position.isFinite = true ∧
      ∀ station, handle station request = refreshPanels station snapshot := by
  intro text snapshot request
  have accepted : Snapshot.ofText text = .ok snapshot := by decide +kernel
  have finite : snapshot.position.isFinite = true := by decide +kernel
  obtain ⟨_, _, _, answered⟩ := snapshot_reaches_service_unchanged accepted finite
  refine ⟨accepted, finite, ?_⟩
  intro station
  exact (answered station request).1 (by decide +kernel) rfl

end Command
end Wallboard
