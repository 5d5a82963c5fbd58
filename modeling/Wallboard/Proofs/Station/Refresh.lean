import Wallboard.Proofs.Station.Cycle

namespace Wallboard.Station

open Registry

/-- The outcome of a cycle over the reported fields: one text for each field with the marker,
written to its panel if there is one, and a binding for each of these panels. -/
structure Refreshed (marker : Text) (fields : List (Text × Text)) (snapshot : Snapshot)
    (panels : Panels) (outputs : List (Text × Text)) (after : Station) : Prop where
  once : Keyed.Distinct outputs
  marked : ∀ entry ∈ outputs, ∃ customData, (entry.1, customData) ∈ fields ∧
    Text.startsWith customData marker = true
  shown : ∀ device customData, (device, customData) ∈ fields →
    Text.startsWith customData marker = true →
      ∃ template text, Template.compile (templateBody customData) = .ok template ∧
        template.Shows snapshot text ∧ (device, text) ∈ outputs
  written : after.board = { panels := panels.withTexts outputs }
  boundOnce : Keyed.Distinct after.registry.bindings
  bound : ∀ device customData,
    (after.registry.find? device).map (·.rawText) = some customData ↔
      device ∈ Keyed.keys panels ∧ (device, customData) ∈ fields ∧
        Text.startsWith customData marker = true

theorem find?_texts (registry : Registry) (snapshot : Snapshot) (device : Text) :
    Keyed.find? device (registry.texts snapshot) =
      (registry.find? device).map fun binding => (binding.template.evaluate snapshot).text :=
  Keyed.find?_map _ device registry.bindings

theorem find?_withoutVanished {registry : Registry} {panels : Panels}
    {texts : List (Text × Text)} {device : Text}
    (listed : device ∉ Keyed.keys texts → registry.find? device = none) :
    (registry.withoutVanished panels texts).find? device =
      if device ∈ Keyed.keys panels then registry.find? device else none := by
  have kept := Keyed.find?_filter
    (fun known => Keyed.contains known panels || !Keyed.contains known texts) device
    registry.bindings
  rw [withoutVanished, Registry.find?, kept]
  by_cases known : device ∈ Keyed.keys panels
  · simp [Keyed.contains_iff.mpr known, known, Registry.find?]
  · have foreign := Keyed.contains_eq_false_iff.mpr known
    by_cases member : device ∈ Keyed.keys texts
    · simp [known, foreign, Keyed.contains_iff.mpr member]
    · simpa [known, foreign, Keyed.contains_eq_false_iff.mpr member, Registry.find?]
        using listed member

variable {marker : Text} {registry : Registry} {panels : Panels} {disk : Disk}
  {snapshot : Snapshot} {fields reported : List (Text × Text)}

theorem refreshed_of_synced (synced : Synced Template.compile marker fields registry) :
    Refreshed marker fields snapshot panels (registry.texts snapshot)
      ⟨{ panels := panels.withTexts (registry.texts snapshot) },
        registry.withoutVanished panels (registry.texts snapshot), disk⟩ := by
  have single : Keyed.Distinct (registry.texts snapshot) := synced.distinct.map _
  constructor
  case once => exact single
  case marked =>
    intro entry member
    have output := single.find?_eq_some_iff.mpr member
    rw [find?_texts, Option.map_eq_some_iff] at output
    obtain ⟨binding, found, _⟩ := output
    exact ⟨binding.rawText, synced.only entry.1 binding found⟩
  case shown =>
    intro device customData member wanted
    obtain ⟨template, compiled, found⟩ := synced.asked device customData member wanted
    refine ⟨template, _, compiled, template.shows_evaluate snapshot, Keyed.mem_of_find? ?_⟩
    rw [find?_texts, found]
    rfl
  case written => rfl
  case boundOnce =>
    exact synced.distinct.filter fun device =>
      Keyed.contains device panels || !Keyed.contains device (registry.texts snapshot)
  case bound =>
    intro device customData
    have listed : device ∉ Keyed.keys (registry.texts snapshot) → registry.find? device = none := by
      intro absent
      rw [Registry.texts, Keyed.keys_map] at absent
      exact Keyed.find?_eq_none_iff.mpr absent
    rw [find?_withoutVanished listed]
    by_cases known : device ∈ Keyed.keys panels
    · rw [if_pos known, Option.map_eq_some_iff]
      constructor
      · rintro ⟨binding, found, rfl⟩
        exact ⟨known, synced.only device binding found⟩
      · rintro ⟨_, member, wanted⟩
        obtain ⟨template, _, found⟩ := synced.asked device customData member wanted
        exact ⟨⟨device, customData, template⟩, found, rfl⟩
    · simp [known]

theorem cycle_of_synced (coherent : Coherent Template.compile registry)
    (distinct : Keyed.Distinct panels)
    (synced : (registry.sync Template.compile
      (Keyed.putAll panels.customData reported)).result = .ok ()) :
    ∃ outputs, (cycle ⟨{ panels }, registry, disk⟩ snapshot reported).result = .ok outputs ∧
      Refreshed registry.marker (Keyed.putAll panels.customData reported) snapshot panels outputs
        (cycle ⟨{ panels }, registry, disk⟩ snapshot reported).station := by
  have single : Keyed.Distinct (Keyed.putAll panels.customData reported) :=
    Keyed.Distinct.putAll (distinct.map _) reported
  have settled := sync_synced coherent single synced
  obtain ⟨returned, reached⟩ :=
    @cycle_of_ok panels registry disk snapshot reported distinct _ synced rfl settled.distinct
  refine ⟨_, returned, ?_⟩
  rw [reached]
  exact refreshed_of_synced settled

/-- A cycle that returns refreshes the panels, whatever operations the registry went through. -/
theorem refreshed_of_cycle_returns (marker : Text) (operations : List Operation)
    {panels : Panels} (distinct : Keyed.Distinct panels) (disk : Disk) (snapshot : Snapshot)
    (reported : List (Text × Text)) {outputs : List (Text × Text)}
    (returned : (cycle ⟨{ panels }, run Template.compile { marker } operations, disk⟩ snapshot
      reported).result = .ok outputs) :
    Refreshed marker (Keyed.putAll panels.customData reported) snapshot panels outputs
      (cycle ⟨{ panels }, run Template.compile { marker } operations, disk⟩ snapshot
        reported).station := by
  obtain ⟨coherent, sameMarker⟩ :=
    run_preserves (Coherent.empty Template.compile marker) operations
  cases synced : ((run Template.compile { marker } operations).sync Template.compile
      (Keyed.putAll panels.customData reported)).result with
  | error cause =>
      rw [(cycle_of_error synced).1] at returned
      cases returned
  | ok done =>
      obtain ⟨shown, found, refreshed⟩ :=
        @cycle_of_synced _ panels disk snapshot reported coherent distinct synced
      rw [found] at returned
      rw [sameMarker] at refreshed
      rwa [← Except.ok.inj returned]

/-- One panel with an outdated binding, one without the marker, one that is gone and one that is
only reported. -/
theorem refreshed_over_stale_bindings :
    let operations : List Operation :=
      [.sync [(['a'], ['#', '\n', 'o']), (['c'], ['#', '\n', 'x'])]]
    let panels : Panels :=
      [(['a'], { device := ['a'], customData := ['#', '\n', 'h', 'i'] }),
        (['b'], { device := ['b'], customData := ['n'], text := ['t'] })]
    let station : Station := ⟨{ panels }, run Template.compile { marker := ['#'] } operations, {}⟩
    let reported : List (Text × Text) :=
      [(['g'], ['#', '\n', '<', 'm', 'a', 's', 's', '>'])]
    Keyed.Distinct panels ∧
      (station.cycle {} reported).result = .ok [(['a'], ['h', 'i']), (['g'], ['0'])] ∧
      Refreshed ['#'] (Keyed.putAll panels.customData reported) {} panels
        [(['a'], ['h', 'i']), (['g'], ['0'])] (station.cycle {} reported).station := by
  intro operations panels station reported
  have distinct : Keyed.Distinct panels := by decide
  have returned : (station.cycle {} reported).result =
      .ok [(['a'], ['h', 'i']), (['g'], ['0'])] := rfl
  exact ⟨distinct, returned,
    refreshed_of_cycle_returns ['#'] operations distinct {} {} reported returned⟩

end Wallboard.Station
