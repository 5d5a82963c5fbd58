import Wallboard.Proofs.Station.Refresh

namespace Wallboard

open Registry

/-- The panel has the marker, and its markup stops the compiler. -/
def Panel.Stops (marker : Text) (panel : Panel) : Prop :=
  Text.startsWith panel.customData marker = true ∧
    ∃ digits, Template.StopsAt (templateBody panel.customData) digits

theorem Panels.stops_withTexts_iff {panels : Panels} (texts : List (Text × Text)) (marker : Text) :
    (∃ entry ∈ panels.withTexts texts, entry.2.Stops marker) ↔
      ∃ entry ∈ panels, entry.2.Stops marker := by
  simp [Panels.withTexts, Panel.Stops]

variable {marker : Text} {registry : Registry} {panels : Panels} {disk : Disk}
  {snapshot : Snapshot}

inductive Registry.Reached (marker : Text) : Registry → Prop
  | new : Reached marker { marker }
  | operation {registry : Registry} (reached : Reached marker registry) (operation : Operation) :
      Reached marker (registry.perform Template.compile operation).registry
  | cycle {station : Station} (reached : Reached marker station.registry) (snapshot : Snapshot)
      (reported : List (Text × Text)) :
      Reached marker (station.cycle snapshot reported).station.registry

theorem Registry.Reached.coherent (reached : Reached marker registry) :
    Coherent Template.compile registry ∧ registry.marker = marker := by
  induction reached with
  | new => exact ⟨Coherent.empty Template.compile marker, rfl⟩
  | operation earlier operation ih =>
      obtain ⟨kept, marked⟩ := perform_preserves ih.1 operation
      exact ⟨kept, marked.trans ih.2⟩
  | cycle earlier snapshot reported ih =>
      obtain ⟨kept, marked⟩ := Station.cycle_preserves ih.1 snapshot reported
      exact ⟨kept, marked.trans ih.2⟩

theorem Registry.sync_customData_eq_ok_iff (coherent : Coherent Template.compile registry) :
    (registry.sync Template.compile panels.customData).result = .ok () ↔
      ∀ entry ∈ panels, ¬ entry.2.Stops registry.marker := by
  rw [sync_eq_ok_iff coherent, Panels.customData, List.forall_mem_map]
  apply forall₂_congr
  intro entry member
  rw [reading_succeeds_iff, Template.compile_succeeds_iff, Panel.Stops, not_and, not_exists]

namespace Station

/-- A cycle returns, and afterwards each panel with the marker shows its own template. -/
structure Refreshes (station : Station) (snapshot : Snapshot) : Prop where
  returns : ∃ outputs, (station.cycle snapshot []).result = .ok outputs
  shows : ∀ entry ∈ station.board.panels,
    Text.startsWith entry.2.customData station.registry.marker = true →
      ∃ template text, Template.compile (templateBody entry.2.customData) = .ok template ∧
        template.Shows snapshot text ∧
          (entry.1, { entry.2 with text }) ∈ (station.cycle snapshot []).station.board.panels

def cycles (station : Station) (snapshots : List Snapshot) : Station :=
  snapshots.foldl (fun reached snapshot => (reached.cycle snapshot []).station) station

theorem refreshes_of_sound (coherent : Coherent Template.compile registry)
    (distinct : Keyed.Distinct panels)
    (sound : ∀ entry ∈ panels, ¬ entry.2.Stops registry.marker) :
    Refreshes ⟨{ panels }, registry, disk⟩ snapshot := by
  have synced := (sync_customData_eq_ok_iff coherent).mpr sound
  obtain ⟨outputs, returned, refreshed⟩ :=
    @cycle_of_synced _ panels disk snapshot [] coherent distinct synced
  constructor
  case returns => exact ⟨outputs, returned⟩
  case shows =>
    intro entry member marked
    have field : (entry.1, entry.2.customData) ∈ panels.customData :=
      List.mem_map.mpr ⟨entry, member, rfl⟩
    obtain ⟨template, text, compiled, shows, shown⟩ :=
      refreshed.shown entry.1 entry.2.customData field marked
    have output := refreshed.once.find?_eq_some_iff.mpr shown
    refine ⟨template, text, compiled, shows, ?_⟩
    rw [refreshed.written]
    exact List.mem_map.mpr ⟨entry, member, by rw [output, Option.getD_some]⟩

theorem cycle_of_stopped (coherent : Coherent Template.compile registry)
    (stopped : ∃ entry ∈ panels, entry.2.Stops registry.marker) :
    (∃ numeral, (cycle ⟨{ panels }, registry, disk⟩ snapshot []).result =
        .error (.oversized numeral)) ∧
      (cycle ⟨{ panels }, registry, disk⟩ snapshot []).station.board = { panels } := by
  cases synced : (registry.sync Template.compile panels.customData).result with
  | ok done =>
      obtain ⟨entry, member, stops⟩ := stopped
      exact absurd stops ((sync_customData_eq_ok_iff coherent).mp synced entry member)
  | error numeral =>
      obtain ⟨failed, unchanged⟩ :=
        @cycle_of_error snapshot [] ⟨{ panels }, registry, disk⟩ numeral synced
      refine ⟨⟨numeral, failed⟩, ?_⟩
      rw [unchanged]

theorem cycle_inMemory (coherent : Coherent Template.compile registry)
    (distinct : Keyed.Distinct panels) (disk : Disk) (snapshot : Snapshot) :
    ∃ texts after,
      (cycle ⟨{ panels }, registry, disk⟩ snapshot []).station =
          ⟨{ panels := panels.withTexts texts }, after, disk⟩ ∧
        ((∃ entry ∈ panels, entry.2.Stops registry.marker) → texts = []) := by
  cases synced : (registry.sync Template.compile panels.customData).result with
  | ok done =>
      have sound := (sync_customData_eq_ok_iff coherent).mp synced
      have settled := sync_synced coherent (distinct.map _) synced
      refine ⟨_, _, (@cycle_of_ok panels registry disk snapshot [] distinct _ synced rfl
        settled.distinct).2, ?_⟩
      rintro ⟨entry, member, stops⟩
      exact absurd stops (sound entry member)
  | error numeral =>
      refine ⟨[], (registry.sync Template.compile panels.customData).registry, ?_, fun _ => rfl⟩
      rw [Panels.withTexts_nil]
      exact (@cycle_of_error snapshot [] ⟨{ panels }, registry, disk⟩ numeral synced).2

theorem cycles_inMemory (coherent : Coherent Template.compile registry)
    (distinct : Keyed.Distinct panels) (disk : Disk) (snapshots : List Snapshot) :
    ∃ texts after,
      cycles ⟨{ panels }, registry, disk⟩ snapshots =
          ⟨{ panels := panels.withTexts texts }, after, disk⟩ ∧
        Coherent Template.compile after ∧ after.marker = registry.marker ∧
        ((∃ entry ∈ panels, entry.2.Stops registry.marker) → texts = []) := by
  induction snapshots generalizing panels registry with
  | nil =>
      refine ⟨[], registry, ?_, coherent, rfl, fun _ => rfl⟩
      rw [Panels.withTexts_nil]
      rfl
  | cons snapshot rest ih =>
      obtain ⟨first, next, reached, silent⟩ := cycle_inMemory coherent distinct disk snapshot
      obtain ⟨kept, marked⟩ :=
        @cycle_preserves ⟨{ panels }, registry, disk⟩ coherent snapshot []
      rw [reached] at kept marked
      obtain ⟨second, after, finished, sound, remarked, still⟩ :=
        ih kept (Panels.distinct_withTexts distinct first)
      refine ⟨second ++ first, after, ?_, sound, remarked.trans marked, ?_⟩
      · rw [← Panels.withTexts_withTexts, ← finished, cycles, List.foldl_cons, reached]
        rfl
      · intro stopped
        rw [marked, Panels.stops_withTexts_iff] at still
        rw [silent stopped, still stopped, List.append_nil]

/-- However many cycles went before, a cycle refreshes the panels exactly if none of them stops the
compiler. If one does, the cycle is abandoned and all panels stay as they were at first. -/
theorem cycle_refreshes_iff_none_stops (reached : Reached marker registry)
    (distinct : Keyed.Distinct panels) (disk : Disk) (earlier : List Snapshot)
    (snapshot : Snapshot) :
    (Refreshes (cycles ⟨{ panels }, registry, disk⟩ earlier) snapshot ↔
        ∀ entry ∈ panels, ¬ entry.2.Stops marker) ∧
      ((∃ entry ∈ panels, entry.2.Stops marker) →
        (∃ numeral, ((cycles ⟨{ panels }, registry, disk⟩ earlier).cycle snapshot []).result =
          .error (.oversized numeral)) ∧
        ((cycles ⟨{ panels }, registry, disk⟩ earlier).cycle snapshot []).station.board =
          { panels }) := by
  obtain ⟨coherent, rfl⟩ := reached.coherent
  obtain ⟨texts, after, passed, kept, marked, silent⟩ :=
    cycles_inMemory coherent distinct disk earlier
  have unchanged := @Panels.stops_withTexts_iff panels texts registry.marker
  rw [passed]
  rw [← marked] at unchanged silent ⊢
  constructor
  · constructor
    · intro refreshes entry member stops
      obtain ⟨outputs, returned⟩ := refreshes.returns
      obtain ⟨⟨numeral, failed⟩, _⟩ := @cycle_of_stopped _ _ disk snapshot kept
        (unchanged.mpr ⟨entry, member, stops⟩)
      rw [failed] at returned
      cases returned
    · intro sound
      apply refreshes_of_sound kept (Panels.distinct_withTexts distinct texts)
      intro entry member stops
      obtain ⟨other, panel, blocked⟩ := unchanged.mp ⟨entry, member, stops⟩
      exact sound other panel blocked
  · intro stopped
    obtain rfl := silent stopped
    have failed := @cycle_of_stopped _ _ disk snapshot kept (unchanged.mpr stopped)
    rwa [Panels.withTexts_nil] at failed ⊢

def overlongBoard : Panels :=
  [(['a'], { device := ['a'], customData := '#' :: '\n' :: Template.overlongMarkup }),
    (['b'], { device := ['b'], customData := ['#', '\n', 'h', 'i'] })]

theorem overlongBoard_stops : ∃ entry ∈ overlongBoard, entry.2.Stops ['#'] := by
  refine ⟨_, List.mem_cons_self, rfl, 4301, ?_⟩
  exact Template.compile_eq_oversized_iff.mp Template.compile_overlongMarkup

theorem overlongBoard_stays_after_cycles :
    Reached ['#'] { marker := ['#'] } ∧ Keyed.Distinct overlongBoard ∧
      (cycle (cycles ⟨{ panels := overlongBoard }, { marker := ['#'] }, {}⟩ [{}]) {}
        []).station.board = { panels := overlongBoard } := by
  have distinct : Keyed.Distinct overlongBoard := by decide
  have fresh : Reached ['#'] { marker := ['#'] } := .new
  have outcome := cycle_refreshes_iff_none_stops fresh distinct {} [{}] {}
  exact ⟨fresh, distinct, (outcome.2 overlongBoard_stops).2⟩

/-- The other panel does not get its text because of the one that stops the compiler. -/
theorem overlongBoard_not_refreshed :
    Reached ['#'] { marker := ['#'] } ∧ Keyed.Distinct overlongBoard ∧
      ¬ Refreshes ⟨{ panels := overlongBoard }, { marker := ['#'] }, {}⟩ {} ∧
      (cycle ⟨{ panels := overlongBoard }, { marker := ['#'] }, {}⟩ {} []).station.board =
        { panels := overlongBoard } := by
  obtain ⟨⟨numeral, failed⟩, unchanged⟩ := @cycle_of_stopped { marker := ['#'] } overlongBoard {} {}
    (Coherent.empty Template.compile ['#']) overlongBoard_stops
  refine ⟨.new, by decide, ?_, unchanged⟩
  intro refreshes
  obtain ⟨outputs, returned⟩ := refreshes.returns
  rw [failed] at returned
  cases returned

end Station
end Wallboard
