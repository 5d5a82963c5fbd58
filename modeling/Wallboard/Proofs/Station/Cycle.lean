import Wallboard.Proofs.Board.Texts
import Wallboard.Proofs.Markup.Compile
import Wallboard.Proofs.Registry.Sync
import Wallboard.Station

namespace Wallboard

namespace Template

/-- What a panel shows for a template: the message of its error, or what its elements come to. -/
inductive Shows : Template → Snapshot → Text → Prop
  | invalid (error : MarkupError) (snapshot : Snapshot) :
      Shows (.invalid error) snapshot error.message
  | valid (elements : List Element) (snapshot : Snapshot) :
      Shows (.valid elements) snapshot (evaluateElements elements snapshot).text

theorem shows_evaluate (template : Template) (snapshot : Snapshot) :
    template.Shows snapshot (template.evaluate snapshot).text := by
  cases template with
  | valid elements => exact .valid elements snapshot
  | invalid error => exact .invalid error snapshot

theorem Shows.eq_evaluate {template : Template} {snapshot : Snapshot} {text : Text}
    (shows : template.Shows snapshot text) : text = (template.evaluate snapshot).text := by
  cases shows with
  | invalid error => rfl
  | valid elements => rfl

end Template

namespace Registry

def withoutVanished (registry : Registry) (panels : Panels) (texts : List (Text × Text)) :
    Registry :=
  { registry with
    bindings := registry.bindings.filter fun entry =>
      Keyed.contains entry.1 panels || !Keyed.contains entry.1 texts }

def texts (registry : Registry) (snapshot : Snapshot) : List (Text × Text) :=
  registry.bindings.map fun entry => (entry.1, (entry.2.template.evaluate snapshot).text)

theorem texts_evaluations (registry : Registry) (snapshot : Snapshot) :
    (registry.evaluations snapshot).map (fun entry => (entry.1, entry.2.text)) =
      registry.texts snapshot := by
  simp [evaluations, texts]

theorem withoutVanished_nil (registry : Registry) (panels : Panels) :
    registry.withoutVanished panels [] = registry := by
  simp [withoutVanished, Keyed.contains, Keyed.find?]

theorem withoutVanished_withTexts (registry : Registry) (panels : Panels)
    (written texts : List (Text × Text)) :
    registry.withoutVanished (panels.withTexts written) texts =
      registry.withoutVanished panels texts := by
  simp only [withoutVanished, Keyed.contains_of_keys_eq (Panels.keys_withTexts panels written)]

theorem withoutVanished_cons_of_mem {panels : Panels} {device : Text}
    (known : device ∈ Keyed.keys panels) (registry : Registry) (text : Text)
    (texts : List (Text × Text)) :
    registry.withoutVanished panels ((device, text) :: texts) =
      registry.withoutVanished panels texts := by
  unfold withoutVanished
  congr 1
  apply List.filter_congr
  intro bound member
  by_cases same : device = bound.1
  · rw [← same, Keyed.contains_iff.mpr known, Bool.true_or, Bool.true_or]
  · rw [Keyed.contains_cons_of_ne same]

theorem withoutVanished_cons_of_not_mem {panels : Panels} {device : Text}
    (unknown : device ∉ Keyed.keys panels) (registry : Registry) (text : Text)
    (texts : List (Text × Text)) :
    registry.withoutVanished panels ((device, text) :: texts) =
      (registry.forget device).withoutVanished panels texts := by
  unfold withoutVanished Registry.forget Keyed.erase
  rw [List.filter_filter]
  congr 1
  apply List.filter_congr
  intro bound member
  by_cases same : device = bound.1
  · have listed : Keyed.contains device ((device, text) :: texts) = true :=
      Keyed.contains_iff.mpr List.mem_cons_self
    simp [← same, listed, Keyed.contains_eq_false_iff.mpr unknown]
  · have differ : bound.1 ≠ device := Ne.symm same
    rw [Keyed.contains_cons_of_ne same]
    simp [differ]

end Registry

namespace Station

open Registry

variable {panels : Panels} {registry : Registry} {disk : Disk}

theorem writeTexts_inMemory (distinct : Keyed.Distinct panels) {texts : List (Text × Text)}
    (single : Keyed.Distinct texts) :
    (writeTexts ⟨{ panels }, registry, disk⟩ texts).result = .ok () ∧
      (writeTexts ⟨{ panels }, registry, disk⟩ texts).station =
        ⟨{ panels := panels.withTexts texts }, registry.withoutVanished panels texts, disk⟩ := by
  induction texts generalizing panels registry with
  | nil => simp [writeTexts, Panels.withTexts_nil, withoutVanished_nil]
  | cons entry rest ih =>
      rcases entry with ⟨device, text⟩
      have fresh : device ∉ Keyed.keys rest := single.head
      by_cases known : device ∈ Keyed.keys panels
      · have written := @Board.write_of_mem { panels } device rfl distinct known disk text
        have changed := Panels.distinct_withTexts distinct [(device, text)]
        obtain ⟨done, reached⟩ := @ih _ registry changed single.tail
        rw [Panels.withTexts_cons fresh, withoutVanished_withTexts,
          ← withoutVanished_cons_of_mem known registry text] at reached
        simp only [writeTexts, written]
        exact ⟨done, reached⟩
      · have refused := @Board.write_of_not_mem { panels } device known disk text
        obtain ⟨done, reached⟩ := @ih _ (registry.forget device) distinct single.tail
        rw [← Panels.withTexts_cons_of_not_mem rest known text,
          ← withoutVanished_cons_of_not_mem known registry text] at reached
        simp only [writeTexts, refused, dropVanished]
        exact ⟨done, reached⟩

variable {snapshot : Snapshot} {reported : List (Text × Text)}

theorem cycle_of_error {station : Station} {cause : Integer.Oversized}
    (failed : (station.registry.sync Template.compile
      (Keyed.putAll station.board.panels.customData reported)).result = .error cause) :
    (station.cycle snapshot reported).result = .error (.oversized cause) ∧
      (station.cycle snapshot reported).station =
        { station with registry := (station.registry.sync Template.compile
          (Keyed.putAll station.board.panels.customData reported)).registry } := by
  simp only [cycle, failed, and_self]

theorem cycle_of_written {station : Station} {synced : Registry}
    (outcome : (station.registry.sync Template.compile
      (Keyed.putAll station.board.panels.customData reported)).result = .ok ())
    (reached : (station.registry.sync Template.compile
      (Keyed.putAll station.board.panels.customData reported)).registry = synced)
    (written : (writeTexts { station with registry := synced } (synced.texts snapshot)).result =
      .ok ()) :
    (station.cycle snapshot reported).result = .ok (synced.texts snapshot) ∧
      (station.cycle snapshot reported).station =
        (writeTexts { station with registry := synced } (synced.texts snapshot)).station := by
  simp only [cycle, outcome, reached, texts_evaluations, written, and_self]

theorem cycle_of_ok (distinct : Keyed.Distinct panels) {synced : Registry}
    (outcome : (registry.sync Template.compile (Keyed.putAll panels.customData reported)).result =
      .ok ())
    (reached : (registry.sync Template.compile
      (Keyed.putAll panels.customData reported)).registry = synced)
    (single : Keyed.Distinct synced.bindings) :
    (cycle ⟨{ panels }, registry, disk⟩ snapshot reported).result = .ok (synced.texts snapshot) ∧
      (cycle ⟨{ panels }, registry, disk⟩ snapshot reported).station =
        ⟨{ panels := panels.withTexts (synced.texts snapshot) },
          synced.withoutVanished panels (synced.texts snapshot), disk⟩ := by
  obtain ⟨done, written⟩ := @writeTexts_inMemory panels synced disk distinct
    (synced.texts snapshot) (single.map _)
  obtain ⟨result, after⟩ := @cycle_of_written snapshot reported ⟨{ panels }, registry, disk⟩ synced
    outcome reached done
  exact ⟨result, after.trans written⟩

theorem writeTexts_preserves {station : Station}
    (coherent : Coherent Template.compile station.registry) (texts : List (Text × Text)) :
    Coherent Template.compile (station.writeTexts texts).station.registry ∧
      (station.writeTexts texts).station.registry.marker = station.registry.marker := by
  induction texts generalizing station with
  | nil => exact ⟨coherent, rfl⟩
  | cons entry rest ih =>
      rcases entry with ⟨device, text⟩
      cases written : (station.board.write station.disk device text).result with
      | ok done =>
          simp only [writeTexts, written]
          apply ih
          exact coherent
      | error fault =>
          cases fault with
          | disk fault =>
              simp only [writeTexts, written]
              exact ⟨coherent, trivial⟩
          | unknownPanel unknown =>
              have kept : Coherent Template.compile (station.dropVanished device).1.registry :=
                coherent.forget device
              simp only [writeTexts, written]
              exact ih kept

theorem cycle_preserves {station : Station}
    (coherent : Coherent Template.compile station.registry) (snapshot : Snapshot)
    (reported : List (Text × Text)) :
    Coherent Template.compile (station.cycle snapshot reported).station.registry ∧
      (station.cycle snapshot reported).station.registry.marker = station.registry.marker := by
  obtain ⟨kept, marked⟩ := sync_preserves coherent
    (Keyed.putAll station.board.panels.customData reported)
  cases synced : (station.registry.sync Template.compile
      (Keyed.putAll station.board.panels.customData reported)).result with
  | error cause =>
      simp only [cycle, synced]
      exact ⟨kept, marked⟩
  | ok done =>
      simp only [cycle, synced]
      -- The texts are written by the station with the synchronized registry, whatever they are.
      generalize (evaluations _ snapshot).map _ = texts
      obtain ⟨held, same⟩ := @writeTexts_preserves
        { station with registry := (station.registry.sync Template.compile
          (Keyed.putAll station.board.panels.customData reported)).registry } kept texts
      split <;> exact ⟨held, same.trans marked⟩

end Station
end Wallboard
