import Wallboard.Proofs.Registry.Account
import Wallboard.Proofs.Station.Saving

/-!
The log of a registry that refresh cycles use. A cycle does to the registry, and reports about it,
what a sync does that is followed by forgetting devices without a panel. So the log accounts for the
bindings after any calls and cycles.
-/
namespace Wallboard

open Registry

namespace Board

theorem keys_write (board : Board) (disk : Disk) (device text : Text) :
    Keyed.keys (board.write disk device text).board.panels = Keyed.keys board.panels := by
  unfold write
  cases written : board.panels.write? device text with
  | none => rfl
  | some changed =>
      obtain ⟨panel, found, rfl⟩ := Option.map_eq_some_iff.mp written
      dsimp only
      rw [commit_board, Keyed.keys_put, if_pos (Keyed.mem_keys_iff.mpr ⟨panel, found⟩)]

theorem unknown_of_write {board : Board} {disk : Disk} {device text unknown : Text}
    (refused : (board.write disk device text).result = .error (.unknownPanel unknown)) :
    device ∉ Keyed.keys board.panels := by
  intro present
  obtain ⟨panel, found⟩ := Keyed.mem_keys_iff.mp present
  have written : board.panels.write? device text =
      some (Keyed.put device { panel with text } board.panels) := by
    rw [Panels.write?, found, Option.map_some]
  simp only [write, written] at refused
  rcases commit_cases disk board (Keyed.put device { panel with text } board.panels) () with
    ⟨saved, done⟩ | ⟨fault, done⟩
  · rw [done] at refused
    cases refused
  · rw [done] at refused
    cases refused

end Board

namespace Registry

/-- Something that does to a registry, and reports about it, what operations would. -/
structure Performs (registry : Registry) (operations : List Operation) (after : Registry)
    (notices : List Notice) : Prop where
  reached : after = registry.run Template.compile operations
  told : ∀ device, linesAbout device notices =
    linesAbout device (registry.runNotices Template.compile operations)

/-- The logs of a registry that was new, with the registry that calls and cycles have led to. -/
inductive Logged (marker : Text) : Registry → List Notice → Prop
  | new : Logged marker { marker } []
  | call {registry : Registry} {log : List Notice} (logged : Logged marker registry log)
      {fault : Type} (compile : Compiler fault) {operation : Operation}
      (brought : Keyed.Distinct operation.brings) :
      Logged marker (registry.perform compile operation).registry
        (log ++ (registry.perform compile operation).notices)
  | cycle {station : Station} {log : List Notice} (logged : Logged marker station.registry log)
      (single : Keyed.Distinct station.board.panels) (snapshot : Snapshot)
      (reported : List (Text × Text)) :
      Logged marker (station.cycle snapshot reported).station.registry
        (log ++ (station.cycle snapshot reported).notices)

/-- What a log says about a registry, and what the next call or cycle adds to it. -/
structure Accounted (registry : Registry) (log : List Notice) : Prop where
  bound : ∀ device, registry.contains device = true ↔
    ∃ line, (linesAbout device log).getLast? = some line ∧ line.message ≠ "Binding removed".toList
  call : ∀ {fault : Type} (compile : Compiler fault) (operation : Operation),
    Keyed.Distinct operation.brings → ∀ device,
      (linesAbout device (registry.perform compile operation).notices).length =
        if (registry.perform compile operation).registry.find? device = registry.find? device then 0
        else 1
  cycle : ∀ station : Station, station.registry = registry → ∀ snapshot reported,
    ∃ vanished : List Text,
      (∀ device ∈ vanished, device ∉ Keyed.keys station.board.panels) ∧ Performs registry
        (.sync (Keyed.putAll station.board.panels.customData reported) :: vanished.map .forget)
        (station.cycle snapshot reported).station.registry
        (station.cycle snapshot reported).notices

variable {registry middle after : Registry} {earlier later : List Operation}
  {notices further : List Notice}

theorem Performs.nil (registry : Registry) : Performs registry [] registry [] :=
  ⟨rfl, fun _ => rfl⟩

theorem Performs.single (registry : Registry) (operation : Operation) :
    Performs registry [operation] (registry.perform Template.compile operation).registry
      (registry.perform Template.compile operation).notices := by
  refine ⟨rfl, fun device => ?_⟩
  rw [runNotices, runNotices, List.append_nil]

theorem runNotices_append {fault : Type} (compile : Compiler fault) (registry : Registry)
    (earlier later : List Operation) :
    registry.runNotices compile (earlier ++ later) =
      registry.runNotices compile earlier ++
        (registry.run compile earlier).runNotices compile later := by
  induction earlier generalizing registry with
  | nil => rfl
  | cons operation rest ih =>
      rw [List.cons_append, runNotices, runNotices, ih, List.append_assoc]
      rfl

theorem Performs.append (first : Performs registry earlier middle notices)
    (second : Performs middle later after further) :
    Performs registry (earlier ++ later) after (notices ++ further) := by
  obtain rfl := first.reached
  constructor
  case reached =>
    rw [second.reached, run, run, run, List.foldl_append]
  case told =>
    intro device
    rw [runNotices_append, linesAbout_append, linesAbout_append, first.told, second.told]

theorem Performs.silent (performs : Performs registry earlier after notices)
    (silent : ∀ device, linesAbout device further = []) :
    Performs registry earlier after (notices ++ further) := by
  refine ⟨performs.reached, fun device => ?_⟩
  rw [linesAbout_append, silent, List.append_nil, performs.told]

end Registry

namespace Station

variable {station : Station} {snapshot : Snapshot} {reported : List (Text × Text)}

theorem performs_dropVanished (station : Station) (device : Text) :
    Performs station.registry [.forget device] (station.dropVanished device).1.registry
      (station.dropVanished device).2 := by
  constructor
  case reached => rfl
  case told =>
    intro other
    have silent : linesAbout other [.panelVanished device] = [] := linesAbout_of_silent rfl other
    calc linesAbout other (.panelVanished device :: station.registry.forgetNotices device)
      _ = linesAbout other [.panelVanished device] ++
            linesAbout other (station.registry.forgetNotices device) :=
          linesAbout_append other [.panelVanished device] _
      _ = linesAbout other (station.registry.runNotices Template.compile [.forget device]) := by
          rw [silent, List.nil_append, runNotices, runNotices, List.append_nil]
          rfl

theorem performs_writeTexts (station : Station) (texts : List (Text × Text)) :
    ∃ vanished : List Text, (∀ device ∈ vanished, device ∉ Keyed.keys station.board.panels) ∧
      Performs station.registry (vanished.map .forget) (station.writeTexts texts).station.registry
        (station.writeTexts texts).notices := by
  induction texts generalizing station with
  | nil => exact ⟨[], List.forall_mem_nil _, .nil station.registry⟩
  | cons entry rest ih =>
      rcases entry with ⟨device, text⟩
      have same := Board.keys_write station.board station.disk device text
      cases written : (station.board.write station.disk device text).result with
      | ok done =>
          obtain ⟨vanished, absent, performs⟩ := ih { station with
            board := (station.board.write station.disk device text).board
            disk := (station.board.write station.disk device text).disk }
          simp only [writeTexts, written]
          rw [same] at absent
          exact ⟨vanished, absent, performs⟩
      | error fault =>
          cases fault with
          | disk fault =>
              simp only [writeTexts, written]
              exact ⟨[], List.forall_mem_nil _, .nil station.registry⟩
          | unknownPanel unknown =>
              obtain ⟨vanished, absent, performs⟩ := ih (station.dropVanished device).1
              have gone := Board.unknown_of_write written
              simp only [writeTexts, written]
              refine ⟨device :: vanished, List.forall_mem_cons.mpr ⟨gone, absent⟩, ?_⟩
              exact (performs_dropVanished station device).append performs

theorem performs_cycle (station : Station) (snapshot : Snapshot) (reported : List (Text × Text)) :
    ∃ vanished : List Text, (∀ device ∈ vanished, device ∉ Keyed.keys station.board.panels) ∧
      Performs station.registry
        (.sync (Keyed.putAll station.board.panels.customData reported) :: vanished.map .forget)
        (station.cycle snapshot reported).station.registry
        (station.cycle snapshot reported).notices := by
  have synced := Performs.single station.registry
    (.sync (Keyed.putAll station.board.panels.customData reported))
  cases outcome : (station.registry.sync Template.compile
      (Keyed.putAll station.board.panels.customData reported)).result with
  | error cause =>
      refine ⟨[], List.forall_mem_nil _, ?_⟩
      simp only [cycle, outcome]
      exact synced
  | ok done =>
      have evaluated (device : Text) := linesAbout_evaluations
        (station.registry.sync Template.compile
          (Keyed.putAll station.board.panels.customData reported)).registry snapshot device
      simp only [cycle, outcome]
      -- What is written and forgotten does not depend on which texts there are.
      generalize (evaluations _ snapshot).map _ = texts
      obtain ⟨vanished, absent, written⟩ := performs_writeTexts
        { station with registry := (station.registry.sync Template.compile
          (Keyed.putAll station.board.panels.customData reported)).registry } texts
      have done := (synced.silent evaluated).append written
      refine ⟨vanished, absent, ?_⟩
      split
      · exact done
      · exact done.silent fun device => linesAbout_of_silent rfl device

end Station

namespace Registry

variable {marker : Text} {registry : Registry} {log : List Notice}

theorem Logged.distinct (logged : Logged marker registry log) :
    Keyed.Distinct registry.bindings := by
  induction logged with
  | new => exact Keyed.Distinct.nil
  | call earlier compile brought ih => exact distinct_perform compile _ ih
  | @cycle station log earlier single snapshot reported ih =>
      obtain ⟨vanished, _, performs⟩ := station.performs_cycle snapshot reported
      rw [performs.reached]
      exact distinct_run Template.compile _ ih

theorem Logged.accounts (logged : Logged marker registry log) (device : Text) :
    AccountsFor log device (registry.find? device) := by
  induction logged with
  | new =>
      apply iff_of_false nofun
      rintro ⟨line, last, _⟩
      cases last
  | call earlier compile brought ih =>
      exact (tells_perform compile earlier.distinct brought device).accounts ih
  | @cycle station log earlier single snapshot reported ih =>
      obtain ⟨vanished, _, performs⟩ := station.performs_cycle snapshot reported
      have fields : Keyed.Distinct (Keyed.putAll station.board.panels.customData reported) :=
        (single.map _).putAll reported
      have brought : ∀ operation ∈
          .sync (Keyed.putAll station.board.panels.customData reported) ::
            vanished.map Operation.forget, Keyed.Distinct operation.brings := by
        rw [List.forall_mem_cons]
        refine ⟨fields, fun operation member => ?_⟩
        obtain ⟨device, _, rfl⟩ := List.mem_map.mp member
        exact Keyed.Distinct.nil
      have run := accounts_run Template.compile earlier.distinct ih brought
      rw [performs.reached]
      unfold AccountsFor at run ⊢
      rw [linesAbout_append, performs.told, ← linesAbout_append]
      exact run

/-- The last line about a device, from the level of information on, tells whether the device is
bound; a call adds one line about each device whose binding it changes and none about the others,
and a cycle adds what the calls it consists of do. -/
theorem log_accounts_for_bindings (logged : Logged marker registry log) :
    Accounted registry log := by
  constructor
  case bound => exact logged.accounts
  case call =>
    intro fault compile operation brought device
    exact (tells_perform compile logged.distinct brought device).length
  case cycle =>
    rintro station rfl snapshot reported
    exact station.performs_cycle snapshot reported

/-- A device is bound, a sync fails, and a cycle removes the binding and binds a device that turns
out to have no panel. -/
theorem log_with_failing_sync_and_vanished_panel :
    let failing : Compiler Unit := fun _ => .error ()
    let observed := perform Template.compile { marker := ['#'] } (.observe ['a'] ['#', '\n', 'x'])
    let synced := observed.registry.perform failing
      (.sync [(['b'], ['n']), (['a'], ['#', '\n', 'y'])])
    let panels : Panels := [(['a'], { device := ['a'], customData := ['n'] })]
    let station : Station := ⟨{ panels }, synced.registry, {}⟩
    let reported : List (Text × Text) := [(['g'], ['#', '\n', 'z'])]
    let cycled := station.cycle {} reported
    let log := observed.notices ++ synced.notices ++ cycled.notices
    log = [.templateCompiled ['a'], .bindingRemoved ['a'], .templateCompiled ['g'],
        .panelVanished ['g'], .bindingRemoved ['g'], .cycleComplete 1] ∧
      Logged ['#'] cycled.station.registry log ∧ Accounted cycled.station.registry log := by
  intro failing observed synced panels station reported cycled log
  have single : Keyed.Distinct panels := by decide
  have first : Logged ['#'] observed.registry observed.notices := by
    have brought : Keyed.Distinct (Operation.observe ['a'] ['#', '\n', 'x']).brings := by decide
    exact Logged.call (@Logged.new ['#']) Template.compile brought
  have second : Logged ['#'] synced.registry (observed.notices ++ synced.notices) := by
    apply first.call failing
    decide
  have written : log = [.templateCompiled ['a'], .bindingRemoved ['a'], .templateCompiled ['g'],
      .panelVanished ['g'], .bindingRemoved ['g'], .cycleComplete 1] := by
    decide +kernel
  -- From here on it does not matter what the calls before the cycle have done.
  clear_value observed synced
  have third : Logged ['#'] cycled.station.registry log :=
    @Logged.cycle ['#'] station (observed.notices ++ synced.notices) second single {} reported
  exact ⟨written, third, log_accounts_for_bindings third⟩

end Registry
end Wallboard
