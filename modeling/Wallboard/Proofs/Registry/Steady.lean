import Wallboard.Proofs.Registry.Reference

namespace Wallboard.Registry

variable {fault : Type} {compile : Compiler fault} {registry : Registry} {marker device text : Text}
  {fields : List (Text × Text)}

def markedDevices (marker : Text) (fields : List (Text × Text)) : List Text :=
  Keyed.keys (fields.filter fun field => Text.startsWith field.2 marker)

def plainDevices (marker : Text) (fields : List (Text × Text)) : List Text :=
  Keyed.keys (fields.filter fun field => !Text.startsWith field.2 marker)

def observedOrder (marker : Text) (bound : List Text) (fields : List (Text × Text)) : List Text :=
  (bound.filter fun device => !(plainDevices marker fields).contains device) ++
    (markedDevices marker fields).filter fun device => !bound.contains device

/-- The devices that were bound and have the marker, and then the others that have it. -/
def settledOrder (marker : Text) (bound : List Text) (fields : List (Text × Text)) : List Text :=
  (bound.filter fun device => (markedDevices marker fields).contains device) ++
    (markedDevices marker fields).filter fun device => !bound.contains device

/-- The outcome of a sync with some fields, after which nothing is left to do: the devices with the
marker are bound to their texts, those bound before the sync first and in their old order. -/
structure Settled (compile : Compiler fault) (marker : Text) (bound : List Text)
    (fields : List (Text × Text)) (synced : Outcome fault Unit) : Prop where
  returns : synced.result = .ok ()
  once : Keyed.Distinct synced.registry.bindings
  texts : ∀ device text, (synced.registry.find? device).map (·.rawText) = some text ↔
    (device, text) ∈ fields ∧ Text.startsWith text marker = true
  templates : ∀ device binding, synced.registry.find? device = some binding →
    compile (templateBody binding.rawText) = .ok binding.template
  order : synced.registry.devices = settledOrder marker bound fields
  steady : synced.registry.sync compile fields =
    { result := .ok (), registry := synced.registry }

theorem reading_eq_none_iff :
    reading compile marker device text = .ok none ↔ Text.startsWith text marker = false := by
  unfold reading
  cases marked : Text.startsWith text marker with
  | true => cases compile (templateBody text) <;> simp [Except.map]
  | false => simp

theorem devices_forget (registry : Registry) (device : Text) :
    (registry.forget device).devices =
      registry.devices.filter fun other => decide (other ≠ device) :=
  Keyed.keys_filter (fun other => decide (other ≠ device)) registry.bindings

theorem devices_bind_of_mem (bound : device ∈ registry.devices) (binding : Binding) :
    (registry.bind device binding).devices = registry.devices := by
  have known : device ∈ Keyed.keys registry.bindings := bound
  simp only [devices, bind, Keyed.keys_put, known, if_true]

theorem devices_bind_of_not_mem (unbound : device ∉ registry.devices) (binding : Binding) :
    (registry.bind device binding).devices = registry.devices ++ [device] := by
  have unknown : device ∉ Keyed.keys registry.bindings := unbound
  simp only [devices, bind, Keyed.keys_put, unknown, if_false]

theorem devices_keepOnly (registry : Registry) (present : List Text) :
    (registry.keepOnly present).devices =
      registry.devices.filter fun device => decide (device ∈ present) :=
  Keyed.keys_filter (fun device => decide (device ∈ present)) registry.bindings

theorem markedDevices_cons_of_marked (marked : Text.startsWith text marker = true)
    (device : Text) (fields : List (Text × Text)) :
    markedDevices marker ((device, text) :: fields) = device :: markedDevices marker fields := by
  simp [markedDevices, Keyed.keys, marked]

theorem markedDevices_cons_of_plain (plain : Text.startsWith text marker = false)
    (device : Text) (fields : List (Text × Text)) :
    markedDevices marker ((device, text) :: fields) = markedDevices marker fields := by
  simp [markedDevices, plain]

theorem plainDevices_cons_of_marked (marked : Text.startsWith text marker = true)
    (device : Text) (fields : List (Text × Text)) :
    plainDevices marker ((device, text) :: fields) = plainDevices marker fields := by
  simp [plainDevices, marked]

theorem plainDevices_cons_of_plain (plain : Text.startsWith text marker = false)
    (device : Text) (fields : List (Text × Text)) :
    plainDevices marker ((device, text) :: fields) = device :: plainDevices marker fields := by
  simp [plainDevices, Keyed.keys, plain]

theorem mem_keys_of_mem_markedDevices (member : device ∈ markedDevices marker fields) :
    device ∈ Keyed.keys fields := by
  obtain ⟨field, listed, rfl⟩ := List.mem_map.mp member
  exact List.mem_map.mpr ⟨field, (List.mem_filter.mp listed).1, rfl⟩

theorem mem_keys_of_mem_plainDevices (member : device ∈ plainDevices marker fields) :
    device ∈ Keyed.keys fields := by
  obtain ⟨field, listed, rfl⟩ := List.mem_map.mp member
  exact List.mem_map.mpr ⟨field, (List.mem_filter.mp listed).1, rfl⟩

theorem mem_markedDevices_or_plainDevices (marker : Text) (member : device ∈ Keyed.keys fields) :
    device ∈ markedDevices marker fields ∨ device ∈ plainDevices marker fields := by
  obtain ⟨field, listed, rfl⟩ := List.mem_map.mp member
  cases marked : Text.startsWith field.2 marker with
  | true => exact .inl (List.mem_map.mpr ⟨field, List.mem_filter.mpr ⟨listed, marked⟩, rfl⟩)
  | false =>
      exact .inr (List.mem_map.mpr ⟨field, List.mem_filter.mpr ⟨listed, by rw [marked]; rfl⟩, rfl⟩)

theorem not_mem_plainDevices (distinct : Keyed.Distinct fields)
    (member : device ∈ markedDevices marker fields) : device ∉ plainDevices marker fields := by
  intro plain
  obtain ⟨⟨_, text⟩, listed, rfl⟩ := List.mem_map.mp member
  obtain ⟨⟨_, other⟩, alsoListed, same⟩ := List.mem_map.mp plain
  obtain rfl := same
  obtain ⟨field, marked⟩ := List.mem_filter.mp listed
  obtain ⟨alsoField, unmarked⟩ := List.mem_filter.mp alsoListed
  obtain rfl := distinct.value_unique field alsoField
  simp [marked] at unmarked

theorem observedOrder_cons_of_plain (fresh : device ∉ Keyed.keys fields)
    (plain : Text.startsWith text marker = false) (bound : List Text) :
    observedOrder marker bound ((device, text) :: fields) =
      observedOrder marker (bound.filter fun other => decide (other ≠ device)) fields := by
  rw [observedOrder, observedOrder, markedDevices_cons_of_plain plain,
    plainDevices_cons_of_plain plain, List.filter_filter]
  congr 1
  · apply List.filter_congr
    intro other _
    simp [Bool.and_comm]
  · apply List.filter_congr
    intro other member
    have differ : other ≠ device := by
      rintro rfl
      exact fresh (mem_keys_of_mem_markedDevices member)
    simp [differ]

theorem observedOrder_cons_of_bound (marked : Text.startsWith text marker = true)
    {bound : List Text} (known : device ∈ bound) :
    observedOrder marker bound ((device, text) :: fields) = observedOrder marker bound fields := by
  simp [observedOrder, markedDevices_cons_of_marked marked, plainDevices_cons_of_marked marked,
    known]

theorem observedOrder_cons_of_unbound (fresh : device ∉ Keyed.keys fields)
    (marked : Text.startsWith text marker = true) {bound : List Text} (unknown : device ∉ bound) :
    observedOrder marker bound ((device, text) :: fields) =
      observedOrder marker (bound ++ [device]) fields := by
  have kept : device ∉ plainDevices marker fields := by
    intro member
    exact fresh (mem_keys_of_mem_plainDevices member)
  have others : (markedDevices marker fields).filter (fun other => !bound.contains other) =
      (markedDevices marker fields).filter fun other => !(bound ++ [device]).contains other := by
    apply List.filter_congr
    intro other member
    have differ : other ≠ device := by
      rintro rfl
      exact fresh (mem_keys_of_mem_markedDevices member)
    simp [differ]
  rw [observedOrder, observedOrder, markedDevices_cons_of_marked marked,
    plainDevices_cons_of_marked marked, ← others]
  simp [kept, unknown]

theorem devices_observeAll (coherent : Coherent compile registry)
    (distinct : Keyed.Distinct fields)
    (observed : (registry.observeAll compile fields).result = .ok ()) :
    (registry.observeAll compile fields).registry.devices =
      observedOrder registry.marker registry.devices fields := by
  induction fields generalizing registry with
  | nil => simp [observeAll, observedOrder, plainDevices, markedDevices, Keyed.keys]
  | cons field rest ih =>
      rcases field with ⟨first, shown⟩
      obtain ⟨result, settled⟩ := observe_eq_settle coherent first shown
      cases read : reading compile registry.marker first shown with
      | error cause =>
          rw [read] at result
          rw [(observeAll_cons_of_error result).1] at observed
          cases observed
      | ok asked =>
          rw [read] at result settled
          rw [(observeAll_cons_of_ok result).1] at observed
          have later := ih (coherent.observe first shown) distinct.tail observed
          rw [marker_observe coherent, settled] at later
          rw [(observeAll_cons_of_ok result).2, settled, later]
          cases asked with
          | none =>
              rw [settle, devices_forget,
                observedOrder_cons_of_plain distinct.head (reading_eq_none_iff.mp read)]
          | some binding =>
              have marked := (reading_eq_some_iff.mp read).1
              by_cases bound : first ∈ registry.devices
              · rw [settle, devices_bind_of_mem bound, observedOrder_cons_of_bound marked bound]
              · rw [settle, devices_bind_of_not_mem bound,
                  observedOrder_cons_of_unbound distinct.head marked bound]

theorem keepOnly_observedOrder (distinct : Keyed.Distinct fields) (bound : List Text) :
    ((observedOrder marker bound fields).filter fun device =>
        decide (device ∈ Keyed.keys fields)) =
      settledOrder marker bound fields := by
  rw [observedOrder, settledOrder, List.filter_append, List.filter_filter, List.filter_filter]
  congr 1
  · apply List.filter_congr
    intro device _
    rw [Bool.eq_iff_iff]
    simp only [Bool.and_eq_true, decide_eq_true_eq, Bool.not_eq_true', List.contains_eq_mem,
      decide_eq_false_iff_not]
    constructor
    · rintro ⟨known, unplain⟩
      exact (mem_markedDevices_or_plainDevices marker known).resolve_right unplain
    · intro member
      exact ⟨mem_keys_of_mem_markedDevices member, not_mem_plainDevices distinct member⟩
  · apply List.filter_congr
    intro device member
    simp [mem_keys_of_mem_markedDevices member]

theorem devices_sync (coherent : Coherent compile registry) (distinct : Keyed.Distinct fields)
    (synced : (registry.sync compile fields).result = .ok ()) :
    (registry.sync compile fields).registry.devices =
      settledOrder registry.marker registry.devices fields := by
  cases observed : (registry.observeAll compile fields).result with
  | error cause =>
      rw [sync_of_error observed, observed] at synced
      cases synced
  | ok done =>
      rw [(sync_of_ok observed).2, devices_keepOnly, devices_observeAll coherent distinct observed,
        keepOnly_observedOrder distinct]

theorem observe_of_synced (synced : Synced compile registry.marker fields registry)
    (distinct : Keyed.Distinct fields) (member : (device, text) ∈ fields) :
    registry.observe compile device text =
      { result := .ok (registry.find? device), registry } := by
  unfold observe isMarked
  by_cases marked : Text.startsWith text registry.marker = true
  · obtain ⟨template, _, found⟩ := synced.asked device text member marked
    rw [if_pos marked, found]
    simp
  · have absent : registry.find? device = none := by
      cases found : registry.find? device with
      | none => rfl
      | some binding =>
          obtain ⟨field, wanted⟩ := synced.only device binding found
          rw [distinct.value_unique field member] at wanted
          exact absurd wanted marked
    have unknown : device ∉ registry.devices := Keyed.find?_eq_none_iff.mp absent
    have silent : registry.forgetNotices device = [] := by
      rw [forgetNotices, contains, Keyed.contains_eq_false_iff.mpr unknown]
      rfl
    rw [if_neg marked, absent, silent, forget, Keyed.erase_of_not_mem unknown]

theorem observeAll_of_synced (synced : Synced compile registry.marker fields registry)
    (distinct : Keyed.Distinct fields) {seen : List (Text × Text)} (among : seen ⊆ fields) :
    registry.observeAll compile seen = { result := .ok (), registry } := by
  induction seen with
  | nil => rfl
  | cons field rest ih =>
      rcases field with ⟨device, text⟩
      obtain ⟨member, later⟩ := List.cons_subset.mp among
      simp only [observeAll, observe_of_synced synced distinct member, ih later]
      rfl

theorem sync_of_synced (synced : Synced compile registry.marker fields registry)
    (distinct : Keyed.Distinct fields) :
    registry.sync compile fields = { result := .ok (), registry } := by
  have present : ∀ entry ∈ registry.bindings, entry.1 ∈ Keyed.keys fields := by
    intro entry member
    have found := synced.distinct.find?_eq_some_iff.mpr member
    exact List.mem_map.mpr ⟨_, (synced.only entry.1 entry.2 found).1, rfl⟩
  have kept : registry.keepOnly (Keyed.keys fields) = registry := by
    have all : (registry.bindings.filter fun entry => decide (entry.1 ∈ Keyed.keys fields)) =
        registry.bindings := by
      apply List.filter_eq_self.mpr
      intro entry member
      exact decide_eq_true (present entry member)
    rw [keepOnly, all]
  have gone : registry.missing (Keyed.keys fields) = [] := by
    apply List.filter_eq_nil_iff.mpr
    intro device member
    obtain ⟨entry, listed, rfl⟩ := List.mem_map.mp member
    simpa using present entry listed
  simp only [sync, observeAll_of_synced synced distinct (List.Subset.refl fields), kept, gone]
  rfl

theorem Synced.rawText_iff (synced : Synced compile marker fields registry) :
    (registry.find? device).map (·.rawText) = some text ↔
      (device, text) ∈ fields ∧ Text.startsWith text marker = true := by
  constructor
  · intro bound
    obtain ⟨binding, found, rfl⟩ := Option.map_eq_some_iff.mp bound
    exact synced.only device binding found
  · rintro ⟨member, marked⟩
    obtain ⟨template, _, found⟩ := synced.asked device text member marked
    rw [found]
    rfl

theorem sync_of_compiles (coherent : Coherent compile registry)
    (compiles : ∀ field ∈ fields, Compiles compile registry.marker field.2) :
    (registry.sync compile fields).result = .ok () := by
  apply (sync_eq_ok_iff coherent fields).mpr
  intro field member
  exact reading_succeeds_iff.mpr (compiles field member)

theorem settled_of_compiles (coherent : Coherent compile registry)
    (distinct : Keyed.Distinct fields)
    (compiles : ∀ field ∈ fields, Compiles compile registry.marker field.2) :
    Settled compile registry.marker registry.devices fields (registry.sync compile fields) := by
  have returned := sync_of_compiles coherent compiles
  have synced := sync_synced coherent distinct returned
  obtain ⟨kept, marked⟩ := sync_preserves coherent fields
  constructor
  case returns => exact returned
  case once => exact synced.distinct
  case texts =>
    intro device text
    exact synced.rawText_iff
  case templates =>
    intro device binding found
    exact (reading_eq_some_iff.mp (kept.current device binding found)).2.2.2
  case order => exact devices_sync coherent distinct returned
  case steady =>
    rw [← marked] at synced
    exact sync_of_synced synced distinct

theorem find?_sync_eq {other : Registry} (coherent : Coherent compile registry)
    (alsoCoherent : Coherent compile other) (sameMarker : other.marker = registry.marker)
    (distinct : Keyed.Distinct fields)
    (compiles : ∀ field ∈ fields, Compiles compile registry.marker field.2) (device : Text) :
    (other.sync compile fields).registry.find? device =
      (registry.sync compile fields).registry.find? device := by
  have returned := sync_of_compiles coherent compiles
  rw [← sameMarker] at compiles
  have alsoReturned := sync_of_compiles alsoCoherent compiles
  apply Option.ext
  intro binding
  rw [find?_sync_eq_some_iff coherent distinct returned,
    find?_sync_eq_some_iff alsoCoherent distinct alsoReturned, sameMarker]

/-- Whatever operations came before, a sync whose marked texts can all be compiled returns and binds
each device to its own marked text, in an order that keeps the old devices in front; the bindings do
not depend on what was bound before, and another sync with these fields does nothing at all. -/
theorem sync_settles_whatever_was_bound (compile : Compiler fault) (marker : Text)
    (operations : List Operation) {fields : List (Text × Text)} (distinct : Keyed.Distinct fields)
    (compiles : ∀ field ∈ fields, Compiles compile marker field.2) :
    let registry := run compile { marker } operations
    Settled compile marker registry.devices fields (registry.sync compile fields) ∧
      ∀ others device,
        ((run compile { marker } others).sync compile fields).registry.find? device =
          (registry.sync compile fields).registry.find? device := by
  intro registry
  have start := Coherent.empty compile marker
  obtain ⟨coherent, marked⟩ := run_preserves start operations
  have same : registry.marker = marker := marked
  rw [← same] at compiles
  constructor
  · rw [← same]
    exact settled_of_compiles coherent distinct compiles
  · intro others device
    obtain ⟨alsoCoherent, alsoMarked⟩ := run_preserves start others
    exact find?_sync_eq coherent alsoCoherent (alsoMarked.trans same.symm) distinct compiles device

/-- A device that stays, one that loses the marker, one that has no field and two new ones, of which
the first was bound once before. -/
theorem settled_over_older_bindings :
    let operations : List Operation :=
      [.observe ['e'] "#\nhi".toList,
        .sync [(['a'], "#\n<mass>".toList), (['b'], "#\n<mass>".toList), (['c'], "#".toList)]]
    let fields : List (Text × Text) :=
      [(['d'], "#\n<volume>".toList), (['c'], "#\nup".toList), (['b'], "off".toList),
        (['e'], "#\nhi".toList), (['f'], "<mass>".toList)]
    let registry := run Template.compile { marker := ['#'] } operations
    let synced := registry.sync Template.compile fields
    Keyed.Distinct fields ∧ (∀ field ∈ fields, Compiles Template.compile ['#'] field.2) ∧
      registry.devices = [['a'], ['b'], ['c']] ∧
      synced.registry.devices = [['c'], ['d'], ['e']] ∧
      Settled Template.compile ['#'] registry.devices fields synced := by
  intro operations fields registry synced
  have distinct : Keyed.Distinct fields := by decide +kernel
  have compiles : ∀ field ∈ fields, Compiles Template.compile ['#'] field.2 := by decide +kernel
  have settled :=
    (sync_settles_whatever_was_bound Template.compile ['#'] operations distinct compiles).1
  have before : registry.devices = [['a'], ['b'], ['c']] := by decide +kernel
  refine ⟨distinct, compiles, before, ?_, settled⟩
  have order := settled.order
  rw [before] at order
  exact order.trans (by decide +kernel)

end Wallboard.Registry
