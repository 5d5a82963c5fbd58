import Wallboard.Proofs.Registry.Coherence

namespace Wallboard.Registry

variable {fault : Type} {compile : Compiler fault} {registry : Registry} {marker text device : Text}
  {fields : List (Text × Text)}

def FirstFault (compile : Compiler fault) (marker : Text) (fields : List (Text × Text))
    (cause : fault) : Prop :=
  ∃ before field after, fields = before ++ field :: after ∧
    (∀ earlier ∈ before, ∃ asked, reading compile marker earlier.1 earlier.2 = .ok asked) ∧
      reading compile marker field.1 field.2 = .error cause

/-- The registry binds each device whose field has the marker to the template of that field, and no
other device. -/
structure Synced (compile : Compiler fault) (marker : Text) (fields : List (Text × Text))
    (registry : Registry) : Prop where
  distinct : Keyed.Distinct registry.bindings
  asked : ∀ device text, (device, text) ∈ fields → Text.startsWith text marker = true →
    ∃ template, compile (templateBody text) = .ok template ∧
      registry.find? device = some ⟨device, text, template⟩
  only : ∀ device binding, registry.find? device = some binding →
    (device, binding.rawText) ∈ fields ∧ Text.startsWith binding.rawText marker = true

theorem firstFault_cons_of_ok {field : Text × Text} {cause : fault} {asked : Option Binding}
    (sound : reading compile marker field.1 field.2 = .ok asked) :
    FirstFault compile marker (field :: fields) cause ↔ FirstFault compile marker fields cause := by
  constructor
  · rintro ⟨before, failing, after, shape, earlier, failed⟩
    cases before with
    | nil =>
        have same : field = failing := (List.cons.inj shape).1
        subst same
        rw [sound] at failed
        cases failed
    | cons head before =>
        refine ⟨before, failing, after, (List.cons.inj shape).2, ?_, failed⟩
        intro known member
        exact earlier known (List.mem_cons_of_mem head member)
  · rintro ⟨before, failing, after, rfl, earlier, failed⟩
    refine ⟨field :: before, failing, after, rfl, ?_, failed⟩
    intro known member
    rcases List.mem_cons.mp member with rfl | member
    · exact ⟨asked, sound⟩
    · exact earlier known member

theorem firstFault_cons_of_error {field : Text × Text} {cause found : fault}
    (failed : reading compile marker field.1 field.2 = .error found) :
    FirstFault compile marker (field :: fields) cause ↔ found = cause := by
  constructor
  · rintro ⟨before, failing, after, shape, earlier, wrong⟩
    cases before with
    | nil =>
        have same : field = failing := (List.cons.inj shape).1
        subst same
        rw [failed] at wrong
        exact Except.error.inj wrong
    | cons head before =>
        have same : field = head := (List.cons.inj shape).1
        obtain ⟨asked, sound⟩ := earlier head List.mem_cons_self
        rw [← same, failed] at sound
        cases sound
  · rintro rfl
    exact ⟨[], field, fields, rfl, by simp, failed⟩

theorem no_firstFault_iff :
    (∀ cause, ¬ FirstFault compile marker fields cause) ↔
      ∀ field ∈ fields, ∃ asked, reading compile marker field.1 field.2 = .ok asked := by
  induction fields with
  | nil => simp [FirstFault]
  | cons field rest ih =>
      rw [List.forall_mem_cons]
      cases asked : reading compile marker field.1 field.2 with
      | error found => simp [firstFault_cons_of_error asked]
      | ok binding => simp [firstFault_cons_of_ok asked, ih]

theorem marker_observe (coherent : Coherent compile registry) (device text : Text) :
    (registry.observe compile device text).registry.marker = registry.marker := by
  rw [(observe_eq_settle coherent device text).2, marker_settle]

theorem Coherent.observe (coherent : Coherent compile registry) (device text : Text) :
    Coherent compile (registry.observe compile device text).registry := by
  rw [(observe_eq_settle coherent device text).2]
  exact coherent.settle device text

theorem observeAll_cons_of_error {rest : List (Text × Text)} {cause : fault}
    (failed : (registry.observe compile device text).result = .error cause) :
    (registry.observeAll compile ((device, text) :: rest)).result = .error cause ∧
      (registry.observeAll compile ((device, text) :: rest)).registry =
        (registry.observe compile device text).registry := by
  simp [observeAll, failed]

theorem observeAll_cons_of_ok {rest : List (Text × Text)} {asked : Option Binding}
    (observed : (registry.observe compile device text).result = .ok asked) :
    (registry.observeAll compile ((device, text) :: rest)).result =
        ((registry.observe compile device text).registry.observeAll compile rest).result ∧
      (registry.observeAll compile ((device, text) :: rest)).registry =
        ((registry.observe compile device text).registry.observeAll compile rest).registry := by
  simp [observeAll, observed]

theorem observeAll_preserves (coherent : Coherent compile registry)
    (fields : List (Text × Text)) :
    Coherent compile (registry.observeAll compile fields).registry ∧
      (registry.observeAll compile fields).registry.marker = registry.marker := by
  induction fields generalizing registry with
  | nil => exact ⟨coherent, rfl⟩
  | cons field rest ih =>
      rcases field with ⟨device, text⟩
      have kept := coherent.observe device text
      have marked := marker_observe coherent device text
      cases observed : (registry.observe compile device text).result with
      | error cause =>
          rw [(observeAll_cons_of_error observed).2]
          exact ⟨kept, marked⟩
      | ok asked =>
          rw [(observeAll_cons_of_ok observed).2, ← marked]
          exact ih kept

theorem observeAll_eq_error_iff (coherent : Coherent compile registry)
    (fields : List (Text × Text)) (cause : fault) :
    (registry.observeAll compile fields).result = .error cause ↔
      FirstFault compile registry.marker fields cause := by
  induction fields generalizing registry with
  | nil => simp [observeAll, FirstFault]
  | cons field rest ih =>
      rcases field with ⟨device, text⟩
      have observed := (observe_eq_settle coherent device text).1
      cases asked : reading compile registry.marker device text with
      | error found =>
          rw [asked] at observed
          rw [(observeAll_cons_of_error observed).1, firstFault_cons_of_error asked,
            Except.error.injEq]
      | ok binding =>
          rw [asked] at observed
          rw [(observeAll_cons_of_ok observed).1, firstFault_cons_of_ok asked,
            ih (coherent.observe device text), marker_observe coherent]

theorem find?_observeAll_of_not_mem (coherent : Coherent compile registry)
    (absent : device ∉ Keyed.keys fields) :
    (registry.observeAll compile fields).registry.find? device = registry.find? device := by
  induction fields generalizing registry with
  | nil => rfl
  | cons field rest ih =>
      rcases field with ⟨other, text⟩
      have differ : device ≠ other ∧ device ∉ Keyed.keys rest := by
        simpa [Keyed.keys] using absent
      have unchanged : (registry.observe compile other text).registry.find? device =
          registry.find? device := by
        rw [(observe_eq_settle coherent other text).2, find?_settle_of_ne differ.1]
      cases observed : (registry.observe compile other text).result with
      | error cause => rw [(observeAll_cons_of_error observed).2, unchanged]
      | ok asked =>
          rw [(observeAll_cons_of_ok observed).2, ih (coherent.observe other text) differ.2,
            unchanged]

theorem find?_observeAll_of_mem (coherent : Coherent compile registry)
    (distinct : Keyed.Distinct fields)
    (observed : (registry.observeAll compile fields).result = .ok ())
    (member : (device, text) ∈ fields) :
    reading compile registry.marker device text =
      .ok ((registry.observeAll compile fields).registry.find? device) := by
  induction fields generalizing registry with
  | nil => cases member
  | cons field rest ih =>
      rcases field with ⟨first, shown⟩
      obtain ⟨result, settled⟩ := observe_eq_settle coherent first shown
      cases asked : reading compile registry.marker first shown with
      | error cause =>
          rw [asked] at result
          rw [(observeAll_cons_of_error result).1] at observed
          cases observed
      | ok binding =>
          rw [asked] at result settled
          obtain ⟨sameResult, sameRegistry⟩ := @observeAll_cons_of_ok _ _ _ _ _ rest _ result
          rw [sameResult] at observed
          rw [sameRegistry]
          rcases List.mem_cons.mp member with here | later
          · obtain ⟨rfl, rfl⟩ := Prod.mk.inj here
            rw [find?_observeAll_of_not_mem (coherent.observe device text) distinct.head, settled,
              find?_settle_self, asked]
          · rw [← marker_observe coherent first shown]
            exact ih (coherent.observe first shown) distinct.tail observed later

theorem sync_of_error {cause : fault}
    (failed : (registry.observeAll compile fields).result = .error cause) :
    registry.sync compile fields = registry.observeAll compile fields := by
  simp [sync, failed]

theorem sync_of_ok (observed : (registry.observeAll compile fields).result = .ok ()) :
    (registry.sync compile fields).result = .ok () ∧
      (registry.sync compile fields).registry =
        (registry.observeAll compile fields).registry.keepOnly (Keyed.keys fields) := by
  simp [sync, observed]

theorem sync_preserves (coherent : Coherent compile registry) (fields : List (Text × Text)) :
    Coherent compile (registry.sync compile fields).registry ∧
      (registry.sync compile fields).registry.marker = registry.marker := by
  have kept := observeAll_preserves coherent fields
  cases observed : (registry.observeAll compile fields).result with
  | error cause =>
      rw [sync_of_error observed]
      exact kept
  | ok done =>
      rw [(sync_of_ok observed).2]
      exact ⟨kept.1.keepOnly _, kept.2⟩

theorem sync_eq_error_iff (coherent : Coherent compile registry) (fields : List (Text × Text))
    (cause : fault) :
    (registry.sync compile fields).result = .error cause ↔
      FirstFault compile registry.marker fields cause := by
  rw [← observeAll_eq_error_iff coherent]
  cases observed : (registry.observeAll compile fields).result with
  | error found => rw [sync_of_error observed, observed]
  | ok done => simp [(sync_of_ok observed).1]

theorem sync_eq_ok_iff (coherent : Coherent compile registry) (fields : List (Text × Text)) :
    (registry.sync compile fields).result = .ok () ↔
      ∀ field ∈ fields, ∃ asked, reading compile registry.marker field.1 field.2 = .ok asked := by
  have stops := sync_eq_error_iff coherent fields
  simp only [← no_firstFault_iff, ← stops]
  cases (registry.sync compile fields).result with
  | error cause => simp
  | ok done => simp

theorem find?_sync (coherent : Coherent compile registry) (distinct : Keyed.Distinct fields)
    (synced : (registry.sync compile fields).result = .ok ()) (device : Text) :
    (∀ text, (device, text) ∈ fields → reading compile registry.marker device text =
        .ok ((registry.sync compile fields).registry.find? device)) ∧
      (device ∉ Keyed.keys fields →
        (registry.sync compile fields).registry.find? device = none) := by
  cases observed : (registry.observeAll compile fields).result with
  | error cause =>
      rw [sync_of_error observed, observed] at synced
      cases synced
  | ok done =>
      rw [(sync_of_ok observed).2, find?_keepOnly]
      constructor
      · intro text member
        have present : device ∈ Keyed.keys fields := List.mem_map.mpr ⟨(device, text), member, rfl⟩
        rw [if_pos present]
        exact find?_observeAll_of_mem coherent distinct observed member
      · intro absent
        exact if_neg absent

theorem find?_sync_eq_some_iff (coherent : Coherent compile registry)
    (distinct : Keyed.Distinct fields) (synced : (registry.sync compile fields).result = .ok ())
    {binding : Binding} :
    (registry.sync compile fields).registry.find? device = some binding ↔
      ∃ text, (device, text) ∈ fields ∧
        reading compile registry.marker device text = .ok (some binding) := by
  obtain ⟨asked, absent⟩ := find?_sync coherent distinct synced device
  constructor
  · intro found
    have present : device ∈ Keyed.keys fields := by
      by_contra missing
      rw [absent missing] at found
      cases found
    obtain ⟨text, field⟩ := Keyed.mem_keys_iff.mp present
    have member := Keyed.mem_of_find? field
    exact ⟨text, member, by rw [asked text member, found]⟩
  · rintro ⟨text, member, wanted⟩
    rw [asked text member] at wanted
    exact Except.ok.inj wanted

theorem sync_synced (coherent : Coherent compile registry) (distinct : Keyed.Distinct fields)
    (synced : (registry.sync compile fields).result = .ok ()) :
    Synced compile registry.marker fields (registry.sync compile fields).registry := by
  constructor
  case distinct => exact (sync_preserves coherent fields).1.distinct
  case asked =>
    intro device text member marked
    obtain ⟨asked, read⟩ := (sync_eq_ok_iff coherent fields).mp synced (device, text) member
    obtain ⟨template, compiled⟩ := reading_succeeds_iff.mp ⟨asked, read⟩ marked
    have wanted : reading compile registry.marker device text =
        .ok (some ⟨device, text, template⟩) :=
      reading_eq_some_iff.mpr ⟨marked, rfl, rfl, compiled⟩
    exact ⟨template, compiled,
      (find?_sync_eq_some_iff coherent distinct synced).mpr ⟨text, member, wanted⟩⟩
  case only =>
    intro device binding found
    obtain ⟨text, member, asked⟩ := (find?_sync_eq_some_iff coherent distinct synced).mp found
    obtain ⟨marked, _, same, _⟩ := reading_eq_some_iff.mp asked
    rw [same]
    exact ⟨member, marked⟩

theorem perform_preserves (coherent : Coherent compile registry) (operation : Operation) :
    Coherent compile (registry.perform compile operation).registry ∧
      (registry.perform compile operation).registry.marker = registry.marker := by
  cases operation with
  | observe device text => exact ⟨coherent.observe device text, marker_observe coherent device text⟩
  | forget device => exact ⟨coherent.forget device, rfl⟩
  | sync fields => exact sync_preserves coherent fields
  | evaluate snapshot => exact ⟨coherent, rfl⟩

theorem run_preserves (coherent : Coherent compile registry) (operations : List Operation) :
    Coherent compile (registry.run compile operations) ∧
      (registry.run compile operations).marker = registry.marker := by
  induction operations generalizing registry with
  | nil => exact ⟨coherent, rfl⟩
  | cons operation rest ih =>
      obtain ⟨kept, marked⟩ := perform_preserves coherent operation
      obtain ⟨reached, remarked⟩ := ih kept
      exact ⟨reached, remarked.trans marked⟩

end Wallboard.Registry
