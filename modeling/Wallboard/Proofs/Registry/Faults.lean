import Wallboard.Proofs.Registry.Sync

namespace Wallboard.Registry

variable {fault : Type} {compile : Compiler fault} {registry : Registry} {device text : Text}
  {fields before : List (Text × Text)} {cause : fault}

def Operation.brings : Operation → List (Text × Text)
  | observe device text => [(device, text)]
  | sync fields => fields
  | forget _ => []
  | evaluate _ => []

def observations (fields : List (Text × Text)) : List Operation :=
  fields.map fun field => .observe field.1 field.2

/-- Observing the fields in order succeeds for those `before` and fails at the next one. -/
def InterruptedAfter (compile : Compiler fault) (registry : Registry)
    (fields before : List (Text × Text)) (cause : fault) : Prop :=
  ∃ device text after, fields = before ++ (device, text) :: after ∧
    (registry.observeAll compile before).result = .ok () ∧
      ((registry.run compile (observations before)).observe compile device text).result =
        .error cause

/-- What holds of a registry, and of its next operation, whatever faults were met on the way. -/
structure Withstands (compile : Compiler fault) (registry : Registry)
    (seen : List (Text × Text)) : Prop where
  once : Keyed.Distinct registry.bindings
  paired : ∀ device binding, registry.find? device = some binding →
    binding.device = device ∧ (device, binding.rawText) ∈ seen ∧
      Text.startsWith binding.rawText registry.marker = true ∧
      compile (templateBody binding.rawText) = .ok binding.template
  observe : ∀ device text cause, (registry.observe compile device text).result = .error cause →
    (registry.observe compile device text).registry = registry
  stops : ∀ fields cause, (registry.sync compile fields).result = .error cause ↔
    ∃ before, InterruptedAfter compile registry fields before cause
  reached : ∀ fields before cause, InterruptedAfter compile registry fields before cause →
    (registry.sync compile fields).registry = registry.run compile (observations before)
  kept : ∀ fields before cause, InterruptedAfter compile registry fields before cause →
    ∀ device ∉ Keyed.keys before,
      (registry.sync compile fields).registry.find? device = registry.find? device

theorem observe_of_error (coherent : Coherent compile registry)
    (failed : (registry.observe compile device text).result = .error cause) :
    (registry.observe compile device text).registry = registry := by
  obtain ⟨result, settled⟩ := observe_eq_settle coherent device text
  rw [failed] at result
  rw [settled, ← result]
  rfl

theorem find?_observe (coherent : Coherent compile registry) {other : Text} {binding : Binding}
    (found : (registry.observe compile device text).registry.find? other = some binding) :
    (other = device ∧ binding.rawText = text) ∨ registry.find? other = some binding := by
  rw [(observe_eq_settle coherent device text).2] at found
  by_cases same : other = device
  · subst same
    cases asked : reading compile registry.marker other text with
    | error cause =>
        rw [asked] at found
        exact .inr found
    | ok wanted =>
        rw [asked, find?_settle_self] at found
        subst found
        exact .inl ⟨rfl, (reading_eq_some_iff.mp asked).2.2.1⟩
  · rw [find?_settle_of_ne same] at found
    exact .inr found

theorem find?_observeAll (coherent : Coherent compile registry) {binding : Binding}
    (found : (registry.observeAll compile fields).registry.find? device = some binding) :
    (device, binding.rawText) ∈ fields ∨ registry.find? device = some binding := by
  induction fields generalizing registry with
  | nil => exact .inr found
  | cons field rest ih =>
      rcases field with ⟨first, shown⟩
      have bound : (registry.observe compile first shown).registry.find? device = some binding →
          (device, binding.rawText) ∈ (first, shown) :: rest ∨
            registry.find? device = some binding := by
        intro observed
        rcases find?_observe coherent observed with ⟨rfl, rfl⟩ | earlier
        · exact .inl List.mem_cons_self
        · exact .inr earlier
      cases observed : (registry.observe compile first shown).result with
      | error cause =>
          rw [(observeAll_cons_of_error observed).2] at found
          exact bound found
      | ok asked =>
          rw [(observeAll_cons_of_ok observed).2] at found
          rcases ih (coherent.observe first shown) found with later | earlier
          · exact .inl (List.mem_cons_of_mem (first, shown) later)
          · exact bound earlier

theorem find?_perform (coherent : Coherent compile registry) {operation : Operation}
    {binding : Binding}
    (found : (registry.perform compile operation).registry.find? device = some binding) :
    (device, binding.rawText) ∈ operation.brings ∨ registry.find? device = some binding := by
  cases operation with
  | observe observed text =>
      rcases find?_observe coherent found with ⟨rfl, rfl⟩ | earlier
      · exact .inl List.mem_cons_self
      · exact .inr earlier
  | forget forgotten =>
      simp only [perform, find?_forget] at found
      split at found
      · cases found
      · exact .inr found
  | sync fields =>
      cases observed : (registry.observeAll compile fields).result with
      | error cause =>
          rw [perform, sync_of_error observed] at found
          exact find?_observeAll coherent found
      | ok done =>
          rw [perform, (sync_of_ok observed).2, find?_keepOnly] at found
          split at found
          · exact find?_observeAll coherent found
          · cases found
  | evaluate snapshot => exact .inr found

theorem find?_run (coherent : Coherent compile registry) {operations : List Operation}
    {binding : Binding}
    (found : (registry.run compile operations).find? device = some binding) :
    (device, binding.rawText) ∈ operations.flatMap Operation.brings ∨
      registry.find? device = some binding := by
  induction operations generalizing registry with
  | nil => exact .inr found
  | cons operation rest ih =>
      rw [List.flatMap_cons, List.mem_append]
      rcases ih (perform_preserves coherent operation).1 found with later | reached
      · exact .inl (.inr later)
      · rcases find?_perform coherent reached with brought | earlier
        · exact .inl (.inl brought)
        · exact .inr earlier

theorem observeAll_eq_run (observed : (registry.observeAll compile fields).result = .ok ()) :
    (registry.observeAll compile fields).registry =
      registry.run compile (observations fields) := by
  induction fields generalizing registry with
  | nil => rfl
  | cons field rest ih =>
      rcases field with ⟨first, shown⟩
      cases head : (registry.observe compile first shown).result with
      | error cause =>
          rw [(observeAll_cons_of_error head).1] at observed
          cases observed
      | ok asked =>
          obtain ⟨sameResult, sameRegistry⟩ := @observeAll_cons_of_ok _ _ _ _ _ rest _ head
          rw [sameResult] at observed
          rw [sameRegistry, ih observed]
          rfl

theorem observeAll_append_of_ok {after : List (Text × Text)}
    (observed : (registry.observeAll compile before).result = .ok ()) :
    (registry.observeAll compile (before ++ after)).result =
        ((registry.observeAll compile before).registry.observeAll compile after).result ∧
      (registry.observeAll compile (before ++ after)).registry =
        ((registry.observeAll compile before).registry.observeAll compile after).registry := by
  induction before generalizing registry with
  | nil => exact ⟨rfl, rfl⟩
  | cons field rest ih =>
      rcases field with ⟨first, shown⟩
      cases head : (registry.observe compile first shown).result with
      | error cause =>
          rw [(observeAll_cons_of_error head).1] at observed
          cases observed
      | ok asked =>
          rw [(observeAll_cons_of_ok head).1] at observed
          obtain ⟨result, reached⟩ := ih observed
          rw [List.cons_append, (observeAll_cons_of_ok head).1, (observeAll_cons_of_ok head).2,
            (observeAll_cons_of_ok head).2]
          exact ⟨result, reached⟩

theorem sync_of_interrupted (coherent : Coherent compile registry)
    (interrupted : InterruptedAfter compile registry fields before cause) :
    (registry.sync compile fields).result = .error cause ∧
      (registry.sync compile fields).registry = (registry.observeAll compile before).registry := by
  obtain ⟨device, text, after, rfl, observed, failed⟩ := interrupted
  rw [← observeAll_eq_run observed] at failed
  have unchanged := observe_of_error (observeAll_preserves coherent before).1 failed
  obtain ⟨stopped, stayed⟩ := @observeAll_cons_of_error _ _ _ _ _ after _ failed
  obtain ⟨sameResult, sameRegistry⟩ :=
    @observeAll_append_of_ok _ _ _ _ ((device, text) :: after) observed
  rw [sync_of_error (sameResult.trans stopped)]
  exact ⟨sameResult.trans stopped, sameRegistry.trans (stayed.trans unchanged)⟩

theorem interrupted_of_observeAll_error
    (failed : (registry.observeAll compile fields).result = .error cause) :
    ∃ before, InterruptedAfter compile registry fields before cause := by
  induction fields generalizing registry with
  | nil => cases failed
  | cons field rest ih =>
      rcases field with ⟨first, shown⟩
      cases head : (registry.observe compile first shown).result with
      | error found =>
          rw [(observeAll_cons_of_error head).1] at failed
          obtain rfl : found = cause := Except.error.inj failed
          exact ⟨[], first, shown, rest, rfl, rfl, head⟩
      | ok asked =>
          rw [(observeAll_cons_of_ok head).1] at failed
          obtain ⟨before, device, text, after, rfl, observed, stopped⟩ := ih failed
          refine ⟨(first, shown) :: before, device, text, after, rfl, ?_, stopped⟩
          rw [(observeAll_cons_of_ok head).1, observed]

theorem sync_interrupted_iff (coherent : Coherent compile registry)
    (fields : List (Text × Text)) (cause : fault) :
    (registry.sync compile fields).result = .error cause ↔
      ∃ before, InterruptedAfter compile registry fields before cause := by
  constructor
  · intro failed
    cases observed : (registry.observeAll compile fields).result with
    | error found =>
        rw [sync_of_error observed, observed] at failed
        obtain rfl : found = cause := Except.error.inj failed
        exact interrupted_of_observeAll_error observed
    | ok done =>
        rw [(sync_of_ok observed).1] at failed
        cases failed
  · rintro ⟨before, interrupted⟩
    exact (sync_of_interrupted coherent interrupted).1

/-- After any operations, those that met a fault among them, each binding is of the device that it
is kept for and holds the template of its own marked text; a failing observation changes nothing,
and a failing sync leaves what observing the fields before its fault leaves. -/
theorem run_withstands_faults (compile : Compiler fault) (marker : Text)
    (operations : List Operation) :
    Withstands compile (run compile { marker } operations)
      (operations.flatMap Operation.brings) := by
  have start := Coherent.empty compile marker
  have coherent := (run_preserves start operations).1
  constructor
  case once => exact coherent.distinct
  case paired =>
    intro device binding found
    obtain ⟨marked, own, _, compiled⟩ :=
      reading_eq_some_iff.mp (coherent.current device binding found)
    rcases find?_run start found with brought | earlier
    · exact ⟨own, brought, marked, compiled⟩
    · cases earlier
  case observe =>
    intro device text cause failed
    exact observe_of_error coherent failed
  case stops => exact sync_interrupted_iff coherent
  case reached =>
    intro fields before cause interrupted
    obtain ⟨_, _, _, _, observed, _⟩ := id interrupted
    rw [(sync_of_interrupted coherent interrupted).2, observeAll_eq_run observed]
  case kept =>
    intro fields before cause interrupted device absent
    rw [(sync_of_interrupted coherent interrupted).2]
    exact find?_observeAll_of_not_mem coherent absent

/-- A sync that is interrupted at its second field: the first device has its new text, the second
its old one, and the third is not forgotten. -/
example :
    let compile : Compiler Unit := fun body =>
      if body = "bad".toList then .error () else .ok (.valid [.literal body])
    let registry := run compile { marker := ['#'] }
      [.sync [(['a'], "#\nx".toList), (['b'], "#\ny".toList), (['c'], "#\nz".toList)]]
    let synced := registry.sync compile
      [(['a'], "#\nnew".toList), (['b'], "#\nbad".toList), (['d'], "#\nw".toList)]
    synced.result = .error () ∧
      synced.registry.bindings.map (fun entry => (entry.1, entry.2.rawText)) =
        [(['a'], "#\nnew".toList), (['b'], "#\ny".toList), (['c'], "#\nz".toList)] := by
  decide +kernel

end Wallboard.Registry
