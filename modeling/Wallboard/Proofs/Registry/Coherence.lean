import Wallboard.Proofs.Keyed
import Wallboard.Registry

/-!
A registry is coherent if each of its bindings is what reading its text anew would give. Operations
keep a registry coherent, so that what they do follows from the texts alone and not from the
templates that happened to be kept.
-/
namespace Wallboard.Registry

variable {fault : Type}

/-- What the text of a device asks for: no binding without the marker, and with it the template of
its body. -/
def reading (compile : Compiler fault) (marker device text : Text) :
    Except fault (Option Binding) :=
  if Text.startsWith text marker then
    (compile (templateBody text)).map fun template => some ⟨device, text, template⟩
  else .ok none

def settle (registry : Registry) (device : Text) : Except fault (Option Binding) → Registry
  | .error _ => registry
  | .ok none => registry.forget device
  | .ok (some binding) => registry.bind device binding

structure Coherent (compile : Compiler fault) (registry : Registry) : Prop where
  distinct : Keyed.Distinct registry.bindings
  current : ∀ device binding, registry.find? device = some binding →
    reading compile registry.marker device binding.rawText = .ok (some binding)

inductive Operation
  | observe (device text : Text)
  | forget (device : Text)
  | sync (fields : List (Text × Text))
  | evaluate (snapshot : Snapshot)

def perform (compile : Compiler fault) (registry : Registry) : Operation → Outcome fault Unit
  | .observe device text =>
      let observed := registry.observe compile device text
      { result := observed.result.map fun _ => ()
        registry := observed.registry
        compiled := observed.compiled
        notices := observed.notices }
  | .forget device =>
      { result := .ok ()
        registry := registry.forget device
        notices := registry.forgetNotices device }
  | .sync fields => registry.sync compile fields
  | .evaluate snapshot =>
      { result := .ok ()
        registry
        notices := (registry.evaluations snapshot).flatMap fun entry => entry.2.notices }

/-- The registry after some operations, those that met a fault among them. -/
def run (compile : Compiler fault) (registry : Registry) (operations : List Operation) : Registry :=
  operations.foldl (fun reached operation => (reached.perform compile operation).registry) registry

variable {compile : Compiler fault} {registry : Registry} {marker text device : Text}
  {fields : List (Text × Text)}

theorem find?_bind (registry : Registry) (device other : Text) (binding : Binding) :
    (registry.bind device binding).find? other =
      if other = device then some binding else registry.find? other :=
  Keyed.find?_put device other binding registry.bindings

theorem find?_forget (registry : Registry) (device other : Text) :
    (registry.forget device).find? other =
      if other = device then none else registry.find? other :=
  Keyed.find?_erase device other registry.bindings

theorem find?_keepOnly (registry : Registry) (present : List Text) (device : Text) :
    (registry.keepOnly present).find? device =
      if device ∈ present then registry.find? device else none := by
  have kept := Keyed.find?_filter (fun known => decide (known ∈ present)) device registry.bindings
  simpa [keepOnly, find?] using kept

theorem marker_settle (registry : Registry) (device : Text)
    (asked : Except fault (Option Binding)) : (registry.settle device asked).marker =
      registry.marker := by
  rcases asked with fault | (_ | binding) <;> rfl

theorem find?_settle_of_ne {other : Text} (differ : other ≠ device)
    (asked : Except fault (Option Binding)) :
    (registry.settle device asked).find? other = registry.find? other := by
  rcases asked with fault | (_ | binding)
  · rfl
  · simp [settle, find?_forget, differ]
  · simp [settle, find?_bind, differ]

theorem find?_settle_self (registry : Registry) (device : Text) (asked : Option Binding) :
    (registry.settle device (.ok asked : Except fault (Option Binding))).find? device = asked := by
  cases asked with
  | none => simp [settle, find?_forget]
  | some binding => simp [settle, find?_bind]

theorem reading_eq_some_iff {binding : Binding} :
    reading compile marker device text = .ok (some binding) ↔
      Text.startsWith text marker = true ∧ binding.device = device ∧ binding.rawText = text ∧
        compile (templateBody text) = .ok binding.template := by
  rcases binding with ⟨bound, rawText, template⟩
  unfold reading
  by_cases marked : Text.startsWith text marker = true
  · rw [if_pos marked]
    cases compiled : compile (templateBody text) with
    | error fault => simp [Except.map]
    | ok made => simp [Except.map, marked, eq_comm]
  · simp [marked]

theorem reading_succeeds_iff :
    (∃ asked, reading compile marker device text = .ok asked) ↔
      (Text.startsWith text marker = true →
        ∃ template, compile (templateBody text) = .ok template) := by
  unfold reading
  by_cases marked : Text.startsWith text marker = true
  · cases compiled : compile (templateBody text) with
    | error fault => simp [marked, Except.map]
    | ok made => simp [marked, Except.map]
  · simp [marked]

namespace Coherent

theorem empty (compile : Compiler fault) (marker : Text) : Coherent compile { marker } :=
  ⟨List.nodup_nil, by intro device binding found; cases found⟩

theorem settle (coherent : Coherent compile registry) (device text : Text) :
    Coherent compile (registry.settle device (reading compile registry.marker device text)) := by
  constructor
  · rcases reading compile registry.marker device text with fault | (_ | binding)
    · exact coherent.distinct
    · exact coherent.distinct.erase device
    · exact coherent.distinct.put device binding
  · intro other binding found
    rw [marker_settle]
    by_cases same : other = device
    · subst same
      cases asked : reading compile registry.marker other text with
      | error fault =>
          rw [asked] at found
          exact coherent.current other binding found
      | ok kept =>
          rw [asked, find?_settle_self] at found
          subst found
          rw [(reading_eq_some_iff.mp asked).2.2.1, asked]
    · rw [find?_settle_of_ne same] at found
      exact coherent.current other binding found

theorem forget (coherent : Coherent compile registry) (device : Text) :
    Coherent compile (registry.forget device) := by
  constructor
  · exact coherent.distinct.erase device
  · intro other binding found
    rw [find?_forget] at found
    split at found
    · cases found
    · exact coherent.current other binding found

theorem keepOnly (coherent : Coherent compile registry) (present : List Text) :
    Coherent compile (registry.keepOnly present) := by
  constructor
  · exact coherent.distinct.filter fun device => decide (device ∈ present)
  · intro device binding found
    rw [find?_keepOnly] at found
    split at found
    · exact coherent.current device binding found
    · cases found

end Coherent

theorem observe_eq_settle (coherent : Coherent compile registry) (device text : Text) :
    (registry.observe compile device text).result = reading compile registry.marker device text ∧
      (registry.observe compile device text).registry =
        registry.settle device (reading compile registry.marker device text) := by
  have rebound (marked : Text.startsWith text registry.marker = true) :
      (registry.rebind compile device text).result = reading compile registry.marker device text ∧
        (registry.rebind compile device text).registry =
          registry.settle device (reading compile registry.marker device text) := by
    cases compiled : compile (templateBody text) with
    | error fault => simp [rebind, reading, marked, compiled, Except.map, settle]
    | ok template => simp [rebind, reading, marked, compiled, Except.map, settle]
  unfold observe isMarked
  by_cases marked : Text.startsWith text registry.marker = true
  · rw [if_pos marked]
    cases found : registry.find? device with
    | none => exact rebound marked
    | some binding =>
        by_cases same : binding.rawText = text
        · have asked := coherent.current device binding found
          have unchanged : registry.bind device binding = registry := by
            rw [bind, Keyed.put_eq_self found]
          rw [same] at asked
          simp [same, asked, settle, unchanged]
        · simpa [same] using rebound marked
  · simp [marked, reading, settle]

end Wallboard.Registry
