import Wallboard.Proofs.Registry.Steady

namespace Wallboard.Registry

variable {fault : Type} {compile : Compiler fault} {registry : Registry} {marker device text : Text}
  {fields before others : List (Text × Text)}

def rawTexts (registry : Registry) : List (Text × Text) :=
  registry.bindings.map fun entry => (entry.1, entry.2.rawText)

/-- The bodies of the marked texts that their devices did not have before, in the order of the
fields. -/
def changedBodies (marker : Text) (before fields : List (Text × Text)) : List Text :=
  (fields.filter fun field =>
    Text.startsWith field.2 marker && decide (Keyed.find? field.1 before ≠ some field.2)).map
    fun field => templateBody field.2

def syncs (compile : Compiler fault) (registry : Registry) :
    List (List (Text × Text)) → List (Outcome fault Unit)
  | [] => []
  | fields :: rest =>
      let synced := registry.sync compile fields
      synced :: syncs compile synced.registry rest

def Holds (marker : Text) (registry : Registry) (fields : List (Text × Text)) : Prop :=
  ∀ device text, Text.startsWith text marker = true →
    (Keyed.find? device registry.rawTexts = some text ↔ Keyed.find? device fields = some text)

theorem find?_rawTexts (registry : Registry) (device : Text) :
    Keyed.find? device registry.rawTexts = (registry.find? device).map (·.rawText) :=
  Keyed.find?_map _ device registry.bindings

theorem changedBodies_cons (marker : Text) (before : List (Text × Text)) (field : Text × Text)
    (fields : List (Text × Text)) :
    changedBodies marker before (field :: fields) =
      changedBodies marker before [field] ++ changedBodies marker before fields := by
  rw [changedBodies, changedBodies, changedBodies, ← List.map_append, ← List.filter_append]
  rfl

theorem changedBodies_congr
    (same : ∀ field ∈ fields, Text.startsWith field.2 marker = true →
      (Keyed.find? field.1 before = some field.2 ↔ Keyed.find? field.1 others = some field.2)) :
    changedBodies marker before fields = changedBodies marker others fields := by
  unfold changedBodies
  congr 1
  apply List.filter_congr
  intro field member
  by_cases marked : Text.startsWith field.2 marker = true
  · simp [marked, same field member marked]
  · simp [marked]

theorem compiled_rebind (compile : Compiler fault) (registry : Registry) (device text : Text) :
    (registry.rebind compile device text).compiled = [templateBody text] := by
  simp only [rebind]
  split <;> rfl

theorem compiled_observe (compile : Compiler fault) (registry : Registry) (device text : Text) :
    (registry.observe compile device text).compiled =
      changedBodies registry.marker registry.rawTexts [(device, text)] := by
  unfold observe isMarked changedBodies
  by_cases marked : Text.startsWith text registry.marker = true
  · rw [if_pos marked]
    cases found : registry.find? device with
    | none => simp [compiled_rebind, marked, find?_rawTexts, found]
    | some binding =>
        by_cases same : binding.rawText = text
        · simp [same, find?_rawTexts, found]
        · simp [same, compiled_rebind, marked, find?_rawTexts, found]
  · simp [marked]

theorem compiled_observeAll_cons {rest : List (Text × Text)} {asked : Option Binding}
    (observed : (registry.observe compile device text).result = .ok asked) :
    (registry.observeAll compile ((device, text) :: rest)).compiled =
      (registry.observe compile device text).compiled ++
        ((registry.observe compile device text).registry.observeAll compile rest).compiled := by
  simp [observeAll, observed]

theorem compiled_observeAll (coherent : Coherent compile registry)
    (distinct : Keyed.Distinct fields)
    (observed : (registry.observeAll compile fields).result = .ok ()) :
    (registry.observeAll compile fields).compiled =
      changedBodies registry.marker registry.rawTexts fields := by
  induction fields generalizing registry with
  | nil => rfl
  | cons field rest ih =>
      rcases field with ⟨first, shown⟩
      cases head : (registry.observe compile first shown).result with
      | error cause =>
          rw [(observeAll_cons_of_error head).1] at observed
          cases observed
      | ok asked =>
          rw [(observeAll_cons_of_ok head).1] at observed
          have later := ih (coherent.observe first shown) distinct.tail observed
          rw [marker_observe coherent] at later
          rw [compiled_observeAll_cons head, later, compiled_observe, changedBodies_cons _ _ _ rest]
          congr 1
          -- The other devices still have the texts that they had before the first one was observed.
          apply changedBodies_congr
          intro field member _
          have differ : field.1 ≠ first := by
            rintro rfl
            exact distinct.head (List.mem_map.mpr ⟨field, member, rfl⟩)
          rw [find?_rawTexts, find?_rawTexts, (observe_eq_settle coherent first shown).2,
            find?_settle_of_ne differ]

theorem compiled_sync (coherent : Coherent compile registry) (distinct : Keyed.Distinct fields)
    (synced : (registry.sync compile fields).result = .ok ()) :
    (registry.sync compile fields).compiled =
      changedBodies registry.marker registry.rawTexts fields := by
  cases observed : (registry.observeAll compile fields).result with
  | error cause =>
      rw [sync_of_error observed, observed] at synced
      cases synced
  | ok done =>
      rw [← compiled_observeAll coherent distinct observed]
      simp [sync, observed]

theorem holds_empty (marker : Text) : Holds marker { marker } [] := by
  intro device text _
  rfl

theorem Synced.holds (synced : Synced compile marker fields registry)
    (distinct : Keyed.Distinct fields) : Holds marker registry fields := by
  intro device text marked
  rw [find?_rawTexts, synced.rawText_iff, distinct.find?_eq_some_iff]
  exact and_iff_left marked

theorem compiled_syncs (coherent : Coherent compile registry)
    (holds : Holds registry.marker registry before) {history : List (List (Text × Text))}
    (distinct : ∀ fields ∈ history, Keyed.Distinct fields)
    (compiles : ∀ fields ∈ history, ∀ field ∈ fields, Compiles compile registry.marker field.2) :
    (∀ synced ∈ syncs compile registry history, synced.result = .ok ()) ∧
      (syncs compile registry history).map (·.compiled) =
        List.zipWith (changedBodies registry.marker) (before :: history) history := by
  induction history generalizing registry before with
  | nil => simp [syncs]
  | cons fields rest ih =>
      rw [List.forall_mem_cons] at distinct compiles
      have synced := sync_of_compiles coherent compiles.1
      obtain ⟨kept, marked⟩ := sync_preserves coherent fields
      have next := (sync_synced coherent distinct.1 synced).holds distinct.1
      rw [← marked] at next
      obtain ⟨returned, compiled⟩ := ih kept next distinct.2 (by rw [marked]; exact compiles.2)
      rw [syncs, List.forall_mem_cons, List.map_cons, List.zipWith_cons_cons]
      refine ⟨⟨synced, returned⟩, ?_⟩
      have first : (registry.sync compile fields).compiled =
          changedBodies registry.marker before fields := by
        rw [compiled_sync coherent distinct.1 synced]
        apply changedBodies_congr
        intro field _ wanted
        exact holds field.1 field.2 wanted
      rw [first, compiled, marked]

/-- If every marked text can be compiled, each of some syncs from the start returns and has compiled
exactly the bodies of the marked texts that their devices did not have in the sync before it. -/
theorem syncs_compile_changed_bodies (compile : Compiler fault) (marker : Text)
    {history : List (List (Text × Text))} (distinct : ∀ fields ∈ history, Keyed.Distinct fields)
    (compiles : ∀ fields ∈ history, ∀ field ∈ fields, Compiles compile marker field.2) :
    (∀ synced ∈ syncs compile { marker } history, synced.result = .ok ()) ∧
      (syncs compile { marker } history).map (·.compiled) =
        List.zipWith (changedBodies marker) ([] :: history) history :=
  compiled_syncs (Coherent.empty compile marker) (holds_empty marker) distinct compiles

/-- A text that stays, one that is changed and changed back, a marker that goes and comes again, and
a device that goes and comes again with its old text. -/
theorem compiled_over_returning_texts :
    let history : List (List (Text × Text)) :=
      [[(['a'], "#\n<mass>".toList), (['b'], "#\nup".toList), (['c'], "off".toList)],
        [(['c'], "#\n<volume>".toList), (['a'], "#\n<mass>".toList), (['b'], "#\non".toList)],
        [(['b'], "#\nup".toList), (['a'], "<mass>".toList)],
        [(['c'], "#\n<volume>".toList), (['b'], "#\nup".toList), (['a'], "#\n<mass>".toList)]]
    (∀ fields ∈ history, Keyed.Distinct fields) ∧
      (∀ fields ∈ history, ∀ field ∈ fields, Compiles Template.compile ['#'] field.2) ∧
      (∀ synced ∈ syncs Template.compile { marker := ['#'] } history, synced.result = .ok ()) ∧
      (syncs Template.compile { marker := ['#'] } history).map (·.compiled) =
        [["<mass>".toList, "up".toList], ["<volume>".toList, "on".toList], ["up".toList],
          ["<volume>".toList, "<mass>".toList]] := by
  intro history
  have distinct : ∀ fields ∈ history, Keyed.Distinct fields := by decide +kernel
  have compiles : ∀ fields ∈ history, ∀ field ∈ fields,
      Compiles Template.compile ['#'] field.2 := by decide +kernel
  obtain ⟨returned, compiled⟩ := syncs_compile_changed_bodies Template.compile ['#'] distinct compiles
  have bodies : List.zipWith (changedBodies ['#']) ([] :: history) history =
      [["<mass>".toList, "up".toList], ["<volume>".toList, "on".toList], ["up".toList],
        ["<volume>".toList, "<mass>".toList]] := by
    decide +kernel
  exact ⟨distinct, compiles, returned, compiled.trans bodies⟩

end Wallboard.Registry
