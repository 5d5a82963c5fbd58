import Wallboard.Proofs.Registry.Faults

/-!
The log of a registry. A change of a binding leaves one line about the device, and nothing else
does. So the last line about a device tells whether it is bound.
-/
namespace Wallboard

namespace Notice

/-- Whether a notice is a line of the registry at the level of information or above that names the
device. -/
def concerns (device : Text) (notice : Notice) : Bool :=
  decide (notice.reporter = "services.registry".toList ∧ Log.Level.info ≤ notice.level ∧
    ("device_id".toList, device) ∈ notice.context)

def subject? : Notice → Option Text
  | templateCompiled device => some device
  | templateRecompiled device => some device
  | templateFailed device _ => some device
  | bindingRemoved device => some device
  | _ => none

variable {device known : Text} {notice : Notice} {others : List (Text × Text)}

theorem mem_device_context (apart : "device_id".toList ∉ Keyed.keys others) :
    ("device_id".toList, device) ∈ ("device_id".toList, known) :: others ↔ known = device := by
  rw [List.mem_cons, Prod.mk.injEq, eq_comm (a := known)]
  constructor
  · rintro (⟨_, same⟩ | other)
    · exact same
    · exact absurd (List.mem_map.mpr ⟨_, other, rfl⟩) apart
  · intro same
    exact .inl ⟨rfl, same⟩

theorem not_concerns_of_reporter (other : notice.reporter ≠ "services.registry".toList) :
    ¬ notice.concerns device = true := by
  rw [concerns, decide_eq_true_eq]
  intro told
  exact other told.1

theorem concerns_iff_of_context (reporter : notice.reporter = "services.registry".toList)
    (level : Log.Level.info ≤ notice.level)
    (context : notice.context = ("device_id".toList, known) :: others)
    (apart : "device_id".toList ∉ Keyed.keys others) :
    notice.concerns device = true ↔ some known = some device := by
  rw [concerns, decide_eq_true_eq, context, mem_device_context apart, Option.some.injEq]
  constructor
  · intro told
    exact told.2.2
  · intro same
    exact ⟨reporter, level, same⟩

theorem concerns_iff : notice.concerns device = true ↔ notice.subject? = some device := by
  have parser : "services.parser".toList ≠ "services.registry".toList := by decide
  have template : "services.template".toList ≠ "services.registry".toList := by decide
  have refresher : "services.refresher".toList ≠ "services.registry".toList := by decide
  have info : Log.Level.info ≤ Log.Level.info := Int.le_refl _
  have warning : Log.Level.info ≤ Log.Level.warning := by decide
  cases notice with
  | templateRejected error => exact iff_of_false (not_concerns_of_reporter parser) nofun
  | elementFailed kind reason => exact iff_of_false (not_concerns_of_reporter template) nofun
  | panelVanished known => exact iff_of_false (not_concerns_of_reporter refresher) nofun
  | cycleComplete bound => exact iff_of_false (not_concerns_of_reporter refresher) nofun
  | templateCompiled known => exact concerns_iff_of_context rfl info rfl List.not_mem_nil
  | templateRecompiled known => exact concerns_iff_of_context rfl info rfl List.not_mem_nil
  | bindingRemoved known => exact concerns_iff_of_context rfl info rfl List.not_mem_nil
  | templateFailed known error =>
      refine concerns_iff_of_context rfl warning rfl ?_
      change "device_id".toList ∉ ["error".toList, "reason".toList]
      decide

end Notice

namespace Registry

def linesAbout (device : Text) (notices : List Notice) : List Notice :=
  notices.filter (Notice.concerns device)

/-- Lines about a device tell how its binding changed: there is none if it did not, and one if it
did, which says whether the binding was removed. -/
inductive Tells : Option Binding → Option Binding → List Notice → Prop
  | unchanged (binding : Option Binding) : Tells binding binding []
  | removed (binding : Binding) {line : Notice} (said : line.message = "Binding removed".toList) :
      Tells (some binding) none [line]
  | bound {before : Option Binding} {binding : Binding} (changed : some binding ≠ before)
      {line : Notice} (said : line.message ≠ "Binding removed".toList) :
      Tells before (some binding) [line]

/-- A call changes the binding of one device at most, and its lines tell that and nothing else. -/
structure Recounts (registry : Registry) (device : Text) (after : Registry)
    (notices : List Notice) : Prop where
  tells : Tells (registry.find? device) (after.find? device) (linesAbout device notices)
  kept : ∀ other, other ≠ device → after.find? other = registry.find? other
  silent : ∀ other, other ≠ device → linesAbout other notices = []

/-- The last line about a device tells whether it is bound. -/
def AccountsFor (log : List Notice) (device : Text) (binding : Option Binding) : Prop :=
  binding.isSome = true ↔ ∃ line, (linesAbout device log).getLast? = some line ∧
    line.message ≠ "Binding removed".toList

def runNotices {fault : Type} (compile : Compiler fault) (registry : Registry) :
    List Operation → List Notice
  | [] => []
  | operation :: rest =>
      (registry.perform compile operation).notices ++
        runNotices compile (registry.perform compile operation).registry rest

theorem linesAbout_append (device : Text) (earlier later : List Notice) :
    linesAbout device (earlier ++ later) = linesAbout device earlier ++ linesAbout device later :=
  List.filter_append earlier later

theorem linesAbout_singleton (device : Text) (notice : Notice) :
    linesAbout device [notice] = if notice.subject? = some device then [notice] else [] := by
  unfold linesAbout
  by_cases subject : notice.subject? = some device
  · rw [if_pos subject, List.filter_cons_of_pos (Notice.concerns_iff.mpr subject), List.filter_nil]
  · have silent : ¬ notice.concerns device = true := mt Notice.concerns_iff.mp subject
    rw [if_neg subject, List.filter_cons_of_neg silent, List.filter_nil]

theorem linesAbout_eq_nil {device : Text} {notices : List Notice}
    (silent : ∀ notice ∈ notices, notice.subject? ≠ some device) :
    linesAbout device notices = [] := by
  apply List.filter_eq_nil_iff.mpr
  intro notice member told
  exact silent notice member (Notice.concerns_iff.mp told)

theorem linesAbout_of_silent {notice : Notice} (silent : notice.subject? = none)
    (device : Text) : linesAbout device [notice] = [] := by
  rw [linesAbout_singleton, silent, if_neg (Option.some_ne_none device).symm]

theorem Tells.length {before after : Option Binding} {lines : List Notice}
    (tells : Tells before after lines) : lines.length = if after = before then 0 else 1 := by
  cases tells with
  | unchanged => rw [if_pos rfl, List.length_nil]
  | removed binding => rw [if_neg nofun, List.length_singleton]
  | bound changed => rw [if_neg changed, List.length_singleton]

theorem Tells.accounts {before after : Option Binding} {device : Text} {log lines : List Notice}
    (accounts : AccountsFor log device before)
    (tells : Tells before after (linesAbout device lines)) :
    AccountsFor (log ++ lines) device after := by
  unfold AccountsFor at accounts ⊢
  rw [linesAbout_append]
  generalize linesAbout device lines = told at tells
  cases tells with
  | unchanged =>
      rw [List.append_nil]
      exact accounts
  | removed binding said =>
      rw [List.getLast?_concat]
      apply iff_of_false nofun
      rintro ⟨line, same, other⟩
      exact other (Option.some.inj same ▸ said)
  | bound changed said =>
      rw [List.getLast?_concat]
      exact iff_of_true rfl ⟨_, rfl, said⟩

theorem linesAbout_rejected (device : Text) (template : Template) :
    linesAbout device template.notices = [] := by
  cases template with
  | valid elements => rfl
  | invalid error => exact linesAbout_of_silent rfl device

variable {fault : Type} {compile : Compiler fault} {registry : Registry} {device text : Text}
  {fields : List (Text × Text)}

theorem Recounts.unchanged (registry : Registry) (device : Text) :
    Recounts registry device registry [] :=
  ⟨.unchanged (registry.find? device), fun _ _ => rfl, fun _ _ => rfl⟩

theorem Recounts.tells_of {after : Registry} {notices : List Notice}
    (recounts : Recounts registry device after notices) (other : Text) :
    Tells (registry.find? other) (after.find? other) (linesAbout other notices) := by
  by_cases same : other = device
  · subst same
    exact recounts.tells
  · rw [recounts.kept other same, recounts.silent other same]
    exact .unchanged (registry.find? other)

theorem recounts_forget (registry : Registry) (device : Text) :
    Recounts registry device (registry.forget device) (registry.forgetNotices device) := by
  constructor
  case tells =>
    rw [find?_forget, if_pos rfl, forgetNotices, contains, Keyed.contains, ← find?]
    cases registry.find? device with
    | none => exact .unchanged none
    | some binding =>
        rw [Option.isSome_some, if_pos rfl, linesAbout_singleton, Notice.subject?, if_pos rfl]
        exact .removed binding rfl
  case kept =>
    intro other differ
    rw [find?_forget, if_neg differ]
  case silent =>
    intro other differ
    unfold forgetNotices
    split
    · rw [linesAbout_singleton, Notice.subject?, if_neg]
      intro same
      exact differ (Option.some.inj same).symm
    · rfl

theorem bindNotices_eq_append (device : Text) (known : Bool) (template : Template) :
    ∃ line : Notice, line.subject? = some device ∧ line.message ≠ "Binding removed".toList ∧
      bindNotices device known template = template.notices ++ [line] := by
  have failed : "Template failed to compile".toList ≠ "Binding removed".toList := by decide
  have compiled : "Template compiled".toList ≠ "Binding removed".toList := by decide
  have recompiled : "Template recompiled".toList ≠ "Binding removed".toList := by decide
  cases template with
  | invalid error => exact ⟨.templateFailed device error, rfl, failed, rfl⟩
  | valid elements =>
      cases known with
      | true => exact ⟨.templateRecompiled device, rfl, recompiled, rfl⟩
      | false => exact ⟨.templateCompiled device, rfl, compiled, rfl⟩

theorem recounts_bind {binding : Binding} (changed : registry.find? device ≠ some binding)
    (known : Bool) (template : Template) :
    Recounts registry device (registry.bind device binding)
      (bindNotices device known template) := by
  obtain ⟨line, subject, said, told⟩ := bindNotices_eq_append device known template
  have about (other : Text) :
      linesAbout other (bindNotices device known template) = linesAbout other [line] := by
    rw [told, linesAbout_append, linesAbout_rejected, List.nil_append]
  constructor
  case tells =>
    rw [about, linesAbout_singleton, if_pos subject, find?_bind, if_pos rfl]
    exact .bound changed.symm said
  case kept =>
    intro other differ
    rw [find?_bind, if_neg differ]
  case silent =>
    intro other differ
    rw [about, linesAbout_singleton, subject, if_neg]
    intro same
    exact differ (Option.some.inj same).symm

theorem recounts_rebind (compile : Compiler fault)
    (changed : ∀ binding, registry.find? device = some binding → binding.rawText ≠ text) :
    Recounts registry device (registry.rebind compile device text).registry
      (registry.rebind compile device text).notices := by
  cases compiled : compile (templateBody text) with
  | error cause =>
      simp only [rebind, compiled]
      exact .unchanged registry device
  | ok template =>
      simp only [rebind, compiled]
      apply recounts_bind
      intro kept
      exact changed _ kept rfl

theorem recounts_observe (compile : Compiler fault) (registry : Registry) (device text : Text) :
    Recounts registry device (registry.observe compile device text).registry
      (registry.observe compile device text).notices := by
  unfold observe
  by_cases marked : registry.isMarked text = true
  · rw [if_pos marked]
    cases found : registry.find? device with
    | none =>
        apply recounts_rebind
        intro binding bound
        rw [found] at bound
        cases bound
    | some known =>
        by_cases same : known.rawText = text
        · simp only [if_pos same]
          exact .unchanged registry device
        · simp only [if_neg same]
          apply recounts_rebind
          intro binding bound
          obtain rfl := Option.some.inj (found.symm.trans bound)
          exact same
  · rw [if_neg marked]
    exact recounts_forget registry device

theorem observeAll_elsewhere (compile : Compiler fault) (registry : Registry)
    (absent : device ∉ Keyed.keys fields) :
    (registry.observeAll compile fields).registry.find? device = registry.find? device ∧
      linesAbout device (registry.observeAll compile fields).notices = [] := by
  induction fields generalizing registry with
  | nil => exact ⟨rfl, rfl⟩
  | cons field rest ih =>
      rcases field with ⟨first, shown⟩
      have differ : device ≠ first ∧ device ∉ Keyed.keys rest := by
        simpa [Keyed.keys] using absent
      have head := recounts_observe compile registry first shown
      cases observed : (registry.observe compile first shown).result with
      | error cause =>
          simp only [observeAll, observed]
          exact ⟨head.kept device differ.1, head.silent device differ.1⟩
      | ok asked =>
          obtain ⟨kept, silent⟩ := ih (registry.observe compile first shown).registry differ.2
          simp only [observeAll, observed]
          rw [linesAbout_append, head.silent device differ.1, silent, List.append_nil]
          exact ⟨kept.trans (head.kept device differ.1), rfl⟩

theorem tells_observeAll (compile : Compiler fault) (registry : Registry)
    (distinct : Keyed.Distinct fields) (device : Text) :
    Tells (registry.find? device) ((registry.observeAll compile fields).registry.find? device)
      (linesAbout device (registry.observeAll compile fields).notices) := by
  induction fields generalizing registry with
  | nil => exact .unchanged (registry.find? device)
  | cons field rest ih =>
      rcases field with ⟨first, shown⟩
      have head := recounts_observe compile registry first shown
      cases observed : (registry.observe compile first shown).result with
      | error cause =>
          simp only [observeAll, observed]
          exact head.tells_of device
      | ok asked =>
          simp only [observeAll, observed]
          rw [linesAbout_append]
          by_cases same : device = first
          · subst same
            obtain ⟨kept, silent⟩ := observeAll_elsewhere compile
              (registry.observe compile device shown).registry distinct.head
            rw [kept, silent, List.append_nil]
            exact head.tells
          · rw [head.silent device same, List.nil_append, ← head.kept device same]
            exact ih (registry.observe compile first shown).registry distinct.tail

theorem linesAbout_missing (distinct : Keyed.Distinct registry.bindings) {present : List Text}
    (absent : device ∉ present) :
    linesAbout device ((registry.missing present).map Notice.bindingRemoved) =
      if registry.contains device then [.bindingRemoved device] else [] := by
  have about (known : Text) :
      (Notice.bindingRemoved known).concerns device = decide (known = device) := by
    rw [Bool.eq_iff_iff, Notice.concerns_iff, Notice.subject?, Option.some.injEq, decide_eq_true_eq]
  have single : (registry.missing present).Nodup := List.Nodup.filter _ distinct
  have listed : device ∈ registry.missing present ↔ registry.contains device = true := by
    rw [contains, Keyed.contains_iff, missing, List.mem_filter, devices]
    exact and_iff_left (decide_eq_true absent)
  calc linesAbout device ((registry.missing present).map Notice.bindingRemoved)
    _ = ((registry.missing present).filter (fun known => decide (known = device))).map
          Notice.bindingRemoved := by
        rw [linesAbout, List.filter_map]
        congr 2
        funext known
        exact about known
    _ = (List.replicate ((registry.missing present).count device) device).map
          Notice.bindingRemoved := by
        rw [List.filter_eq]
    _ = if registry.contains device then [.bindingRemoved device] else [] := by
        rw [single.count, List.map_replicate]
        simp only [listed]
        split <;> rfl

theorem tells_sync (compile : Compiler fault)
    (observed : Keyed.Distinct (registry.observeAll compile fields).registry.bindings)
    (distinct : Keyed.Distinct fields) (device : Text) :
    Tells (registry.find? device) ((registry.sync compile fields).registry.find? device)
      (linesAbout device (registry.sync compile fields).notices) := by
  have told := tells_observeAll compile registry distinct device
  cases outcome : (registry.observeAll compile fields).result with
  | error cause =>
      rw [sync_of_error outcome]
      exact told
  | ok done =>
      simp only [sync, outcome]
      rw [linesAbout_append, find?_keepOnly]
      by_cases present : device ∈ Keyed.keys fields
      · have silent : linesAbout device (((registry.observeAll compile fields).registry.missing
            (Keyed.keys fields)).map Notice.bindingRemoved) = [] := by
          apply linesAbout_eq_nil
          intro notice member subject
          obtain ⟨known, missing, rfl⟩ := List.mem_map.mp member
          obtain rfl := Option.some.inj subject
          exact of_decide_eq_true (List.mem_filter.mp missing).2 present
        rw [if_pos present, silent, List.append_nil]
        exact told
      · obtain ⟨kept, silent⟩ := observeAll_elsewhere compile registry present
        rw [if_neg present, silent, List.nil_append, linesAbout_missing observed present,
          contains, Keyed.contains, ← find?, kept]
        cases registry.find? device with
        | none => exact .unchanged none
        | some binding => exact .removed binding rfl

theorem distinct_observe (compile : Compiler fault) (device text : Text)
    (distinct : Keyed.Distinct registry.bindings) :
    Keyed.Distinct (registry.observe compile device text).registry.bindings := by
  have rebound :
      Keyed.Distinct (registry.rebind compile device text).registry.bindings := by
    cases compiled : compile (templateBody text) with
    | error cause =>
        simp only [rebind, compiled]
        exact distinct
    | ok template =>
        simp only [rebind, compiled]
        exact distinct.put device ⟨device, text, template⟩
  unfold observe
  split
  · split
    · split
      · exact distinct
      · exact rebound
    · exact rebound
  · exact distinct.erase device

theorem distinct_observeAll (compile : Compiler fault) (fields : List (Text × Text))
    (distinct : Keyed.Distinct registry.bindings) :
    Keyed.Distinct (registry.observeAll compile fields).registry.bindings := by
  induction fields generalizing registry with
  | nil => exact distinct
  | cons field rest ih =>
      rcases field with ⟨first, shown⟩
      have head := distinct_observe compile first shown distinct
      cases observed : (registry.observe compile first shown).result with
      | error cause =>
          rw [(observeAll_cons_of_error observed).2]
          exact head
      | ok asked =>
          rw [(observeAll_cons_of_ok observed).2]
          exact ih head

theorem distinct_perform (compile : Compiler fault) (operation : Operation)
    (distinct : Keyed.Distinct registry.bindings) :
    Keyed.Distinct (registry.perform compile operation).registry.bindings := by
  cases operation with
  | observe device text => exact distinct_observe compile device text distinct
  | forget device => exact distinct.erase device
  | evaluate snapshot => exact distinct
  | sync fields =>
      have observed := distinct_observeAll compile fields distinct
      cases outcome : (registry.observeAll compile fields).result with
      | error cause =>
          rw [perform, sync_of_error outcome]
          exact observed
      | ok done =>
          rw [perform, (sync_of_ok outcome).2]
          exact observed.filter fun device => decide (device ∈ Keyed.keys fields)

theorem linesAbout_evaluations (registry : Registry) (snapshot : Snapshot) (device : Text) :
    linesAbout device ((registry.evaluations snapshot).flatMap fun entry => entry.2.notices) =
      [] := by
  apply linesAbout_eq_nil
  intro notice member
  obtain ⟨evaluation, listed, reported⟩ := List.mem_flatMap.mp member
  obtain ⟨entry, _, rfl⟩ := List.mem_map.mp listed
  cases shown : entry.2.template with
  | invalid error =>
      rw [shown] at reported
      cases reported
  | valid elements =>
      simp only [shown, Template.evaluate, Template.evaluateElements] at reported
      split at reported
      · cases reported
      · obtain rfl := List.mem_singleton.mp reported
        exact nofun

theorem tells_perform (compile : Compiler fault) (bound : Keyed.Distinct registry.bindings)
    {operation : Operation} (brought : Keyed.Distinct operation.brings) (device : Text) :
    Tells (registry.find? device) ((registry.perform compile operation).registry.find? device)
      (linesAbout device (registry.perform compile operation).notices) := by
  cases operation with
  | observe observed text =>
      exact (recounts_observe compile registry observed text).tells_of device
  | forget forgotten => exact (recounts_forget registry forgotten).tells_of device
  | sync fields =>
      exact tells_sync compile (distinct_observeAll compile fields bound) brought device
  | evaluate snapshot =>
      rw [perform, linesAbout_evaluations]
      exact .unchanged (registry.find? device)

theorem accounts_run (compile : Compiler fault) {log : List Notice}
    (bound : Keyed.Distinct registry.bindings)
    (accounts : AccountsFor log device (registry.find? device)) {operations : List Operation}
    (brought : ∀ operation ∈ operations, Keyed.Distinct operation.brings) :
    AccountsFor (log ++ runNotices compile registry operations) device
      ((registry.run compile operations).find? device) := by
  induction operations generalizing registry log with
  | nil =>
      rw [runNotices, List.append_nil]
      exact accounts
  | cons operation rest ih =>
      obtain ⟨first, later⟩ := List.forall_mem_cons.mp brought
      rw [runNotices, ← List.append_assoc]
      apply ih (distinct_perform compile operation bound) _ later
      exact (tells_perform compile bound first device).accounts accounts

theorem distinct_run (compile : Compiler fault) (operations : List Operation)
    (distinct : Keyed.Distinct registry.bindings) :
    Keyed.Distinct (registry.run compile operations).bindings := by
  induction operations generalizing registry with
  | nil => exact distinct
  | cons operation rest ih => exact ih (distinct_perform compile operation distinct)

end Registry
end Wallboard
