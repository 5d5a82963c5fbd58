import Wallboard.Proofs.Registry.Sync

/-!
A registry against one that keeps no templates. The reference remembers the latest marked text of
each device and compiles it whenever it is asked. As long as all texts can be compiled, no sequence
of requests tells the two apart.
-/
namespace Wallboard.Registry

inductive Request
  | observe (device text : Text)
  | forget (device : Text)
  | sync (fields : List (Text × Text))
  | get (device : Text)
  | contains (device : Text)
  | size
  | devices
  | render (snapshot : Snapshot)

inductive Reply
  | done
  | binding (bound : Option Binding)
  | flag (bound : Bool)
  | count (size : Nat)
  | devices (devices : List Text)
  | texts (texts : List (Text × Text))
  deriving DecidableEq

namespace Request

def texts : Request → List Text
  | observe _ text => [text]
  | sync fields => fields.map (·.2)
  | _ => []

def replies {server reply : Type} (serve : server → Request → reply × server)
    (reached : server) : List Request → List reply
  | [] => []
  | request :: rest =>
      let served := serve reached request
      served.1 :: replies serve served.2 rest

end Request

variable {fault : Type}

def serve (compile : Compiler fault) (registry : Registry) :
    Request → Except fault Reply × Registry
  | .observe device text =>
      let observed := registry.observe compile device text
      (observed.result.map .binding, observed.registry)
  | .forget device => (.ok .done, registry.forget device)
  | .sync fields =>
      let synced := registry.sync compile fields
      (synced.result.map fun _ => .done, synced.registry)
  | .get device => (.ok (.binding (registry.find? device)), registry)
  | .contains device => (.ok (.flag (registry.contains device)), registry)
  | .size => (.ok (.count registry.size), registry)
  | .devices => (.ok (.devices registry.devices), registry)
  | .render snapshot =>
      (.ok (.texts ((registry.evaluations snapshot).map fun entry => (entry.1, entry.2.text))),
        registry)

/-- The latest marked text of each device, in the order in which the devices first had one. -/
structure Latest where
  marker : Text
  texts : List (Text × Text) := []

namespace Latest

def put (latest : Latest) (device text : Text) : Latest :=
  { latest with texts := Keyed.put device text latest.texts }

def forget (latest : Latest) (device : Text) : Latest :=
  { latest with texts := Keyed.erase device latest.texts }

def observe (latest : Latest) (device text : Text) : Latest :=
  if Text.startsWith text latest.marker then latest.put device text else latest.forget device

def observeAll (latest : Latest) (fields : List (Text × Text)) : Latest :=
  fields.foldl (fun reached field => reached.observe field.1 field.2) latest

def keepOnly (latest : Latest) (fields : List (Text × Text)) : Latest :=
  { latest with texts := latest.texts.filter fun entry => Keyed.contains entry.1 fields }

def sync (latest : Latest) (fields : List (Text × Text)) : Latest :=
  (latest.observeAll fields).keepOnly fields

def binding (compile : Compiler fault) (device text : Text) : Except fault Binding :=
  (compile (templateBody text)).map fun template => ⟨device, text, template⟩

def get (compile : Compiler fault) (latest : Latest) (device : Text) :
    Except fault (Option Binding) :=
  match Keyed.find? device latest.texts with
  | none => .ok none
  | some text => (binding compile device text).map some

def render (compile : Compiler fault) (snapshot : Snapshot) :
    List (Text × Text) → Except fault (List (Text × Text))
  | [] => .ok []
  | (device, text) :: rest => do
      let bound ← binding compile device text
      let others ← render compile snapshot rest
      .ok ((device, (bound.template.evaluate snapshot).text) :: others)

def serve (compile : Compiler fault) (latest : Latest) : Request → Except fault Reply × Latest
  | .observe device text =>
      let observed := latest.observe device text
      ((observed.get compile device).map .binding, observed)
  | .forget device => (.ok .done, latest.forget device)
  | .sync fields => (.ok .done, latest.sync fields)
  | .get device => ((latest.get compile device).map .binding, latest)
  | .contains device => (.ok (.flag (Keyed.contains device latest.texts)), latest)
  | .size => (.ok (.count latest.texts.length), latest)
  | .devices => (.ok (.devices (Keyed.keys latest.texts)), latest)
  | .render snapshot => ((render compile snapshot latest.texts).map .texts, latest)

end Latest

variable {compile : Compiler fault} {marker device text : Text} {registry : Registry}
  {latest : Latest}

def Compiles (compile : Compiler fault) (marker text : Text) : Prop :=
  Text.startsWith text marker = true → ∃ template, compile (templateBody text) = .ok template

instance : Decidable (Compiles compile marker text) :=
  decidable_of_iff (Text.startsWith text marker = true →
      (compile (templateBody text)).isOk = true) <| by
    apply imp_congr_right
    intro _
    cases compile (templateBody text) <;> simp [Except.isOk, Except.toBool]

/-- The reference has the texts of the bindings, and each binding is what its text asks for. -/
structure Mirrors (compile : Compiler fault) (marker : Text) (registry : Registry)
    (latest : Latest) : Prop where
  coherent : Coherent compile registry
  registryMarker : registry.marker = marker
  latestMarker : latest.marker = marker
  texts : latest.texts = registry.bindings.map fun entry => (entry.1, entry.2.rawText)

theorem binding_of_current {binding : Binding}
    (current : reading compile marker device binding.rawText = .ok (some binding)) :
    Latest.binding compile device binding.rawText = .ok binding := by
  have asked := reading_eq_some_iff.mp current
  rw [Latest.binding, asked.2.2.2, ← asked.2.1]
  rfl

namespace Mirrors

theorem empty (compile : Compiler fault) (marker : Text) :
    Mirrors compile marker { marker } { marker } := ⟨.empty compile marker, rfl, rfl, rfl⟩

theorem keys (mirrors : Mirrors compile marker registry latest) :
    Keyed.keys latest.texts = registry.devices := by
  rw [mirrors.texts]
  exact Keyed.keys_map (fun entry => entry.2.rawText) registry.bindings

theorem size (mirrors : Mirrors compile marker registry latest) :
    latest.texts.length = registry.size := by
  rw [mirrors.texts, List.length_map]
  rfl

theorem get (mirrors : Mirrors compile marker registry latest) (device : Text) :
    latest.get compile device = .ok (registry.find? device) := by
  have texts : Keyed.find? device latest.texts = (registry.find? device).map (·.rawText) := by
    rw [mirrors.texts]
    exact Keyed.find?_map (fun entry => entry.2.rawText) device registry.bindings
  cases found : registry.find? device with
  | none => simp only [Latest.get, texts, found, Option.map_none]
  | some binding =>
      have current := mirrors.coherent.current device binding found
      simp only [Latest.get, texts, found, Option.map_some, binding_of_current current]
      rfl

theorem render (mirrors : Mirrors compile marker registry latest) (snapshot : Snapshot) :
    Latest.render compile snapshot latest.texts =
      .ok ((registry.evaluations snapshot).map fun entry => (entry.1, entry.2.text)) := by
  have current : ∀ entry ∈ registry.bindings,
      Latest.binding compile entry.1 entry.2.rawText = .ok entry.2 := by
    intro entry member
    have found := mirrors.coherent.distinct.find?_eq_some_iff.mpr member
    exact binding_of_current (mirrors.coherent.current entry.1 entry.2 found)
  rw [mirrors.texts, evaluations]
  generalize registry.bindings = bindings at current
  induction bindings with
  | nil => rfl
  | cons entry rest ih =>
      rw [List.forall_mem_cons] at current
      simp only [List.map_cons, Latest.render, current.1, ih current.2]
      rfl

theorem forget (mirrors : Mirrors compile marker registry latest) (device : Text) :
    Mirrors compile marker (registry.forget device) (latest.forget device) := by
  refine ⟨mirrors.coherent.forget device, mirrors.registryMarker, mirrors.latestMarker, ?_⟩
  rw [Latest.forget, mirrors.texts]
  exact (Keyed.map_filter Binding.rawText (fun known => decide (known ≠ device)) _).symm

theorem bind (mirrors : Mirrors compile marker registry latest) (device : Text)
    {binding : Binding}
    (current : reading compile marker device binding.rawText = .ok (some binding)) :
    Mirrors compile marker (registry.bind device binding)
      (latest.put device binding.rawText) := by
  have coherent := mirrors.coherent.settle device binding.rawText
  rw [mirrors.registryMarker, current] at coherent
  refine ⟨coherent, mirrors.registryMarker, mirrors.latestMarker, ?_⟩
  rw [Latest.put, mirrors.texts]
  exact (Keyed.map_put Binding.rawText device binding registry.bindings).symm

theorem keepOnly (mirrors : Mirrors compile marker registry latest)
    (fields : List (Text × Text)) :
    Mirrors compile marker (registry.keepOnly (Keyed.keys fields)) (latest.keepOnly fields) := by
  refine ⟨mirrors.coherent.keepOnly (Keyed.keys fields), mirrors.registryMarker,
    mirrors.latestMarker, ?_⟩
  have kept : (registry.keepOnly (Keyed.keys fields)).bindings =
      registry.bindings.filter fun entry => Keyed.contains entry.1 fields := by
    apply List.filter_congr
    intro entry _
    rw [Bool.eq_iff_iff, decide_eq_true_iff, Keyed.contains_iff]
  rw [Latest.keepOnly, mirrors.texts, kept]
  exact (Keyed.map_filter Binding.rawText (fun known => Keyed.contains known fields) _).symm

theorem observe (mirrors : Mirrors compile marker registry latest) (device : Text)
    (compiles : Compiles compile marker text) :
    Mirrors compile marker (registry.observe compile device text).registry
        (latest.observe device text) ∧
      (registry.observe compile device text).result =
        .ok ((registry.observe compile device text).registry.find? device) := by
  obtain ⟨result, settled⟩ := observe_eq_settle mirrors.coherent device text
  rw [result, settled, mirrors.registryMarker, Latest.observe, mirrors.latestMarker]
  by_cases marked : Text.startsWith text marker = true
  · obtain ⟨template, compiled⟩ := compiles marked
    have read : reading compile marker device text = .ok (some ⟨device, text, template⟩) :=
      reading_eq_some_iff.mpr ⟨marked, rfl, rfl, compiled⟩
    rw [if_pos marked, read, find?_settle_self]
    exact ⟨mirrors.bind device read, rfl⟩
  · have read : reading compile marker device text = .ok none := if_neg marked
    rw [if_neg marked, read, find?_settle_self]
    exact ⟨mirrors.forget device, rfl⟩

theorem observeAll (mirrors : Mirrors compile marker registry latest)
    {fields : List (Text × Text)}
    (compiles : ∀ field ∈ fields, Compiles compile marker field.2) :
    Mirrors compile marker (registry.observeAll compile fields).registry
        (latest.observeAll fields) ∧
      (registry.observeAll compile fields).result = .ok () := by
  induction fields generalizing registry latest with
  | nil => exact ⟨mirrors, rfl⟩
  | cons field rest ih =>
      rcases field with ⟨device, text⟩
      rw [List.forall_mem_cons] at compiles
      obtain ⟨observed, result⟩ := mirrors.observe device compiles.1
      obtain ⟨sameResult, sameRegistry⟩ := @observeAll_cons_of_ok _ _ _ _ _ rest _ result
      rw [sameResult, sameRegistry]
      exact ih observed compiles.2

theorem sync (mirrors : Mirrors compile marker registry latest) {fields : List (Text × Text)}
    (compiles : ∀ field ∈ fields, Compiles compile marker field.2) :
    Mirrors compile marker (registry.sync compile fields).registry (latest.sync fields) ∧
      (registry.sync compile fields).result = .ok () := by
  obtain ⟨observed, result⟩ := mirrors.observeAll compiles
  obtain ⟨done, kept⟩ := sync_of_ok result
  rw [kept]
  exact ⟨observed.keepOnly fields, done⟩

theorem serve (mirrors : Mirrors compile marker registry latest) {request : Request}
    (compiles : ∀ text ∈ request.texts, Compiles compile marker text) :
    Mirrors compile marker (registry.serve compile request).2 (latest.serve compile request).2 ∧
      ∃ reply, (registry.serve compile request).1 = .ok reply ∧
        (latest.serve compile request).1 = .ok reply := by
  cases request with
  | observe device text =>
      obtain ⟨observed, result⟩ := mirrors.observe device (compiles text List.mem_cons_self)
      refine ⟨observed, _, congrArg (Except.map Reply.binding) result, ?_⟩
      exact congrArg (Except.map Reply.binding) (observed.get device)
  | forget device => exact ⟨mirrors.forget device, .done, rfl, rfl⟩
  | sync fields =>
      obtain ⟨synced, result⟩ := mirrors.sync (List.forall_mem_map.mp compiles)
      exact ⟨synced, .done, congrArg (Except.map fun _ => Reply.done) result, rfl⟩
  | get device =>
      refine ⟨mirrors, .binding (registry.find? device), rfl, ?_⟩
      exact congrArg (Except.map Reply.binding) (mirrors.get device)
  | contains device =>
      refine ⟨mirrors, .flag (registry.contains device), rfl, ?_⟩
      rw [Latest.serve, Keyed.contains_of_keys_eq mirrors.keys device]
      rfl
  | size =>
      refine ⟨mirrors, .count registry.size, rfl, ?_⟩
      rw [Latest.serve, mirrors.size]
  | devices =>
      refine ⟨mirrors, .devices registry.devices, rfl, ?_⟩
      rw [Latest.serve, mirrors.keys]
  | render snapshot =>
      refine ⟨mirrors, .texts _, rfl, ?_⟩
      exact congrArg (Except.map Reply.texts) (mirrors.render snapshot)

theorem replies (mirrors : Mirrors compile marker registry latest) {requests : List Request}
    (compiles : ∀ request ∈ requests, ∀ text ∈ request.texts, Compiles compile marker text) :
    Request.replies (Registry.serve compile) registry requests =
        Request.replies (Latest.serve compile) latest requests ∧
      ∀ answer ∈ Request.replies (Registry.serve compile) registry requests,
        ∃ reply, answer = .ok reply := by
  induction requests generalizing registry latest with
  | nil => exact ⟨rfl, by simp [Request.replies]⟩
  | cons request rest ih =>
      rw [List.forall_mem_cons] at compiles
      obtain ⟨served, reply, own, reference⟩ := mirrors.serve compiles.1
      obtain ⟨same, answered⟩ := ih served compiles.2
      constructor
      · rw [Request.replies, Request.replies, own, reference, same]
      · exact List.forall_mem_cons.mpr ⟨⟨reply, own⟩, answered⟩

end Mirrors

/-- Keeping templates shows in no reply: if every marked text that is met can be compiled, a new
registry replies to all requests like the reference, which compiles for every reply anew. -/
theorem replies_eq_reference (compile : Compiler fault) (marker : Text) (requests : List Request)
    (compiles : ∀ request ∈ requests, ∀ text ∈ request.texts, Compiles compile marker text) :
    Request.replies (Registry.serve compile) { marker } requests =
        Request.replies (Latest.serve compile) { marker } requests ∧
      ∀ answer ∈ Request.replies (Registry.serve compile) { marker } requests,
        ∃ reply, answer = .ok reply :=
  (Mirrors.empty compile marker).replies compiles

/-- A text that is changed and changed back, a marker that goes and comes again, a template that is
not valid, and a device that a sync drops and another one binds again. -/
theorem replies_over_changing_texts :
    let requests : List Request :=
      [.observe ['a'] "#\n<mass>".toList, .observe ['b'] "#!\n<volume>".toList,
        .observe ['a'] "#\nhi".toList, .observe ['a'] "#\n<mass>".toList,
        .render {}, .observe ['b'] "off".toList, .contains ['b'],
        .observe ['b'] "#\nup".toList, .devices,
        .sync [(['c'], "#".toList), (['b'], "#\nup".toList)], .get ['a'], .size,
        .sync [(['a'], "#\n<mass>".toList), (['b'], "#\non".toList), (['c'], "#".toList)],
        .forget ['c'], .render {}]
    let mass : Binding := ⟨['a'], "#\n<mass>".toList, .valid [.mass none false]⟩
    let volume : Binding :=
      ⟨['b'], "#!\n<volume>".toList, .invalid (.unknownElementKind "volume".toList)⟩
    let answers : List Reply :=
      [.binding (some mass), .binding (some volume),
        .binding (some ⟨['a'], "#\nhi".toList, .valid [.literal "hi".toList]⟩),
        .binding (some mass),
        .texts [(['a'], ['0']), (['b'], "Unknown element kind 'volume'.".toList)], .binding none,
        .flag false, .binding (some ⟨['b'], "#\nup".toList, .valid [.literal "up".toList]⟩),
        .devices [['a'], ['b']], .done, .binding none, .count 2, .done, .done,
        .texts [(['b'], "on".toList), (['a'], ['0'])]]
    (∀ request ∈ requests, ∀ text ∈ request.texts, Compiles Template.compile ['#'] text) ∧
      Request.replies (Registry.serve Template.compile) { marker := ['#'] } requests =
        answers.map .ok ∧
      Request.replies (Latest.serve Template.compile) { marker := ['#'] } requests =
        answers.map .ok := by
  intro requests mass volume answers
  have compiles : ∀ request ∈ requests, ∀ text ∈ request.texts,
      Compiles Template.compile ['#'] text := by
    decide +kernel
  have replied : Request.replies (Registry.serve Template.compile) { marker := ['#'] } requests =
      answers.map .ok := by
    decide +kernel
  have same := (replies_eq_reference Template.compile ['#'] requests compiles).1
  exact ⟨compiles, replied, same.symm.trans replied⟩

end Wallboard.Registry
