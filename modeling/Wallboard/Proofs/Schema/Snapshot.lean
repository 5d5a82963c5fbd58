import Wallboard.Proofs.Json.Limit
import Wallboard.Proofs.Keyed
import Wallboard.Schema.Snapshot

namespace Wallboard

open Integer

namespace Check

variable {α β : Type} {value : Json} {number : Int} {name text : Text} {members : List (Text × Json)}

theorem withinLimit_of_strictInteger (read : strictInteger text = .ok number) :
    WithinLimit number := by
  unfold strictInteger at read
  split at read
  rename_i negative digits signed
  extract_lets idle at read
  clear_value idle
  split at read
  · cases read
  · rename_i sound
    split at read
    · cases read
    · rename_i short
      obtain rfl := Except.ok.inj read
      have parts : (digits ≠ [] ∧ ∀ char ∈ digits, char.isDigit = true) ∧ idle = false := by
        simpa using sound
      have fewer : digits.length ≤ text.length := by
        split at signed
        · obtain ⟨-, rfl⟩ := Prod.mk.inj signed
          exact Nat.le_succ _
        · obtain ⟨-, rfl⟩ := Prod.mk.inj signed
          exact Nat.le_refl _
      exact Numeral.withinLimit parts.1.1 parts.1.2
        (Nat.le_trans fewer (Nat.not_lt.mp short))

theorem strictInteger_of_integerOfText (read : integerOfText text = .ok number) :
    ∃ strict, strictInteger strict = .ok number := by
  unfold integerOfText at read
  split at read
  · exact ⟨_, read⟩
  · exact ⟨_, read⟩

theorem withinLimit_of_integer (printable : value.isPrintable = true)
    (read : integer value = .ok number) : WithinLimit number := by
  cases value with
  | int whole =>
      obtain rfl := Except.ok.inj read
      exact Json.isPrintable_int.mp printable
  | bool truth =>
      obtain rfl := Except.ok.inj read
      cases truth <;> decide
  | double double =>
      simp only [integer, integerOfDouble] at read
      split at read
      · cases read
      · split at read
        · cases read
        · split at read
          · rename_i value whole small
            obtain rfl := Except.ok.inj read
            have short : (digits value.natAbs).length ≤ 19 :=
              (length_digits_le_iff (by decide)).mpr (Nat.lt_of_lt_of_le small (by decide))
            exact Nat.le_trans short (by decide)
          · cases read
  | string text =>
      obtain ⟨strict, exact⟩ := strictInteger_of_integerOfText read
      exact withinLimit_of_strictInteger exact
  | _ => cases read

theorem natural_eq_ok_iff :
    natural value = .ok number ↔ integer value = .ok number ∧ 0 ≤ number := by
  rw [natural, bind_eq_ok_iff]
  constructor
  · rintro ⟨found, read, kept⟩
    split at kept
    · cases kept
    · rename_i least
      obtain rfl := Except.ok.inj kept
      exact ⟨read, Int.not_lt.mp least⟩
  · rintro ⟨read, least⟩
    exact ⟨number, read, if_neg (Int.not_lt.mpr least)⟩

theorem natural_of_natural (printable : value.isPrintable = true)
    (read : natural value = .ok number) : Natural number := by
  obtain ⟨whole, least⟩ := natural_eq_ok_iff.mp read
  exact ⟨least, withinLimit_of_integer printable whole⟩

theorem optional_induct {default found : α} {check : Json → Check α} {motive : α → Prop}
    (read : optional name default check members = .ok found)
    (printable : Json.areMembersPrintable members = true) (absent : motive default)
    (present : ∀ value, value.isPrintable = true → check value = .ok found → motive found) :
    motive found := by
  unfold optional at read
  split at read
  · obtain rfl := Except.ok.inj read
    exact absent
  · rename_i value given
    obtain ⟨entry, first, rfl⟩ := Option.map_eq_some_iff.mp given
    have among := List.mem_reverse.mp (List.mem_of_find?_eq_some first)
    exact present _ (Json.isPrintable_of_mem printable among) (under_eq_ok_iff.mp read)

theorem optional_natural (read : optional name 0 natural members = .ok number)
    (printable : Json.areMembersPrintable members = true) : Natural number :=
  optional_induct read printable ⟨by decide, by decide⟩ fun _ => natural_of_natural

theorem mem_of_entries {check : Text × Json → Check β} {found : List β}
    (read : entries check members = .ok found) :
    ∀ value ∈ found, ∃ member ∈ members, check member = .ok value := by
  induction members generalizing found with
  | nil =>
      obtain rfl := Except.ok.inj read
      exact List.forall_mem_nil _
  | cons member rest ih =>
      obtain ⟨⟨value, others⟩, parts, rfl⟩ := map_eq_ok_iff.mp read
      obtain ⟨first, later⟩ := both_eq_ok_iff.mp parts
      refine List.forall_mem_cons.mpr ⟨⟨member, List.mem_cons_self, first⟩, ?_⟩
      intro other among
      obtain ⟨source, included, same⟩ := ih later other among
      exact ⟨source, List.mem_cons_of_mem member included, same⟩

theorem entries_map {check : Text × Json → Check β} {written : β → Text × Json} {found : List β}
    (each : ∀ value ∈ found, check (written value) = .ok value) :
    entries check (found.map written) = .ok found := by
  induction found with
  | nil => rfl
  | cons value rest ih =>
      obtain ⟨first, later⟩ := List.forall_mem_cons.mp each
      rw [List.map_cons, entries, first, ih later]
      rfl

variable [DecidableEq α] {key : Text → Check α} {check : Json → Check β} {found : List (α × β)}

theorem entries_of_mapping (read : mapping key check value = .ok found) :
    Keyed.Distinct found ∧ ∃ members, value = .object members ∧
      ∀ entry ∈ found, ∃ member ∈ members, check member.2 = .ok entry.2 := by
  cases value with
  | object members =>
      obtain ⟨all, parts, rfl⟩ := map_eq_ok_iff.mp read
      refine ⟨Keyed.Distinct.nil.putAll all, members, rfl, ?_⟩
      intro entry among
      have kept : entry ∈ all := by
        rcases Keyed.mem_of_mem_putAll among with nothing | kept
        · cases nothing
        · exact kept
      obtain ⟨member, included, checked⟩ := mem_of_entries parts entry kept
      have second := (both_eq_ok_iff.mp checked).2
      exact ⟨member, included, under_eq_ok_iff.mp second⟩
  | _ => cases read

theorem optional_mapping {motive : β → Prop}
    (read : optional name [] (mapping key check) members = .ok found)
    (printable : Json.areMembersPrintable members = true)
    (each : ∀ value shown, value.isPrintable = true → check value = .ok shown → motive shown) :
    Keyed.Distinct found ∧ ∀ entry ∈ found, motive entry.2 := by
  apply optional_induct read printable
  · exact ⟨.nil, List.forall_mem_nil _⟩
  · intro value sound mapped
    obtain ⟨distinct, inner, rfl, sources⟩ := entries_of_mapping mapped
    refine ⟨distinct, ?_⟩
    intro entry among
    obtain ⟨member, included, checked⟩ := sources entry among
    exact each _ _ (Json.isPrintable_of_mem sound included) checked

theorem mapping_written {written : α × β → Text × Json} (distinct : Keyed.Distinct found)
    (each : ∀ entry ∈ found,
      key (written entry).1 = .ok entry.1 ∧ check (written entry).2 = .ok entry.2) :
    mapping key check (.object (found.map written)) = .ok found := by
  apply map_eq_ok_iff.mpr
  refine ⟨found, entries_map ?_, distinct.putAll_nil⟩
  intro entry among
  obtain ⟨named, checked⟩ := each entry among
  apply both_eq_ok_iff.mpr
  exact ⟨under_eq_ok_iff.mpr (under_eq_ok_iff.mpr named), under_eq_ok_iff.mpr checked⟩

end Check

/-- What every snapshot is that was read from a file: no key twice, and no number out of range. -/
structure Snapshot.Sound (snapshot : Snapshot) : Prop where
  quantities : Keyed.Distinct snapshot.quantities
  counts : ∀ entry ∈ snapshot.quantities, Natural entry.2
  mass : Natural snapshot.totalMassKg
  power : WithinLimit snapshot.powerRaw
  gas : Keyed.Distinct snapshot.gas
  tanks : ∀ entry ∈ snapshot.gas, Natural entry.2.current ∧ Natural entry.2.capacity

namespace Check

variable {kind : IssueKind} {found : Json} {tank : Tank} {snapshot : Snapshot}

theorem natural_of_tank (printable : found.isPrintable = true)
    (read : Check.tank kind found = .ok tank) : Natural tank.current ∧ Natural tank.capacity := by
  cases found with
  | object members =>
      obtain ⟨⟨current, capacity⟩, parts, same⟩ := bind_eq_ok_iff.mp read
      obtain rfl := Except.ok.inj same
      obtain ⟨first, second⟩ := both_eq_ok_iff.mp parts
      exact ⟨optional_natural first printable, optional_natural second printable⟩
  | _ => cases read

theorem sound_of_snapshot (printable : found.isPrintable = true)
    (read : Check.snapshot kind found = .ok snapshot) : snapshot.Sound := by
  cases found with
  | object members =>
      obtain ⟨⟨quantities, mass, power, position, gas⟩, parts, same⟩ := bind_eq_ok_iff.mp read
      obtain rfl := Except.ok.inj same
      simp only [both_eq_ok_iff] at parts
      obtain ⟨quantitiesRead, massRead, powerRead, -, gasRead⟩ := parts
      obtain ⟨distinct, counts⟩ := optional_mapping quantitiesRead printable fun _ _ =>
        natural_of_natural
      obtain ⟨alsoDistinct, tanks⟩ := optional_mapping gasRead printable fun _ _ => natural_of_tank
      have within : WithinLimit power :=
        optional_induct powerRead printable (by decide) fun _ => withinLimit_of_integer
      exact ⟨distinct, counts, optional_natural massRead printable, within, alsoDistinct, tanks⟩
  | _ => cases read

theorem natural_int {number : Int} (least : 0 ≤ number) : natural (.int number) = .ok number :=
  natural_eq_ok_iff.mpr ⟨rfl, least⟩

theorem tank_tankJson (least : 0 ≤ tank.current ∧ 0 ≤ tank.capacity) :
    Check.tank kind (Snapshot.tankJson tank) = .ok tank := by
  have fields : Check.tank kind (Snapshot.tankJson tank) =
      (both (under (.member "current".toList) (natural (.int tank.current)))
        (under (.member "capacity".toList) (natural (.int tank.capacity))) >>= fun levels =>
          .ok ⟨levels.1, levels.2⟩) := rfl
  rw [fields, natural_int least.1, natural_int least.2]
  rfl

theorem snapshot_toJson (sound : snapshot.Sound) (kind : IssueKind) :
    Check.snapshot kind snapshot.toJson = .ok snapshot := by
  have counts : mapping Except.ok natural
      (.object (snapshot.quantities.map fun entry => (entry.1, .int entry.2))) =
        .ok snapshot.quantities :=
    mapping_written sound.quantities fun entry among => ⟨rfl, natural_int (sound.counts entry among).1⟩
  have gas : mapping gasSymbol (Check.tank kind) (.object (snapshot.gas.map fun entry =>
      (entry.1.symbol, Snapshot.tankJson entry.2))) = .ok snapshot.gas := by
    apply mapping_written sound.gas
    intro entry among
    have known := sound.tanks entry among
    refine ⟨?_, tank_tankJson ⟨known.1.1, known.2.1⟩⟩
    rw [gasSymbol, Gas.ofSymbol?_eq_some_iff.mpr rfl]
  have fields : Check.snapshot kind snapshot.toJson =
      (both (under (.member "quantities".toList) (mapping Except.ok natural
        (.object (snapshot.quantities.map fun entry => (entry.1, .int entry.2)))))
        (both (under (.member "total_mass_kg".toList) (natural (.int snapshot.totalMassKg)))
          (both (.ok snapshot.powerRaw)
            (both (.ok snapshot.position)
              (under (.member "gas".toList) (mapping gasSymbol (Check.tank kind)
                (.object (snapshot.gas.map fun entry =>
                  (entry.1.symbol, Snapshot.tankJson entry.2)))))))) >>= fun parts =>
        .ok ⟨parts.1, parts.2.1, parts.2.2.1, parts.2.2.2.1, parts.2.2.2.2⟩) := rfl
  rw [fields, counts, gas, natural_int sound.mass.1]
  rfl

end Check

theorem Snapshot.sound_of_ofText {text : Text} {snapshot : Snapshot}
    (read : ofText text = .ok snapshot) : snapshot.Sound := by
  unfold ofText at read
  split at read
  · cases read
  · rename_i found document
    split at read
    · have short : Json.Reader.Short admitsNumeral := by
        intro numeral admitted
        exact Nat.le_trans (Nat.le_add_right _ _) (of_decide_eq_true admitted)
      exact Check.sound_of_snapshot (Json.Reader.isPrintable_document short document) read
    · cases read

end Wallboard
