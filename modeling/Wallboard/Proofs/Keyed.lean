import Mathlib.Data.List.Nodup
import Wallboard.Keyed

namespace Wallboard.Keyed

variable {α β γ : Type}

theorem keys_filter (keep : α → Bool) (entries : List (α × β)) :
    keys (entries.filter fun entry => keep entry.1) = (keys entries).filter keep := by
  simp only [keys, List.filter_map]
  rfl

theorem keys_map (change : α × β → γ) (entries : List (α × β)) :
    keys (entries.map fun entry => (entry.1, change entry)) = keys entries := by
  simp [keys]

theorem map_filter (change : β → γ) (keep : α → Bool) (entries : List (α × β)) :
    (entries.filter fun entry => keep entry.1).map (fun entry => (entry.1, change entry.2)) =
      (entries.map fun entry => (entry.1, change entry.2)).filter fun entry => keep entry.1 := by
  rw [List.filter_map]
  rfl

theorem Distinct.nil : Distinct ([] : List (α × β)) := List.nodup_nil

theorem Distinct.head {entry : α × β} {rest : List (α × β)} (distinct : Distinct (entry :: rest)) :
    entry.1 ∉ keys rest := (List.nodup_cons.mp distinct).1

theorem Distinct.tail {entry : α × β} {rest : List (α × β)} (distinct : Distinct (entry :: rest)) :
    Distinct rest := (List.nodup_cons.mp distinct).2

theorem Distinct.filter {entries : List (α × β)} (distinct : Distinct entries) (keep : α → Bool) :
    Distinct (entries.filter fun entry => keep entry.1) := by
  unfold Distinct
  rw [keys_filter]
  exact List.Nodup.filter keep distinct

theorem Distinct.map {entries : List (α × β)} (distinct : Distinct entries) (change : α × β → γ) :
    Distinct (entries.map fun entry => (entry.1, change entry)) := by
  unfold Distinct
  rw [keys_map]
  exact distinct

theorem Distinct.of_perm {entries others : List (α × β)} (distinct : Distinct entries)
    (same : entries.Perm others) : Distinct others := by
  have keys : (keys entries).Perm (keys others) := same.map Prod.fst
  exact keys.nodup_iff.mp distinct

variable [DecidableEq α]

instance (entries : List (α × β)) : Decidable (Distinct entries) :=
  inferInstanceAs (Decidable (keys entries).Nodup)

theorem find?_put (key other : α) (value : β) (entries : List (α × β)) :
    find? other (put key value entries) =
      if other = key then some value else find? other entries := by
  by_cases same : other = key
  · subst same
    simp [find?_put_self]
  · simp [same, find?_put_of_ne same]

theorem put_eq_self {key : α} {value : β} {entries : List (α × β)}
    (found : find? key entries = some value) : put key value entries = entries := by
  induction entries with
  | nil => cases found
  | cons entry rest ih =>
      by_cases same : entry.1 = key
      · simp only [find?, same, if_true, Option.some.injEq] at found
        subst found
        subst same
        simp [put]
      · simp only [find?, same, if_false] at found
        simp [put, same, ih found]

theorem mem_of_mem_put {key : α} {value : β} {entries : List (α × β)} {entry : α × β}
    (member : entry ∈ put key value entries) : entry = (key, value) ∨ entry ∈ entries := by
  induction entries with
  | nil => exact .inl (List.mem_singleton.mp member)
  | cons first rest ih =>
      rw [put] at member
      split at member
      · rcases List.mem_cons.mp member with same | member
        · exact .inl same
        · exact .inr (List.mem_cons_of_mem first member)
      · rcases List.mem_cons.mp member with rfl | member
        · exact .inr List.mem_cons_self
        · exact (ih member).imp_right (List.mem_cons_of_mem first)

theorem mem_of_mem_putAll {known additions : List (α × β)} {entry : α × β}
    (member : entry ∈ putAll known additions) : entry ∈ known ∨ entry ∈ additions := by
  induction additions generalizing known with
  | nil => exact .inl member
  | cons first rest ih =>
      rcases ih member with among | later
      · rcases mem_of_mem_put among with rfl | among
        · exact .inr List.mem_cons_self
        · exact .inl among
      · exact .inr (List.mem_cons_of_mem first later)

theorem put_of_not_mem {key : α} {entries : List (α × β)} (fresh : key ∉ keys entries)
    (value : β) : put key value entries = entries ++ [(key, value)] := by
  induction entries with
  | nil => rfl
  | cons entry rest ih =>
      simp only [keys, List.map_cons, List.mem_cons, not_or] at fresh
      simp only [put, if_neg (Ne.symm fresh.1), List.cons_append]
      rw [ih fresh.2]

theorem map_put (change : β → γ) (key : α) (value : β) (entries : List (α × β)) :
    (put key value entries).map (fun entry => (entry.1, change entry.2)) =
      put key (change value) (entries.map fun entry => (entry.1, change entry.2)) := by
  induction entries with
  | nil => rfl
  | cons entry rest ih =>
      by_cases same : entry.1 = key
      · simp [put, same]
      · simp [put, same, ih]

theorem find?_filter (keep : α → Bool) (key : α) (entries : List (α × β)) :
    find? key (entries.filter fun entry => keep entry.1) =
      if keep key then find? key entries else none := by
  induction entries with
  | nil => simp [find?]
  | cons entry rest ih =>
      by_cases same : entry.1 = key
      · subst same
        by_cases kept : keep entry.1 = true
        · simp [find?, kept]
        · simpa [find?, kept] using ih
      · by_cases kept : keep entry.1 = true
        · simpa [find?, kept, same] using ih
        · simpa [find?, kept, same] using ih

theorem erase_of_not_mem {key : α} {entries : List (α × β)} (absent : key ∉ keys entries) :
    erase key entries = entries := by
  apply List.filter_eq_self.mpr
  intro entry member
  apply decide_eq_true
  rintro rfl
  exact absent (List.mem_map.mpr ⟨entry, member, rfl⟩)

theorem find?_erase (key other : α) (entries : List (α × β)) :
    find? other (erase key entries) = if other = key then none else find? other entries := by
  have kept := find?_filter (fun known => decide (known ≠ key)) other entries
  by_cases same : other = key
  · simpa [erase, same] using kept
  · simpa [erase, same] using kept

theorem find?_map (change : α × β → γ) (key : α) (entries : List (α × β)) :
    find? key (entries.map fun entry => (entry.1, change entry)) =
      (find? key entries).map fun value => change (key, value) := by
  induction entries with
  | nil => rfl
  | cons entry rest ih =>
      by_cases same : entry.1 = key
      · subst same
        simp [find?]
      · simpa [find?, same] using ih

theorem find?_append (key : α) (entries others : List (α × β)) :
    find? key (entries ++ others) = (find? key entries).or (find? key others) := by
  induction entries with
  | nil => rfl
  | cons entry rest ih =>
      by_cases same : entry.1 = key
      · simp [find?, same]
      · simpa [find?, same] using ih

theorem mem_keys_iff {key : α} {entries : List (α × β)} :
    key ∈ keys entries ↔ ∃ value, find? key entries = some value := by
  rw [← Option.isSome_iff_exists, Option.isSome_iff_ne_none, ne_eq, find?_eq_none_iff, not_not]

theorem contains_iff {key : α} {entries : List (α × β)} :
    contains key entries = true ↔ key ∈ keys entries := by
  rw [contains, Option.isSome_iff_exists, mem_keys_iff]

theorem contains_eq_false_iff {key : α} {entries : List (α × β)} :
    contains key entries = false ↔ key ∉ keys entries := by
  rw [← contains_iff, Bool.not_eq_true]

theorem contains_of_keys_eq {entries : List (α × β)} {others : List (α × γ)}
    (same : keys entries = keys others) (key : α) :
    contains key entries = contains key others := by
  rw [Bool.eq_iff_iff, contains_iff, contains_iff, same]

theorem contains_cons_of_ne {key : α} {entry : α × β} (differ : entry.1 ≠ key)
    (rest : List (α × β)) : contains key (entry :: rest) = contains key rest := by
  rw [contains, find?, if_neg differ, contains]

theorem mem_of_find? {key : α} {value : β} {entries : List (α × β)}
    (found : find? key entries = some value) : (key, value) ∈ entries := by
  induction entries with
  | nil => cases found
  | cons entry rest ih =>
      by_cases same : entry.1 = key
      · simp only [find?, same, if_true, Option.some.injEq] at found
        subst found
        subst same
        exact List.mem_cons_self
      · simp only [find?, same, if_false] at found
        exact List.mem_cons_of_mem entry (ih found)

namespace Distinct

theorem find?_eq_some_iff {entries : List (α × β)} (distinct : Distinct entries) {key : α}
    {value : β} : find? key entries = some value ↔ (key, value) ∈ entries := by
  constructor
  · exact mem_of_find?
  · intro member
    induction entries with
    | nil => cases member
    | cons entry rest ih =>
        rcases List.mem_cons.mp member with rfl | member
        · simp [find?]
        · have present : key ∈ keys rest := List.mem_map.mpr ⟨(key, value), member, rfl⟩
          have other : entry.1 ≠ key := by
            intro same
            exact distinct.head (same ▸ present)
          simpa [find?, other] using ih distinct.tail member

theorem value_unique {entries : List (α × β)} (distinct : Distinct entries) {key : α}
    {first second : β} (left : (key, first) ∈ entries) (right : (key, second) ∈ entries) :
    first = second := by
  have found := distinct.find?_eq_some_iff.mpr left
  rw [distinct.find?_eq_some_iff.mpr right] at found
  exact (Option.some.inj found).symm

theorem find?_of_perm {entries others : List (α × β)} (distinct : Distinct entries)
    (same : entries.Perm others) (key : α) : find? key entries = find? key others := by
  apply Option.ext
  intro value
  rw [distinct.find?_eq_some_iff, (distinct.of_perm same).find?_eq_some_iff, same.mem_iff]

theorem perm_of_find?_eq {entries others : List (α × β)} (distinct : Distinct entries)
    (alsoDistinct : Distinct others) (same : ∀ key, find? key entries = find? key others) :
    entries.Perm others := by
  have single := List.Nodup.of_map _ distinct
  have alsoSingle := List.Nodup.of_map _ alsoDistinct
  rw [List.perm_ext_iff_of_nodup single alsoSingle]
  rintro ⟨key, value⟩
  rw [← distinct.find?_eq_some_iff, ← alsoDistinct.find?_eq_some_iff, same]

theorem put {entries : List (α × β)} (distinct : Distinct entries) (key : α) (value : β) :
    Distinct (put key value entries) := by
  unfold Distinct
  rw [keys_put]
  by_cases present : key ∈ keys entries
  · rw [if_pos present]
    exact distinct
  · rw [if_neg present]
    apply List.Nodup.append distinct (List.nodup_singleton key)
    simpa using present

theorem erase {entries : List (α × β)} (distinct : Distinct entries) (key : α) :
    Distinct (erase key entries) := distinct.filter fun known => decide (known ≠ key)

theorem putAll {entries : List (α × β)} (distinct : Distinct entries)
    (additions : List (α × β)) : Distinct (putAll entries additions) := by
  induction additions generalizing entries with
  | nil => exact distinct
  | cons entry rest ih => exact ih (distinct.put entry.1 entry.2)

theorem putAll_append {known additions : List (α × β)} (distinct : Distinct (known ++ additions)) :
    Keyed.putAll known additions = known ++ additions := by
  induction additions generalizing known with
  | nil => simp [Keyed.putAll]
  | cons entry rest ih =>
      have shape : known ++ entry :: rest = (known ++ [entry]) ++ rest := by simp
      have apart : List.Disjoint (keys known) (keys (entry :: rest)) := by
        unfold Distinct keys at distinct
        rw [List.map_append] at distinct
        exact List.disjoint_of_nodup_append distinct
      have fresh : entry.1 ∉ keys known := fun present => apart present List.mem_cons_self
      rw [shape] at distinct ⊢
      rw [← ih distinct, ← put_of_not_mem fresh entry.2]
      rfl

theorem putAll_nil {entries : List (α × β)} (distinct : Distinct entries) :
    Keyed.putAll [] entries = entries := putAll_append distinct

theorem put_eq_map {entries : List (α × β)} (distinct : Distinct entries) {key : α} {value : β}
    (found : find? key entries = some value) (change : β → β) :
    Keyed.put key (change value) entries =
      entries.map fun entry => (entry.1, if entry.1 = key then change entry.2 else entry.2) := by
  induction entries with
  | nil => cases found
  | cons entry rest ih =>
      by_cases same : entry.1 = key
      · simp only [find?, same, if_true, Option.some.injEq] at found
        subst found
        subst same
        have kept : rest.map (fun other =>
            (other.1, if other.1 = entry.1 then change other.2 else other.2)) = rest := by
          rw [← List.map_id rest, List.map_map]
          apply List.map_congr_left
          intro other member
          have differ : other.1 ≠ entry.1 := by
            intro equal
            exact distinct.head (List.mem_map.mpr ⟨other, member, equal⟩)
          simp [differ]
        simp [Keyed.put, kept]
      · simp only [find?, same, if_false] at found
        simp [Keyed.put, same, ih distinct.tail found]

end Distinct
end Wallboard.Keyed
