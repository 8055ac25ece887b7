import Mathlib.Data.List.Dedup
import Mathlib.Data.List.Perm.Subperm
import Mathlib.Data.List.Nodup

/-!
# Tables as lists of keyed rows

An update that affects as many rows as there are requested keys has touched
every one of them.
-/

namespace TicketWave.Library

universe u v

variable {Row : Type u} {Key : Type v}

section Lookup

variable [DecidableEq Key]

/-- The row stored under `wanted`, if there is one. -/
def lookup (key : Row → Key) (rows : List Row) (wanted : Key) : Option Row :=
  rows.find? fun row => decide (key row = wanted)

variable {key : Row → Key}

theorem lookup_cons (row : Row) (rows : List Row) (wanted : Key) :
    lookup key (row :: rows) wanted =
      if key row = wanted then some row
      else lookup key rows wanted := by
  unfold lookup
  rw [List.find?_cons]
  by_cases same : key row = wanted
  · simp [same]
  · simp [same]

theorem lookup_append (first second : List Row) (wanted : Key) :
    lookup key (first ++ second) wanted =
      (lookup key first wanted).or (lookup key second wanted) := by
  simp only [lookup, List.find?_append]

variable {rows : List Row} {row : Row}

theorem key_of_lookup {wanted : Key}
    (found : lookup key rows wanted = some row) : key row = wanted := by
  simpa using List.find?_some found

theorem mem_of_lookup {wanted : Key}
    (found : lookup key rows wanted = some row) : row ∈ rows :=
  List.mem_of_find?_eq_some found

theorem lookup_of_mem (distinct : (rows.map key).Nodup) (member : row ∈ rows) :
    lookup key rows (key row) = some row := by
  induction rows with
  | nil => simp at member
  | cons head tail ih =>
      rw [List.map_cons, List.nodup_cons] at distinct
      rw [lookup_cons]
      rcases List.mem_cons.mp member with equal | later
      · simp [equal]
      · have headDiffers : key head ≠ key row := by
          intro same
          exact distinct.1 (same ▸ List.mem_map_of_mem later)
        rw [if_neg headDiffers]
        exact ih distinct.2 later

theorem row_unique {left right : Row} (distinct : (rows.map key).Nodup)
    (leftMember : left ∈ rows) (rightMember : right ∈ rows)
    (same : key left = key right) : left = right := by
  have leftFound := lookup_of_mem distinct leftMember
  have rightFound := lookup_of_mem distinct rightMember
  rw [same, rightFound] at leftFound
  exact (Option.some.inj leftFound).symm

/-- In a table without repeated keys, a filter hides the rows it drops and
no others. -/
theorem lookup_filter (distinct : (rows.map key).Nodup) (keep : Row → Bool)
    (wanted : Key) :
    lookup key (rows.filter keep) wanted =
      (lookup key rows wanted).filter keep := by
  induction rows with
  | nil => rfl
  | cons head tail ih =>
      rw [List.map_cons, List.nodup_cons] at distinct
      have inTail := ih distinct.2
      by_cases kept : keep head = true
      · rw [List.filter_cons_of_pos kept, lookup_cons, lookup_cons, inTail]
        by_cases same : key head = wanted
        · simp [same, kept, Option.filter]
        · simp [same]
      · rw [List.filter_cons_of_neg kept, lookup_cons, inTail]
        by_cases same : key head = wanted
        · have absent : lookup key tail wanted = none := by
            cases found : lookup key tail wanted with
            | none => rfl
            | some row =>
                have isKey : key row = wanted := key_of_lookup found
                rw [same, ← isKey] at distinct
                exact absurd (List.mem_map_of_mem (mem_of_lookup found))
                  distinct.1
          rw [absent, if_pos same]
          simp [Option.filter, kept]
        · rw [if_neg same]

end Lookup

variable {key : Row → Key} {rows : List Row} {wanted : List Key}
  {chosen : Row → Bool}

theorem nodup_keys_append {row : Row} (distinct : (rows.map key).Nodup)
    (fresh : key row ∉ rows.map key) : ((rows ++ [row]).map key).Nodup := by
  rw [List.map_append, List.map_singleton]
  apply List.nodup_append.mpr
  refine ⟨distinct, List.nodup_singleton (key row), ?_⟩
  intro old member new isNew equal
  rw [List.mem_singleton.mp isNew] at equal
  exact fresh (equal ▸ member)

section Update

/-- Apply `change` to every row that satisfies `chosen`. -/
def updateWhere (chosen : Row → Bool) (change : Row → Row) (rows : List Row) :
    List Row :=
  rows.map fun row => if chosen row then change row else row

variable {key : Row → Key} {chosen : Row → Bool} {change : Row → Row}

theorem map_key_updateWhere
    (keeps : ∀ row, key (change row) = key row) (rows : List Row) :
    (updateWhere chosen change rows).map key = rows.map key := by
  rw [updateWhere, List.map_map]
  apply List.map_congr_left
  intro row _
  by_cases picked : chosen row
  · simp [picked, keeps]
  · simp [picked]

theorem lookup_updateWhere [DecidableEq Key]
    (keeps : ∀ row, key (change row) = key row)
    (rows : List Row) (wanted : Key) :
    lookup key (updateWhere chosen change rows) wanted =
      (lookup key rows wanted).map
        fun row => if chosen row then change row else row := by
  induction rows with
  | nil => rfl
  | cons head tail ih =>
      have keyKept :
          key (if chosen head then change head else head) = key head := by
        by_cases picked : chosen head
        · simp [picked, keeps]
        · simp [picked]
      rw [updateWhere, List.map_cons, lookup_cons, lookup_cons, keyKept]
      by_cases same : key head = wanted
      · simp [same]
      · rw [if_neg same, if_neg same]
        exact ih

theorem updateWhere_of_none
    {rows : List Row} (none : ∀ row ∈ rows, chosen row = false) :
    updateWhere chosen change rows = rows := by
  have same :
      ∀ row ∈ rows, (if chosen row then change row else row) = id row := by
    intro row stored
    simp [none row stored]
  rw [updateWhere, List.map_congr_left same, List.map_id]

theorem mem_updateWhere {rows : List Row} {row : Row} :
    row ∈ updateWhere chosen change rows ↔
      ∃ old ∈ rows, (if chosen old then change old else old) = row := by
  simp [updateWhere]

end Update

theorem countP_remove_key [DecidableEq Key] {key : Row → Key} {rows : List Row}
    {row : Row} (distinct : (rows.map key).Nodup) (member : row ∈ rows)
    (test : Row → Bool) :
    (rows.filter fun other => decide (key other ≠ key row)).countP test +
        (if test row then 1 else 0) =
      rows.countP test := by
  induction rows with
  | nil => cases member
  | cons head tail ih =>
      obtain ⟨absent, tailDistinct⟩ := List.nodup_cons.mp distinct
      by_cases same : key head = key row
      · have isHead : head = row :=
          row_unique distinct List.mem_cons_self member same
        have stays :
            tail.filter (fun other => decide (key other ≠ key row)) = tail := by
          apply List.filter_eq_self.mpr
          intro other stored
          apply decide_eq_true
          intro equal
          rw [same, ← equal] at absent
          exact absent (List.mem_map_of_mem stored)
        rw [List.filter_cons_of_neg (by simpa using same), stays,
          List.countP_cons, isHead]
      · have later : row ∈ tail := by
          rcases List.mem_cons.mp member with rfl | later
          · exact absurd rfl same
          · exact later
        have inTail := ih tailDistinct later
        rw [List.filter_cons_of_pos (by simpa using same),
          List.countP_cons, List.countP_cons]
        omega

/-- If the guard only accepts requested keys and as many rows pass as keys
were requested, then the passing rows have exactly the requested keys. -/
theorem keys_perm_of_count (distinct : (rows.map key).Nodup)
    (requested : ∀ row, chosen row = true → key row ∈ wanted)
    (count : (rows.filter chosen).length = wanted.length) :
    ((rows.filter chosen).map key).Perm wanted := by
  have keysNodup : ((rows.filter chosen).map key).Nodup :=
    distinct.sublist (List.filter_sublist.map key)
  have keysSubset : (rows.filter chosen).map key ⊆ wanted := by
    intro found foundMember
    obtain ⟨row, rowMember, rfl⟩ := List.mem_map.mp foundMember
    exact requested row (List.mem_filter.mp rowMember).2
  apply (keysNodup.subperm keysSubset).perm_of_length_le
  exact Nat.le_of_eq (count.symm.trans (List.length_map key).symm)

theorem chosen_of_count (distinct : (rows.map key).Nodup)
    (requested : ∀ row, chosen row = true → key row ∈ wanted)
    (count : (rows.filter chosen).length = wanted.length) {name : Key}
    (member : name ∈ wanted) :
    ∃ row ∈ rows, key row = name ∧ chosen row = true := by
  have permutation := keys_perm_of_count distinct requested count
  obtain ⟨row, rowMember, rowKey⟩ :=
    List.mem_map.mp (permutation.mem_iff.mpr member)
  obtain ⟨stored, picked⟩ := List.mem_filter.mp rowMember
  exact ⟨row, stored, rowKey, picked⟩

/-- The converse of `chosen_of_count`: as many rows pass as keys were
requested exactly when the row of every requested key passes. -/
theorem count_eq_iff_chosen (distinct : (rows.map key).Nodup)
    (wantedDistinct : wanted.Nodup)
    (requested : ∀ row, chosen row = true → key row ∈ wanted) :
    (rows.filter chosen).length = wanted.length ↔
      ∀ name ∈ wanted, ∃ row ∈ rows, key row = name ∧ chosen row = true := by
  constructor
  · intro count name member
    exact chosen_of_count distinct requested count member
  · intro present
    have keysDistinct : ((rows.filter chosen).map key).Nodup :=
      distinct.sublist (List.filter_sublist.map key)
    have sameKeys :
        ∀ name, name ∈ (rows.filter chosen).map key ↔ name ∈ wanted := by
      intro name
      constructor
      · intro member
        obtain ⟨row, passing, rfl⟩ := List.mem_map.mp member
        exact requested row (List.mem_filter.mp passing).2
      · intro member
        obtain ⟨row, stored, isName, picked⟩ := present name member
        exact List.mem_map.mpr
          ⟨row, List.mem_filter.mpr ⟨stored, picked⟩, isName⟩
    have permutation :=
      (List.perm_ext_iff_of_nodup keysDistinct wantedDistinct).mpr sameKeys
    rw [← permutation.length_eq, List.length_map]

theorem eq_of_countP_le_one {test : Row → Bool}
    (atMostOne : rows.countP test ≤ 1) {left right : Row}
    (leftMember : left ∈ rows) (rightMember : right ∈ rows)
    (leftPasses : test left = true) (rightPasses : test right = true) :
    left = right := by
  rw [List.countP_eq_length_filter] at atMostOne
  have leftPassing : left ∈ rows.filter test :=
    List.mem_filter.mpr ⟨leftMember, leftPasses⟩
  have rightPassing : right ∈ rows.filter test :=
    List.mem_filter.mpr ⟨rightMember, rightPasses⟩
  obtain ⟨only, shape⟩ :=
    List.length_eq_one_iff.mp
      (Nat.le_antisymm atMostOne (List.length_pos_of_mem leftPassing))
  rw [shape] at leftPassing rightPassing
  rw [List.mem_singleton.mp leftPassing, List.mem_singleton.mp rightPassing]

theorem filter_not_taken [DecidableEq Key] {key : Row → Key} {rows : List Row}
    (distinct : (rows.map key).Nodup) (count : Nat) :
    rows.filter (fun row => decide (key row ∉ (rows.take count).map key)) =
      rows.drop count := by
  have split :
      ((rows.take count).map key ++ (rows.drop count).map key).Nodup := by
    rw [← List.map_append, List.take_append_drop]
    exact distinct
  have apart := (List.nodup_append.mp split).2.2
  have none :
      (rows.take count).filter
          (fun row => decide (key row ∉ (rows.take count).map key)) =
        [] := by
    apply List.filter_eq_nil_iff.mpr
    intro row taken later
    exact of_decide_eq_true later (List.mem_map_of_mem taken)
  have all :
      (rows.drop count).filter
          (fun row => decide (key row ∉ (rows.take count).map key)) =
        rows.drop count := by
    apply List.filter_eq_self.mpr
    intro row dropped
    apply decide_eq_true
    intro taken
    exact apart _ taken _ (List.mem_map_of_mem dropped) rfl
  calc
    rows.filter (fun row => decide (key row ∉ (rows.take count).map key)) =
        (rows.take count ++ rows.drop count).filter
          (fun row => decide (key row ∉ (rows.take count).map key)) := by
      rw [List.take_append_drop]
    _ = rows.drop count := by
      rw [List.filter_append, none, all, List.nil_append]

/-- Two tables with distinct keys hold the same rows when they have the same
keys and agree on them. -/
theorem perm_of_same_keys {left right : List Row}
    (agree :
      ∀ first ∈ left, ∀ second ∈ right, key first = key second → first = second)
    (leftDistinct : (left.map key).Nodup)
    (rightDistinct : (right.map key).Nodup)
    (sameKeys : ∀ wanted, wanted ∈ left.map key ↔ wanted ∈ right.map key) :
    left.Perm right := by
  apply (List.perm_ext_iff_of_nodup leftDistinct.of_map
    rightDistinct.of_map).mpr
  intro row
  constructor
  · intro member
    have inRight := (sameKeys (key row)).mp (List.mem_map_of_mem member)
    obtain ⟨other, stored, same⟩ := List.mem_map.mp inRight
    rw [agree row member other stored same.symm]
    exact stored
  · intro member
    have inLeft := (sameKeys (key row)).mpr (List.mem_map_of_mem member)
    obtain ⟨other, stored, same⟩ := List.mem_map.mp inLeft
    rw [← agree other stored row member same]
    exact stored

section Distinct

variable [DecidableEq Key] {key : Row → Key}

/-- One row for each key. -/
def distinctBy (key : Row → Key) (rows : List Row) : List Row :=
  (rows.map key).dedup.filterMap (lookup key rows)

theorem mem_of_mem_distinctBy {rows : List Row} {row : Row}
    (member : row ∈ distinctBy key rows) : row ∈ rows := by
  obtain ⟨wanted, _, found⟩ := List.mem_filterMap.mp member
  exact mem_of_lookup found

theorem map_key_distinctBy (rows : List Row) :
    (distinctBy key rows).map key = (rows.map key).dedup := by
  have findsKey :
      ∀ wanted ∈ (rows.map key).dedup,
        (lookup key rows wanted).map key = some wanted := by
    intro wanted member
    obtain ⟨row, stored, isKey⟩ := List.mem_map.mp (List.mem_dedup.mp member)
    cases found : lookup key rows wanted with
    | none =>
        have missing := List.find?_eq_none.mp found row stored
        simp [isKey] at missing
    | some first => rw [Option.map_some, key_of_lookup found]
  rw [distinctBy, List.map_filterMap, List.filterMap_congr findsKey,
    List.filterMap_some]

end Distinct

section Read

variable {Item : Type u} {Value : Type v} {read : Item → Option Value}

theorem mapM_cons_eq_some_iff
    {item : Item} {rest : List Item} {values : List Value} :
    (item :: rest).mapM read = some values ↔
      ∃ value others, read item = some value ∧
        rest.mapM read = some others ∧ values = value :: others := by
  simp only [List.mapM_cons, Option.pure_def, Option.bind_eq_bind,
    Option.bind_eq_some_iff, Option.some.injEq]
  constructor
  · rintro ⟨value, found, others, foundRest, rfl⟩
    exact ⟨value, others, found, foundRest, rfl⟩
  · rintro ⟨value, others, found, foundRest, rfl⟩
    exact ⟨value, found, others, foundRest, rfl⟩

theorem length_of_mapM {items : List Item} {values : List Value}
    (found : items.mapM read = some values) : values.length = items.length := by
  induction items generalizing values with
  | nil =>
      cases found
      rfl
  | cons item rest ih =>
      obtain ⟨value, others, _, foundRest, rfl⟩ :=
        mapM_cons_eq_some_iff.mp found
      simp only [List.length_cons, ih foundRest]

end Read

end TicketWave.Library
