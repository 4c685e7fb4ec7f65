import LiveChat.Json.Value

/-!
The fields of an object by what is found under their keys.
-/

set_option autoImplicit false

namespace LiveChat.Json.Fields

variable {fields : Fields} {key other : String} {value : Json}

/-- Keys in ascending order, each once. -/
def Ascending (fields : Fields) : Prop := fields.Pairwise fun first second => first.1 < second.1

instance (fields : Fields) : Decidable fields.Ascending :=
  inferInstanceAs (Decidable (List.Pairwise _ fields))

theorem get_cons (key other : String) (value : Json) (fields : Fields) :
    get? ((key, value) :: fields) other =
      if other = key then some value else fields.get? other := by
  simp only [get?, List.lookup_cons]
  by_cases same : other = key
  · simp [same]
  · simp [same, beq_false_of_ne same]

theorem get_insert (key other : String) (value : Json) (fields : Fields) :
    (fields.insert key value).get? other =
      if other = key then some value else fields.get? other := by
  induction fields with
  | nil => exact get_cons key other value []
  | cons field fields induction =>
      obtain ⟨first, held⟩ := field
      unfold insert
      split
      · exact get_cons _ _ _ _
      · split
        · next same =>
          subst same
          rw [get_cons, get_cons]
          split <;> rfl
        · next different =>
          rw [get_cons, get_cons, induction]
          split
          · next here =>
            subst here
            rw [if_neg (Ne.symm different)]
          · rfl

theorem mem_insert {field : String × Json} (member : field ∈ fields.insert key value) :
    field = (key, value) ∨ field ∈ fields := by
  induction fields with
  | nil => simpa [insert] using member
  | cons first fields induction =>
      unfold insert at member
      split at member
      · simpa using member
      · split at member
        · rcases List.mem_cons.mp member with here | later
          · exact .inl here
          · exact .inr (List.mem_cons_of_mem _ later)
        · rcases List.mem_cons.mp member with here | later
          · exact .inr (here ▸ List.mem_cons_self)
          · exact (induction later).imp_right (List.mem_cons_of_mem _)

theorem lt_of_least (least : ¬key < other) (different : key ≠ other) : other < key := by
  apply Decidable.byContradiction
  intro most
  exact different (String.le_antisymm (String.not_lt.mp most) (String.not_lt.mp least))

theorem insert_ascending (ascending : fields.Ascending) : (fields.insert key value).Ascending := by
  induction fields with
  | nil => exact List.pairwise_singleton _ _
  | cons field fields induction =>
      obtain ⟨above, later⟩ := List.pairwise_cons.mp ascending
      unfold insert
      split
      · next below =>
        refine List.pairwise_cons.mpr ⟨?_, ascending⟩
        intro each member
        rcases List.mem_cons.mp member with rfl | after
        · exact below
        · exact String.lt_trans below (above each after)
      · split
        · next same =>
          subst same
          exact List.pairwise_cons.mpr ⟨above, later⟩
        · next least different =>
          refine List.pairwise_cons.mpr ⟨?_, induction later⟩
          intro each member
          rcases mem_insert member with rfl | after
          · exact lt_of_least least different
          · exact above each after

theorem get_fold (written : List (String × Json)) (fields : Fields) (key : String) :
    (written.foldl (fun sorted (key, value) => insert key value sorted) fields).get? key =
      (written.reverse.lookup key).or (fields.get? key) := by
  induction written generalizing fields with
  | nil => rfl
  | cons field written induction =>
      obtain ⟨name, value⟩ := field
      rw [List.foldl_cons, induction, get_insert, List.reverse_cons, List.lookup_append,
        Option.or_assoc, List.lookup_cons]
      by_cases same : key = name
      · simp [same]
      · simp [same, beq_false_of_ne same]

theorem fold_ascending (written : List (String × Json)) (ascending : fields.Ascending) :
    (written.foldl (fun sorted (key, value) => insert key value sorted) fields).Ascending := by
  induction written generalizing fields with
  | nil => exact ascending
  | cons field written induction => exact induction (insert_ascending ascending)

theorem get_of_below (below : ∀ field ∈ fields, key < field.1) : fields.get? key = none := by
  induction fields with
  | nil => rfl
  | cons field fields induction =>
      have first : key ≠ field.1 := by
        intro same
        have less := below field List.mem_cons_self
        rw [same] at less
        exact String.lt_irrefl _ less
      rw [get_cons, if_neg first]
      exact induction fun other member => below other (List.mem_cons_of_mem _ member)

/-- What stands under the keys is all that there is to the fields. -/
theorem ascending_ext {first second : Fields} (ascending : first.Ascending)
    (sorted : second.Ascending) (same : ∀ key, first.get? key = second.get? key) :
    first = second := by
  induction first generalizing second with
  | nil =>
      cases second with
      | nil => rfl
      | cons field second =>
          have found := same field.1
          rw [get_cons, if_pos rfl] at found
          cases found
  | cons field first induction =>
      obtain ⟨key, value⟩ := field
      obtain ⟨above, ascending⟩ := List.pairwise_cons.mp ascending
      cases second with
      | nil =>
          have found := same key
          rw [get_cons, if_pos rfl] at found
          cases found
      | cons field second =>
          obtain ⟨other, held⟩ := field
          obtain ⟨beyond, later⟩ := List.pairwise_cons.mp sorted
          have least : ¬key < other := by
            intro less
            have below : ∀ field ∈ (other, held) :: second, key < field.1 := by
              rintro field (_ | ⟨_, member⟩)
              · exact less
              · exact String.lt_trans less (beyond field member)
            have found := same key
            rw [get_cons, if_pos rfl, get_of_below below] at found
            cases found
          have most : ¬other < key := by
            intro less
            have below : ∀ field ∈ (key, value) :: first, other < field.1 := by
              rintro field (_ | ⟨_, member⟩)
              · exact less
              · exact String.lt_trans less (above field member)
            have found := same other
            rw [get_of_below below, get_cons, if_pos rfl] at found
            cases found
          obtain rfl := String.le_antisymm (String.not_lt.mp most) (String.not_lt.mp least)
          have held := same key
          rw [get_cons, get_cons, if_pos rfl, if_pos rfl] at held
          obtain rfl := Option.some.inj held
          have rest : first = second := by
            apply induction ascending later
            intro name
            by_cases here : name = key
            · rw [here, get_of_below above, get_of_below beyond]
            · have found := same name
              rwa [get_cons, get_cons, if_neg here, if_neg here] at found
          rw [rest]

/-- Of the fields that were written under one key the last one is kept. -/
structure Gathers (written : List (String × Json)) (fields : Fields) : Prop where
  ascending : fields.Ascending
  last : ∀ key, fields.get? key = written.reverse.lookup key

theorem gathers_of_list (written : List (String × Json)) : Gathers written (ofList written) :=
  ⟨fold_ascending written .nil, fun key => (get_fold written [] key).trans (Option.or_none)⟩

theorem gathers_iff (written : List (String × Json)) (fields : Fields) :
    Gathers written fields ↔ fields = ofList written := by
  constructor
  · rintro ⟨ascending, last⟩
    obtain ⟨sorted, found⟩ := gathers_of_list written
    exact ascending_ext ascending sorted fun key => (last key).trans (found key).symm
  · rintro rfl
    exact gathers_of_list written

theorem gathers_ascending (ascending : fields.Ascending) : Gathers fields fields := by
  refine ⟨ascending, fun key => ?_⟩
  induction fields with
  | nil => rfl
  | cons field fields induction =>
      obtain ⟨name, value⟩ := field
      obtain ⟨above, later⟩ := List.pairwise_cons.mp ascending
      rw [List.reverse_cons, List.lookup_append, ← induction later, get_cons, List.lookup_cons]
      by_cases same : key = name
      · rw [if_pos same, same, get_of_below above]
        simp
      · simp [same, beq_false_of_ne same]

theorem of_ascending (ascending : fields.Ascending) : ofList fields = fields :=
  ((gathers_iff fields fields).mp (gathers_ascending ascending)).symm

end LiveChat.Json.Fields
