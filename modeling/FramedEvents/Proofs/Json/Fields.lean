/-
The fields of an object.

However they have come, fields are kept in the order of their names, each name once, and
the value of a name is the last one that it has been given. What is in order already stays
as it is.
-/

import FramedEvents.Json.Value
import Mathlib.Data.List.Basic
import Mathlib.Data.String.Basic
import Mathlib.Data.List.Induction

namespace FramedEvents.Json.Fields

variable {fields : Fields} {name other : String} {value : Value}

def Ordered (fields : Fields) : Prop := fields.Pairwise fun first second => first.1 < second.1

theorem ordered_nil : Ordered [] := List.Pairwise.nil

theorem mem_insert {field : String × Value} (member : field ∈ Fields.insert name value fields) :
    field = (name, value) ∨ field ∈ fields := by
  induction fields with
  | nil => exact .inl (List.mem_singleton.mp member)
  | cons first rest ih =>
      obtain ⟨held, known⟩ := first
      unfold Fields.insert at member
      split at member
      · rcases List.mem_cons.mp member with same | later
        · exact .inl same
        · exact .inr (List.mem_cons_of_mem _ later)
      · split at member
        · rcases List.mem_cons.mp member with same | later
          · exact .inl same
          · exact .inr later
        · rcases List.mem_cons.mp member with same | later
          · exact .inr (same ▸ List.mem_cons_self)
          · rcases ih later with same | before
            · exact .inl same
            · exact .inr (List.mem_cons_of_mem _ before)

theorem Ordered.insert (ordered : Ordered fields) (name : String) (value : Value) :
    Ordered (Fields.insert name value fields) := by
  induction fields with
  | nil => exact List.pairwise_singleton _ _
  | cons first rest ih =>
      obtain ⟨held, known⟩ := first
      obtain ⟨before, later⟩ := List.pairwise_cons.mp ordered
      unfold Fields.insert
      split
      · rename_i same
        exact List.pairwise_cons.mpr ⟨fun field member => same ▸ before field member, later⟩
      · split
        · rename_i less
          refine List.pairwise_cons.mpr ⟨fun field member => ?_, ordered⟩
          rcases List.mem_cons.mp member with same | further
          · exact same ▸ less
          · exact lt_trans less (before field further)
        · rename_i apart notLess
          refine List.pairwise_cons.mpr ⟨fun field member => ?_, ih later⟩
          rcases mem_insert member with same | further
          · rw [same]
            exact lt_of_le_of_ne (le_of_not_gt notLess) (Ne.symm apart)
          · exact before field further

theorem lookup_insert (fields : Fields) (name other : String) (value : Value) :
    (Fields.insert name value fields).lookup other =
      if other = name then some value else fields.lookup other := by
  induction fields with
  | nil =>
      unfold Fields.insert
      rw [List.lookup_cons]
      by_cases same : other = name
      · rw [if_pos same, same, beq_self_eq_true]
      · rw [if_neg same, beq_eq_false_iff_ne.mpr same]
  | cons first rest ih =>
      obtain ⟨held, known⟩ := first
      unfold Fields.insert
      by_cases same : name = held
      · rw [if_pos same, List.lookup_cons, List.lookup_cons]
        by_cases wanted : other = name
        · rw [if_pos wanted, wanted, beq_self_eq_true]
        · rw [if_neg wanted, beq_eq_false_iff_ne.mpr wanted,
            beq_eq_false_iff_ne.mpr fun found => wanted (found.trans same.symm)]
      · rw [if_neg same]
        by_cases less : name < held
        · rw [if_pos less, List.lookup_cons]
          by_cases wanted : other = name
          · rw [if_pos wanted, wanted, beq_self_eq_true]
          · rw [if_neg wanted, beq_eq_false_iff_ne.mpr wanted]
        · rw [if_neg less, List.lookup_cons, List.lookup_cons, ih]
          by_cases wanted : other = name
          · rw [wanted, if_pos rfl, if_pos rfl, beq_eq_false_iff_ne.mpr same]
          · rw [if_neg wanted, if_neg wanted]

theorem ofList_concat (pairs : List (String × Value)) (name : String) (value : Value) :
    ofList (pairs ++ [(name, value)]) = (ofList pairs).insert name value := by
  unfold ofList
  rw [List.foldl_append]
  rfl

theorem ordered_ofList (pairs : List (String × Value)) : Ordered (ofList pairs) := by
  induction pairs using List.reverseRecOn with
  | nil => exact ordered_nil
  | append_singleton pairs pair ih =>
      obtain ⟨name, value⟩ := pair
      rw [ofList_concat]
      exact ih.insert name value

theorem mem_ofList {field : String × Value} {pairs : List (String × Value)}
    (member : field ∈ ofList pairs) : field ∈ pairs := by
  induction pairs using List.reverseRecOn with
  | nil => cases member
  | append_singleton pairs pair ih =>
      obtain ⟨name, value⟩ := pair
      rw [ofList_concat] at member
      rcases mem_insert member with same | before
      · exact List.mem_append_right _ (List.mem_singleton.mpr same)
      · exact List.mem_append_left _ (ih before)

theorem lookup_ofList (pairs : List (String × Value)) (name : String) :
    (ofList pairs).lookup name = pairs.reverse.lookup name := by
  induction pairs using List.reverseRecOn with
  | nil => rfl
  | append_singleton pairs pair ih =>
      obtain ⟨last, value⟩ := pair
      rw [ofList_concat, lookup_insert, ih, List.reverse_concat, List.lookup_cons]
      by_cases same : name = last
      · rw [if_pos same, same, beq_self_eq_true]
      · rw [if_neg same, beq_eq_false_iff_ne.mpr same]

theorem insert_last (fields : Fields) (last : ∀ field ∈ fields, field.1 < name) (value : Value) :
    fields.insert name value = fields ++ [(name, value)] := by
  induction fields with
  | nil => rfl
  | cons first rest ih =>
      obtain ⟨held, known⟩ := first
      obtain ⟨before, later⟩ := List.forall_mem_cons.mp last
      have less : held < name := before
      unfold Fields.insert
      rw [if_neg (ne_of_gt less), if_neg (lt_asymm less), ih later]
      rfl

theorem Ordered.ofList_eq (ordered : Ordered fields) : ofList fields = fields := by
  induction fields using List.reverseRecOn with
  | nil => rfl
  | append_singleton fields field ih =>
      obtain ⟨name, value⟩ := field
      obtain ⟨front, _, last⟩ := List.pairwise_append.mp ordered
      rw [ofList_concat, ih front]
      exact insert_last fields (fun field member => last field member _ List.mem_cons_self) value

end FramedEvents.Json.Fields
