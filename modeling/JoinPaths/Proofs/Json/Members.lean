import JoinPaths.Json.Basic
import Mathlib.Data.List.Nodup

/-!
# Members of an object

If the keys of an object are different, there is one value at most under each of them, and it does
not matter where a member stands.
-/

namespace JoinPaths.Json

variable {members : List (String × Json)} {key : String} {v w : Json}

/-- Whether the keys of a value are different, in case it is an object. -/
def HasDistinctKeys : Json → Prop
  | .object members => (members.map Prod.fst).Nodup
  | _ => True

theorem eq_of_mem_members (hkeys : (members.map Prod.fst).Nodup) (hv : (key, v) ∈ members)
    (hw : (key, w) ∈ members) : v = w :=
  (Prod.mk.inj (List.inj_on_of_nodup_map hkeys hv hw rfl)).2

theorem mem_of_lookup? (h : lookup? members key = some v) : (key, v) ∈ members := by
  obtain ⟨⟨k, w⟩, hfind, rfl⟩ := Option.map_eq_some_iff.1 h
  obtain rfl : k = key := by simpa using List.find?_some hfind
  exact List.mem_of_find?_eq_some hfind

theorem lookup?_eq_none_iff : lookup? members key = none ↔ key ∉ members.map Prod.fst := by
  simp only [lookup?, Option.map_eq_none_iff, List.find?_eq_none, beq_iff_eq, List.mem_map,
    not_exists, not_and]

theorem lookup?_eq_some_iff (hkeys : (members.map Prod.fst).Nodup) :
    lookup? members key = some v ↔ (key, v) ∈ members := by
  refine ⟨mem_of_lookup?, fun h => ?_⟩
  cases hw : lookup? members key with
  | none => exact absurd (List.mem_map_of_mem h) (lookup?_eq_none_iff.1 hw)
  | some w => rw [eq_of_mem_members hkeys (mem_of_lookup? hw) h]

theorem lookup_of_mem {α : Type} {entries : List (String × α)} {a : α}
    (hkeys : (entries.map Prod.fst).Nodup) (h : (key, a) ∈ entries) :
    entries.lookup key = some a := by
  obtain ⟨before, after, rfl⟩ := List.append_of_mem h
  refine List.lookup_eq_some_iff.2 ⟨before, after, rfl, fun e he => bne_iff_ne.2 ?_⟩
  rintro rfl
  rw [List.map_append, List.map_cons] at hkeys
  exact (List.nodup_append.1 hkeys).2.2 _ (List.mem_map_of_mem he) _ List.mem_cons_self rfl

end JoinPaths.Json
