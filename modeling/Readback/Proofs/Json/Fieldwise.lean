import Mathlib.Data.List.Forall2
import Readback.Json.Basic

/-!
# When JSON values are equal

The fields of an object have an order on paper and none in meaning. `Fieldwise` says what an equality of JSON values has
to keep to be of use to a reader who looks fields up by their names: a scalar equals itself only, arrays are equal item
by item, and objects field by field.

- the finest such equality is that of values as they are written (`fieldwise_eq`);
- one that leaves out the order of fields is `Same` (`fieldwise_same`): objects are the same if their fields differ in
  order only, provided that each has a name of its own (`Same.of_perm`);
- what an object holds under a name, an equal object holds as well (`Fieldwise.field_some`, `Fieldwise.field_scalar`,
  `Fieldwise.field_none`).
-/

namespace Readback.Json

theorem mem_of_lookup {fields : List (String × Json)} {name : String} {x : Json} (h : fields.lookup name = some x) :
    (name, x) ∈ fields := by
  obtain ⟨before, after, rfl, -⟩ := List.lookup_eq_some_iff.mp h
  simp

/-- Where each field has a name of its own, all of them are found. -/
theorem lookup_of_mem {fields : List (String × Json)} {name : String} {x : Json}
    (hnodup : (fields.map Prod.fst).Nodup) (h : (name, x) ∈ fields) : fields.lookup name = some x := by
  obtain ⟨before, after, rfl⟩ := List.append_of_mem h
  refine List.lookup_eq_some_iff.mpr ⟨before, after, rfl, fun field hfield => ?_⟩
  rw [List.map_append, List.map_cons, List.nodup_append] at hnodup
  exact bne_iff_ne.mpr (hnodup.2.2 field.1 (List.mem_map_of_mem hfield) name List.mem_cons_self).symm

/-- A value that is no array and no object. -/
def isScalar : Json → Bool
  | .arr _ => false
  | .obj _ => false
  | _ => true

/-- An equality that compares arrays item by item and objects field by field. -/
structure Fieldwise (E : Json → Json → Prop) : Prop where
  equivalence : Equivalence E
  scalar {j k : Json} : j.isScalar = true → E j k → k = j
  arr {items : List Json} {k : Json} : E (.arr items) k → ∃ items', k = .arr items' ∧ List.Forall₂ E items items'
  obj {fields : List (String × Json)} {k : Json} : E (.obj fields) k →
    ∃ fields', k = .obj fields' ∧ ∀ name, Option.Rel E (fields.lookup name) (fields'.lookup name)

/-- Values as they are written. -/
theorem fieldwise_eq : Fieldwise Eq where
  equivalence := ⟨fun _ => rfl, Eq.symm, Eq.trans⟩
  scalar _ h := h.symm
  arr := by
    rintro items _ rfl
    exact ⟨items, rfl, List.forall₂_refl items⟩
  obj := by
    rintro fields _ rfl
    refine ⟨fields, rfl, fun name => ?_⟩
    cases fields.lookup name with
    | none => exact .none
    | some x => exact .some rfl

/-- Values that are the same but for the order of fields. -/
inductive Same : Json → Json → Prop
  | refl (j : Json) : Same j j
  | arr {items items' : List Json} : items.length = items'.length →
      (∀ (i : Nat) (x y : Json), items[i]? = some x → items'[i]? = some y → Same x y) → Same (.arr items) (.arr items')
  | obj {fields fields' : List (String × Json)} :
      (∀ name, fields.lookup name = none ↔ fields'.lookup name = none) →
      (∀ (name : String) (x y : Json), fields.lookup name = some x → fields'.lookup name = some y → Same x y) →
      Same (.obj fields) (.obj fields')

namespace Same

theorem symm {j k : Json} (h : Same j k) : Same k j := by
  induction h with
  | refl j => exact .refl j
  | arr hlength _ ih => exact .arr hlength.symm fun i x y hx hy => ih i y x hy hx
  | obj hnone _ ih => exact .obj (fun name => (hnone name).symm) fun name x y hx hy => ih name y x hy hx

theorem trans {j k l : Json} (h : Same j k) (h' : Same k l) : Same j l := by
  induction h generalizing l with
  | refl j => exact h'
  | @arr items items' hlength hitems ih =>
    cases h' with
    | refl => exact .arr hlength hitems
    | @arr _ items'' hlength' hitems' =>
      refine .arr (hlength.trans hlength') fun i x z hx hz => ?_
      have hi : i < items'.length := by
        rw [← hlength]
        exact (List.getElem?_eq_some_iff.mp hx).1
      exact ih i x _ hx (List.getElem?_eq_getElem hi) (hitems' i _ z (List.getElem?_eq_getElem hi) hz)
  | @obj fields fields' hnone hfields ih =>
    cases h' with
    | refl => exact .obj hnone hfields
    | @obj _ fields'' hnone' hfields' =>
      refine .obj (fun name => (hnone name).trans (hnone' name)) fun name x z hx hz => ?_
      cases hy : fields'.lookup name with
      | none =>
        rw [(hnone name).mpr hy] at hx
        cases hx
      | some y => exact ih name x y hx hy (hfields' name y z hy hz)

/-- Fields of different names may be put in another order. -/
theorem of_perm {fields fields' : List (String × Json)} (hnodup : (fields.map Prod.fst).Nodup)
    (h : fields.Perm fields') : Same (.obj fields) (.obj fields') := by
  have hnodup' : (fields'.map Prod.fst).Nodup := (h.map Prod.fst).nodup_iff.mp hnodup
  have hlookup : ∀ name x, fields.lookup name = some x ↔ fields'.lookup name = some x := by
    intro name x
    constructor
    · exact fun hx => lookup_of_mem hnodup' (h.mem_iff.mp (mem_of_lookup hx))
    · exact fun hx => lookup_of_mem hnodup (h.mem_iff.mpr (mem_of_lookup hx))
  have heq : ∀ name, fields.lookup name = fields'.lookup name := fun name => Option.ext (hlookup name)
  refine .obj (fun name => by rw [heq name]) fun name x y hx hy => ?_
  rw [heq name, hy] at hx
  cases hx
  exact .refl x

end Same

/-- Values but for the order of their fields. -/
theorem fieldwise_same : Fieldwise Same where
  equivalence := ⟨.refl, .symm, .trans⟩
  scalar := by
    intro j k hj h
    cases h with
    | refl => rfl
    | arr => cases hj
    | obj => cases hj
  arr := by
    intro items k h
    cases h with
    | refl => exact ⟨items, rfl, List.forall₂_same.mpr fun x _ => .refl x⟩
    | @arr _ items' hlength hitems =>
      refine ⟨items', rfl, List.forall₂_iff_get.mpr ⟨hlength, fun i hi hi' => ?_⟩⟩
      exact hitems i _ _ (List.getElem?_eq_getElem hi) (List.getElem?_eq_getElem hi')
  obj := by
    intro fields k h
    cases h with
    | refl =>
      refine ⟨fields, rfl, fun name => ?_⟩
      cases fields.lookup name with
      | none => exact .none
      | some x => exact .some (.refl x)
    | @obj _ fields' hnone hfields =>
      refine ⟨fields', rfl, fun name => ?_⟩
      cases hx : fields.lookup name with
      | none =>
        rw [(hnone name).mp hx]
        exact .none
      | some x =>
        cases hy : fields'.lookup name with
        | none =>
          rw [(hnone name).mpr hy] at hx
          cases hx
        | some y => exact .some (hfields name x y hx hy)

namespace Fieldwise

variable {E : Json → Json → Prop} (hE : Fieldwise E) (name : String) {fields : List (String × Json)} {j x : Json}

include hE

/-- A field is found in an equal object. -/
theorem field_some (h : E (.obj fields) j) (hx : fields.lookup name = some x) :
    ∃ y, j.field? name = some y ∧ E x y := by
  obtain ⟨fields', rfl, hfields⟩ := hE.obj h
  have hname := hfields name
  rw [hx] at hname
  cases hy : fields'.lookup name with
  | none =>
    rw [hy] at hname
    cases hname
  | some y =>
    rw [hy] at hname
    cases hname with
    | some hxy => exact ⟨y, hy, hxy⟩

/-- A field that is a scalar is found as it is. -/
theorem field_scalar (h : E (.obj fields) j) (hx : fields.lookup name = some x) (hscalar : x.isScalar = true) :
    j.field? name = some x := by
  obtain ⟨y, hy, hxy⟩ := hE.field_some name h hx
  rwa [hE.scalar hscalar hxy] at hy

theorem field_none (h : E (.obj fields) j) (hx : fields.lookup name = none) : j.field? name = none := by
  obtain ⟨fields', rfl, hfields⟩ := hE.obj h
  have hname := hfields name
  rw [hx] at hname
  cases hy : fields'.lookup name with
  | none => exact hy
  | some y =>
    rw [hy] at hname
    cases hname

end Fieldwise

end Readback.Json
