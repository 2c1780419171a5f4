import Rail18.Proofs.Hex.Nodes

/-!
# What the stops pay

The values of a hex belong to its stops by position. Cities count from the first value on, and towns count
from the first value on again, so with both on a hex a value may be paid twice and another not at all.
-/

namespace Rail18

/-- What a segment of a stop pays. -/
def Segment.payment? : Segment → Option Revenue
  | city revenue .. | town revenue _ => some revenue
  | _ => none

/-- What the cities and towns pay, in the order of their segments. -/
def payments (segments : List Segment) : List Revenue := segments.filterMap Segment.payment?

section Payments

variable {tables : Tables} {layout : Layout} {h : Hex}

theorem payments_append (first second : List Segment) :
    payments (first ++ second) = payments first ++ payments second := List.filterMap_append

theorem payments_block_eq_nil {kind : FeatureKind} (hcity : kind ≠ .city) (htown : kind ≠ .town) :
    payments (h.block tables layout kind) = [] := by
  refine List.filterMap_eq_nil_iff.mpr fun segment hmem => ?_
  have hkind := Hex.kind_of_mem_block hmem
  cases segment with
  | city => exact absurd hkind.symm hcity
  | town => exact absurd hkind.symm htown
  | _ => rfl

theorem payments_citySegments :
    payments h.citySegments = h.cities.mapIdx fun index _ => h.stopRevenue index := by
  unfold payments Hex.citySegments
  rw [List.mapIdx_eq_zipIdx_map, List.mapIdx_eq_zipIdx_map, List.filterMap_map, ← List.filterMap_eq_map]
  rfl

theorem payments_townSegments :
    payments h.townSegments = h.allTowns.mapIdx fun index _ => h.stopRevenue index := by
  unfold payments Hex.townSegments
  rw [List.mapIdx_eq_zipIdx_map, List.mapIdx_eq_zipIdx_map, List.filterMap_map, ← List.filterMap_eq_map]
  rfl

theorem payments_segments :
    payments (h.segments tables layout) =
      (h.cities.mapIdx fun index _ => h.stopRevenue index) ++
        h.allTowns.mapIdx fun index _ => h.stopRevenue index := by
  have hnone : ∀ kind, kind ≠ .city → kind ≠ .town → payments (h.block tables layout kind) = [] :=
    fun kind => payments_block_eq_nil
  rw [Hex.segments_eq_flatMap_block, ← payments_citySegments, ← payments_townSegments]
  simp only [FeatureKind.all, List.flatMap_cons, List.flatMap_nil, payments_append,
    hnone .junction (by decide) (by decide), hnone .offboard (by decide) (by decide),
    hnone .path (by decide) (by decide), hnone .label (by decide) (by decide),
    hnone .terrain (by decide) (by decide), hnone .border (by decide) (by decide),
    List.nil_append, List.append_nil]
  rfl

/-- Stops that are no more than the values pay the first of these. -/
theorem mapIdx_stopRevenue {stops : List Stop} (hle : stops.length ≤ h.values.length) :
    (stops.mapIdx fun index _ => h.stopRevenue index) =
      (h.values.take stops.length).map Revenue.single := by
  apply List.ext_getElem
  · simp [hle]
  · intro index hindex hindex'
    have hlt : index < h.values.length := by
      rw [List.length_mapIdx] at hindex
      omega
    simp [Hex.stopRevenue, hlt]

end Payments

/-- A hex without an encoding of its own, and with as many values as stops. Its cities pay the first
values, as many as there are cities, and its towns pay the first values again. So each value is paid once
and in its place exactly if the values after those of the cities are the same as the first ones, as they
are where all stops are cities, or all are towns. -/
theorem Hex.payments_of_encode (tables : Tables) (layout : Layout) {h : Hex}
    (hencoding : h.encoding = none)
    (hcount : h.values.length = h.cities.length + h.allTowns.length) :
    h.encode tables layout = renderSegments (h.segments tables layout) ∧
      payments (h.segments tables layout) =
        (h.values.take h.cities.length ++ h.values.take h.allTowns.length).map Revenue.single ∧
      (payments (h.segments tables layout) = h.values.map Revenue.single ↔
        h.values.drop h.cities.length = h.values.take h.allTowns.length) ∧
      (h.cities = [] ∨ h.allTowns = [] →
        payments (h.segments tables layout) = h.values.map Revenue.single) := by
  have hpaid : payments (h.segments tables layout) =
      (h.values.take h.cities.length ++ h.values.take h.allTowns.length).map Revenue.single := by
    rw [payments_segments, mapIdx_stopRevenue (by omega), mapIdx_stopRevenue (by omega),
      List.map_append]
  have hsingle : Function.Injective (List.map Revenue.single) :=
    List.map_injective_iff.mpr fun _ _ => Revenue.single.inj
  have hplaced : payments (h.segments tables layout) = h.values.map Revenue.single ↔
      h.values.drop h.cities.length = h.values.take h.allTowns.length :=
    calc payments (h.segments tables layout) = h.values.map Revenue.single
      _ ↔ h.values.take h.cities.length ++ h.values.take h.allTowns.length = h.values := by
          rw [hpaid, hsingle.eq_iff]
      _ ↔ h.values.take h.cities.length ++ h.values.take h.allTowns.length =
            h.values.take h.cities.length ++ h.values.drop h.cities.length := by
          rw [List.take_append_drop]
      _ ↔ h.values.drop h.cities.length = h.values.take h.allTowns.length := by
          rw [List.append_cancel_left_eq]
          exact eq_comm
  refine ⟨by rw [Hex.encode, hencoding, Option.getD_none], hpaid, hplaced, fun hone => ?_⟩
  rw [hplaced]
  obtain hcities | htowns := hone
  · rw [hcities, List.length_nil, Nat.zero_add] at hcount
    rw [hcities, List.length_nil, List.drop_zero, ← hcount, List.take_length]
  · rw [htowns, List.length_nil, Nat.add_zero] at hcount
    rw [htowns, List.length_nil, List.take_zero, ← hcount, List.drop_length]

/-- A city and a town, and a value for each. -/
def cityAndTown : Hex where
  cities := [{}]
  towns := [{}]
  values := [.number 20, .number 10]

theorem Hex.payments_of_encode_cityAndTown :
    cityAndTown.values.length = cityAndTown.cities.length + cityAndTown.allTowns.length ∧
      payments (cityAndTown.segments .standard .pointy) =
        [.single (.number 20), .single (.number 20)] := by
  have hcount : cityAndTown.values.length =
      cityAndTown.cities.length + cityAndTown.allTowns.length := rfl
  obtain ⟨-, hpaid, -⟩ := Hex.payments_of_encode .standard .pointy rfl hcount
  exact ⟨hcount, hpaid⟩

/-- The town pays the city's value, and its own is not paid. -/
theorem Hex.payments_ne_values_cityAndTown :
    cityAndTown.encoding = none ∧
      cityAndTown.values.length = cityAndTown.cities.length + cityAndTown.allTowns.length ∧
      cityAndTown.encode .standard .pointy = "city=revenue:20;town=revenue:20" ∧
      payments (cityAndTown.segments .standard .pointy) ≠ cityAndTown.values.map Revenue.single :=
  ⟨rfl, rfl, rfl, by decide⟩

end Rail18
