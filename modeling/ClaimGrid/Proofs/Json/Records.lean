import ClaimGrid.Json.Grid
import ClaimGrid.Proofs.Traverse

/-!
# Records of bytes

A record may be an object or the array of its fields. Here is what such a value says, without the
order in which it is read: an array lists exactly the fields, and an object holds each of them once,
whatever else it holds. Areas and rectangles are read from such records, and masks from rows of
bytes.

## Main definitions

* `Json.Lists`: a value that lists bytes under names.
* `Json.ofRows`: the value that holds rows of bytes.

## Main results

* `Json.bytes?_eq_some_iff`: the bytes of a record are those that it lists.
* `Json.fields?_record`: the fields of a record that was written are read back in order.
* `Area.ofJson?_eq_some_iff`, `Rect.ofJson?_eq_some_iff`, `Mask.ofJson?_eq_some_iff`: what is read.
-/

namespace ClaimGrid

namespace Json

/-! ### Numbers -/

theorem bounded?_eq_some_iff {limit n : Nat} {j : Json} :
    Document.bounded? limit j = some n ↔ j = .natural n ∧ n < limit := by
  rw [Document.bounded?, Option.filter_eq_some_iff, decide_eq_true_eq]
  refine and_congr_left fun _ => ?_
  change j.natural? = some n ↔ _
  cases j with
  | natural m => rw [natural?, Option.some.injEq, natural.injEq]
  | _ => exact ⟨nofun, nofun⟩

theorem byte?_eq_some_iff {j : Json} {b : UInt8} : j.byte? = some b ↔ j = ofByte b := by
  simp only [byte?, Option.map_eq_some_iff, bounded?_eq_some_iff, ofByte]
  constructor
  · rintro ⟨n, ⟨rfl, hn⟩, rfl⟩
    rw [UInt8.toNat_ofNat_of_lt' hn]
  · rintro rfl
    exact ⟨b.toNat, ⟨rfl, b.toNat_lt⟩, UInt8.ofNat_toNat⟩

/-! ### Fields -/

/-- A value lists bytes under names: as the array of the bytes, or as an object whose members have
names made of characters and which holds each of the names once, with its byte. -/
def Lists (names : List String) (bytes : List UInt8) (j : Json) : Prop :=
  (j = .array (bytes.map ofByte) ∧ bytes.length = names.length) ∨
    ∃ members, j = .object members ∧ allNamed members = true ∧
      List.Forall₂ (fun name b => valuesUnder members name = [ofByte b]) names bytes

theorem member?_eq_some_some_iff {members : List (Option String × Json)} {name : String}
    {value : Json} :
    member? members name = some (some value) ↔ valuesUnder members name = [value] := by
  rw [member?]
  split
  · rename_i hnone
    rw [hnone]
    exact ⟨nofun, nofun⟩
  · rename_i v hone
    rw [hone, Option.some.injEq, Option.some.injEq, List.cons.injEq, and_iff_left rfl]
  · rename_i hnone hone
    exact ⟨nofun, fun h => absurd h (hone value)⟩

variable {names : List String} {bytes : List UInt8}

theorem bytes?_eq_some_iff_fields? {j : Json} :
    j.bytes? names = some bytes ↔ j.fields? names = some (bytes.map fun b => some (ofByte b)) := by
  have hfield (field : Option Json) (b : UInt8) :
      field.bind byte? = some b ↔ field = some (ofByte b) := by
    rw [Option.bind_eq_some_iff]
    simp only [byte?_eq_some_iff, exists_eq_right]
  simp only [bytes?, Option.bind_eq_some_iff, mapM_eq_some_iff_eq_map hfield, exists_eq_right]

/-- A record without a field has no bytes. -/
theorem bytes?_array {items : List Json} :
    (array items).bytes? names = some bytes ↔
      items = bytes.map ofByte ∧ bytes.length = names.length := by
  rw [bytes?_eq_some_iff_fields?, fields?]
  constructor
  · intro h
    split at h
    · rename_i hle
      have hfields := Option.some.inj h
      have hnone : names.length - items.length = 0 := by
        by_contra hlack
        have hmem : none ∈ items.map some ++ List.replicate (names.length - items.length) none :=
          List.mem_append_right _ (List.mem_replicate.2 ⟨hlack, rfl⟩)
        rw [hfields] at hmem
        obtain ⟨b, -, hb⟩ := List.mem_map.1 hmem
        cases hb
      rw [hnone, List.replicate_zero, List.append_nil, ← Function.comp_def some, ← List.map_map,
        List.map_inj_right fun _ _ => Option.some.inj] at hfields
      refine ⟨hfields, ?_⟩
      rw [hfields, List.length_map] at hle hnone
      omega
    · cases h
  · rintro ⟨rfl, hlength⟩
    rw [List.length_map, hlength, if_pos (Nat.le_refl _), Nat.sub_self, List.replicate_zero,
      List.append_nil, List.map_map]
    rfl

theorem bytes?_object {members : List (Option String × Json)} :
    (object members).bytes? names = some bytes ↔ allNamed members = true ∧
      List.Forall₂ (fun name b => valuesUnder members name = [ofByte b]) names bytes := by
  rw [bytes?_eq_some_iff_fields?, fields?]
  split
  · rename_i hnamed
    simp only [mapM_eq_some_iff, List.forall₂_map_right_iff, member?_eq_some_some_iff, hnamed,
      true_and]
  · rename_i hnamed
    exact ⟨nofun, fun h => absurd h.1 hnamed⟩

/-- The bytes of a record are those that it lists. -/
theorem bytes?_eq_some_iff {j : Json} : j.bytes? names = some bytes ↔ j.Lists names bytes := by
  cases j with
  | array items =>
    simp only [bytes?_array, Lists, array.injEq, reduceCtorEq, false_and, exists_false, or_false]
  | object members =>
    simp only [bytes?_object, Lists, object.injEq, reduceCtorEq, false_and, false_or,
      exists_eq_left']
  | _ =>
    rw [bytes?_eq_some_iff_fields?, fields?, Lists]
    simp only [reduceCtorEq, false_and, exists_false, or_false]
    all_goals nofun

/-! ### Records that were written -/

theorem valuesUnder_cons (name : String) (m : String × Json) (members : List (String × Json)) :
    valuesUnder ((m :: members).map fun m => (some m.1, m.2)) name =
      (if m.1 = name then [m.2] else []) ++
        valuesUnder (members.map fun m => (some m.1, m.2)) name := by
  by_cases h : m.1 = name
  · simp only [valuesUnder, List.map_cons, List.filterMap_cons, h, if_true, List.cons_append,
      List.nil_append]
  · simp only [valuesUnder, List.map_cons, List.filterMap_cons, Option.some.injEq, h, if_false,
      List.nil_append]

theorem valuesUnder_eq_nil {members : List (String × Json)} {name : String}
    (h : name ∉ members.map Prod.fst) :
    valuesUnder (members.map fun m => (some m.1, m.2)) name = [] := by
  induction members with
  | nil => rfl
  | cons m members ih =>
    rw [List.map_cons, List.mem_cons, not_or] at h
    rw [valuesUnder_cons, if_neg (Ne.symm h.1), ih h.2, List.append_nil]

theorem valuesUnder_record {members : List (String × Json)} (hnames : (members.map Prod.fst).Nodup)
    {m : String × Json} (h : m ∈ members) :
    valuesUnder (members.map fun m => (some m.1, m.2)) m.1 = [m.2] := by
  induction members with
  | nil => cases h
  | cons m' members ih =>
    rw [List.map_cons, List.nodup_cons] at hnames
    rw [valuesUnder_cons]
    rcases List.mem_cons.1 h with rfl | h
    · rw [if_pos rfl, valuesUnder_eq_nil hnames.1, List.append_nil]
    · have hne : m'.1 ≠ m.1 := fun heq => hnames.1 (heq ▸ List.mem_map_of_mem h)
      rw [if_neg hne, List.nil_append, ih hnames.2 h]

/-- The fields of a record that was written are read back in order. -/
theorem fields?_record (members : List (String × Json)) (hnames : (members.map Prod.fst).Nodup) :
    (record members).fields? (members.map Prod.fst) = some (members.map fun m => some m.2) := by
  have hnamed : allNamed (members.map fun m => (some m.1, m.2)) = true := by
    rw [allNamed, List.all_map, List.all_eq_true]
    exact fun _ _ => rfl
  rw [record, fields?, if_pos hnamed, mapM_eq_some_iff, List.forall₂_map_left_iff,
    List.forall₂_map_right_iff, List.forall₂_same]
  exact fun m hm => member?_eq_some_some_iff.2 (valuesUnder_record hnames hm)

theorem bytes?_record (members : List (String × UInt8)) (hnames : (members.map Prod.fst).Nodup) :
    (record (members.map fun m => (m.1, ofByte m.2))).bytes? (members.map Prod.fst) =
      some (members.map Prod.snd) := by
  have hfields := fields?_record (members.map fun m => (m.1, ofByte m.2))
  simp only [List.map_map, Function.comp_def] at hfields
  rw [bytes?_eq_some_iff_fields?, List.map_map]
  exact hfields hnames

end Json

/-! ### Areas, rectangles and masks -/

/-- An area is read from a record that lists sides which the constructor accepts. -/
theorem Area.ofJson?_eq_some_iff {j : Json} {a : Area} :
    Area.ofJson? j = some a ↔
      ∃ width height, j.Lists ["width", "height"] [width, height] ∧
        Area.make width height = .ok a := by
  simp only [← Json.bytes?_eq_some_iff, ofJson?]
  constructor
  · intro h
    split at h
    · rename_i width height hbytes
      exact ⟨width, height, hbytes, toOption_eq_some_iff.1 h⟩
    · cases h
  · rintro ⟨width, height, hbytes, hmake⟩
    simp only [hbytes]
    exact toOption_eq_some_iff.2 hmake

/-- A rectangle is read from a record that lists its corner and its sides. -/
theorem Rect.ofJson?_eq_some_iff {j : Json} {r : Rect} :
    Rect.ofJson? j = some r ↔
      j.Lists ["x", "y", "width", "height"] [r.x, r.y, r.width, r.height] := by
  rw [← Json.bytes?_eq_some_iff, ofJson?]
  constructor
  · intro h
    split at h
    · rename_i hbytes
      cases h
      exact hbytes
    · cases h
  · intro hbytes
    simp only [hbytes]

/-- The value that holds rows of bytes. -/
def Json.ofRows (rows : List (List UInt8)) : Json :=
  .array (rows.map fun row => .array (row.map ofByte))

theorem Json.items?_bind_mapM_eq_some_iff {γ : Type} {f : Json → Option γ} {g : γ → Json}
    (h : ∀ x y, f x = some y ↔ x = g y) {j : Json} {l : List γ} :
    j.items?.bind (·.mapM f) = some l ↔ j = .array (l.map g) := by
  cases j with
  | array items =>
    rw [items?, Option.bind_some, mapM_eq_some_iff_eq_map h, array.injEq]
  | _ => exact ⟨nofun, nofun⟩

/-- A mask is read from rows that the constructor accepts. -/
theorem Mask.ofJson?_eq_some_iff {j : Json} {m : Mask} :
    Mask.ofJson? j = some m ↔ ∃ rows, j = .ofRows rows ∧ Mask.make rows = .ok m := by
  have hrow (row : Json) (bytes : List UInt8) :
      row.items?.bind (·.mapM Json.byte?) = some bytes ↔ row = .array (bytes.map Json.ofByte) :=
    Json.items?_bind_mapM_eq_some_iff fun _ _ => Json.byte?_eq_some_iff
  rw [ofJson?, Option.bind_eq_some_iff]
  simp only [Json.items?_bind_mapM_eq_some_iff hrow, toOption_eq_some_iff, Json.ofRows]

end ClaimGrid
