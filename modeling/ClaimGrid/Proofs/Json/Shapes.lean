import ClaimGrid.Json.Settings
import ClaimGrid.Proofs.Json.Records
import ClaimGrid.Proofs.Json.RoundTrip
import ClaimGrid.Settings.Basic
import ClaimGrid.World.Event

/-!
# Values that come back unchanged

A shape says how the values of a type are written and which JSON values are read as one. It is
faithful when every value is read back from its own text, so that a text that was read once may be
replaced by the text of its value. The shapes of grid values, directions, kinds of events and
settings all are.

## Main definitions

* `Json.Shape`: a writer and a reader for the values of a type.
* `Json.Shape.Lawful`: every value is read back from the JSON value that is written for it.
* `Json.Shape.Faithful`: every value is read back from its text.
* `Dot.shape`, `Area.shape`, `Rect.shape`, `Direction.shape`, `EventKind.shape`, `Location.shape`,
  `Mask.shape`, `BoardSettings.shape`, `FeedSettings.shape`, `WorldSettings.shape`.

## Main results

* `Json.Shape.Lawful.faithful`: a lawful shape is faithful.
* `Json.shapes_faithful`: all shapes are.
-/

namespace ClaimGrid

/-- How the values of a type are written in JSON, and which JSON values are read as one. -/
structure Json.Shape (β : Type) where
  /-- The JSON value that is written. -/
  write : β → Json
  /-- The value that is read. -/
  read? : Json → Option β

namespace Json

namespace Shape

variable {β : Type} (s : Shape β)

/-- The text of a value. -/
def toText (v : β) : String := (s.write v).render

/-- The value that a text is read as. -/
def ofText? (text : String) : Option β := (Json.read? text).bind s.read?

/-- Every value is written without numbers kept as they were, and is read back from what is
written. -/
def Lawful : Prop := ∀ v, (s.write v).isPlain = true ∧ s.read? (s.write v) = some v

/-- Every value is read back from its text, and a text that is read may be replaced by the text of
its value. -/
def Faithful : Prop :=
  (∀ v, s.ofText? (s.toText v) = some v) ∧
    ∀ text, ((s.ofText? text).bind fun v => s.ofText? (s.toText v)) = s.ofText? text

variable {s}

theorem Lawful.faithful (h : s.Lawful) : s.Faithful := by
  have hback (v : β) : s.ofText? (s.toText v) = some v := by
    rw [ofText?, toText, read?_render (h v).1, Option.bind_some, (h v).2]
  refine ⟨hback, fun text => ?_⟩
  rw [funext hback, Option.bind_fun_some]

end Shape

/-! ### Plain values -/

theorem allPlain_map {γ : Type} {f : γ → Json} {l : List γ} (h : ∀ x ∈ l, (f x).isPlain = true) :
    allPlain (l.map f) = true := by
  induction l with
  | nil => rfl
  | cons x l ih =>
    rw [List.map_cons, allPlain, h x List.mem_cons_self,
      ih fun y hy => h y (List.mem_cons_of_mem x hy), Bool.and_self]

/-- A word is one of the choices that it names. -/
theorem ofChoices?_text {γ : Type} (name : γ → String) {all : List γ}
    (hnames : (all.map name).Nodup) {x : γ} (h : x ∈ all) :
    (text (some (name x))).ofChoices? (all.map fun x => (name x, x)) = some x := by
  change (all.map fun x => (name x, x)).lookup (name x) = some x
  induction all with
  | nil => cases h
  | cons y all ih =>
    rw [List.map_cons, List.nodup_cons] at hnames
    rw [List.map_cons, List.lookup_cons]
    rcases List.mem_cons.1 h with rfl | h
    · rw [beq_self_eq_true]
    · have hne : name x ≠ name y := fun heq => hnames.1 (heq ▸ List.mem_map_of_mem h)
      rw [beq_false_of_ne hne]
      exact ih hnames.2 h

end Json

/-! ### Grid values -/

/-- Dots in JSON. -/
def Dot.shape : Json.Shape Dot := ⟨Dot.toJson, Dot.ofJson?⟩

/-- Areas in JSON. -/
def Area.shape : Json.Shape Area := ⟨Area.toJson, Area.ofJson?⟩

/-- Rectangles in JSON. -/
def Rect.shape : Json.Shape Rect := ⟨Rect.toJson, Rect.ofJson?⟩

/-- Directions in JSON. -/
def Direction.shape : Json.Shape Direction := ⟨Direction.toJson, Direction.ofJson?⟩

/-- Kinds of events in JSON. -/
def EventKind.shape : Json.Shape EventKind := ⟨EventKind.toJson, EventKind.ofJson?⟩

/-- Locations in JSON. -/
def Location.shape : Json.Shape Location := ⟨Location.toJson, Location.ofJson?⟩

/-- Masks in JSON. -/
def Mask.shape : Json.Shape Mask := ⟨Mask.toJson, Mask.ofJson?⟩

/-- Board settings in JSON. -/
def BoardSettings.shape : Json.Shape BoardSettings :=
  ⟨BoardSettings.toJson, BoardSettings.ofDocument?⟩

/-- Feed settings in JSON. -/
def FeedSettings.shape : Json.Shape FeedSettings := ⟨FeedSettings.toJson, FeedSettings.ofDocument?⟩

/-- World settings in JSON. -/
def WorldSettings.shape : Json.Shape WorldSettings :=
  ⟨WorldSettings.toJson, WorldSettings.ofDocument?⟩

theorem Dot.shape_lawful : Dot.shape.Lawful := by
  intro d
  have hbytes : d.toJson.bytes? ["x", "y"] = some [d.x, d.y] :=
    Json.bytes?_record [("x", d.x), ("y", d.y)] (show ["x", "y"].Nodup by decide)
  refine ⟨rfl, ?_⟩
  simp only [shape, ofJson?, hbytes]

theorem Area.shape_lawful : Area.shape.Lawful := by
  intro a
  have hbytes : a.toJson.bytes? ["width", "height"] = some [a.width, a.height] :=
    Json.bytes?_record [("width", a.width), ("height", a.height)]
      (show ["width", "height"].Nodup by decide)
  have hmake : make a.width a.height = .ok a := make_eq_ok_iff.2 ⟨rfl, rfl⟩
  refine ⟨rfl, ?_⟩
  simp only [shape, ofJson?, hbytes, hmake]
  rfl

theorem Rect.shape_lawful : Rect.shape.Lawful := by
  intro r
  have hbytes :
      r.toJson.bytes? ["x", "y", "width", "height"] = some [r.x, r.y, r.width, r.height] :=
    Json.bytes?_record [("x", r.x), ("y", r.y), ("width", r.width), ("height", r.height)]
      (show ["x", "y", "width", "height"].Nodup by decide)
  refine ⟨rfl, ?_⟩
  simp only [shape, ofJson?, hbytes]

theorem Direction.shape_lawful : Direction.shape.Lawful := fun d =>
  ⟨rfl, Json.ofChoices?_text Direction.name (by decide) (by cases d <;> decide)⟩

theorem EventKind.shape_lawful : EventKind.shape.Lawful := fun k =>
  ⟨rfl, Json.ofChoices?_text EventKind.name (by decide) (by cases k <;> decide)⟩

theorem Location.shape_lawful : Location.shape.Lawful := by
  intro l
  have hdots : (l.dots.map Dot.toJson).mapM Dot.ofJson? = some l.dots := by
    rw [mapM_eq_some_iff, List.forall₂_map_left_iff, List.forall₂_same]
    exact fun d _ => (Dot.shape_lawful d).2
  refine ⟨Json.allPlain_map fun d _ => (Dot.shape_lawful d).1, ?_⟩
  simp only [shape, toJson, ofJson?, Json.items?, Option.bind_some, hdots, Option.map_some]

theorem Mask.shape_lawful : Mask.shape.Lawful := by
  intro m
  have hplain (row : List UInt8) : (Json.array (row.map Json.ofByte)).isPlain = true :=
    Json.allPlain_map fun _ _ => rfl
  exact ⟨Json.allPlain_map fun row _ => hplain row,
    Mask.ofJson?_eq_some_iff.2 ⟨m.rows, rfl, m.make_rows⟩⟩

/-! ### Settings -/

theorem boundedOr?_natural {limit default n : Nat} (h : n < limit) :
    Document.boundedOr? limit default (some (Json.natural n)) = some n :=
  Json.bounded?_eq_some_iff.2 ⟨rfl, h⟩

theorem BoardSettings.shape_lawful : BoardSettings.shape.Lawful := by
  intro c
  have hfields : Document.fields? ["shard_count", "placement_retries", "seed"] c.toJson =
      some [some (.natural c.shardCount.toNat), some (.natural c.placementRetries.toNat),
        some (.natural c.seed.toNat)] :=
    Json.fields?_record _ (show ["shard_count", "placement_retries", "seed"].Nodup by decide)
  refine ⟨rfl, ?_⟩
  simp only [shape, ofDocument?, hfields, boundedOr?_natural c.shardCount.toNat_lt,
    boundedOr?_natural c.placementRetries.toNat_lt, boundedOr?_natural c.seed.toNat_lt,
    Option.bind_eq_bind, Option.bind_some, UInt64.ofNat_toNat, UInt32.ofNat_toNat, Option.pure_def]

theorem FeedSettings.shape_lawful : FeedSettings.shape.Lawful := by
  intro c
  have hfields :
      Document.fields? ["ingress_capacity", "relay_capacity", "send_timeout_ms"] c.toJson =
        some [some (.natural c.ingressCapacity.toNat), some (.natural c.relayCapacity.toNat),
          some (.natural c.sendTimeout.toNat)] :=
    Json.fields?_record _
      (show ["ingress_capacity", "relay_capacity", "send_timeout_ms"].Nodup by decide)
  refine ⟨rfl, ?_⟩
  simp only [shape, ofDocument?, hfields, boundedOr?_natural c.ingressCapacity.toNat_lt,
    boundedOr?_natural c.relayCapacity.toNat_lt, boundedOr?_natural c.sendTimeout.toNat_lt,
    Option.bind_eq_bind, Option.bind_some, UInt64.ofNat_toNat, Option.pure_def]

theorem WorldSettings.shape_lawful : WorldSettings.shape.Lawful := by
  intro c
  have hfields : Document.fields? ["width", "height", "playground", "broadcast"] c.toJson =
      some [some (.natural c.width.toNat), some (.natural c.height.toNat), some c.board.toJson,
        some c.feed.toJson] :=
    Json.fields?_record _
      (show ["width", "height", "playground", "broadcast"].Nodup by decide)
  have hboard : BoardSettings.ofDocument? c.board.toJson = some c.board :=
    (BoardSettings.shape_lawful c.board).2
  have hfeed : FeedSettings.ofDocument? c.feed.toJson = some c.feed :=
    (FeedSettings.shape_lawful c.feed).2
  refine ⟨rfl, ?_⟩
  simp only [shape, ofDocument?, hfields, boundedOr?_natural c.width.toNat_lt,
    boundedOr?_natural c.height.toNat_lt, Document.recordOr?, hboard, hfeed,
    Option.bind_eq_bind, Option.bind_some, UInt8.ofNat_toNat, Option.pure_def]

/-! ### All shapes -/

/-- Whatever is written is read back: every value of every type comes back from its own text. -/
theorem Json.shapes_faithful :
    Dot.shape.Faithful ∧ Area.shape.Faithful ∧ Rect.shape.Faithful ∧ Direction.shape.Faithful ∧
      EventKind.shape.Faithful ∧ Location.shape.Faithful ∧ Mask.shape.Faithful ∧
      BoardSettings.shape.Faithful ∧ FeedSettings.shape.Faithful ∧ WorldSettings.shape.Faithful :=
  ⟨Dot.shape_lawful.faithful, Area.shape_lawful.faithful, Rect.shape_lawful.faithful,
    Direction.shape_lawful.faithful, EventKind.shape_lawful.faithful,
    Location.shape_lawful.faithful, Mask.shape_lawful.faithful, BoardSettings.shape_lawful.faithful,
    FeedSettings.shape_lawful.faithful, WorldSettings.shape_lawful.faithful⟩

end ClaimGrid
