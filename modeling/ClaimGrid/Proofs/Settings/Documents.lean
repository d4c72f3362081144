import ClaimGrid.Proofs.Settings.Checks
import ClaimGrid.Proofs.Toml.Tables
import ClaimGrid.Settings.Load

/-!
# Documents that list settings

A document may list any of the settings, in any order, each of them once and in its table: the
sides of the area in the root table, the settings of the board and of the feed under a header each.
What it does not list has its default, so settings are described by every document that lists at
least those in which they differ from the default.

## Main definitions

* `SettingsListing`: the order in which a document lists tables and settings.
* `SettingsListing.lines`: the lines of a listing, for given settings.
* `SettingsListing.Describes`: a listing leaves nothing out that is not a default.

## Main results

* `SettingsListing.Describes.ofDocument?_eq`: the table of a listing is read as the settings.
* `WorldSettings.listed_documents`: documents that list settings load exactly the settings that a
  world can be made of.
-/

namespace ClaimGrid

/-! ### Tables and settings -/

/-- The tables that have a header. -/
inductive SettingsTable where
  | board
  | feed
  deriving DecidableEq

/-- The name of a table. -/
def SettingsTable.name : SettingsTable → String
  | board => "playground"
  | feed => "broadcast"

namespace SettingKey

/-- The table that a setting belongs to, if it is not the root table. -/
def table? : SettingKey → Option SettingsTable
  | width | height => none
  | shardCount | placementRetries | seed => some .board
  | ingressCapacity | relayCapacity | sendTimeout => some .feed

/-- All settings. -/
def all : List SettingKey :=
  [width, height, shardCount, placementRetries, seed, ingressCapacity, relayCapacity, sendTimeout]

theorem mem_all (k : SettingKey) : k ∈ all := by cases k <;> decide

/-- No name needs quotes. -/
theorem isBareKey (k : SettingKey) : Toml.IsBareKey k.name := by
  cases k <;> exact ⟨by decide, List.all_eq_true.1 (by decide)⟩

theorem nodup_names :
    (all.map name ++ [SettingsTable.board.name, SettingsTable.feed.name]).Nodup := by
  decide

theorem name_injective : Function.Injective name := fun k k' =>
  List.inj_on_of_nodup_map (List.nodup_append.1 nodup_names).1 (mem_all k) (mem_all k')

/-- The settings of the board are those of its table. -/
theorem board_eq {c c' : WorldSettings}
    (h : ∀ k : SettingKey, k.table? = some .board → k.value c = k.value c') :
    c.board = c'.board := by
  have hshards : c.board.shardCount = c'.board.shardCount := UInt64.toNat_inj.1 (h .shardCount rfl)
  have hretries : c.board.placementRetries = c'.board.placementRetries :=
    UInt32.toNat_inj.1 (h .placementRetries rfl)
  have hseed : c.board.seed = c'.board.seed := UInt64.toNat_inj.1 (h .seed rfl)
  exact (BoardSettings.mk.injEq ..).mpr ⟨hshards, hretries, hseed⟩

/-- The settings of the feed are those of its table. -/
theorem feed_eq {c c' : WorldSettings}
    (h : ∀ k : SettingKey, k.table? = some .feed → k.value c = k.value c') :
    c.feed = c'.feed := by
  have hingress : c.feed.ingressCapacity = c'.feed.ingressCapacity :=
    UInt64.toNat_inj.1 (h .ingressCapacity rfl)
  have hrelay : c.feed.relayCapacity = c'.feed.relayCapacity :=
    UInt64.toNat_inj.1 (h .relayCapacity rfl)
  have htimeout : c.feed.sendTimeout = c'.feed.sendTimeout :=
    UInt64.toNat_inj.1 (h .sendTimeout rfl)
  exact (FeedSettings.mk.injEq ..).mpr ⟨hingress, hrelay, htimeout⟩

end SettingKey

namespace SettingsTable

theorem isBareKey (t : SettingsTable) : Toml.IsBareKey t.name := by
  cases t <;> exact ⟨by decide, List.all_eq_true.1 (by decide)⟩

theorem name_injective : Function.Injective name := by
  intro t t' h
  cases t <;> cases t'
  · rfl
  · exact absurd h (by decide)
  · exact absurd h (by decide)
  · rfl

theorem key_name_ne (k : SettingKey) (t : SettingsTable) : k.name ≠ t.name :=
  (List.nodup_append.1 SettingKey.nodup_names).2.2 _ (List.mem_map_of_mem (SettingKey.mem_all k)) _
    (by cases t <;> simp)

end SettingsTable

/-! ### Listings -/

/-- What a document lists and in which order: the settings of every table, and the tables that have
a header, in the order of the headers. -/
structure SettingsListing where
  /-- The tables with a header. -/
  tables : List SettingsTable
  /-- The settings of the root table, and of each table with a header. -/
  keys : Option SettingsTable → List SettingKey
  /-- No header stands twice. -/
  nodup_tables : tables.Nodup
  /-- No setting is listed twice. -/
  nodup_keys : ∀ t, (keys t).Nodup
  /-- A setting is listed in the table that it belongs to. -/
  table?_of_mem : ∀ t, ∀ k ∈ keys t, k.table? = t

namespace SettingsListing

variable (d : SettingsListing) (c : WorldSettings)

/-- Whether a setting is listed. -/
def Mentions (k : SettingKey) : Prop :=
  k ∈ d.keys k.table? ∧ ∀ t ∈ k.table?, t ∈ d.tables

/-- Whether nothing is left out that is not a default. -/
def Describes : Prop := ∀ k : SettingKey, k.value c ≠ k.value {} → d.Mentions k

/-- The names of the settings of a table, with their values. -/
def named (t : Option SettingsTable) : List (String × Nat) :=
  (d.keys t).map fun k => (k.name, k.value c)

/-- The sections of the document. -/
def sections : List (String × List (String × Nat)) :=
  d.tables.map fun t => (t.name, d.named c (some t))

/-- The lines of the document. -/
def lines : List Toml.PlainLine := Toml.plainLines (d.named c none) (d.sections c)

theorem nodup_named (t : Option SettingsTable) : ((d.named c t).map Prod.fst).Nodup := by
  rw [named, List.map_map]
  exact (d.nodup_keys t).map SettingKey.name_injective

theorem nodup_root :
    ((d.named c none).map Prod.fst ++ (d.sections c).map Prod.fst).Nodup := by
  refine List.nodup_append.2 ⟨d.nodup_named c none, ?_, ?_⟩
  · rw [sections, List.map_map]
    exact d.nodup_tables.map SettingsTable.name_injective
  · simp only [named, sections, List.map_map, List.mem_map, Function.comp_apply]
    rintro _ ⟨k, -, rfl⟩ _ ⟨t, -, rfl⟩
    exact SettingsTable.key_name_ne k t

theorem isInLimits_of_mem_lines (hc : ∀ k : SettingKey, k.value c < Toml.integerLimit)
    {l : Toml.PlainLine} (hl : l ∈ d.lines c) : l.IsInLimits := by
  have hsettings {t : Option SettingsTable} (h : l ∈ Toml.settingLines (d.named c t)) :
      l.IsInLimits := by
    rw [Toml.settingLines, named, List.map_map] at h
    obtain ⟨k, -, rfl⟩ := List.mem_map.1 h
    exact hc k
  rw [lines, Toml.plainLines, List.mem_append, List.mem_flatMap] at hl
  rcases hl with hl | ⟨s, hs, hl⟩
  · exact hsettings hl
  · obtain ⟨t, -, rfl⟩ := List.mem_map.1 hs
    rcases List.mem_cons.1 hl with rfl | hl
    · trivial
    · exact hsettings hl

/-! ### Reading a listing -/

variable {d c}

/-- The entry of a setting in a table. -/
def listed? (d : SettingsListing) (c : WorldSettings) (t : Option SettingsTable) (k : SettingKey) :
    Option Toml :=
  if k ∈ d.keys t then some (.integer (k.value c)) else none

theorem lookup_settingTable (t : Option SettingsTable) (k : SettingKey) :
    (Toml.settingTable (d.named c t)).lookup k.name = d.listed? c t k := by
  rw [Toml.settingTable, named, List.map_map]
  exact lookup_map_of_injective SettingKey.name_injective _ _ k

theorem lookup_sections_key (k : SettingKey) :
    ((d.sections c).map fun s => (s.1, Toml.table (Toml.settingTable s.2))).lookup k.name =
      none := by
  refine lookup_eq_none_iff_notMem.2 fun hlisted => ?_
  rw [sections, List.map_map, List.map_map] at hlisted
  obtain ⟨t, -, ht⟩ := List.mem_map.1 hlisted
  exact SettingsTable.key_name_ne k t ht.symm

/-- The root table of a listing holds its settings. -/
theorem lookup_root_key (k : SettingKey) :
    (Toml.plainTable (d.named c none) (d.sections c)).lookup k.name = d.listed? c none k := by
  rw [Toml.plainTable, List.lookup_append, lookup_settingTable, lookup_sections_key, Option.or_none]

/-- The root table of a listing holds the tables that have a header. -/
theorem lookup_root_table (t : SettingsTable) :
    (Toml.plainTable (d.named c none) (d.sections c)).lookup t.name =
      if t ∈ d.tables then some (.table (Toml.settingTable (d.named c (some t)))) else none := by
  have hroot : (Toml.settingTable (d.named c none)).lookup t.name = none := by
    refine lookup_eq_none_iff_notMem.2 fun hlisted => ?_
    rw [Toml.settingTable, named, List.map_map, List.map_map] at hlisted
    obtain ⟨k, -, hk⟩ := List.mem_map.1 hlisted
    exact SettingsTable.key_name_ne k t hk
  rw [Toml.plainTable, List.lookup_append, hroot, Option.none_or, sections, List.map_map]
  exact lookup_map_of_injective SettingsTable.name_injective _ _ t

/-- A setting is read as its value, which is the default if it is not listed. -/
theorem boundedOr?_listed {t : Option SettingsTable} {k : SettingKey} {limit : Nat}
    (hlimit : k.value c < limit) (hdefault : k ∉ d.keys t → k.value c = k.value {}) :
    Document.boundedOr? limit (k.value {}) (d.listed? c t k) = some (k.value c) := by
  rw [listed?]
  split_ifs with h
  · have hnatural : Document.natural? (Toml.integer (k.value c)) = some (k.value c) := by
      change (if (0 : Int) ≤ k.value c then some (k.value c : Int).toNat else none) = _
      rw [if_pos (Int.natCast_nonneg _), Int.toNat_natCast]
    rw [Document.boundedOr?, Document.bounded?, hnatural, Option.filter_some,
      if_pos (decide_eq_true hlimit)]
  · rw [hdefault h]
    rfl

/-- A setting that is not listed has its default. -/
theorem Describes.value_eq (h : d.Describes c) {k : SettingKey} (hk : ¬d.Mentions k) :
    k.value c = k.value {} := not_not.1 fun hne => hk (h k hne)

theorem fields?_settingTable (t : Option SettingsTable) (ks : List SettingKey) :
    Document.fields? (ks.map SettingKey.name)
      (Toml.table (Toml.settingTable (d.named c t))) = some (ks.map (d.listed? c t)) := by
  change some ((ks.map SettingKey.name).map fun name =>
    List.lookup name (Toml.settingTable (d.named c t))) = _
  rw [List.map_map]
  exact congrArg some (List.map_congr_left fun k _ => lookup_settingTable t k)

/-- The board settings are read from their table. -/
theorem boardSettings_eq (h : ∀ k : SettingKey, k.table? = some .board → k ∉ d.keys (some .board) →
    k.value c = k.value {}) :
    BoardSettings.ofDocument? (Toml.table (Toml.settingTable (d.named c (some .board)))) =
      some c.board := by
  have hfields : Document.fields? ["shard_count", "placement_retries", "seed"]
      (Toml.table (Toml.settingTable (d.named c (some .board)))) =
        some ([.shardCount, .placementRetries, .seed].map (d.listed? c (some .board))) :=
    fields?_settingTable (some .board) [.shardCount, .placementRetries, .seed]
  have hshards := boundedOr?_listed (k := .shardCount) c.board.shardCount.toNat_lt (h _ rfl)
  have hretries := boundedOr?_listed (k := .placementRetries) c.board.placementRetries.toNat_lt
    (h _ rfl)
  have hseed := boundedOr?_listed (k := .seed) c.board.seed.toNat_lt (h _ rfl)
  simp only [SettingKey.value] at hshards hretries hseed
  simp only [BoardSettings.ofDocument?, hfields, List.map_cons, List.map_nil, hshards, hretries,
    hseed, Option.bind_eq_bind, Option.bind_some, UInt64.ofNat_toNat, UInt32.ofNat_toNat,
    Option.pure_def]

/-- The feed settings are read from theirs. -/
theorem feedSettings_eq (h : ∀ k : SettingKey, k.table? = some .feed → k ∉ d.keys (some .feed) →
    k.value c = k.value {}) :
    FeedSettings.ofDocument? (Toml.table (Toml.settingTable (d.named c (some .feed)))) =
      some c.feed := by
  have hfields : Document.fields? ["ingress_capacity", "relay_capacity", "send_timeout_ms"]
      (Toml.table (Toml.settingTable (d.named c (some .feed)))) =
        some ([.ingressCapacity, .relayCapacity, .sendTimeout].map (d.listed? c (some .feed))) :=
    fields?_settingTable (some .feed) [.ingressCapacity, .relayCapacity, .sendTimeout]
  have hingress := boundedOr?_listed (k := .ingressCapacity) c.feed.ingressCapacity.toNat_lt
    (h _ rfl)
  have hrelay := boundedOr?_listed (k := .relayCapacity) c.feed.relayCapacity.toNat_lt (h _ rfl)
  have htimeout := boundedOr?_listed (k := .sendTimeout) c.feed.sendTimeout.toNat_lt (h _ rfl)
  simp only [SettingKey.value] at hingress hrelay htimeout
  simp only [FeedSettings.ofDocument?, hfields, List.map_cons, List.map_nil, hingress, hrelay,
    htimeout, Option.bind_eq_bind, Option.bind_some, UInt64.ofNat_toNat, Option.pure_def]

/-- A part of the settings is read from its table. If the table has no header, none of its settings
is listed, and the part has its default. -/
theorem Describes.recordOr?_eq (h : d.Describes c) {t : SettingsTable} {β : Type}
    {read : Toml → Option β} {part : WorldSettings → β}
    (hread : (∀ k : SettingKey, k.table? = some t → k ∉ d.keys (some t) →
      k.value c = k.value {}) →
        read (Toml.table (Toml.settingTable (d.named c (some t)))) = some (part c))
    (hpart : (∀ k : SettingKey, k.table? = some t → k.value {} = k.value c) → part {} = part c) :
    Document.recordOr? read (part {})
      (if t ∈ d.tables then some (Toml.table (Toml.settingTable (d.named c (some t)))) else none) =
        some (part c) := by
  split_ifs with htable
  · exact hread fun k hk hlisted => h.value_eq fun hmentions => hlisted (hk ▸ hmentions.1)
  · refine congrArg some (hpart fun k hk => ?_)
    exact (h.value_eq fun hmentions => htable (hmentions.2 _ hk)).symm

/-- The table of a listing is read as the settings that it describes. -/
theorem Describes.ofDocument?_eq (h : d.Describes c) :
    WorldSettings.ofDocument? (Toml.table (Toml.plainTable (d.named c none) (d.sections c))) =
      some c := by
  have hfields : Document.fields? ["width", "height", "playground", "broadcast"]
      (Toml.table (Toml.plainTable (d.named c none) (d.sections c))) =
        some [d.listed? c none .width, d.listed? c none .height,
          if .board ∈ d.tables then
            some (Toml.table (Toml.settingTable (d.named c (some .board)))) else none,
          if .feed ∈ d.tables then
            some (Toml.table (Toml.settingTable (d.named c (some .feed)))) else none] := by
    rw [← lookup_root_key, ← lookup_root_key, ← lookup_root_table, ← lookup_root_table]
    rfl
  have hroot (k : SettingKey) (hk : k.table? = none) (hlisted : k ∉ d.keys none) :
      k.value c = k.value {} :=
    h.value_eq fun hmentions => hlisted (hk ▸ hmentions.1)
  have hwidth := boundedOr?_listed (k := .width) c.width.toNat_lt (hroot _ rfl)
  have hheight := boundedOr?_listed (k := .height) c.height.toNat_lt (hroot _ rfl)
  simp only [SettingKey.value] at hwidth hheight
  have hboard := h.recordOr?_eq boardSettings_eq SettingKey.board_eq
  have hfeed := h.recordOr?_eq feedSettings_eq SettingKey.feed_eq
  simp only [WorldSettings.ofDocument?, hfields, hwidth, hheight, hboard, hfeed,
    Option.bind_eq_bind, Option.bind_some, UInt8.ofNat_toNat, Option.pure_def]

/-- A document of a listing is the table of its settings. -/
theorem read?_eq (hlimit : ∀ k : SettingKey, k.value c < Toml.integerLimit) {text : String}
    (htext : Toml.IsDocument (d.lines c) text.toList) :
    Toml.read? text = some (Toml.table (Toml.plainTable (d.named c none) (d.sections c))) := by
  refine htext.readAll?_eq (fun l => d.isInLimits_of_mem_lines c hlimit) (d.nodup_root c) ?_
  intro s hs
  obtain ⟨t, -, rfl⟩ := List.mem_map.1 hs
  exact d.nodup_named c (some t)

/-- A document is loaded as the settings that it describes, if they pass the checks. -/
theorem Describes.ofToml_eq (h : d.Describes c)
    (hlimit : ∀ k : SettingKey, k.value c < Toml.integerLimit) {text : String}
    (htext : Toml.IsDocument (d.lines c) text.toList) :
    WorldSettings.ofToml text = c.validate.map fun _ => c := by
  rw [WorldSettings.ofToml, read?_eq hlimit htext]
  dsimp only
  rw [h.ofDocument?_eq]
  dsimp only
  cases c.validate <;> rfl

end SettingsListing

/-! ### Loading settings and making worlds -/

/-- Documents mean what they list, and world and document agree on which settings are in order. A
document of a listing that describes settings loads them if they have no fault, and otherwise the
first fault is the error. A world can be made of them in exactly the first case, and otherwise fails
for the same fault: neither the board nor the feed nor the map of claims ever refuses. -/
theorem WorldSettings.listed_documents (α : Type) (c : WorldSettings) :
    (∀ (d : SettingsListing) (text : String), (∀ k : SettingKey, k.value c < Nat.pow 2 63) →
      d.Describes c → Toml.IsDocument (d.lines c) text.toList →
        (c.firstFault = none → ofToml text = .ok c) ∧
        ∀ reason, c.firstFault = some reason → ofToml text = .error (.invalid reason)) ∧
    (c.firstFault = none → ∃ w : World α, World.make c = .ok w) ∧
    (∀ reason, c.firstFault = some reason →
      (World.make c : Except WorldError (World α)) = .error (.settings (.invalid reason))) ∧
    (∀ e, (World.make c : Except WorldError (World α)) ≠ .error (.board e)) ∧
    (∀ e, (World.make c : Except WorldError (World α)) ≠ .error (.feed e)) ∧
    ∀ area e, (Board.make area c.board : Except BoardError (Board α)) ≠ .error (.storage e) := by
  have hvalidate := c.validate_eq
  refine ⟨fun d text hlimit hd htext => ⟨fun hsound => ?_, fun reason hfault => ?_⟩,
    World.make_of_sound, fun _ => World.make_of_fault, fun e he => ?_, fun e he => ?_,
    fun area e => Board.make_ne_storage area c.board e⟩
  · rw [hsound] at hvalidate
    rw [hd.ofToml_eq hlimit htext, hvalidate]
    rfl
  · rw [hfault] at hvalidate
    rw [hd.ofToml_eq hlimit htext, hvalidate]
    rfl
  · obtain ⟨reason, h⟩ := World.exists_reason_of_make he
    cases h
  · obtain ⟨reason, h⟩ := World.exists_reason_of_make he
    cases h

/-- A document with the tables in another order than the settings have, and with a queue that has no
room. -/
theorem WorldSettings.listed_documents_without_room :
    let c : WorldSettings :=
      { width := 64, board := { seed := 31 }, feed := { relayCapacity := 0 } }
    ofToml ("# narrow\nwidth = 6_4\n\n[broadcast]\nrelay_capacity = 0\n" ++
        "[ playground ]\n\tseed=0x1F # hex") =
        .error (.invalid "invalid configuration: relay_capacity must be at least 1") ∧
      (World.make c : Except WorldError (World Nat)) = .error
        (.settings (.invalid "invalid configuration: relay_capacity must be at least 1")) := by
  intro c
  let d : SettingsListing := {
    tables := [.feed, .board]
    keys := fun
      | none => [.width]
      | some .feed => [.relayCapacity]
      | some .board => [.seed]
    nodup_tables := by decide
    nodup_keys := by rintro (_ | _ | _) <;> exact List.nodup_singleton _
    table?_of_mem := by
      rintro (_ | _ | _) k hk <;> obtain rfl := List.mem_singleton.1 hk <;> rfl }
  have hd : d.Describes c := by
    intro k hk
    cases k with
    | width => exact ⟨by decide, nofun⟩
    | seed => exact ⟨by decide, by rintro t ⟨⟩; decide⟩
    | relayCapacity => exact ⟨by decide, by rintro t ⟨⟩; decide⟩
    | height | shardCount | placementRetries | ingressCapacity | sendTimeout => exact absurd rfl hk
  have hlimit (k : SettingKey) : k.value c < Nat.pow 2 63 := by cases k <;> decide
  have hspace : Toml.IsBlanks [' '] := List.forall_mem_singleton.2 rfl
  have htab : Toml.IsBlanks ['\t'] := List.forall_mem_singleton.2 rfl
  have hbreak (rest : List Char) : Toml.IsLineEnd ['\n'] rest :=
    ⟨[], [], ['\n'], Toml.isBlanks_nil, .inl rfl, .short rest, rfl⟩
  have hnarrow (rest : List Char) : Toml.IsLineEnd "# narrow\n".toList rest :=
    ⟨[], "# narrow".toList, ['\n'], Toml.isBlanks_nil,
      .inr ⟨" narrow".toList, rfl, List.all_eq_true.1 (by decide)⟩, .short rest, rfl⟩
  have hhex : Toml.IsLineEnd " # hex".toList [] :=
    ⟨[' '], "# hex".toList, [], hspace,
      .inr ⟨" hex".toList, rfl, List.all_eq_true.1 (by decide)⟩, .atEnd, rfl⟩
  have hwidth : Toml.IsInteger 64 "6_4".toList :=
    .decimal (.inl rfl) ⟨[['6'], ['4']], by decide, by decide +kernel, rfl⟩
  have hcapacity : Toml.IsInteger 0 "0".toList :=
    .decimal (.inl rfl) ⟨[['0']], by decide, by decide +kernel, rfl⟩
  have hseed : Toml.IsInteger 31 "0x1F".toList :=
    .based List.mem_cons_self (List.cons_ne_nil '1' ['F']) rfl
      (Toml.isSpaced_self (List.cons_ne_nil _ _))
  have hboard := Toml.IsDocument.line (.header (SettingsTable.isBareKey .board) Toml.isBlanks_nil
    hspace hspace) (hbreak _) (.line (.setting (SettingKey.isBareKey .seed) htab Toml.isBlanks_nil
      Toml.isBlanks_nil hseed) hhex .nil)
  have hfeed := Toml.IsDocument.line (.header (SettingsTable.isBareKey .feed) Toml.isBlanks_nil
    Toml.isBlanks_nil Toml.isBlanks_nil) (hbreak _) (.line (.setting
      (SettingKey.isBareKey .relayCapacity) Toml.isBlanks_nil hspace hspace hcapacity) (hbreak _)
        hboard)
  have hdocument := Toml.IsDocument.blank (hnarrow _) (.line (.setting
      (SettingKey.isBareKey .width) Toml.isBlanks_nil hspace hspace hwidth) (hbreak _)
        (.blank (hbreak _) hfeed))
  have hfault : c.firstFault =
      some "invalid configuration: relay_capacity must be at least 1" := by decide
  obtain ⟨hload, -, hmake, -⟩ := WorldSettings.listed_documents Nat c
  refine ⟨(hload d _ hlimit hd ?_).2 _ hfault, hmake _ hfault⟩
  exact hdocument

end ClaimGrid
