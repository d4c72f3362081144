import ClaimGrid.Proofs.Board.MoveEffects
import ClaimGrid.Proofs.Board.Restated
import ClaimGrid.Proofs.Board.WellFormed

/-!
# Taking a request back

A request that was granted can be taken back at once: an object that entered leaves with the
location it was given, and an object that moved moves back. Both trade a location for another and
then trade back, and what was taken is given up exactly: it was free before, so the object has no
other claim to it. Only the word stream stays where a random placement left it.

Moving back presupposes that the object claimed all of the location it left. Otherwise it would take
dots that it did not have.

## Main results

* `Board.Exchange.traded_back`: a trade there and back leaves all owners as they were.
* `Board.step_taken_back`: a granted request followed by one that trades back.
* `Board.delete_takes_back`, `Board.update_takes_back`: the two ways of taking a request back.
-/

namespace ClaimGrid.Board

variable {α : Type} [DecidableEq α] {b b' b'' : Board α} {o : α} {l old new : Location}

/-! ### What no request changes -/

theorem kept_shardCount (n : Nat) : Kept fun b : Board α => b.occupancy.shardCount = n where
  seek _ _ h := h
  occupy _ _ _ h := (ShardMap.shardCount_insertGroup ..).trans h
  release _ _ _ h := (ShardMap.shardCount_eraseAllIf ..).trans h
  enlist _ _ h := h
  strike _ _ h := h

/-- The claims stay in as many shards as they were made with. -/
theorem shardCount_step (b : Board α) (r : BoardRequest α) :
    (b.step r).2.occupancy.shardCount = b.occupancy.shardCount :=
  (kept_shardCount _).step rfl r

/-- A move takes nothing from the word stream. -/
theorem stream_update (b : Board α) (o : α) (old new : Location) :
    (b.update o old new).2.stream = b.stream := by
  rw [update_eq]
  split
  · rfl
  · split_ifs <;> rfl

theorem stream_delete (b : Board α) (o : α) (l : Location) :
    (b.delete o l).2.stream = b.stream := by
  rw [delete_eq]
  split_ifs <;> rfl

/-! ### There and back -/

/-- An object that trades a location of its own for another, and then trades back, leaves every dot
with the owner it had. -/
theorem Exchange.traded_back (h : Exchange o old new b b') (h' : Exchange o new old b' b'')
    (hold : ∀ d ∈ old, b.owner? d = some o) (d : Dot) : b''.owner? d = b.owner? d := by
  rw [h'.owner?_eq, h.owner?_eq]
  by_cases hdold : d ∈ old <;> by_cases hdnew : d ∈ new
  · simp [hdold, hdnew]
  · simp [hdold, hdnew, hold d hdold]
  · simp [hdold, hdnew, h.free d hdnew hdold]
  · simp [hdold, hdnew]

/-- A request that was granted, followed by one that is granted too and trades back what the object
traded, leads to the same board. Only the word stream may have moved. -/
theorem step_taken_back (r r' : BoardRequest α) {answer answer' : Answer}
    (h : (b.step r).1 = .ok answer) (h' : ((b.step r).2.step r').1 = .ok answer')
    (hobject : r'.object = r.object) (hold : r'.old = r.held answer)
    (hheld : r'.held answer' = r.old) (howned : ∀ d ∈ r.old, b.owner? d = some r.object)
    (hregistry : r'.registryAfter (r.registryAfter b.objects) = b.objects) :
    ((b.step r).2.step r').2 = b.seek ((b.step r).2.step r').2.stream := by
  have hg := granted_of_ok h
  have hg' := granted_of_ok h'
  have hrules := sameRules_step b r
  have hrules' := sameRules_step (b.step r).2 r'
  have hback := hg'.exchange
  rw [hobject, hold, hheld] at hback
  refine ext_owner? (hrules'.area_eq.trans hrules.area_eq) ?_ rfl
    (hrules'.retries_eq.trans hrules.retries_eq)
    ((shardCount_step _ r').trans (shardCount_step b r))
    (hg.exchange.traded_back hback howned)
  rw [hg'.objects_eq, hg.objects_eq, hregistry, objects_seek]

/-- An object that entered leaves with the location it was given. -/
theorem delete_takes_back {r : BoardRequest α} {answer : Answer} (heffect : r.effect = .create)
    (h : (b.step r).1 = .ok answer) :
    (b.step r).2.delete r.object (r.held answer) = (.ok (), b.seek (b.step r).2.stream) := by
  have hg := granted_of_ok h
  have hnew : r.object ∉ b.objects := fun ho => hg.listed.1 ho heffect
  have hregistry : r.registryAfter b.objects = b.objects ++ [r.object] := by
    rw [BoardRequest.registryAfter, heffect]
  have hlisted : (b.step r).2.isRegistered r.object = true := by
    simp [isRegistered_iff, hg.objects_eq, hregistry]
  have hok : ((b.step r).2.delete r.object (r.held answer)).1 = .ok () :=
    congrArg Prod.fst (delete_of_isRegistered hlisted _)
  have howned : ∀ d ∈ r.old, b.owner? d = some r.object := by
    simp [r.old_eq_empty heffect, Location.empty, Location.mem_def]
  have hstruck : (r.registryAfter b.objects).erase r.object = b.objects := by
    rw [hregistry, List.erase_append_right _ hnew, List.erase_cons_head, List.append_nil]
  have hback := step_taken_back r (.delete r.object (r.held answer)) h
    (withoutLocation_of_ok hok) rfl rfl (r.old_eq_empty heffect).symm howned hstruck
  refine Prod.ext hok (hback.trans ?_)
  exact congrArg b.seek (stream_delete ..)

/-- An object that left a location of its own moves back. -/
theorem update_takes_back (hb : b.WellFormed) (hempty : old ≠ .empty)
    (howned : ∀ d ∈ old, b.owner? d = some o) (h : (b.update o old new).1 = .ok ()) :
    (b.update o old new).2.update o new old = (.ok (), b) := by
  have hstep : (b.step (.update o old new)).1 = .ok none := withoutLocation_of_ok h
  have hg := granted_of_ok hstep
  have hlisted : o ∈ (b.update o old new).2.objects := by
    rw [(objects_move b o old new).1]
    exact hg.listed.2 (by simp [BoardRequest.effect])
  -- the object claimed what it left, so that lies inside and is free now
  have harea : (b.update o old new).2.area = b.area :=
    (sameRules_step b (.update o old new)).area_eq
  have hcheck : (b.update o old new).2.checkLocation old = .ok () :=
    checkLocation_of_inside hempty fun d hd => by
      rw [harea]
      exact hb.inside d o (howned d hd)
  have hfree : (b.update o old new).2.IsFree (old.difference new) := by
    rw [isFree_difference_iff]
    intro d hd hleft
    simp [(exchange_of_update_eq_ok h).owner?_eq, hd, hleft, howned d hd]
  have hok : ((b.update o old new).2.update o new old).1 = .ok () := by
    rw [update_of_listed hlisted hcheck, if_pos hfree]
  have hback := step_taken_back (.update o old new) (.update o new old) hstep
    (withoutLocation_of_ok hok) rfl rfl rfl howned rfl
  refine Prod.ext hok (hback.trans ?_)
  exact congrArg b.seek ((stream_update ..).trans (stream_update ..))

/-- On every board that requests lead to, a request that was granted can be taken back at once. An
object that entered, by whatever request, is removed with the location that it asked for or was
answered, and the board is as it was but for the word stream. An object that moved away from a
location, all of which it claimed, moves back, and the board is as it was. -/
theorem granted_taken_back {area : Area} {settings : BoardSettings}
    (hb : Reachable area settings b) :
    (∀ (r : BoardRequest α) (answer : Answer), r.effect = .create → (b.step r).1 = .ok answer →
      (b.step r).2.delete r.object (r.held answer) = (.ok (), b.seek (b.step r).2.stream)) ∧
    ∀ (o : α) (old new : Location), o ∈ b.objects → old ≠ .empty →
      (∀ d ∈ old, b.owner? d = some o) → (b.update o old new).1 = .ok () →
      (b.update o old new).2.update o new old = (.ok (), b) :=
  ⟨fun _ _ heffect h => delete_takes_back heffect h,
    fun _ _ _ _ hempty howned h => update_takes_back hb.wellFormed hempty howned h⟩

/-- Next to a dot that an object left behind when it was removed, the same object enters with what
is free of a location and leaves again, and another one moves by a dot and back. -/
theorem granted_taken_back_beside_orphan :
    ∃ b : Board Nat, Reachable ⟨4, 4, by decide, by decide⟩ {} b ∧ b.owner? ⟨3, 3⟩ = some 2 ∧
      let asked : Location := ⟨[⟨0, 0⟩, ⟨3, 0⟩, ⟨3, 0⟩, ⟨3, 3⟩]⟩
      let held : Location := ⟨[⟨3, 0⟩, ⟨3, 0⟩]⟩
      let old : Location := ⟨[⟨1, 0⟩, ⟨0, 0⟩]⟩
      let new : Location := ⟨[⟨1, 0⟩, ⟨1, 1⟩]⟩
      (b.createAvailable 2 asked).1 = .ok held ∧
        (b.createAvailable 2 asked).2.delete 2 held = (.ok (), b) ∧
        (b.update 0 old new).1 = .ok () ∧
        (b.update 0 old new).2.update 0 new old = (.ok (), b) := by
  have hfirst : Reachable ⟨4, 4, by decide, by decide⟩ {} _ :=
    (Reachable.start (α := Nat) rfl).step (.create 0 ⟨[⟨0, 0⟩, ⟨1, 0⟩]⟩)
  have hsecond := (hfirst.step (.create 2 (.ofDot ⟨3, 3⟩))).step (.delete 2 .empty)
  refine ⟨_, hsecond, rfl, ?_⟩
  intro asked held old new
  obtain ⟨hdelete, hupdate⟩ := granted_taken_back hsecond
  refine ⟨rfl, hdelete (.createAvailable 2 asked) (some held) rfl rfl, rfl, ?_⟩
  exact hupdate 0 old new (isRegistered_iff.1 rfl) (by simp [old, Location.empty]) (by decide) rfl

end ClaimGrid.Board
