import Mathlib.Data.List.Induction
import ClaimGrid.Proofs.Board.Step

/-!
# Dots that a removed object leaves behind

A removal gives back the dots that it names, and takes the object off the board whatever else it
claims. The dots that it does not name stay claimed by an object that is gone, until that object
enters the board again. There is no other way to such a dot.

## Main definitions

* `Board.Orphaned`: a dot is claimed by an object that is not on the board.
* `Board.Abandons`: a removal takes an object off the board without one of its dots.
* `Board.LeftBehind`: some removal of a run abandoned a dot, and the object never came back.

## Main results

* `Board.orphaned_step_iff`: what one request does to the orphaned dots.
* `Board.orphaned_run_iff`: the orphaned dots of every run.
-/

namespace ClaimGrid

namespace BoardRequest

variable {α : Type} {r : BoardRequest α}

theorem eq_delete_of_effect (h : r.effect = .delete) : ∃ l, r = .delete r.object l := by
  cases r <;> first | exact ⟨_, rfl⟩ | cases h

end BoardRequest

namespace Board

variable {α : Type} [DecidableEq α] {area : Area} {settings : BoardSettings} {b b₀ : Board α}
  {r : BoardRequest α} {rs : List (BoardRequest α)} {o : α} {d : Dot}

/-- A dot is claimed by an object that is not on the board. -/
def Orphaned (b : Board α) (o : α) (d : Dot) : Prop := b.owner? d = some o ∧ o ∉ b.objects

/-- The request is a successful removal of `o` that does not name `d`, which `o` claims. -/
def Abandons (b : Board α) (r : BoardRequest α) (o : α) (d : Dot) : Prop :=
  ∃ l, r = .delete o l ∧ (b.delete o l).1 = .ok () ∧ b.owner? d = some o ∧ d ∉ l

/-- Some removal of the run abandoned `d`, and `o` has not been on the board since. -/
def LeftBehind (b₀ : Board α) (rs : List (BoardRequest α)) (o : α) (d : Dot) : Prop :=
  ∃ pre r post, rs = pre ++ r :: post ∧ (b₀.run pre).Abandons r o d ∧
    ∀ mid, mid <+: post → o ∉ (b₀.run (pre ++ r :: mid)).objects

theorem run_concat (b : Board α) (rs : List (BoardRequest α)) (r : BoardRequest α) :
    b.run (rs ++ [r]) = ((b.run rs).step r).2 := List.foldl_concat ..

theorem delete_eq_ok_iff {l : Location} : (b.delete o l).1 = .ok () ↔ o ∈ b.objects := by
  rw [delete_eq, ← isRegistered_iff]
  cases b.isRegistered o with
  | true => exact iff_of_true rfl rfl
  | false => exact iff_of_false nofun nofun

/-! ### One request -/

theorem abandons_delete_iff (ho : o ∈ b.objects) {l : Location} :
    b.Abandons (.delete o l) o d ↔ b.owner? d = some o ∧ d ∉ l := by
  constructor
  · rintro ⟨l', hl', -, h⟩
    obtain rfl : l = l' := by injection hl'
    exact h
  · exact fun h => ⟨l, rfl, delete_eq_ok_iff.2 ho, h⟩

/-- A removal orphans what it abandons. -/
theorem orphaned_delete_iff (hnodup : b.objects.Nodup) (ho : o ∈ b.objects) (l : Location) :
    (b.step (.delete o l)).2.Orphaned o d ↔ b.Abandons (.delete o l) o d := by
  have hstep : (b.step (.delete o l)).2 = (b.release o l).strike o := by
    change (b.delete o l).2 = _
    rw [delete_eq, if_pos (isRegistered_iff.2 ho)]
  have hgone : o ∉ b.objects.erase o := hnodup.not_mem_erase
  rw [Orphaned, hstep, owner?_strike, owner?_release, objects_strike, objects_release,
    and_iff_left hgone, abandons_delete_iff ho]
  by_cases howner : b.owner? d = some o
  · by_cases hd : d ∈ l <;> simp [howner, hd]
  · simp [howner]

/-- Refused requests abandon nothing. -/
theorem not_abandons_of_error {e : BoardError} (h : (b.step r).1 = .error e) :
    ¬b.Abandons r o d := by
  rintro ⟨l, rfl, hok, -⟩
  have hanswer : (b.step (.delete o l)).1 = .ok none := by
    change (b.delete o l).1.map _ = _
    rw [hok]
    rfl
  rw [h] at hanswer
  exact absurd hanswer nofun

/-- A request orphans no dot of the other objects, and leaves those that were orphaned. -/
theorem Granted.orphaned_iff_of_ne {b' : Board α} {answer : Answer} (hg : Granted r answer b b')
    (ho : o ≠ r.object) : b'.Orphaned o d ↔ b.Orphaned o d ∧ o ∉ b'.objects := by
  rw [Orphaned, Orphaned, hg.exchange.owner?_eq_some_of_ne ho]
  constructor
  · rintro ⟨hd, hgone⟩
    refine ⟨⟨hd, fun hmem => hgone ?_⟩, hgone⟩
    rw [hg.objects_eq]
    exact BoardRequest.mem_registryAfter_of_ne ho hmem
  · rintro ⟨hbefore, hgone⟩
    exact ⟨hbefore.1, hgone⟩

/-- A dot is orphaned after a request exactly if the request abandons it or it was orphaned before,
and the object is not on the board. -/
theorem orphaned_step_iff (hnodup : b.objects.Nodup) (r : BoardRequest α) (o : α) (d : Dot) :
    (b.step r).2.Orphaned o d ↔
      (b.Abandons r o d ∨ b.Orphaned o d) ∧ o ∉ (b.step r).2.objects := by
  rcases step_cases b r with ⟨e, s, hstep, -⟩ | ⟨answer, -, hg⟩
  · have hanswer : (b.step r).1 = .error e := by rw [hstep]
    rw [or_iff_right (not_abandons_of_error hanswer), hstep]
    exact ⟨fun h => ⟨h, h.2⟩, And.left⟩
  by_cases ho : o = r.object
  · by_cases heffect : r.effect = .delete
    · obtain ⟨l, hr⟩ := BoardRequest.eq_delete_of_effect heffect
      have hlisted : o ∈ b.objects := by
        rw [ho, hg.listed, heffect]
        rintro ⟨⟩
      rw [← ho] at hr
      subst hr
      have hbefore : ¬b.Orphaned o d := fun h => h.2 hlisted
      have hafter := orphaned_delete_iff (d := d) hnodup hlisted l
      rw [or_iff_left hbefore]
      exact ⟨fun h => ⟨hafter.1 h, h.2⟩, fun h => hafter.2 h.1⟩
    · -- the object is on the board afterwards, so no dot of it is orphaned
      have hmem : o ∈ (b.step r).2.objects := by
        rw [hg.objects_eq, ho]
        exact BoardRequest.object_mem_registryAfter_of_ne_delete hg.listed heffect
      exact iff_of_false (fun h => h.2 hmem) fun h => h.2 hmem
  · have hkept : ¬b.Abandons r o d := by
      rintro ⟨l, rfl, -⟩
      exact ho rfl
    rw [or_iff_right hkept]
    exact hg.orphaned_iff_of_ne ho

/-! ### Runs -/

theorem nodup_run (hmake : Board.make area settings = .ok b₀) (rs : List (BoardRequest α)) :
    (b₀.run rs).objects.Nodup := by
  induction rs using List.reverseRecOn with
  | nil =>
    have hobjects : (b₀.run []).objects = [] := objects_of_make hmake
    rw [hobjects]
    exact List.nodup_nil
  | append_singleton rs r ih =>
    rw [run_concat]
    exact nodup_step ih r

theorem leftBehind_concat_iff : LeftBehind b₀ (rs ++ [r]) o d ↔
    ((b₀.run rs).Abandons r o d ∨ LeftBehind b₀ rs o d) ∧ o ∉ (b₀.run (rs ++ [r])).objects := by
  constructor
  · rintro ⟨pre, r', post, heq, habandons, hgone⟩
    have hlast : o ∉ (b₀.run (rs ++ [r])).objects := heq ▸ hgone post (List.prefix_refl post)
    refine ⟨?_, hlast⟩
    -- the removal is the last request, or the last request comes after it
    rcases List.eq_nil_or_concat post with rfl | ⟨post', r'', rfl⟩
    · obtain ⟨rfl, hr⟩ := List.append_inj' heq rfl
      obtain rfl : r = r' := List.head_eq_of_cons_eq hr
      exact .inl habandons
    · rw [List.concat_eq_append, ← List.cons_append, ← List.append_assoc] at heq
      obtain ⟨rfl, -⟩ := List.append_inj' heq rfl
      refine .inr ⟨pre, r', post', rfl, habandons, fun mid hmid => hgone mid ?_⟩
      rw [List.concat_eq_append]
      exact hmid.trans (List.prefix_append _ _)
  · rintro ⟨habandons | ⟨pre, r', post, rfl, habandons, hgone⟩, hlast⟩
    · refine ⟨rs, r, [], rfl, habandons, fun mid hmid => ?_⟩
      obtain rfl := List.prefix_nil.1 hmid
      exact hlast
    · refine ⟨pre, r', post ++ [r], by simp, habandons, fun mid hmid => ?_⟩
      rcases List.prefix_concat_iff.1 hmid with rfl | hmid
      · simpa using hlast
      · exact hgone mid hmid

/-- The orphaned dots of a run are those that a removal of it left behind. -/
theorem orphaned_run_iff (hmake : Board.make area settings = .ok b₀) :
    (b₀.run rs).Orphaned o d ↔ LeftBehind b₀ rs o d := by
  induction rs using List.reverseRecOn with
  | nil =>
    refine iff_of_false (fun h => ?_) ?_
    · have hfree : (b₀.run []).owner? d = none := owner?_of_make hmake d
      rw [Orphaned, hfree] at h
      exact absurd h.1 nofun
    · rintro ⟨pre, r, post, heq, -⟩
      exact List.append_ne_nil_of_right_ne_nil pre (List.cons_ne_nil r post) heq.symm
  | append_singleton rs r ih =>
    rw [leftBehind_concat_iff, ← ih, run_concat]
    exact orphaned_step_iff (nodup_run hmake rs) r o d

/-- After every run, the owner of a claimed dot is on the board unless the last removal that took it
off left the dot behind. So all owners are on the board if each removal names all dots that its
object claims at the time. -/
theorem owner_mem_objects_unless_leftBehind (hmake : Board.make area settings = .ok b₀)
    (rs : List (BoardRequest α)) :
    (∀ o d, (b₀.run rs).owner? d = some o →
      (o ∉ (b₀.run rs).objects ↔ LeftBehind b₀ rs o d)) ∧
    ((∀ pre o l post, rs = pre ++ .delete o l :: post → ((b₀.run pre).delete o l).1 = .ok () →
        ∀ d, (b₀.run pre).owner? d = some o → d ∈ l) →
      ∀ o d, (b₀.run rs).owner? d = some o → o ∈ (b₀.run rs).objects) := by
  constructor
  · intro o d howner
    rw [← orphaned_run_iff hmake, Orphaned, and_iff_right howner]
  · intro hcovers o d howner
    by_contra hgone
    obtain ⟨pre, r, post, hrs, ⟨l, rfl, hok, hd, hmissing⟩, -⟩ :=
      (orphaned_run_iff hmake).1 ⟨howner, hgone⟩
    exact hmissing (hcovers pre o l post hrs hok d hd)

/-- An object is removed with one of its two dots, and another one takes the dot that is free. The
other dot is left behind and stays the first one's. -/
theorem leftBehind_by_partial_removal :
    ∃ b₀ : Board Nat, Board.make ⟨4, 4, by decide, by decide⟩ {} = .ok b₀ ∧
      let rs : List (BoardRequest Nat) := [.create 0 ⟨[⟨0, 0⟩, ⟨1, 0⟩]⟩,
        .delete 0 (.ofDot ⟨0, 0⟩), .create 1 (.ofDot ⟨0, 0⟩)]
      (b₀.run rs).owner? ⟨1, 0⟩ = some 0 ∧ (b₀.run rs).objects = [1] ∧
        LeftBehind b₀ rs 0 ⟨1, 0⟩ := by
  have hmake : Board.make (α := Nat) ⟨4, 4, by decide, by decide⟩ {} = .ok _ := rfl
  refine ⟨_, hmake, rfl, rfl, ?_⟩
  have hgone : 0 ∉ [1] := by decide
  exact ((owner_mem_objects_unless_leftBehind hmake _).1 0 ⟨1, 0⟩ rfl).1 hgone

/-- An object is removed with one of its two dots. The other dot stays its own. -/
theorem removal_keeps_unnamed_dot :
    ∃ b₀ : Board Nat, Board.make ⟨4, 4, by decide, by decide⟩ {} = .ok b₀ ∧
      let rs : List (BoardRequest Nat) := [.create 0 ⟨[⟨0, 0⟩, ⟨1, 0⟩]⟩, .delete 0 (.ofDot ⟨0, 0⟩)]
      (b₀.run rs).owner? ⟨1, 0⟩ = some 0 ∧ 0 ∉ (b₀.run rs).objects := by
  refine ⟨_, rfl, rfl, ?_⟩
  exact List.not_mem_nil

end Board

end ClaimGrid
