import Mathlib.Data.List.Nodup
import Mathlib.Tactic.Tauto
import ClaimGrid.Board.Request
import ClaimGrid.Proofs.Board.Outcome
import ClaimGrid.Proofs.Board.Search

/-!
# What a step can do

All nine requests do one of two things. A refused request leaves the board alone. A granted request
trades one location for another on behalf of its object, and enters the object into the registry or
strikes it from there. What holds of every step follows from this alone, whatever the request.

## Main definitions

* `BoardRequest.old`, `BoardRequest.held`: the locations that an object trades.
* `BoardRequest.registryAfter`: the registry that a request leads to.
* `Board.Exchange`: an object takes what one location lacks of another, and leaves the rest.
* `Board.Granted`: a request did what it asks for.
* `Board.Kept`: a property that no change of a board can destroy.

## Main results

* `Board.Exchange.owner?_eq_some_of_ne`: an exchange changes nobody else's claims.
* `Board.step_cases`: a step is refused or granted.
* `Board.Kept.step`: what every change keeps, every request keeps.
-/

namespace ClaimGrid

namespace BoardRequest

variable {α : Type}

/-- The location that a request says its object has; an object that enters the board has none. -/
def old : BoardRequest α → Location
  | create .. | createAvailable .. | createRandomDot .. | createRandomRect ..
  | createRandomRectMargin .. | createRandomMask .. => .empty
  | update _ old _ | updateAvailable _ old _ => old
  | delete _ l => l

/-- The location that the object has once the request is granted: the one that was asked for where
it is taken as a whole, and the one that was answered otherwise. -/
def held : BoardRequest α → Board.Answer → Location
  | create _ l, _ => l
  | update _ _ new, _ => new
  | delete .., _ => .empty
  | createAvailable .., answer | createRandomDot .., answer | createRandomRect .., answer
  | createRandomRectMargin .., answer | createRandomMask .., answer
  | updateAvailable .., answer => answer.getD .empty

/-- The registry after the request was granted. -/
def registryAfter [DecidableEq α] (r : BoardRequest α) (os : List α) : List α :=
  match r.effect with
  | .create => os ++ [r.object]
  | .update => os
  | .delete => os.erase r.object

variable {r : BoardRequest α}

theorem old_eq_empty (h : r.effect = .create) : r.old = .empty := by
  cases r <;> first | rfl | cases h

theorem held_eq_empty (h : r.effect = .delete) (answer : Board.Answer) :
    r.held answer = .empty := by
  cases r <;> first | rfl | cases h

/-! ### The registry afterwards -/

section Registry

variable [DecidableEq α] {answer : Board.Answer} {os : List α}

theorem nodup_registryAfter (hnodup : os.Nodup) (hlisted : r.object ∈ os ↔ r.effect ≠ .create) :
    (r.registryAfter os).Nodup := by
  rw [registryAfter]
  cases heffect : r.effect with
  | create =>
    have hnew : r.object ∉ os := fun h => hlisted.1 h heffect
    change (os ++ [r.object]).Nodup
    rw [← List.concat_eq_append]
    exact hnodup.concat hnew
  | update => exact hnodup
  | delete => exact hnodup.erase _

theorem mem_registryAfter_of_ne {o : α} (ho : o ≠ r.object) (h : o ∈ os) :
    o ∈ r.registryAfter os := by
  rw [registryAfter]
  cases r.effect with
  | create => exact List.mem_append_left _ h
  | update => exact h
  | delete => exact (List.mem_erase_of_ne ho).2 h

/-- An object that enters or moves is on the board afterwards. -/
theorem object_mem_registryAfter_of_ne_delete (hlisted : r.object ∈ os ↔ r.effect ≠ .create)
    (h : r.effect ≠ .delete) : r.object ∈ r.registryAfter os := by
  rw [registryAfter]
  cases heffect : r.effect with
  | create => exact List.mem_append_right _ List.mem_cons_self
  | update =>
    refine hlisted.2 fun h => ?_
    rw [heffect] at h
    cases h
  | delete => exact absurd heffect h

/-- An object that holds a dot once its request is granted is on the board. -/
theorem object_mem_registryAfter (hlisted : r.object ∈ os ↔ r.effect ≠ .create) {d : Dot}
    (hd : d ∈ r.held answer) : r.object ∈ r.registryAfter os := by
  refine object_mem_registryAfter_of_ne_delete hlisted fun heffect => ?_
  rw [r.held_eq_empty heffect] at hd
  exact absurd hd List.not_mem_nil

end Registry

end BoardRequest

namespace Board

variable {α : Type} [DecidableEq α]

/-! ### Trading one location for another -/

/-- `b'` is `b` after `o` took the dots of `new` that `old` lacks, all of them free, and gave back
its own dots of `old` that `new` lacks. -/
structure Exchange (o : α) (old new : Location) (b b' : Board α) : Prop where
  /-- The dots taken were free. -/
  free : ∀ d ∈ new, d ∉ old → b.owner? d = none
  /-- All other dots but those given back keep their owners. -/
  owner?_eq : ∀ d, b'.owner? d =
    if d ∈ new ∧ d ∉ old then some o
    else if d ∈ old ∧ d ∉ new ∧ b.owner? d = some o then none
    else b.owner? d

variable {b b' b'' : Board α} {o : α}

/-- An exchange is about owners only. -/
theorem Exchange.congr {old new : Location} (h : Exchange o old new b b')
    (hb : ∀ d, b''.owner? d = b'.owner? d) : Exchange o old new b b'' where
  free := h.free
  owner?_eq d := (hb d).trans (h.owner?_eq d)

theorem exchange_occupy {l : Location} (hfree : b.IsFree l) :
    Exchange o .empty l b (b.occupy o l) where
  free d hd _ := hfree d hd
  owner?_eq d := by
    have hempty : d ∉ Location.empty := List.not_mem_nil
    simp only [owner?_occupy, hempty, not_false_eq_true, and_true, false_and, if_false]

theorem exchange_release (l : Location) : Exchange o l .empty b (b.release o l) where
  free d hd _ := absurd hd List.not_mem_nil
  owner?_eq d := by
    have hempty : d ∉ Location.empty := List.not_mem_nil
    simp only [owner?_release, hempty, not_false_eq_true, true_and, false_and, if_false]

/-- A move takes what it needs before it gives back what it leaves. -/
theorem exchange_occupy_release {old new taken given : Location} (hfree : b.IsFree taken)
    (htaken : ∀ d, d ∈ taken ↔ d ∈ new ∧ d ∉ old) (hgiven : ∀ d, d ∈ given ↔ d ∈ old ∧ d ∉ new) :
    Exchange o old new b ((b.occupy o taken).release o given) where
  free d hd hold := hfree d ((htaken d).2 ⟨hd, hold⟩)
  owner?_eq d := by
    simp only [owner?_release, owner?_occupy, htaken, hgiven]
    by_cases hnew : d ∈ new <;> by_cases hold : d ∈ old <;> simp [hnew, hold]

/-- A best-effort move ends on what it could reach. -/
theorem exchange_reach (old new : Location) :
    Exchange o old (b.reach old new) b
      ((b.occupy o (b.freePart (new.difference old))).release o (old.difference new)) := by
  refine exchange_occupy_release (fun d hd => (mem_freePart.1 hd).2) (fun d => ?_) fun d => ?_
  · rw [mem_freePart, Location.mem_difference, mem_reach]
    tauto
  · rw [Location.mem_difference, mem_reach]
    tauto

/-- Of the dots asked for, those that were had already keep their owners. -/
theorem Exchange.owner?_of_mem {old new : Location} (h : Exchange o old new b b') {d : Dot}
    (hd : d ∈ new) : b'.owner? d = if d ∈ old then b.owner? d else some o := by
  rw [h.owner?_eq]
  by_cases hold : d ∈ old
  · simp only [hd, hold, not_true, and_false, false_and, if_false, if_true]
  · simp only [hd, hold, not_false_eq_true, and_self, if_true, if_false]

/-- An exchange changes nobody else's claims. -/
theorem Exchange.owner?_eq_some_of_ne {old new : Location} {p : α} (h : Exchange o old new b b')
    (hp : p ≠ o) {d : Dot} : b'.owner? d = some p ↔ b.owner? d = some p := by
  rw [h.owner?_eq]
  by_cases htaken : d ∈ new ∧ d ∉ old
  · rw [if_pos htaken, h.free d htaken.1 htaken.2]
    exact iff_of_false (fun e => hp (Option.some.inj e).symm) nofun
  · rw [if_neg htaken]
    by_cases hgiven : d ∈ old ∧ d ∉ new ∧ b.owner? d = some o
    · rw [if_pos hgiven, hgiven.2.2]
      exact iff_of_false nofun fun e => hp (Option.some.inj e).symm
    · rw [if_neg hgiven]

/-- An object that trades exactly what it claims ends up with exactly what it asked for. -/
theorem Exchange.owner?_eq_some_self {old new : Location} (h : Exchange o old new b b')
    (hold : ∀ d, b.owner? d = some o ↔ d ∈ old) {d : Dot} :
    b'.owner? d = some o ↔ d ∈ new := by
  rw [h.owner?_eq]
  by_cases hnew : d ∈ new <;> by_cases hd : d ∈ old
  · simp only [hnew, hd, not_true, and_false, false_and, if_false, (hold d).2 hd]
  · simp only [hnew, hd, not_false_eq_true, and_self, if_true]
  · simp only [hnew, hd, (hold d).2 hd, not_false_eq_true, and_self, if_true, if_false,
      false_and, reduceCtorEq]
  · simp only [hnew, hd, false_and, if_false, hold d]

/-! ### Refused and granted requests -/

omit [DecidableEq α] in
theorem withoutLocation_of_ok {outcome : Except BoardError Unit × Board α}
    (h : outcome.1 = .ok ()) : (withoutLocation outcome).1 = .ok none := by
  rw [withoutLocation, h]
  rfl

omit [DecidableEq α] in
theorem withLocation_of_ok {outcome : Except BoardError Location × Board α} {l : Location}
    (h : outcome.1 = .ok l) : (withLocation outcome).1 = .ok (some l) := by
  rw [withLocation, h]
  rfl

omit [DecidableEq α] in
theorem Refused.withLocation {outcome : Except BoardError Location × Board α}
    (h : b.Refused outcome) : b.Refused (withLocation outcome) := by
  obtain ⟨e, s, rfl, hs⟩ := h
  exact ⟨e, s, rfl, hs⟩

/-- The request changed `b` into `b'` as it asks for, with the given answer. -/
structure Granted (r : BoardRequest α) (answer : Answer) (b b' : Board α) : Prop where
  /-- The object has traded its old location for the one it holds now. -/
  exchange : Exchange r.object r.old (r.held answer) b b'
  /-- Exactly the objects that entered were not listed before. -/
  listed : r.object ∈ b.objects ↔ r.effect ≠ .create
  /-- The registry follows the effect of the request. -/
  objects_eq : b'.objects = r.registryAfter b.objects

/-- An object that was not listed enters with a location that nobody claimed. -/
theorem granted_enlist (r : BoardRequest α) (answer : Answer) (heffect : r.effect = .create)
    (hreg : b.isRegistered r.object = false) (hfree : b.IsFree (r.held answer))
    (s : WordStream) :
    Granted r answer b (((b.seek s).occupy r.object (r.held answer)).enlist r.object) where
  exchange := by
    rw [r.old_eq_empty heffect]
    exact (exchange_occupy hfree).congr fun _ => rfl
  listed := by
    rw [← isRegistered_iff, hreg, heffect]
    exact iff_of_false Bool.false_ne_true (not_not_intro rfl)
  objects_eq := by
    rw [BoardRequest.registryAfter, heffect]
    rfl

/-- An object on the board does not enter it. -/
theorem listed_of_isRegistered {r : BoardRequest α} (hreg : b.isRegistered r.object = true)
    (heffect : r.effect ≠ .create) : r.object ∈ b.objects ↔ r.effect ≠ .create :=
  iff_of_true (isRegistered_iff.1 hreg) heffect

/-- The two ways in which a request ends, for the answer and the board in one pair. -/
def Settles (b : Board α) (r : BoardRequest α) (outcome : Except BoardError Answer × Board α) :
    Prop :=
  b.Refused outcome ∨ ∃ answer, outcome.1 = .ok answer ∧ Granted r answer b outcome.2

theorem settles_create (b : Board α) (o : α) (l : Location) :
    b.Settles (.create o l) (withoutLocation (b.create o l)) := by
  rw [create_eq]
  cases b.checkLocation l with
  | error e => exact .inl (refused_self b e)
  | ok u =>
    dsimp only
    split
    · exact .inl (refused_self b _)
    · rename_i hreg
      split
      · rename_i hfree
        exact .inr ⟨none, rfl, granted_enlist (.create o l) none rfl
          (Bool.eq_false_iff.2 hreg) hfree b.stream⟩
      · exact .inl (refused_self b _)

theorem settles_createAvailable (b : Board α) (o : α) (l : Location) :
    b.Settles (.createAvailable o l) (withLocation (b.createAvailable o l)) := by
  rw [createAvailable_eq]
  cases b.checkLocation l with
  | error e => exact .inl (refused_self b e)
  | ok u =>
    dsimp only
    split
    · exact .inl (refused_self b _)
    · rename_i hreg
      have hfree : b.IsFree (b.freePart l) := fun d hd => (mem_freePart.1 hd).2
      exact .inr ⟨some (b.freePart l), rfl, granted_enlist (.createAvailable o l)
        (some (b.freePart l)) rfl (Bool.eq_false_iff.2 hreg) hfree b.stream⟩

theorem settles_update (b : Board α) (o : α) (old new : Location) :
    b.Settles (.update o old new) (withoutLocation (b.update o old new)) := by
  rw [update_eq]
  cases b.checkLocation new with
  | error e => exact .inl (refused_self b e)
  | ok u =>
    dsimp only
    split
    · rename_i hreg
      split
      · rename_i hfree
        refine .inr ⟨none, rfl, ?_, listed_of_isRegistered hreg (by rintro ⟨⟩), rfl⟩
        exact exchange_occupy_release hfree (fun _ => Location.mem_difference)
          fun _ => Location.mem_difference
      · exact .inl (refused_self b _)
    · exact .inl (refused_self b _)

theorem settles_updateAvailable (b : Board α) (o : α) (old new : Location) :
    b.Settles (.updateAvailable o old new) (withLocation (b.updateAvailable o old new)) := by
  rw [updateAvailable_eq]
  cases b.checkLocation new with
  | error e => exact .inl (refused_self b e)
  | ok u =>
    dsimp only
    split
    · rename_i hreg
      split
      · exact .inl (refused_self b _)
      · exact .inr ⟨some (b.reach old new), rfl, exchange_reach old new,
          listed_of_isRegistered hreg (by rintro ⟨⟩), rfl⟩
    · exact .inl (refused_self b _)

theorem settles_delete (b : Board α) (o : α) (l : Location) :
    b.Settles (.delete o l) (withoutLocation (b.delete o l)) := by
  rw [delete_eq]
  split
  · rename_i hreg
    exact .inr ⟨none, rfl, (exchange_release l).congr fun _ => rfl,
      listed_of_isRegistered hreg (by rintro ⟨⟩), rfl⟩
  · exact .inl (refused_self b _)

/-- A random placement settles any request that enters its object and holds what is answered. -/
theorem settles_of_placed {r : BoardRequest α} {outcome : Except BoardError Location × Board α}
    (heffect : r.effect = .create) (hheld : ∀ l, r.held (some l) = l)
    (h : b.Refused outcome ∨ b.Placed r.object outcome) : b.Settles r (withLocation outcome) := by
  rcases h with hrefused | ⟨l, s, hreg, hfree, rfl⟩
  · exact .inl hrefused.withLocation
  · have hg := granted_enlist r (some l) heffect hreg ((hheld l).symm ▸ hfree) s
    rw [hheld] at hg
    exact .inr ⟨some l, rfl, hg⟩

/-- A request is refused, or it is granted. -/
theorem step_cases (b : Board α) (r : BoardRequest α) : b.Settles r (b.step r) := by
  cases r with
  | create o l => exact settles_create b o l
  | createAvailable o l => exact settles_createAvailable b o l
  | createRandomDot o =>
      exact settles_of_placed rfl (fun _ => rfl) (createRandomDot_cases b o)
  | createRandomRect o width height =>
      exact settles_of_placed rfl (fun _ => rfl) (createRandomRect_cases b o width height)
  | createRandomRectMargin o width height margin =>
      exact settles_of_placed rfl (fun _ => rfl)
        (createRandomRectMargin_cases b o width height margin)
  | createRandomMask o m =>
      exact settles_of_placed rfl (fun _ => rfl) (createRandomMask_cases b o m)
  | update o old new => exact settles_update b o old new
  | updateAvailable o old new => exact settles_updateAvailable b o old new
  | delete o l => exact settles_delete b o l

/-! ### What every request keeps -/

/-- A property that survives every change that requests are made of. -/
structure Kept (P : Board α → Prop) : Prop where
  seek : ∀ b s, P b → P (b.seek s)
  occupy : ∀ b o l, P b → P (b.occupy o l)
  release : ∀ b o l, P b → P (b.release o l)
  enlist : ∀ b o, P b → P (b.enlist o)
  strike : ∀ b o, P b → P (b.strike o)

namespace Kept

variable {P : Board α → Prop}

theorem of_placed (hP : Kept P) (hb : P b) {outcome : Except BoardError Location × Board α}
    (h : b.Refused outcome ∨ b.Placed o outcome) : P outcome.2 := by
  rcases h with ⟨e, s, rfl, -⟩ | ⟨l, s, -, -, rfl⟩
  · exact hP.seek b s hb
  · exact hP.enlist _ o (hP.occupy _ o l (hP.seek b s hb))

/-- It survives every request, granted or refused. -/
theorem step (hP : Kept P) (hb : P b) (r : BoardRequest α) : P (b.step r).2 := by
  cases r with
  | create o l =>
    change P (b.create o l).2
    rw [create_eq]
    split
    · exact hb
    · split_ifs
      · exact hb
      · exact hP.enlist _ o (hP.occupy b o l hb)
      · exact hb
  | createAvailable o l =>
    change P (b.createAvailable o l).2
    rw [createAvailable_eq]
    split
    · exact hb
    · split_ifs
      · exact hb
      · exact hP.enlist _ o (hP.occupy b o _ hb)
  | createRandomDot o => exact hP.of_placed hb (createRandomDot_cases b o)
  | createRandomRect o width height =>
    exact hP.of_placed hb (createRandomRect_cases b o width height)
  | createRandomRectMargin o width height margin =>
    exact hP.of_placed hb (createRandomRectMargin_cases b o width height margin)
  | createRandomMask o m => exact hP.of_placed hb (createRandomMask_cases b o m)
  | update o old new =>
    change P (b.update o old new).2
    rw [update_eq]
    split
    · exact hb
    · split_ifs
      · exact hP.release _ o _ (hP.occupy b o _ hb)
      · exact hb
      · exact hb
  | updateAvailable o old new =>
    change P (b.updateAvailable o old new).2
    rw [updateAvailable_eq]
    split
    · exact hb
    · split_ifs
      · exact hb
      · exact hP.release _ o _ (hP.occupy b o _ hb)
      · exact hb
  | delete o l =>
    change P (b.delete o l).2
    rw [delete_eq]
    split_ifs
    · exact hP.strike _ o (hP.release b o l hb)
    · exact hb

end Kept

/-- The registry never lists an object twice. -/
theorem nodup_step (h : b.objects.Nodup) (r : BoardRequest α) : (b.step r).2.objects.Nodup := by
  rcases step_cases b r with ⟨e, s, hstep, -⟩ | ⟨answer, -, hg⟩
  · rw [hstep]
    exact h
  · rw [hg.objects_eq]
    exact BoardRequest.nodup_registryAfter h hg.listed

/-- A request that succeeds was granted. -/
theorem granted_of_ok {r : BoardRequest α} {answer : Answer} (h : (b.step r).1 = .ok answer) :
    Granted r answer b (b.step r).2 := by
  rcases step_cases b r with ⟨e, s, hstep, -⟩ | ⟨answer', hanswer, hg⟩
  · rw [hstep] at h
    exact absurd h nofun
  · rw [h] at hanswer
    obtain rfl := Except.ok.inj hanswer
    exact hg

end Board

end ClaimGrid
