import CardLink.Host.Scripted
import CardLink.Proofs.Operation.Tuning.Window

/-!
Bounds on a tuning: what it asks of the host, in which order and how often, whatever the host answers.
-/

namespace CardLink

/-- The bounds that the host calls of a tuning keep, each with its answer. -/
structure TuningBounds (index : UInt8) (blockSize start step : UInt32) (talk : List Exchange) : Prop where
  /-- First of all, tuning is switched on. -/
  begins : ∃ rest, talk = ⟨.tune start step true, ()⟩ :: rest
  /-- The calls come to an end. -/
  ends : talk.length ≤ 243
  /-- A completed transfer is followed by a wait and a look at tuning, any other by the last call. -/
  transfer : ∀ asked reply rest, ⟨.transfer asked, reply⟩ :: rest <:+ talk →
    asked.ReadsTuningBlock index blockSize
      ∧ (reply.completed = true → ∃ status further,
        rest = ⟨.delay 1, ()⟩ :: ⟨.tuningStatus, status⟩ :: further)
      ∧ (reply.completed = false → rest = [⟨.tune start step false, ()⟩])
  /-- The transfers after tuning is switched on, up to where it is switched on again. -/
  window : ∀ point stride rest, ⟨.tune point stride true, ()⟩ :: rest <:+ talk →
    point = start ∧ stride = step
      ∧ (rest.takeWhile (!·.switchesTuning true)).countP Exchange.isTransfer ≤ 40
  /-- Nothing but an error leads to tuning being switched on again. -/
  restart : ∀ before point stride rest, before :: ⟨.tune point stride true, ()⟩ :: rest <:+ talk →
    ∃ status : TuningStatus,
      before = ⟨.tuningStatus, status⟩ ∧ bitSet status.bits 1 = true ∧ bitSet status.bits 0 = false
  windows : talk.countP (·.switchesTuning true) ≤ 2
  transfers : talk.countP Exchange.isTransfer ≤ 80
  /-- Nothing follows once tuning is switched off. -/
  off : ∀ point stride rest, ⟨.tune point stride false, ()⟩ :: rest <:+ talk →
    point = start ∧ stride = step ∧ rest = []
  /-- Tuning is switched off after a failure, and after forty commands that the host wants more of. -/
  off_iff : talk.any (·.switchesTuning false) = true ↔
    talk.any Exchange.isFailure = true ∨ ∃ rest, ⟨.tune start step true, ()⟩ :: rest <:+ talk
      ∧ rest.countP Exchange.isTransfer = 40 ∧ rest.any Exchange.isFailure = false
      ∧ rest.any Exchange.isIdle = false

namespace TuningCourse

variable {blockSize : UInt32} (index : UInt8) (start step : UInt32) (course : TuningCourse blockSize)

/-- The course from where tuning is switched on for the last window. -/
def finish : List Exchange :=
  ⟨.tune start step true, ()⟩ :: (course.last.exchanges index ++ [course.closing start step])

/-- In front of the last window there is none, or one that settled on an error. -/
theorem exchanges_eq :
    course.exchanges index start step = course.finish index start step
      ∨ ∃ window : TuningWindow blockSize 40, window.ending.isErroneous = true
        ∧ course.exchanges index start step =
          ⟨.tune start step true, ()⟩ :: (window.exchanges index ++ course.finish index start step) := by
  -- The first window is the last one, unless there is a second one.
  unfold exchanges finish last
  cases again : course.second with
  | none => exact .inl (by simp [againExchanges])
  | some window =>
    have erroneous : course.first.ending.isErroneous = true := by rw [← course.restarts, again]; rfl
    exact .inr ⟨course.first, erroneous, by simp [againExchanges]⟩

variable {course} {point stride : UInt32} {before : Exchange} {rest : List Exchange}

/-- The last call of all is one that switches tuning off, or a look. -/
theorem not_found_closing (found : Exchange → Bool) (off : found ⟨.tune start step false, ()⟩ = false)
    (look : ∀ status, found ⟨.tuningStatus, status⟩ = false) :
    found (course.closing start step) = false := by
  unfold closing
  split
  · exact off
  · exact look _

theorem isTransfer_closing : (course.closing start step).isTransfer = false :=
  not_found_closing start step Exchange.isTransfer rfl fun _ => rfl

theorem switchesTuning_closing : (course.closing start step).switchesTuning true = false :=
  not_found_closing start step (·.switchesTuning true) rfl fun _ => rfl

theorem closing_ne_on : course.closing start step ≠ ⟨.tune point stride true, ()⟩ := by
  intro same
  have off : (course.closing start step).switchesTuning true = false :=
    switchesTuning_closing start step
  rw [same] at off
  cases off

theorem closing_ne_transfer {other : Transfer} {reply : TransferReply} :
    course.closing start step ≠ ⟨.transfer other, reply⟩ := by
  intro same
  have different : (course.closing start step).isTransfer = false := isTransfer_closing start step
  rw [same] at different
  cases different

/-- Tuning is switched on in front of the last window, and in front of one before it. -/
theorem on_place (place : ⟨.tune point stride true, ()⟩ :: rest <:+ course.exchanges index start step) :
    point = start ∧ stride = step
      ∧ (rest = course.last.exchanges index ++ [course.closing start step]
        ∨ ∃ window : TuningWindow blockSize 40,
          rest = window.exchanges index ++ course.finish index start step) := by
  -- Both windows have it in front of them only, and the last call is another one.
  have finish (place : ⟨.tune point stride true, ()⟩ :: rest <:+ course.finish index start step) :
      point = start ∧ stride = step
        ∧ rest = course.last.exchanges index ++ [course.closing start step] := by
    obtain here | place := course.last.on_place index place
    · exact here
    · cases closing_ne_on start step (suffix_singleton place).1.symm
  obtain talk | ⟨window, -, talk⟩ := course.exchanges_eq index start step
  · obtain ⟨same, equal, here⟩ := finish (talk ▸ place)
    exact ⟨same, equal, .inl here⟩
  · rw [talk] at place
    obtain ⟨same, equal, here⟩ | place := window.on_place index place
    · exact ⟨same, equal, .inr ⟨window, here⟩⟩
    · obtain ⟨same, equal, here⟩ := finish place
      exact ⟨same, equal, .inl here⟩

/-- Tuning is switched on again right after the look at which the window before settled on an error. -/
theorem restart_place
    (place : before :: ⟨.tune point stride true, ()⟩ :: rest <:+ course.exchanges index start step) :
    ∃ status : TuningStatus, before = ⟨.tuningStatus, status⟩ ∧ bitSet status.bits 1 = true
      ∧ bitSet status.bits 0 = false := by
  have finish :
      ¬ before :: ⟨.tune point stride true, ()⟩ :: rest <:+ course.finish index start step := by
    intro place
    obtain place | ⟨-, same⟩ := course.last.on_place_pair index (by decide) place
    · cases (suffix_singleton place).2
    · exact closing_ne_on start step (List.cons.inj same).1.symm
  obtain talk | ⟨window, erroneous, talk⟩ := course.exchanges_eq index start step
  · exact absurd (talk ▸ place) finish
  · -- The pair straddles the end of the first window, which is the look at the error.
    rw [talk] at place
    obtain place | ⟨found, -⟩ := window.on_place_pair index (by decide) place
    · exact absurd place finish
    · obtain ⟨round, settled, failed⟩ := TuningEnding.eq_settled_of_isErroneous erroneous
      rw [window.getLast?_settled index settled] at found
      have closes : TuningEnding.Closes 40 _ (.settled round) := settled ▸ window.closes
      have idle := (Bool.and_eq_true_iff.mp closes.2).2
      exact ⟨round.status, (Option.some.inj found).symm, failed, by simpa using idle⟩

/-- A course without a last look ends with tuning being switched off. -/
theorem closing_of_unsettled (unsettled : course.last.ending.isSettled = false) :
    course.closing start step = ⟨.tune start step false, ()⟩ := by
  have looks : course.final.isSome = course.last.ending.isSettled := course.looks
  have unlooked : course.final = none := by simpa [unsettled] using looks
  rw [closing, unlooked]

theorem transfer_place {other : Transfer} {reply : TransferReply}
    (place : ⟨.transfer other, reply⟩ :: rest <:+ course.exchanges index start step) :
    other.ReadsTuningBlock index blockSize
      ∧ (reply.completed = true ∧ (∃ status further,
          rest = ⟨.delay 1, ()⟩ :: ⟨.tuningStatus, status⟩ :: further)
        ∨ reply.completed = false ∧ rest = [⟨.tune start step false, ()⟩]) := by
  have front : (⟨.transfer other, reply⟩ : Exchange) ∉ [⟨.tune start step true, ()⟩] := by simp
  have finish (place : ⟨.transfer other, reply⟩ :: rest <:+ course.finish index start step) :
      other.ReadsTuningBlock index blockSize
        ∧ (reply.completed = true ∧ (∃ status further,
            rest = ⟨.delay 1, ()⟩ :: ⟨.tuningStatus, status⟩ :: further)
          ∨ reply.completed = false ∧ rest = [⟨.tune start step false, ()⟩]) := by
    obtain place | ⟨reads, next | ⟨failed, aborted, rfl⟩⟩ :=
      course.last.transfer_place index (suffix_back front place)
    · cases closing_ne_transfer start step (suffix_singleton place).1.symm
    · exact ⟨reads, .inl next⟩
    · have unsettled := TuningEnding.isSettled_of_isAborted aborted
      exact ⟨reads, .inr ⟨failed, by rw [closing_of_unsettled start step unsettled]⟩⟩
  obtain talk | ⟨window, erroneous, talk⟩ := course.exchanges_eq index start step
  · exact finish (talk ▸ place)
  · rw [talk] at place
    obtain place | ⟨reads, next | ⟨-, aborted, -⟩⟩ :=
      window.transfer_place index (suffix_back front place)
    · exact finish place
    · exact ⟨reads, .inl next⟩
    · -- A window that is aborted found no error.
      obtain ⟨round, settled, -⟩ := TuningEnding.eq_settled_of_isErroneous erroneous
      rw [settled] at aborted
      cases aborted

/-- Tuning is switched off by the last call, if at all. -/
theorem off_place
    (place : ⟨.tune point stride false, ()⟩ :: rest <:+ course.exchanges index start step) :
    point = start ∧ stride = step ∧ rest = [] := by
  have front : (⟨.tune point stride false, ()⟩ : Exchange) ∉ [⟨.tune start step true, ()⟩] := by simp
  -- Neither window switches tuning off, so that leaves the last call.
  have skip {limit : Nat} (window : TuningWindow blockSize limit) {tail : List Exchange}
      (place : ⟨.tune point stride false, ()⟩ :: rest <:+
        ⟨.tune start step true, ()⟩ :: (window.exchanges index ++ tail)) :
      ⟨.tune point stride false, ()⟩ :: rest <:+ tail :=
    suffix_back (window.tune_notMem index point stride false) (suffix_back front place)
  have place : ⟨.tune point stride false, ()⟩ :: rest <:+ course.finish index start step := by
    obtain talk | ⟨window, -, talk⟩ := course.exchanges_eq index start step
    · exact talk ▸ place
    · exact skip window (talk ▸ place)
  obtain ⟨same, rfl⟩ := suffix_singleton (skip course.last place)
  unfold closing at same
  split at same
  · cases same
    exact ⟨rfl, rfl, rfl⟩
  · cases same

/-- What the last window and the last call hold of something is what the two hold together. -/
theorem any_finish {found : Exchange → Bool} (opening : found ⟨.tune start step true, ()⟩ = false) :
    (course.finish index start step).any found =
      ((course.last.exchanges index).any found || found (course.closing start step)) := by
  simp only [finish, List.any_cons, List.any_append, List.any_nil, opening, Bool.false_or, Bool.or_false]

theorem any_isFailure :
    (course.exchanges index start step).any Exchange.isFailure = course.last.ending.isAborted := by
  have closing : (course.closing start step).isFailure = false :=
    not_found_closing start step Exchange.isFailure rfl fun _ => rfl
  have finish : (course.finish index start step).any Exchange.isFailure =
      course.last.ending.isAborted := by
    rw [any_finish index start step rfl, course.last.any_isFailure, closing, Bool.or_false]
  obtain talk | ⟨window, erroneous, talk⟩ := course.exchanges_eq index start step
  · rw [talk, finish]
  · -- A window that settled has no failure.
    obtain ⟨round, settled, -⟩ := TuningEnding.eq_settled_of_isErroneous erroneous
    rw [talk, List.any_cons, List.any_append, finish, window.any_isFailure, settled]
    rfl

theorem any_off : (course.exchanges index start step).any (·.switchesTuning false) =
    !course.last.ending.isSettled := by
  have looks : course.final.isSome = course.last.ending.isSettled := course.looks
  have closing : (course.closing start step).switchesTuning false = !course.last.ending.isSettled := by
    rw [← looks]
    unfold TuningCourse.closing
    cases course.final <;> rfl
  have finish : (course.finish index start step).any (·.switchesTuning false) =
      !course.last.ending.isSettled := by
    rw [any_finish index start step rfl, course.last.any_switchesTuning, closing, Bool.false_or]
  obtain talk | ⟨window, -, talk⟩ := course.exchanges_eq index start step
  · rw [talk, finish]
  · rw [talk, List.any_cons, List.any_append, finish, window.any_switchesTuning]
    rfl

theorem countP_isTransfer_behind : (course.last.exchanges index ++ [course.closing start step]).countP
    Exchange.isTransfer = (course.last.exchanges index).countP Exchange.isTransfer := by
  rw [List.countP_append, List.countP_singleton, isTransfer_closing]
  rfl

theorem countP_isTransfer_le : (course.exchanges index start step).countP Exchange.isTransfer ≤ 80 := by
  have finish : (course.finish index start step).countP Exchange.isTransfer ≤ 40 := by
    rw [TuningCourse.finish, List.countP_cons, countP_isTransfer_behind]
    exact course.last.countP_isTransfer_le index
  obtain talk | ⟨window, -, talk⟩ := course.exchanges_eq index start step
  · rw [talk]
    omega
  · have counted : (window.exchanges index).countP Exchange.isTransfer ≤ 40 :=
      window.countP_isTransfer_le index
    rw [talk, List.countP_cons, List.countP_append]
    exact Nat.add_le_add counted finish

theorem countP_on_le : (course.exchanges index start step).countP (·.switchesTuning true) ≤ 2 := by
  -- Only the calls in front of the windows count.
  have quiet (window : TuningWindow blockSize 40) :
      (window.exchanges index).countP (·.switchesTuning true) = 0 :=
    List.countP_eq_zero.mpr (List.any_eq_false.mp (window.any_switchesTuning index true))
  have finish : (course.finish index start step).countP (·.switchesTuning true) = 1 := by
    rw [TuningCourse.finish, List.countP_cons, List.countP_append, quiet, List.countP_singleton,
      switchesTuning_closing]
    rfl
  obtain talk | ⟨window, -, talk⟩ := course.exchanges_eq index start step
  · rw [talk, finish]
    decide
  · rw [talk, List.countP_cons, List.countP_append, quiet, finish]
    exact Nat.le_refl 2

theorem length_le : (course.exchanges index start step).length ≤ 243 := by
  -- Two windows of three calls for each command, one call before each of them, and the last one.
  have finish : (course.finish index start step).length ≤ 122 := by
    have within : (course.last.exchanges index).length ≤ 120 := course.last.length_exchanges_le index
    simp only [TuningCourse.finish, List.length_cons, List.length_append, List.length_nil]
    omega
  obtain talk | ⟨window, -, talk⟩ := course.exchanges_eq index start step
  · rw [talk]
    omega
  · have within : (window.exchanges index).length ≤ 120 := window.length_exchanges_le index
    rw [talk, List.length_cons, List.length_append]
    omega

/-- Up to where tuning is switched on the next time, there is at most one window. -/
theorem countP_window_le
    (place : ⟨.tune point stride true, ()⟩ :: rest <:+ course.exchanges index start step) :
    (rest.takeWhile (!·.switchesTuning true)).countP Exchange.isTransfer ≤ 40 := by
  obtain ⟨-, -, rfl | ⟨window, rfl⟩⟩ := on_place index start step place
  · calc
      _ ≤ (course.last.exchanges index ++ [course.closing start step]).countP Exchange.isTransfer :=
        (List.takeWhile_sublist _).countP_le
      _ ≤ 40 := countP_isTransfer_behind index start step ▸ course.last.countP_isTransfer_le index
  · -- The window is followed by a call that switches tuning on.
    have passed : ∀ exchange ∈ window.exchanges index, (!exchange.switchesTuning true) = true := by
      simpa using window.any_switchesTuning index true
    have next : (course.finish index start step).takeWhile (!·.switchesTuning true) = [] := rfl
    rw [List.takeWhile_append_of_pos passed, next, List.append_nil]
    exact window.countP_isTransfer_le index

theorem finish_place : course.finish index start step <:+ course.exchanges index start step := by
  obtain talk | ⟨window, -, talk⟩ := course.exchanges_eq index start step
  · exact talk ▸ List.suffix_rfl
  · rw [talk, ← List.cons_append]
    exact List.suffix_append _ _

/-- A last window that is exhausted has all its commands carried out, and tuning is active each time. -/
theorem exists_of_exhausted (exhausted : course.last.ending = .exhausted) :
    ∃ rest, ⟨.tune start step true, ()⟩ :: rest <:+ course.exchanges index start step
      ∧ rest.countP Exchange.isTransfer = 40 ∧ rest.any Exchange.isFailure = false
      ∧ rest.any Exchange.isIdle = false := by
  have unsettled : course.last.ending.isSettled = false := by rw [exhausted]; rfl
  have closing := closing_of_unsettled start step unsettled
  have counted : (course.last.exchanges index).countP Exchange.isTransfer = 40 := by
    have closes : TuningEnding.Closes 40 _ (.exhausted : TuningEnding blockSize) :=
      exhausted ▸ course.last.closes
    rw [course.last.countP_isTransfer, exhausted]
    exact closes
  refine ⟨_, finish_place index start step, ?_, ?_, ?_⟩
  · rw [countP_isTransfer_behind, counted]
  · rw [List.any_append, course.last.any_isFailure, exhausted, closing]
    rfl
  · rw [List.any_append, course.last.any_isIdle, exhausted, closing]
    rfl

/-- Wherever tuning is switched on, the last window follows, and what it finds. -/
theorem unsettled_of_restless
    (place : ⟨.tune point stride true, ()⟩ :: rest <:+ course.exchanges index start step)
    (restless : rest.any Exchange.isIdle = false) : course.last.ending.isSettled = false := by
  rw [← course.last.any_isIdle index]
  obtain ⟨-, -, rfl | ⟨window, rfl⟩⟩ := on_place index start step place
  · rw [List.any_append] at restless
    exact (Bool.or_eq_false_iff.mp restless).1
  · rw [List.any_append, any_finish index start step rfl] at restless
    exact (Bool.or_eq_false_iff.mp (Bool.or_eq_false_iff.mp restless).2).1

/-- Tuning is switched off if a transfer failed, or if a whole window left the host wanting more. -/
theorem off_iff : (course.exchanges index start step).any (·.switchesTuning false) = true ↔
    (course.exchanges index start step).any Exchange.isFailure = true
      ∨ ∃ rest, ⟨.tune start step true, ()⟩ :: rest <:+ course.exchanges index start step
        ∧ rest.countP Exchange.isTransfer = 40 ∧ rest.any Exchange.isFailure = false
        ∧ rest.any Exchange.isIdle = false := by
  rw [any_off, any_isFailure]
  -- How the last window ended decides both sides.
  cases ending : course.last.ending with
  | aborted reply => exact iff_of_true rfl (.inl rfl)
  | exhausted => exact iff_of_true rfl (.inr (exists_of_exhausted index start step ending))
  | settled round =>
    refine iff_of_false Bool.false_ne_true (not_or.mpr ⟨Bool.false_ne_true, ?_⟩)
    rintro ⟨rest, place, -, -, restless⟩
    have unsettled := unsettled_of_restless index start step place restless
    rw [ending] at unsettled
    cases unsettled

/-- Every course keeps the bounds. -/
theorem bounds (course : TuningCourse blockSize) :
    TuningBounds index blockSize start step (course.exchanges index start step) where
  begins := ⟨_, rfl⟩
  ends := length_le index start step
  transfer _ reply _ place := by
    obtain ⟨reads, ⟨completed, next⟩ | ⟨failed, next⟩⟩ := transfer_place index start step place
    · exact ⟨reads, fun _ => next, fun failed => by simp [completed] at failed⟩
    · exact ⟨reads, fun completed => by simp [failed] at completed, fun _ => next⟩
  window _ _ _ place := by
    obtain ⟨same, equal, -⟩ := on_place index start step place
    exact ⟨same, equal, countP_window_le index start step place⟩
  restart _ _ _ _ place := restart_place index start step place
  windows := countP_on_le index start step
  transfers := countP_isTransfer_le index start step
  off _ _ _ place := off_place index start step place
  off_iff := off_iff index start step

/-- A course that ends with a last look leaves tuning on, and the look decides. -/
theorem ends_with_look {status : TuningStatus} (look : course.final = some status) :
    course.result = (if bitSet status.bits 2 then .ok () else .error .tuningFailed)
      ∧ (course.exchanges index start step).any (·.switchesTuning false) = false := by
  have looks : course.final.isSome = course.last.ending.isSettled := course.looks
  have settled : course.last.ending.isSettled = true := by rw [← looks, look]; rfl
  refine ⟨?_, ?_⟩
  · rw [result, look]
  · rw [any_off, settled]
    rfl

theorem exists_look_of_ok (passed : course.result = .ok ()) : ∃ status, course.final = some status := by
  cases look : course.final with
  | some status => exact ⟨status, rfl⟩
  | none =>
    simp only [result, look] at passed
    split at passed <;> cases passed

theorem look_of_getLast? {status : TuningStatus}
    (ended : (course.exchanges index start step).getLast? = some ⟨.tuningStatus, status⟩) :
    course.final = some status := by
  rw [exchanges, List.getLast?_concat] at ended
  have closing := Option.some.inj ended
  unfold TuningCourse.closing at closing
  split at closing
  · cases closing
  · cases closing
    assumption

end TuningCourse

/--
With a block that fits, a tuning keeps its bounds on every host.

Tuning stays on where it succeeds, and where a last look decides against it.
-/
theorem tuning_within_bounds {σ : Type} (model : HostModel σ) (state : BusState σ) (index : UInt8)
    {blockSize : UInt32} (start step : UInt32) (positive : 0 < blockSize.toNat)
    (fits : blockSize.toNat ≤ 128) :
    let ran := Bus.run model (executeTuning index blockSize start step).run state
    TuningBounds index blockSize start step ran.exchanges
      ∧ (ran.value = .ok () → ran.exchanges.any (·.switchesTuning false) = false)
      ∧ ∀ status, ran.exchanges.getLast? = some ⟨.tuningStatus, status⟩ →
        ran.value = (if bitSet status.bits 2 then .ok () else .error .tuningFailed)
          ∧ ran.exchanges.any (·.switchesTuning false) = false := by
  intro ran
  have accepted : ¬ (blockSize.toNat = 0 ∨ blockSize.toNat > maxTuningBlockSize) :=
    not_or.mpr ⟨Nat.ne_of_gt positive, Nat.not_lt_of_le fits⟩
  obtain ⟨course, value, exchanges⟩ := exists_course model state index start step accepted
  simp only [ran, value, exchanges]
  refine ⟨course.bounds index start step, fun passed => ?_, fun status ended => ?_⟩
  · obtain ⟨status, look⟩ := TuningCourse.exists_look_of_ok passed
    exact (TuningCourse.ends_with_look index start step look).2
  · have look := TuningCourse.look_of_getLast? index start step ended
    exact TuningCourse.ends_with_look index start step look

/-- A host that always wants more is given forty commands, and tuning is switched off again. -/
theorem tuning_within_bounds_restless :
    let state : BusState ScriptedHost := {
      host := .ofScript { tuningStatuses := [1] }, logger := { filter := .off } }
    let ran := Bus.run ScriptedHost.model (executeTuning 19 4 0 1).run state
    0 < (4 : UInt32).toNat ∧ (4 : UInt32).toNat ≤ 128
      ∧ TuningBounds 19 4 0 1 ran.exchanges
      ∧ ran.exchanges.countP Exchange.isTransfer = 40
      ∧ ran.exchanges.any (·.switchesTuning false) = true := by
  intro state ran
  -- The windows compute by recursion on the commands that are left, as the loop does not.
  have unrolled := executeTuning_eq 19 4 0 1 (by decide)
  have counted : ran.exchanges.countP Exchange.isTransfer = 40 := by
    simp only [ran, unrolled]
    decide +kernel
  have off : ran.exchanges.any (·.switchesTuning false) = true := by
    simp only [ran, unrolled]
    decide +kernel
  exact ⟨by decide, by decide,
    (tuning_within_bounds ScriptedHost.model state 19 0 1 (by decide) (by decide)).1, counted, off⟩

end CardLink
