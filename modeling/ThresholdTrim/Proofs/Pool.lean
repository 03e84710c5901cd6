import ThresholdTrim.Pool
import ThresholdTrim.Proofs.Course.Calibration
import ThresholdTrim.Proofs.Exact

/-!
# Every device is accounted for

Workers interleave as they like, so what a pool returns has to be read off an invariant: at any
time every device is queued, held, running, reported or skipped, once for every time it was asked
for. `Worker.held?` and `Worker.started?` say where a device is that is with a worker, and
`perm_filterMap_set` what a step of that worker does to it.

The order of the reports is settled afterwards, by sorting. Two sorted lists of the same reports
are equal when no two reports share a key, and that is why the schedule cannot show.
-/

namespace ThresholdTrim

/-! ## The order of device keys -/

namespace DeviceKey

/-- Keys are compared by board and then by index. -/
instance : Std.TransCmp DeviceKey.compare :=
  inferInstanceAs (Std.TransCmp (compareLex (compareOn DeviceKey.board) (compareOn DeviceKey.vmm)))

instance : Std.LawfulEqCmp DeviceKey.compare where
  eq_of_compare {a b} h := by
    rw [DeviceKey.compare, Ordering.then_eq_eq] at h
    obtain ⟨board, vmm⟩ := a
    obtain rfl : board = b.board := Std.LawfulEqCmp.eq_of_compare h.1
    obtain rfl : vmm = b.vmm := Std.LawfulEqCmp.eq_of_compare h.2
    rfl

variable {a b c : DeviceKey}

theorem le_trans (hab : a.le b = true) (hbc : b.le c = true) : a.le c = true :=
  Std.TransCmp.isLE_trans hab hbc

theorem le_total (a b : DeviceKey) : (a.le b || b.le a) = true := by
  rw [Bool.or_eq_true]
  cases horder : a.compare b with
  | lt | eq => exact .inl (congrArg Ordering.isLE horder)
  | gt =>
    have hge : (a.compare b).isGE = true := congrArg Ordering.isGE horder
    exact .inr (Std.OrientedCmp.isLE_of_isGE hge)

theorem le_antisymm (hab : a.le b = true) (hba : b.le a = true) : a = b :=
  Std.LawfulEqCmp.eq_of_compare (Std.OrientedCmp.isLE_antisymm hab hba)

end DeviceKey

/-! ## Reports of one device -/

variable {σ R : Type}

section

variable [Scalar R]

/-- What becomes of one device: the report of its calibrator, or of the failure to make one. -/
def Pool.outcome (settings : Settings R)
    (make : DeviceSpec → Except String (Calibrator σ R × σ)) (spec : DeviceSpec) : Delivery R :=
  match make spec with
  | .ok (calibrator, frontEnd) => .ofCalibrator calibrator frontEnd
  | .error cause => .ofSetupFailure settings spec cause

/-- A calibration reports on the device it was given. -/
theorem Calibration.spec_calibrate (bench : Bench σ R) (geometry : Geometry)
    (settings : Settings R) (mode : Mode) (spec : DeviceSpec) (link : Link σ) :
    (calibrate bench geometry settings mode spec link).context.spec = spec := by
  obtain ⟨_, _, hcourse⟩ := exists_course bench geometry settings mode spec link
  exact hcourse.spec_eq

namespace Delivery

theorem key_ofCalibrator (calibrator : Calibrator σ R) (frontEnd : σ) :
    (ofCalibrator calibrator frontEnd).key = calibrator.spec.key :=
  congrArg DeviceSpec.key (Calibration.spec_calibrate ..)

/-- The report of a device that could not be set up. -/
structure IsSetupFailure (delivery : Delivery R) (settings : Settings R) (spec : DeviceSpec)
    (cause : String) : Prop where
  device : delivery.report.context.spec = spec
  status : delivery.report.context.status = .masked (.hardware (.reported cause))
  registers : delivery.report.context.registers = ⟨settings.threshold.thdacMax,
    List.replicate spec.channels 0, List.replicate spec.channels true⟩
  acquisitions : delivery.report.acquisitions = 0

theorem isSetupFailure_ofSetupFailure (settings : Settings R) (spec : DeviceSpec)
    (cause : String) : (ofSetupFailure settings spec cause).IsSetupFailure settings spec cause :=
  have hfits : (Calibration.start settings spec).Fits := Calibration.fits_start
  ⟨rfl, rfl, Context.registers_fail hfits, rfl⟩

end Delivery

end

namespace Pool

/-! ## Workers -/

/-- The device of a worker that has not looked at the flag. -/
def Worker.held? : Worker → Option DeviceSpec
  | .holding spec => some spec
  | .idle | .running _ => none

/-- The device of a worker that is calibrating. -/
def Worker.started? : Worker → Option DeviceSpec
  | .running spec => some spec
  | .idle | .holding _ => none

/-- One worker changes: what it had goes, what it has comes. -/
theorem perm_filterMap_set {f : Worker → Option DeviceSpec} {workers : List Worker} {i : Nat}
    {old : Worker} (hold : workers[i]? = some old) (new : Worker) :
    ((f old).toList ++ (workers.set i new).filterMap f).Perm
      ((f new).toList ++ workers.filterMap f) := by
  obtain ⟨hi, rfl⟩ := List.getElem?_eq_some_iff.mp hold
  have hsplit : workers = workers.take i ++ workers[i] :: workers.drop (i + 1) := by
    rw [← List.drop_eq_getElem_cons hi, List.take_append_drop]
  have hcons : ∀ (w : Worker) rest, (w :: rest).filterMap f = (f w).toList ++ rest.filterMap f := by
    intro w rest
    rw [List.filterMap_cons]
    cases f w <;> rfl
  rw [List.set_eq_take_append_cons_drop, if_pos hi, List.filterMap_append, hcons]
  conv_rhs => rw [hsplit, List.filterMap_append, hcons]
  rw [List.perm_iff_count]
  intro spec
  simp only [List.count_append]
  omega

variable {work : DeviceSpec → Delivery R} {s t : State R} {jobs : Nat} {specs : List DeviceSpec}
  {raised : Bool}

namespace State

/-- Devices that were taken by workers which have not looked at the flag. -/
def held (s : State R) : List DeviceSpec := s.workers.filterMap Worker.held?

/-- Devices that are being calibrated. -/
def started (s : State R) : List DeviceSpec := s.workers.filterMap Worker.started?

/-- What is left to do: a queued device is taken, looked at and delivered. -/
def weight (s : State R) : Nat := 3 * s.queue.length + 2 * s.held.length + s.started.length

/-- Idle workers have no devices. -/
theorem eq_nil_of_idle (h : ∀ w ∈ s.workers, w = .idle) : s.held = [] ∧ s.started = [] := by
  constructor
  · rw [held, List.filterMap_eq_nil_iff]
    intro w hmem
    rw [h w hmem]
    rfl
  · rw [started, List.filterMap_eq_nil_iff]
    intro w hmem
    rw [h w hmem]
    rfl

end State

/-! ## Steps -/

/-- What a step does to the devices. -/
inductive Moved (work : DeviceSpec → Delivery R) (s t : State R) : Prop
  | taken (spec : DeviceSpec) (queue : s.queue = spec :: t.queue)
    (held : t.held.Perm (spec :: s.held)) (started : t.started.Perm s.started)
    (delivered : t.delivered = s.delivered) (skipped : t.skipped = s.skipped) : Moved work s t
  | skipped (spec : DeviceSpec) (queue : s.queue = t.queue) (held : s.held.Perm (spec :: t.held))
    (started : t.started.Perm s.started) (delivered : t.delivered = s.delivered)
    (skipped : t.skipped = s.skipped ++ [spec]) : Moved work s t
  | begun (spec : DeviceSpec) (queue : s.queue = t.queue) (held : s.held.Perm (spec :: t.held))
    (started : t.started.Perm (spec :: s.started)) (delivered : t.delivered = s.delivered)
    (skipped : t.skipped = s.skipped) : Moved work s t
  | reported (spec : DeviceSpec) (queue : s.queue = t.queue) (held : t.held.Perm s.held)
    (started : s.started.Perm (spec :: t.started))
    (delivered : t.delivered = s.delivered ++ [work spec]) (skipped : t.skipped = s.skipped) :
    Moved work s t
  | raised (h : t = { s with stopRaised := true }) : Moved work s t

theorem Step.moved (h : Step work s t) : Moved work s t := by
  cases h with
  | @take i spec rest idle queued =>
    have hheld := perm_filterMap_set (f := Worker.held?) idle (.holding spec)
    have hstarted := perm_filterMap_set (f := Worker.started?) idle (.holding spec)
    exact .taken spec queued hheld hstarted rfl rfl
  | @skip i spec held raised =>
    have hheld := perm_filterMap_set (f := Worker.held?) held .idle
    have hstarted := perm_filterMap_set (f := Worker.started?) held .idle
    exact .skipped spec rfl hheld.symm hstarted rfl rfl
  | @start i spec held lowered =>
    have hheld := perm_filterMap_set (f := Worker.held?) held (.running spec)
    have hstarted := perm_filterMap_set (f := Worker.started?) held (.running spec)
    exact .begun spec rfl hheld.symm hstarted rfl rfl
  | @deliver i spec running =>
    have hheld := perm_filterMap_set (f := Worker.held?) running .idle
    have hstarted := perm_filterMap_set (f := Worker.started?) running .idle
    exact .reported spec rfl hheld hstarted.symm rfl rfl
  | raise => exact .raised rfl

/-- A step of a worker leaves less to do. -/
theorem Step.weight_lt (h : Step work s t) :
    t.weight < s.weight ∨ t = { s with stopRaised := true } := by
  rw [State.weight, State.weight]
  cases h.moved with
  | taken spec queue held started =>
    have hheld := held.length_eq
    have hstarted := started.length_eq
    rw [queue]
    simp only [List.length_cons] at hheld ⊢
    omega
  | skipped spec queue held started | begun spec queue held started
  | reported spec queue held started =>
    have hheld := held.length_eq
    have hstarted := started.length_eq
    rw [queue]
    simp only [List.length_cons] at hheld hstarted
    omega
  | raised h => exact .inr h

/-- As long as something is left to do, some worker can do some of it. -/
theorem exists_step (work : DeviceSpec → Delivery R) (hworkers : s.workers ≠ [])
    (hdone : ¬s.isDone) : ∃ t, Step work s t ∧ t.weight < s.weight := by
  -- a step that changes a worker does not just raise the flag
  have hweight : ∀ {t : State R} {i : Nat} {old new : Worker}, s.workers[i]? = some old →
      Step work s t → t.workers = s.workers.set i new → new ≠ old →
      ∃ t, Step work s t ∧ t.weight < s.weight := by
    intro t i old new hold hstep hworkers hne
    refine ⟨t, hstep, hstep.weight_lt.resolve_right fun hraised ↦ hne ?_⟩
    have hsame : t.workers = s.workers := by rw [hraised]
    have hnew : (s.workers.set i new)[i]? = some new :=
      List.getElem?_set_self (List.getElem?_eq_some_iff.mp hold).1
    rw [← hworkers, hsame, hold] at hnew
    exact (Option.some.inj hnew).symm
  by_cases hidle : ∀ w ∈ s.workers, w = .idle
  · obtain ⟨spec, rest, hqueue⟩ := List.exists_cons_of_ne_nil fun hempty ↦ hdone ⟨hempty, hidle⟩
    have hfirst : s.workers[0]? = some .idle := by
      obtain ⟨w, others, hw⟩ := List.exists_cons_of_ne_nil hworkers
      rw [hw, List.getElem?_cons_zero, hidle w (hw ▸ List.mem_cons_self)]
    exact hweight hfirst (.take hfirst hqueue) rfl nofun
  · rw [not_forall₂] at hidle
    obtain ⟨w, hmem, hbusy⟩ := hidle
    obtain ⟨i, hi⟩ := List.getElem?_of_mem hmem
    cases w with
    | idle => exact absurd rfl hbusy
    | running spec => exact hweight hi (.deliver hi) rfl nofun
    | holding spec =>
      by_cases hraised : s.stopRaised = true
      · exact hweight hi (.skip hi hraised) rfl nofun
      · rw [Bool.not_eq_true] at hraised
        exact hweight hi (.start hi hraised) rfl nofun

/-! ## Runs -/

/-- A schedule leads from one state to another. -/
abbrev Reaches (work : DeviceSpec → Delivery R) : State R → State R → Prop :=
  Relation.ReflTransGen (Step work)

/-- Each device is in one place, and the reports are those of the devices that are done. -/
structure Accounts (work : DeviceSpec → Delivery R) (specs : List DeviceSpec) (s : State R)
    (reported : List DeviceSpec) : Prop where
  delivered : s.delivered = reported.map work
  places : (s.queue ++ s.held ++ s.started ++ reported ++ s.skipped).Perm specs

/-- A step moves one device from one place to another. -/
theorem Accounts.step {reported : List DeviceSpec} (h : Accounts work specs s reported)
    (hstep : Step work s t) : ∃ reported, Accounts work specs t reported := by
  have hplaces := List.perm_iff_count.mp h.places
  simp only [List.count_append] at hplaces
  cases hstep.moved with
  | taken spec queue held started delivered skipped
  | skipped spec queue held started delivered skipped
  | begun spec queue held started delivered skipped =>
    refine ⟨reported, delivered.trans h.delivered, List.perm_iff_count.mpr fun other ↦ ?_⟩
    have hheld := held.count_eq other
    have hstarted := started.count_eq other
    have hother := hplaces other
    rw [queue] at hother
    simp only [List.count_append, List.count_cons, skipped, List.count_nil]
      at hheld hstarted hother ⊢
    omega
  | reported spec queue held started delivered skipped =>
    refine ⟨reported ++ [spec], ?_, List.perm_iff_count.mpr fun other ↦ ?_⟩
    · rw [delivered, h.delivered, List.map_append]
      rfl
    have hheld := held.count_eq other
    have hstarted := started.count_eq other
    have hother := hplaces other
    rw [queue] at hother
    simp only [List.count_append, List.count_cons, skipped, List.count_nil] at hstarted hother ⊢
    omega
  | raised heq =>
    subst heq
    exact ⟨reported, h.delivered, h.places⟩

theorem accounts_start : Accounts work specs (State.start jobs specs raised) [] := by
  obtain ⟨hheld, hstarted⟩ : (State.start jobs specs raised : State R).held = [] ∧
      (State.start jobs specs raised : State R).started = [] :=
    State.eq_nil_of_idle fun _ hmem ↦ List.eq_of_mem_replicate hmem
  refine ⟨rfl, ?_⟩
  rw [hheld, hstarted]
  simp [State.start]

/-- No schedule loses or duplicates a device. -/
theorem Reaches.accounts (h : Reaches work (.start jobs specs raised) s) :
    ∃ reported, Accounts work specs s reported := by
  induction h with
  | refl => exact ⟨[], accounts_start⟩
  | tail _ hstep ih =>
    obtain ⟨reported, haccounts⟩ := ih
    exact haccounts.step hstep

theorem Step.stopRaised (h : Step work s t) (hlowered : t.stopRaised = false) :
    s.stopRaised = false := by
  cases h with
  | take | skip | start | deliver => exact hlowered
  | raise => cases hlowered

/-- A flag that is down in the end was never raised. -/
theorem Reaches.stopRaised (h : Reaches work t s) (hlowered : s.stopRaised = false) :
    t.stopRaised = false := by
  induction h with
  | refl => exact hlowered
  | tail _ hstep ih => exact ih (hstep.stopRaised hlowered)

theorem Step.length_workers (h : Step work s t) : t.workers.length = s.workers.length := by
  cases h with
  | take | skip | start | deliver => exact List.length_set
  | raise => rfl

theorem Reaches.workers_ne_nil (h : Reaches work (.start jobs specs raised) s) :
    s.workers ≠ [] := by
  apply List.ne_nil_of_length_pos
  induction h with
  | refl =>
    rw [State.start, List.length_replicate]
    exact Nat.lt_of_lt_of_le Nat.zero_lt_one (Nat.le_max_left _ _)
  | tail _ hstep ih =>
    rw [hstep.length_workers]
    exact ih

/-- A device was skipped by a worker that held it when the flag was raised. -/
theorem Reaches.exists_skip (h : Reaches work (.start jobs specs raised) s)
    {before after : List DeviceSpec} {spec : DeviceSpec}
    (hskipped : s.skipped = before ++ spec :: after) :
    ∃ (t : State R) (i : Nat), Reaches work (.start jobs specs raised) t ∧ Reaches work t s ∧
      t.skipped = before ∧ t.workers[i]? = some (.holding spec) ∧ t.stopRaised = true := by
  induction h generalizing after with
  | refl => simp [State.start] at hskipped
  | @tail u v hreach hstep ih =>
    -- a device that was skipped before this step
    have hbefore : ∀ {after}, u.skipped = before ++ spec :: after →
        ∃ (t : State R) (i : Nat), Reaches work (.start jobs specs raised) t ∧
          Reaches work t v ∧ t.skipped = before ∧ t.workers[i]? = some (.holding spec) ∧
          t.stopRaised = true := by
      intro after hearlier
      obtain ⟨t, i, hstart, htu, hfound⟩ := ih hearlier
      exact ⟨t, i, hstart, htu.tail hstep, hfound⟩
    cases hstep with
    | @skip i other held raised =>
      rcases List.eq_nil_or_concat after with rfl | ⟨rest, last, rfl⟩
      · obtain ⟨hsame, hlast⟩ := List.append_inj' hskipped rfl
        obtain rfl : other = spec := List.singleton_inj.mp hlast
        exact ⟨u, i, hreach, .single (.skip held raised), hsame, held, raised⟩
      · rw [List.concat_eq_append, ← List.cons_append, ← List.append_assoc] at hskipped
        exact hbefore (List.append_inj' hskipped rfl).1
    | take | start | deliver | raise => exact hbefore hskipped

theorem Step.exists_finished (h : Step work s t) :
    ∃ finished : List DeviceSpec, t.delivered = s.delivered ++ finished.map work ∧
      s.started.Subperm (finished ++ t.started) := by
  cases h.moved with
  | taken spec queue held started delivered | skipped spec queue held started delivered =>
    exact ⟨[], by rw [delivered, List.map_nil, List.append_nil], started.symm.subperm⟩
  | begun spec queue held started delivered =>
    refine ⟨[], by rw [delivered, List.map_nil, List.append_nil], ?_⟩
    exact (List.sublist_cons_self spec _).subperm.trans started.symm.subperm
  | reported spec queue held started delivered => exact ⟨[spec], delivered, started.subperm⟩
  | raised heq =>
    subst heq
    exact ⟨[], (List.append_nil _).symm, .refl _⟩

/-- A device that is being calibrated still is later on, or has been reported since. -/
theorem Reaches.exists_finished (h : Reaches work t s) :
    ∃ finished : List DeviceSpec, s.delivered = t.delivered ++ finished.map work ∧
      t.started.Subperm (finished ++ s.started) := by
  induction h with
  | refl => exact ⟨[], (List.append_nil _).symm, .refl _⟩
  | @tail u v _ hstep ih =>
    obtain ⟨earlier, hdelivered, hstarted⟩ := ih
    obtain ⟨later, hdelivered', hstarted'⟩ := hstep.exists_finished
    refine ⟨earlier ++ later, ?_, ?_⟩
    · rw [hdelivered', hdelivered, List.map_append, List.append_assoc]
    · rw [List.append_assoc]
      exact hstarted.trans ((List.subperm_append_left earlier).mpr hstarted')

/-- No schedule gets stuck: from any state there is a way to the end. -/
theorem exists_done (work : DeviceSpec → Delivery R) (hworkers : s.workers ≠ []) :
    ∃ t, Reaches work s t ∧ t.isDone := by
  induction hweight : s.weight using Nat.strong_induction_on generalizing s with
  | _ weight ih =>
    by_cases hdone : s.isDone
    · exact ⟨s, .refl, hdone⟩
    · obtain ⟨t, hstep, hless⟩ := exists_step work hworkers hdone
      have hworkers : t.workers ≠ [] := by
        apply List.ne_nil_of_length_pos
        rw [hstep.length_workers]
        exact List.length_pos_iff.mpr hworkers
      obtain ⟨last, hreach, hdone⟩ := ih t.weight (hweight ▸ hless) hworkers rfl
      exact ⟨last, .head hstep hreach, hdone⟩

/-! ## The reports in order -/

theorem inOrder_perm (deliveries : List (Delivery R)) : (inOrder deliveries).Perm deliveries :=
  List.mergeSort_perm ..

theorem pairwise_inOrder (deliveries : List (Delivery R)) :
    (inOrder deliveries).Pairwise fun a b ↦ a.key.le b.key = true := by
  rw [inOrder]
  apply List.pairwise_mergeSort
  · intro a b c hab hbc
    exact DeviceKey.le_trans hab hbc
  · intro a b
    exact DeviceKey.le_total a.key b.key

/-- Without two reports of one key, their order does not depend on the order they came in. -/
theorem inOrder_eq_of_perm {first second : List (Delivery R)} (h : first.Perm second)
    (hkeys : (second.map Delivery.key).Nodup) : inOrder first = inOrder second := by
  have hsame : (inOrder first).Perm (inOrder second) :=
    (inOrder_perm first).trans (h.trans (inOrder_perm second).symm)
  refine List.Perm.eq_of_pairwise (fun a b ha hb hab hba ↦ ?_) (pairwise_inOrder first)
    (pairwise_inOrder second) hsame
  have ha : a ∈ second := h.mem_iff.mp ((inOrder_perm first).mem_iff.mp ha)
  have hb : b ∈ second := (inOrder_perm second).mem_iff.mp hb
  exact List.inj_on_of_nodup_map hkeys ha hb (DeviceKey.le_antisymm hab hba)

/-! ## Whole schedules -/

/-- Without the flag no device is left out. -/
theorem Reaches.skipped_eq_nil (h : Reaches work (.start jobs specs raised) s)
    (hlowered : s.stopRaised = false) : s.skipped = [] := by
  cases hskipped : s.skipped with
  | nil => rfl
  | cons spec after =>
    have hfirst : s.skipped = [] ++ spec :: after := hskipped
    obtain ⟨t, _, _, hreach, _, _, hraised⟩ := h.exists_skip hfirst
    exact Bool.noConfusion (hraised.symm.trans (hreach.stopRaised hlowered))

/-- In the end every device is reported or was left out. -/
theorem Reaches.exists_reported (h : Reaches work (.start jobs specs raised) s)
    (hdone : s.isDone) :
    ∃ reported, s.delivered = reported.map work ∧ (reported ++ s.skipped).Perm specs := by
  obtain ⟨reported, haccounts⟩ := h.accounts
  obtain ⟨hheld, hstarted⟩ := State.eq_nil_of_idle hdone.2
  have hplaces := haccounts.places
  rw [hdone.1, hheld, hstarted] at hplaces
  exact ⟨reported, haccounts.delivered, hplaces⟩

/-- When no flag was raised, all devices are reported in the end. -/
theorem Reaches.delivered_perm (h : Reaches work (.start jobs specs raised) s)
    (hdone : s.isDone) (hlowered : s.stopRaised = false) : s.delivered.Perm (specs.map work) := by
  obtain ⟨reported, hdelivered, hplaces⟩ := h.exists_reported hdone
  rw [h.skipped_eq_nil hlowered, List.append_nil] at hplaces
  rw [hdelivered]
  exact hplaces.map work

variable [Scalar R]

/-- How a pool deals with its devices, as seen in a state `s` that some schedule reaches. -/
structure DealsFairly (settings : Settings R)
    (make : DeviceSpec → Except String (Calibrator σ R × σ)) (specs : List DeviceSpec)
    (start s : State R) : Prop where
  /-- Each device is in one place, and has one report when it is done. -/
  accounts : ∃ reported, Accounts (outcome settings make) specs s reported
  /-- A device is left out only by a worker that found the flag raised. -/
  skipped : ∀ before spec after, s.skipped = before ++ spec :: after →
    ∃ (t : State R) (i : Nat), Reaches (outcome settings make) start t ∧
      Reaches (outcome settings make) t s ∧ t.skipped = before ∧
      t.workers[i]? = some (.holding spec) ∧ t.stopRaised = true
  /-- A device that was started at some time is running or has been reported since. -/
  started : ∀ t, Reaches (outcome settings make) t s → ∃ finished,
    s.delivered = t.delivered ++ finished.map (outcome settings make) ∧
      t.started.Subperm (finished ++ s.started)
  /-- The schedule can be brought to an end, with nothing running any more. -/
  finishes : ∃ last, Reaches (outcome settings make) s last ∧ last.isDone ∧ last.started = []
  /-- Every schedule comes to an end: a step of a worker leaves less to do. -/
  terminates : ∀ t, Step (outcome settings make) s t →
    t.weight < s.weight ∨ t = { s with stopRaised := true }
  /-- Reports come back in the order of their keys. -/
  ordered : (inOrder s.delivered).Perm s.delivered ∧
    (inOrder s.delivered).Pairwise fun a b ↦ a.key.le b.key = true
  /-- If the flag was never raised, there is one report for every device. -/
  complete : s.isDone → s.stopRaised = false →
    (inOrder s.delivered).Perm (specs.map (outcome settings make))
  /-- If, besides, no two reports share a key, they come back as from a single worker. -/
  unscheduled : s.isDone → s.stopRaised = false →
    ((specs.map (outcome settings make)).map Delivery.key).Nodup →
    inOrder s.delivered = run (outcome settings make) false specs
  /-- Reports have the keys of their devices when calibrators are made for their devices. -/
  keys : (∀ spec calibrator frontEnd, make spec = .ok (calibrator, frontEnd) →
      calibrator.spec.key = spec.key) →
    (specs.map (outcome settings make)).map Delivery.key = specs.map DeviceSpec.key
  /-- A device whose calibrator cannot be made has a masked report. -/
  setup : ∀ spec cause, make spec = .error cause →
    (outcome settings make spec).IsSetupFailure settings spec cause

/-- Every schedule of a pool deals fairly with the devices, for any number of workers, whatever can
be made of each device, and whether or not the flag is raised on the way. -/
theorem pool_deals_fairly (settings : Settings R)
    (make : DeviceSpec → Except String (Calibrator σ R × σ)) (jobs : Nat)
    (specs : List DeviceSpec) (raised : Bool) (s : State R)
    (h : Reaches (outcome settings make) (.start jobs specs raised) s) :
    DealsFairly settings make specs (.start jobs specs raised) s where
  accounts := h.accounts
  skipped _ _ _ hskipped := h.exists_skip hskipped
  started _ hreach := hreach.exists_finished
  finishes := by
    obtain ⟨last, hreach, hdone⟩ := exists_done (outcome settings make) h.workers_ne_nil
    exact ⟨last, hreach, hdone, (State.eq_nil_of_idle hdone.2).2⟩
  terminates _ hstep := hstep.weight_lt
  ordered := ⟨inOrder_perm _, pairwise_inOrder _⟩
  complete hdone hlowered := (inOrder_perm _).trans (h.delivered_perm hdone hlowered)
  unscheduled hdone hlowered hkeys := inOrder_eq_of_perm (h.delivered_perm hdone hlowered) hkeys
  keys hmake := by
    rw [List.map_map, List.map_inj_left]
    intro spec _
    rw [Function.comp_apply, outcome]
    cases hmade : make spec with
    | error cause => rfl
    | ok made => exact (Delivery.key_ofCalibrator _ _).trans (hmake spec made.1 made.2 hmade)
  setup spec cause hfailed := by
    rw [outcome, hfailed]
    exact Delivery.isSetupFailure_ofSetupFailure settings spec cause

/-- The device the exact front-end answers for, and one that cannot be set up. -/
def twoSpecs : List DeviceSpec := [Exact.spec, { Exact.spec with key := ⟨"MMFE8", 1⟩ }]

/-- A calibrator for the first device of a board, and no other. -/
def makeFirst (spec : DeviceSpec) : Except String (Calibrator Unit ℚ × Unit) :=
  if spec.key.vmm = 0 then
    .ok (⟨Exact.model.frontEnd, spec, ⟨[]⟩, Exact.settings, .trim, false⟩, ())
  else .error "no front-end"

/-- Two workers have finished, the one with the second device first. -/
def finishedLate : State ℚ :=
  ⟨[], [.idle, .idle], (twoSpecs.map (outcome Exact.settings makeFirst)).reverse, [], false⟩

theorem pool_deals_fairly_two_workers :
    Reaches (outcome Exact.settings makeFirst) (.start 2 twoSpecs false) finishedLate ∧
      DealsFairly Exact.settings makeFirst twoSpecs (.start 2 twoSpecs false) finishedLate := by
  have hreaches : Reaches (outcome Exact.settings makeFirst) (.start 2 twoSpecs false)
      finishedLate :=
    .head (.take (i := 0) rfl rfl) <| .head (.take (i := 1) rfl rfl) <|
    .head (.start (i := 0) rfl rfl) <| .head (.start (i := 1) rfl rfl) <|
    .head (.deliver (i := 1) rfl) <| .head (.deliver (i := 0) rfl) .refl
  exact ⟨hreaches,
    pool_deals_fairly Exact.settings makeFirst 2 twoSpecs false finishedLate hreaches⟩

end Pool

end ThresholdTrim
