import Mathlib
import ThresholdTrim.Config.BoardList
import ThresholdTrim.Proofs.Configurations
import ThresholdTrim.Proofs.Pool

/-!
# Devices kept apart

A front-end says nothing of what happens when two workers address one device, so that has to be
ruled out beforehand. All it takes is that no device is listed twice (`Config.ListsOnce`): what is
with workers at a time are some of the devices listed, each once for every time it is listed
(`Reaches.nodup_started`). And no less will do. A device that is listed twice is given to two
workers by a schedule in which one of them takes it, and the other works off what is listed in
between (`exists_shared`).

An accepted configuration may list a device twice, but not within a range of indices.
-/

namespace ThresholdTrim

variable {R : Type}

/-! ## Ranges of indices -/

namespace Check

variable {ε ε' α β : Type} {check : Except ε α} {rest : α → Except ε β} {b : β}

theorem exists_of_bind_eq_ok (h : check >>= rest = .ok b) :
    ∃ a, check = .ok a ∧ rest a = .ok b := by
  cases check with
  | error => cases h
  | ok a => exact ⟨a, rfl, h⟩

theorem eq_ok_of_mapError {f : ε → ε'} {a : α} (h : check.mapError f = .ok a) : check = .ok a := by
  cases check with
  | error => cases h
  | ok => exact congrArg Except.ok (Except.ok.inj h)

end Check

namespace VmmSpec

theorem nodup_range {first last : Nat} (h : last ≤ 255) : (range first last).Nodup := by
  refine List.Nodup.map_on (fun i hi j hj heq ↦ ?_) List.nodup_range
  rw [List.mem_range] at hi hj
  have hvalue := congrArg UInt8.toNat heq
  simp only [UInt8.toNat_ofNat'] at hvalue
  omega

/-- A text with a dash is read as a range, and a range lists no index twice. -/
theorem nodup_of_parse {text : String} {vmms : List UInt8} (hdash : '-' ∈ Text.trim text.toList)
    (h : parse text = .ok vmms) : vmms.Nodup := by
  cases hsplit : Text.splitAtFirst '-' (Text.trim text.toList) with
  | none => exact absurd hdash (Text.splitAtFirst_eq_none_iff.mp hsplit)
  | some parts =>
    obtain ⟨first, last, _, hlast, _, rfl⟩ := (parse_eq_ok_iff_of_dash hsplit).mp h
    exact nodup_range (ByteText.read_le hlast)

end VmmSpec

/-! ## Keys of devices -/

namespace Config

/-- No device is listed twice, by one entry or by two. -/
def ListsOnce (config : Config R) : Prop :=
  (∀ board ∈ config.boards, board.vmms.Nodup) ∧
    config.boards.Pairwise fun a b ↦ a.name = b.name → a.vmms.Disjoint b.vmms

theorem nodup_keys_iff {config : Config R} :
    (config.devices.map DeviceSpec.key).Nodup ↔ config.ListsOnce := by
  have hkeys : ∀ board : BoardEntry, board.devices.map DeviceSpec.key =
      board.vmms.map (DeviceKey.mk board.name) := by
    intro board
    rw [BoardEntry.devices, List.map_map]
    rfl
  rw [devices, List.map_flatMap, List.nodup_flatMap, ListsOnce]
  refine and_congr (forall₂_congr fun board _ ↦ ?_) (List.Pairwise.iff fun a b ↦ ?_)
  · rw [hkeys, List.nodup_map_iff fun _ _ h ↦ (DeviceKey.mk.inj h).2]
  · rw [Function.onFun, hkeys, hkeys]
    constructor
    · intro hdisjoint hname vmm ha hb
      refine hdisjoint (List.mem_map_of_mem ha) ?_
      rw [hname]
      exact List.mem_map_of_mem hb
    · intro hvmms key hkey hkey'
      obtain ⟨vmm, ha, rfl⟩ := List.mem_map.mp hkey
      obtain ⟨_, hb, heq⟩ := List.mem_map.mp hkey'
      obtain ⟨hname, rfl⟩ := DeviceKey.mk.inj heq
      exact hvmms hname.symm ha hb

end Config

/-! ## Keys of rows -/

/-- The channel a row is about. -/
def ChannelRow.key (row : ChannelRow R) : ChannelKey := ⟨⟨row.board, row.vmm⟩, row.channel⟩

section

variable [Scalar R]

/-- When devices have channels, their rows have a key each if and only if they do. -/
theorem ChannelRow.nodup_keys_iff {contexts : List (Context R)}
    (hchannels : ∀ context ∈ contexts, context.spec.channels ≠ 0) :
    ((contexts.flatMap all).map key).Nodup ↔
      (contexts.map fun context ↦ context.spec.key).Nodup := by
  have hkeys : ∀ context : Context R, (all context).map key =
      (List.range context.spec.channels).map context.spec.key.channel := by
    intro context
    rw [all, List.map_map]
    rfl
  have hone : ∀ context ∈ contexts, ((all context).map key).Nodup := by
    intro context _
    rw [hkeys]
    exact List.nodup_range.map fun _ _ h ↦ congrArg ChannelKey.channel h
  rw [List.map_flatMap, List.nodup_flatMap, and_iff_right hone]
  conv_rhs => rw [List.Nodup, List.pairwise_map]
  refine List.Pairwise.iff_of_mem fun {a b} ha hb ↦ ?_
  rw [Function.onFun, hkeys, hkeys]
  constructor
  · intro hdisjoint hsame
    have hfirst : ∀ context ∈ contexts, context.spec.key.channel 0 ∈
        (List.range context.spec.channels).map context.spec.key.channel := fun context hmem ↦
      List.mem_map_of_mem (List.mem_range.mpr (Nat.pos_of_ne_zero (hchannels context hmem)))
    exact hdisjoint (hfirst a ha) (hsame ▸ hfirst b hb)
  · intro hother key ha hb
    obtain ⟨_, _, rfl⟩ := List.mem_map.mp ha
    obtain ⟨_, _, heq⟩ := List.mem_map.mp hb
    exact hother (congrArg ChannelKey.device heq).symm

end

/-! ## Workers and their devices -/

namespace Pool

variable {work : DeviceSpec → Delivery R} {s : State R} {specs rest : List DeviceSpec} {jobs : Nat}
  {raised : Bool}

/-- When devices have a key each, so have those in some of the places. -/
theorem Accounts.nodup_keys {reported places : List DeviceSpec}
    (h : Accounts work specs s reported) (hkeys : (specs.map DeviceSpec.key).Nodup)
    (hplaces : places.Sublist (s.queue ++ s.held ++ s.started ++ reported ++ s.skipped)) :
    (places.map DeviceSpec.key).Nodup :=
  ((h.places.map DeviceSpec.key).nodup_iff.mpr hkeys).sublist (hplaces.map _)

/-- Devices with a key each are with one worker at most. -/
theorem Reaches.nodup_started (h : Reaches work (.start jobs specs raised) s)
    (hkeys : (specs.map DeviceSpec.key).Nodup) : (s.started.map DeviceSpec.key).Nodup := by
  obtain ⟨reported, haccounts⟩ := h.accounts
  refine haccounts.nodup_keys hkeys ?_
  rw [List.append_assoc, List.append_assoc]
  exact (List.sublist_append_left ..).trans (List.sublist_append_right ..)

section

variable {workers : List Worker} {i : Nat} {delivered : List (Delivery R)}
  {skipped : List DeviceSpec} {spec : DeviceSpec}

/-- An idle worker takes the next device and starts it. -/
theorem reaches_started (idle : workers[i]? = some .idle) :
    Reaches work ⟨spec :: rest, workers, delivered, skipped, false⟩
      ⟨rest, workers.set i (.running spec), delivered, skipped, false⟩ := by
  have hinside : i < workers.length := (List.getElem?_eq_some_iff.mp idle).1
  have htake : Step work ⟨spec :: rest, workers, delivered, skipped, false⟩
      ⟨rest, workers.set i (.holding spec), delivered, skipped, false⟩ := .take idle rfl
  have hstart : Step work ⟨rest, workers.set i (.holding spec), delivered, skipped, false⟩
      ⟨rest, (workers.set i (.holding spec)).set i (.running spec), delivered, skipped, false⟩ :=
    .start (List.getElem?_set_self hinside) rfl
  rw [List.set_set] at hstart
  exact .head htake (.single hstart)

/-- An idle worker works off the devices at the head of the queue, while the others wait. -/
theorem reaches_workedOff (idle : workers[i]? = some .idle) :
    Reaches work ⟨specs ++ rest, workers, delivered, skipped, false⟩
      ⟨rest, workers, delivered ++ specs.map work, skipped, false⟩ := by
  induction specs generalizing delivered with
  | nil =>
    rw [List.map_nil, List.append_nil]
    exact .refl
  | cons spec specs ih =>
    obtain ⟨hinside, hidle⟩ := List.getElem?_eq_some_iff.mp idle
    have hdeliver : Step work
        ⟨specs ++ rest, workers.set i (.running spec), delivered, skipped, false⟩
        ⟨specs ++ rest, (workers.set i (.running spec)).set i .idle, delivered ++ [work spec],
          skipped, false⟩ := .deliver (List.getElem?_set_self hinside)
    rw [List.set_set, ← hidle, List.set_getElem_self] at hdeliver
    have hrest : Reaches work
        ⟨specs ++ rest, workers, delivered ++ [work spec], skipped, false⟩
        ⟨rest, workers, delivered ++ [work spec] ++ specs.map work, skipped, false⟩ := ih
    rw [List.append_assoc] at hrest
    exact (reaches_started idle).trans (.head hdeliver hrest)

end

/-- Devices that share a key stand apart in the list. -/
theorem exists_same_key (h : ¬(specs.map DeviceSpec.key).Nodup) :
    ∃ before first between second after,
      specs = before ++ first :: (between ++ second :: after) ∧ first.key = second.key := by
  obtain ⟨key, hkey⟩ := List.exists_duplicate_iff_not_nodup.mpr h
  obtain ⟨pair, hpair, hkeys⟩ := List.sublist_map_iff.mp (List.duplicate_iff_sublist.mp hkey)
  obtain ⟨first, second, rfl⟩ : ∃ first second, pair = [first, second] :=
    List.length_eq_two.mp (by simpa using congrArg List.length hkeys.symm)
  obtain ⟨head, tail, rfl, hfirst, hsecond⟩ := List.cons_sublist_iff.mp hpair
  obtain ⟨before, between, rfl⟩ := List.append_of_mem hfirst
  obtain ⟨between', after, rfl⟩ := List.append_of_mem (List.singleton_sublist.mp hsecond)
  simp only [List.map_cons, List.map_nil, List.cons.injEq] at hkeys
  exact ⟨before, first, between ++ between', second, after, by simp, hkeys.1.symm.trans hkeys.2.1⟩

/-- A schedule of two workers that has both of them at one device. -/
theorem exists_shared (work : DeviceSpec → Delivery R) (h : ¬(specs.map DeviceSpec.key).Nodup) :
    ∃ s, Reaches work (.start 2 specs false) s ∧ ¬(s.started.map DeviceSpec.key).Nodup := by
  obtain ⟨before, first, between, second, after, rfl, hsame⟩ := exists_same_key h
  have hworkers : Pool.workers 2 (before ++ first :: (between ++ second :: after)).length = 2 := by
    simp only [Pool.workers, List.length_append, List.length_cons]
    omega
  have hfirst : Reaches work
      ⟨before ++ first :: (between ++ second :: after), [.idle, .idle], [], [], false⟩
      ⟨between ++ second :: after, [.running first, .idle], before.map work, [], false⟩ :=
    (reaches_workedOff (i := 0) rfl).trans (reaches_started (i := 0) rfl)
  have hsecond : Reaches work
      ⟨between ++ second :: after, [.running first, .idle], before.map work, [], false⟩
      ⟨after, [.running first, .running second], before.map work ++ between.map work, [], false⟩ :=
    (reaches_workedOff (i := 1) rfl).trans (reaches_started (i := 1) rfl)
  rw [State.start, hworkers]
  refine ⟨_, hfirst.trans hsecond, ?_⟩
  change ¬[first.key, second.key].Nodup
  simp [hsame]

/-! ### Rows of what was reported -/

variable [Scalar R]

/-- Rows of the devices reported so far, as a run that ends here would log them. -/
def State.rows (s : State R) : List (ChannelRow R) :=
  ((inOrder s.delivered).map (·.report.context)).flatMap ChannelRow.all

/-- Work that reports on the device it is given. -/
def IsFaithful (work : DeviceSpec → Delivery R) : Prop :=
  ∀ spec, (work spec).report.context.spec = spec

theorem Reaches.nodup_rows_iff (h : Reaches work (.start jobs specs raised) s)
    (hwork : IsFaithful work) (hchannels : ∀ spec ∈ specs, spec.channels ≠ 0) :
    (s.rows.map ChannelRow.key).Nodup ↔ (s.delivered.map Delivery.key).Nodup := by
  rw [State.rows, ChannelRow.nodup_keys_iff, List.map_map]
  · exact ((inOrder_perm s.delivered).map Delivery.key).nodup_iff
  · intro context hmem
    obtain ⟨delivery, hdelivery, rfl⟩ := List.mem_map.mp hmem
    obtain ⟨spec, hspec, rfl⟩ := h.exists_spec ((inOrder_perm _).mem_iff.mp hdelivery)
    rw [hwork]
    exact hchannels spec hspec

omit [Scalar R] in
theorem IsFaithful.map_key (h : IsFaithful work) (specs : List DeviceSpec) :
    (specs.map work).map Delivery.key = specs.map DeviceSpec.key := by
  rw [List.map_map]
  exact List.map_congr_left fun spec _ ↦ congrArg DeviceSpec.key (h spec)

omit [Scalar R] in
theorem Reaches.nodup_delivered (h : Reaches work (.start jobs specs raised) s)
    (hwork : IsFaithful work) (hkeys : (specs.map DeviceSpec.key).Nodup) :
    (s.delivered.map Delivery.key).Nodup := by
  obtain ⟨reported, haccounts⟩ := h.accounts
  rw [haccounts.delivered, hwork.map_key]
  refine haccounts.nodup_keys hkeys ?_
  exact (List.sublist_append_right ..).trans (List.sublist_append_left ..)

omit [Scalar R] in
/-- A single worker reports all devices. -/
theorem reaches_reported (work : DeviceSpec → Delivery R) (specs : List DeviceSpec) :
    Reaches work (.start 1 specs false) ⟨[], [.idle], specs.map work, [], false⟩ := by
  have hworkers : Pool.workers 1 specs.length = 1 := by
    rw [Pool.workers]
    omega
  have hreaches : Reaches work ⟨specs ++ [], [.idle], [], [], false⟩
      ⟨[], [.idle], specs.map work, [], false⟩ := reaches_workedOff (i := 0) rfl
  rw [List.append_nil] at hreaches
  rw [State.start, hworkers]
  exact hreaches

end Pool

/-! ## Accepted configurations -/

namespace Command

section

variable [Generator]

/-- Every device is reported on, under its own key. -/
theorem isFaithful_calibrateDevice (config : Config Float) (options : RunOptions) :
    Pool.IsFaithful (calibrateDevice config options) := by
  intro spec
  rw [calibrateDevice]
  split
  · rfl
  dsimp only
  split
  · rfl
  rename_i calibrator hbuild
  obtain ⟨_, _, hcalibrator⟩ := Check.exists_of_bind_eq_ok hbuild
  obtain rfl := Except.ok.inj hcalibrator
  exact Calibration.spec_calibrate ..

/-- Devices are kept apart by a configuration that lists none of them twice, and by no other. -/
structure ApartIffListedOnce (config : Config Float) (options : RunOptions) : Prop where
  keys : (config.devices.map DeviceSpec.key).Nodup ↔ config.ListsOnce
  /-- No schedule has two workers at one device. -/
  workers : (∀ jobs raised s, Pool.Reaches (calibrateDevice config options)
      (.start jobs config.devices raised) s → (s.started.map DeviceSpec.key).Nodup) ↔
    config.ListsOnce
  /-- No schedule makes two rows for one channel. -/
  rows : (∀ jobs raised s, Pool.Reaches (calibrateDevice config options)
      (.start jobs config.devices raised) s → (s.rows.map ChannelRow.key).Nodup) ↔
    config.ListsOnce

/-- A configuration that was accepted still has to list each device once for its devices to be kept
apart. Indices written as a range do so; others may not. -/
theorem devices_apart_iff_listed_once (config : Config Float) (options : RunOptions)
    (h : config.validate = .ok ()) :
    ApartIffListedOnce config options ∧
      ∀ text vmms, '-' ∈ Text.trim text.toList → VmmSpec.parse text = .ok vmms → vmms.Nodup := by
  have hfaithful := isFaithful_calibrateDevice config options
  have hchannels : ∀ spec ∈ config.devices, spec.channels ≠ 0 := fun spec hspec ↦
    ((Config.valid_of_validate h).validFor hspec).channels
  refine ⟨⟨Config.nodup_keys_iff, ⟨fun hworkers ↦ ?_, fun hlists jobs raised s hreaches ↦ ?_⟩,
    ⟨fun hrows ↦ ?_, fun hlists jobs raised s hreaches ↦ ?_⟩⟩,
    fun text vmms ↦ VmmSpec.nodup_of_parse⟩
  · by_contra htwice
    obtain ⟨s, hreaches, hshared⟩ := Pool.exists_shared (calibrateDevice config options)
      fun hkeys ↦ htwice (Config.nodup_keys_iff.mp hkeys)
    exact hshared (hworkers 2 false s hreaches)
  · exact hreaches.nodup_started (Config.nodup_keys_iff.mpr hlists)
  · have hreaches := Pool.reaches_reported (calibrateDevice config options) config.devices
    have hdelivered := (hreaches.nodup_rows_iff hfaithful hchannels).mp (hrows 1 false _ hreaches)
    rw [hfaithful.map_key] at hdelivered
    exact Config.nodup_keys_iff.mp hdelivered
  · rw [hreaches.nodup_rows_iff hfaithful hchannels]
    exact hreaches.nodup_delivered hfaithful (Config.nodup_keys_iff.mpr hlists)

end

/-- The tuned settings, for one board which lists the indices given. -/
def oneBoard (vmms : List UInt8) : Config Float where
  run := {}
  sampling := Settings.defaultSampling
  classifier := Config.defaultLimits
  threshold := Settings.defaultThreshold
  trim := Settings.defaultTrim
  minus := {}
  logging := {}
  simulation := {}
  boards := [⟨"MMFE8", .a, 1, .mmfe8, vmms, 1⟩]
  geometry := []

def defaultOptions : RunOptions := .resolve {} {}

theorem devices_apart_iff_listed_once_one_board :
    (oneBoard [3, 1]).validate = .ok () ∧
      (∀ [Generator], ApartIffListedOnce (oneBoard [3, 1]) defaultOptions) ∧
      (oneBoard [3, 1]).ListsOnce := by
  have hvalid : (oneBoard [3, 1]).validate = .ok () := Check.eq_ok_of_isOk (by decide +kernel)
  exact ⟨hvalid, (devices_apart_iff_listed_once _ defaultOptions hvalid).1,
    Config.nodup_keys_iff.mp (by decide)⟩

/-- An index listed twice is accepted, and two workers are at one device. -/
theorem accepted_config_shares_device :
    (oneBoard [3, 3, 1]).validate = .ok () ∧
      ¬((oneBoard [3, 3, 1]).devices.map DeviceSpec.key).Nodup ∧
      ∀ [Generator], ∃ s, Pool.Reaches (calibrateDevice (oneBoard [3, 3, 1]) defaultOptions)
        (.start 2 (oneBoard [3, 3, 1]).devices false) s ∧
          ¬(s.started.map DeviceSpec.key).Nodup := by
  have htwice : ¬((oneBoard [3, 3, 1]).devices.map DeviceSpec.key).Nodup := by decide
  refine ⟨Check.eq_ok_of_isOk (by decide +kernel), htwice, ?_⟩
  intro _
  exact Pool.exists_shared _ htwice

end Command

end ThresholdTrim
