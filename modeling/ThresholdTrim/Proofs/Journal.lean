import ThresholdTrim.Journal

/-!
# Masks read off a journal

Maskings are entered between the readings they fell between, so the mask a device had when a
reading was taken can be read off the entries before it: `ChannelMask.replay` carries a mask over a
stretch of journal.

`Journal.Within` says of every entry of a stretch that it is one a stage may make, with the mask as
it stood at that entry: batches are asked of channels in use and of no other, at settings of the
stage's remit, and channels are taken out of use for reasons of its remit. It splits over `++`,
which is how a run is put together from its stages.
-/

namespace ThresholdTrim

/-! ## Parts of a journal -/

namespace Journal

variable {entries later : Journal}

/-- Requests with their answers, in order. -/
def readings (journal : Journal) : List (Request × Except FrontEndError (List Nat)) :=
  journal.filterMap fun
    | .reading request answer => some (request, answer)
    | _ => none

@[simp] theorem readings_append : readings (entries ++ later) =
    entries.readings ++ later.readings :=
  List.filterMap_append

@[simp] theorem maskings_append : maskings (entries ++ later) =
    entries.maskings ++ later.maskings :=
  List.filterMap_append

@[simp] theorem requests_append : requests (entries ++ later) =
    entries.requests ++ later.requests :=
  List.filterMap_append

theorem maskings_notices (notices : List Notice) : maskings (notices.map .notice) = [] := by
  rw [maskings, List.filterMap_map]
  exact List.filterMap_eq_nil_iff.mpr fun _ _ ↦ rfl

theorem requests_notices (notices : List Notice) : requests (notices.map .notice) = [] := by
  rw [requests, List.filterMap_map]
  exact List.filterMap_eq_nil_iff.mpr fun _ _ ↦ rfl

theorem mem_readings {request : Request} {answer : Except FrontEndError (List Nat)} :
    (request, answer) ∈ entries.readings ↔ .reading request answer ∈ entries := by
  rw [readings, List.mem_filterMap]
  constructor
  · rintro ⟨entry, hmem, hentry⟩
    cases entry <;> simp_all
  · intro hmem
    exact ⟨_, hmem, rfl⟩

theorem mem_requests {request : Request} :
    request ∈ entries.requests ↔ ∃ answer, .reading request answer ∈ entries := by
  rw [requests, List.mem_filterMap]
  constructor
  · rintro ⟨entry, hmem, hentry⟩
    cases entry <;> simp_all
    exact ⟨_, hmem⟩
  · rintro ⟨answer, hmem⟩
    exact ⟨_, hmem, rfl⟩

theorem mem_maskings {channel : Nat} {reason : MaskReason} :
    (channel, reason) ∈ entries.maskings ↔ .masked channel reason ∈ entries := by
  rw [maskings, List.mem_filterMap]
  constructor
  · rintro ⟨entry, hmem, hentry⟩
    cases entry <;> simp_all
  · intro hmem
    exact ⟨_, hmem, rfl⟩

end Journal

/-! ## The mask along a journal -/

namespace ChannelMask

variable {mask : ChannelMask} {channel other : Nat} {reason first : MaskReason}
  {entries later : Journal}

@[simp] theorem length_reasons_mask :
    (mask.mask channel reason).reasons.length = mask.reasons.length :=
  List.length_modify ..

@[simp] theorem length_reasons_maskAll :
    (mask.maskAll reason).reasons.length = mask.reasons.length :=
  List.length_map ..

theorem reason_eq_none_iff : mask.reason channel = none ↔ mask.isMasked channel = false := by
  rw [isMasked, Option.isSome_eq_false_iff, Option.isNone_iff_eq_none]

/-- The first reason stays. -/
theorem reason_mask_of_some (h : mask.reason channel = some first) :
    (mask.mask other reason).reason channel = some first := by
  rw [reason_mask]
  split <;> simp [h]

theorem reason_mask_of_ne (h : channel ≠ other) :
    (mask.mask other reason).reason channel = mask.reason channel := by
  rw [reason_mask, if_neg fun hboth ↦ h hboth.1]

theorem reason_mask_eq_some (h : (mask.mask other reason).reason channel = some first) :
    mask.reason channel = some first ∨ channel = other ∧ first = reason := by
  rw [reason_mask] at h
  split at h
  · rename_i hsame
    cases hold : mask.reason channel with
    | some old => exact .inl (by rwa [hold] at h)
    | none =>
      rw [hold] at h
      exact .inr ⟨hsame.1, (Option.some.inj h).symm⟩
  · exact .inl h

theorem isMasked_mask (hinside : channel < mask.reasons.length) :
    (mask.mask channel reason).isMasked channel = true := by
  rw [isMasked, reason_mask, if_pos ⟨rfl, hinside⟩]
  cases mask.reason channel <;> rfl

/-- A channel in use that is masked is so for the reason given. -/
theorem reason_mask_self (hinside : channel < mask.reasons.length)
    (hinUse : mask.reason channel = none) :
    (mask.mask channel reason).reason channel = some reason := by
  rw [reason_mask, if_pos ⟨rfl, hinside⟩, hinUse]
  rfl

theorem reason_maskAll_of_some (h : mask.reason channel = some first) :
    (mask.maskAll reason).reason channel = some first := by
  have hinside : channel < mask.reasons.length := by
    refine Nat.lt_of_not_le fun hbeyond ↦ ?_
    rw [ChannelMask.reason, List.getElem?_eq_none hbeyond] at h
    cases h
  rw [reason_maskAll, if_pos hinside, h]
  rfl

theorem isMasked_maskAll (hinside : channel < mask.reasons.length) :
    (mask.maskAll reason).isMasked channel = true := by
  rw [isMasked, reason_maskAll, if_pos hinside]
  cases mask.reason channel <;> rfl

theorem reason_maskAll_eq_some (h : (mask.maskAll reason).reason channel = some first) :
    mask.reason channel = some first ∨ first = reason := by
  rw [reason_maskAll] at h
  split at h
  · cases hold : mask.reason channel with
    | some old => exact .inl (by rwa [hold] at h)
    | none =>
      rw [hold] at h
      exact .inr (Option.some.inj h).symm
  · cases h

theorem lt_length_of_mem_unmasked (h : channel ∈ mask.unmasked) :
    channel < mask.reasons.length ∧ mask.isMasked channel = false := by
  rw [unmasked, List.mem_filter, List.mem_range] at h
  simpa using h

theorem mem_unmasked_iff :
    channel ∈ mask.unmasked ↔ channel < mask.reasons.length ∧ mask.isMasked channel = false := by
  simp [unmasked]

/-- The mask after the maskings of a stretch of journal. -/
def replay (mask : ChannelMask) (entries : Journal) : ChannelMask :=
  entries.maskings.foldl (fun mask masking ↦ mask.mask masking.1 masking.2) mask

@[simp] theorem replay_nil : mask.replay [] = mask := rfl

@[simp] theorem replay_append :
    mask.replay (entries ++ later) = (mask.replay entries).replay later := by
  rw [replay, Journal.maskings_append, List.foldl_append]
  rfl

@[simp] theorem replay_masked : mask.replay [.masked channel reason] = mask.mask channel reason :=
  rfl

theorem replay_of_maskings_eq_nil (h : entries.maskings = []) : mask.replay entries = mask := by
  rw [replay, h, List.foldl_nil]

theorem replay_cons (entry : Entry) :
    mask.replay (entry :: later) = (mask.replay [entry]).replay later := by
  rw [← replay_append, List.singleton_append]

@[simp] theorem length_reasons_replay :
    (mask.replay entries).reasons.length = mask.reasons.length := by
  rw [replay]
  induction entries.maskings generalizing mask with
  | nil => rfl
  | cons masking rest ih => rw [List.foldl_cons, ih, length_reasons_mask]

/-- A channel once masked keeps its reason over every stretch of journal. -/
theorem reason_replay_of_some (h : mask.reason channel = some first) :
    (mask.replay entries).reason channel = some first := by
  rw [replay]
  induction entries.maskings generalizing mask with
  | nil => exact h
  | cons masking rest ih => exact ih (reason_mask_of_some h)

/-- A reason that a stretch of journal gives a channel is one it enters for the channel. -/
theorem reason_replay (h : (mask.replay entries).reason channel = some first) :
    mask.reason channel = some first ∨ .masked channel first ∈ entries := by
  rw [← Journal.mem_maskings]
  rw [replay] at h
  generalize entries.maskings = maskings at h ⊢
  induction maskings generalizing mask with
  | nil => exact .inl h
  | cons masking rest ih =>
    rcases ih h with hmask | hmem
    · rcases reason_mask_eq_some hmask with hold | ⟨rfl, rfl⟩
      · exact .inl hold
      · exact .inr List.mem_cons_self
    · exact .inr (List.mem_cons_of_mem _ hmem)

end ChannelMask

/-! ## Entries about one channel -/

/-- What a channel was asked for, with its answers. -/
def Journal.readingsOf (entries : Journal) (channel : Nat) :
    List (Request × Except FrontEndError (List Nat)) :=
  entries.readings.filter fun reading ↦ reading.1.channel.channel == channel

/-- Whether an entry reads or masks no channel but the given one. -/
def Entry.Concerns (channel : Nat) : Entry → Prop
  | .reading request _ => request.channel.channel = channel
  | .masked other _ => other = channel
  | .write _ _ _ => False
  | .pause | .notice _ => True

/-- Entries that read or mask no channel but the given one. -/
def Journal.Concerns (channel : Nat) (entries : Journal) : Prop :=
  ∀ entry ∈ entries, entry.Concerns channel

namespace Journal

variable {channel other : Nat} {entries later : Journal}

@[simp] theorem concerns_nil : Concerns channel [] := fun _ h ↦ nomatch h

@[simp] theorem concerns_cons {entry : Entry} :
    Concerns channel (entry :: later) ↔ entry.Concerns channel ∧ Concerns channel later :=
  List.forall_mem_cons

@[simp] theorem concerns_append :
    Concerns channel (entries ++ later) ↔ Concerns channel entries ∧ Concerns channel later :=
  List.forall_mem_append

/-- What concerns one channel leaves the others in use or out of use, as they were. -/
theorem Concerns.reason_replay {mask : ChannelMask} (h : Concerns channel entries)
    (hne : other ≠ channel) : (mask.replay entries).reason other = mask.reason other := by
  induction entries generalizing mask with
  | nil => rfl
  | cons entry rest ih =>
    obtain ⟨hentry, hrest⟩ := concerns_cons.mp h
    rw [ChannelMask.replay_cons, ih hrest]
    cases entry with
    | masked masked reason =>
      obtain rfl : masked = channel := hentry
      exact ChannelMask.reason_mask_of_ne hne
    | _ => rfl

@[simp] theorem readingsOf_append : (entries ++ later).readingsOf channel =
    entries.readingsOf channel ++ later.readingsOf channel := by
  rw [readingsOf, readings_append, List.filter_append]
  rfl

theorem readingsOf_eq_nil (h : ∀ request ∈ entries.requests, request.channel.channel ≠ channel) :
    entries.readingsOf channel = [] := by
  rw [readingsOf, List.filter_eq_nil_iff]
  rintro ⟨request, answer⟩ hmem
  have hrequest := h request (mem_requests.mpr ⟨answer, mem_readings.mp hmem⟩)
  simpa using hrequest

theorem Concerns.readingsOf (h : Concerns channel entries) :
    entries.readingsOf channel = entries.readings := by
  rw [Journal.readingsOf, List.filter_eq_self]
  rintro ⟨request, answer⟩ hmem
  have hrequest : request.channel.channel = channel := h _ (mem_readings.mp hmem)
  exact beq_iff_eq.mpr hrequest

end Journal

/-! ## Entries a stage may make -/

/-- Whether a request is for a channel of the device that is in use. -/
structure Request.Addresses (request : Request) (spec : DeviceSpec) (mask : ChannelMask) :
    Prop where
  device : request.channel.device = spec.key
  inside : request.channel.channel < spec.channels
  inUse : mask.isMasked request.channel.channel = false

/-- What a stage is entitled to: batches to ask for, and channels to mask for a reason. -/
structure Remit where
  request : Request → Prop
  masking : Nat → MaskReason → Prop

namespace Remit

/-- Everything is allowed; what is left is that only channels in use are read. -/
def any : Remit := ⟨fun _ ↦ True, fun _ _ ↦ True⟩

/-- Every channel may be sampled at the setting. -/
def Allows (remit : Remit) (setting : Setting) : Prop :=
  ∀ channel count, remit.request ⟨channel, setting, count⟩

/-- Every channel may be masked for the reason. -/
def Masks (remit : Remit) (reason : MaskReason) : Prop :=
  ∀ channel, remit.masking channel reason

end Remit

/-- Whether a stage with the remit may make the entry while `mask` holds. -/
def Entry.Within (spec : DeviceSpec) (remit : Remit) (mask : ChannelMask) : Entry → Prop
  | .reading request _ => request.Addresses spec mask ∧ remit.request request
  | .masked channel reason => remit.masking channel reason
  | .write _ _ _ => False
  | .pause | .notice _ => True

namespace Journal

/-- Every entry is within the remit, with the mask as it stands at the entry. -/
def Within (spec : DeviceSpec) (remit : Remit) (mask : ChannelMask) : Journal → Prop
  | [] => True
  | entry :: rest => entry.Within spec remit mask ∧ Within spec remit (mask.replay [entry]) rest

variable {spec : DeviceSpec} {remit : Remit} {mask : ChannelMask} {entries later : Journal}

@[simp] theorem within_nil : Within spec remit mask [] := trivial

theorem within_append : Within spec remit mask (entries ++ later) ↔
    Within spec remit mask entries ∧ Within spec remit (mask.replay entries) later := by
  induction entries generalizing mask with
  | nil => simp [Within]
  | cons entry rest ih =>
    rw [List.cons_append, Within, Within, ih, and_assoc, ← ChannelMask.replay_cons]

/-- Entries of which none changes the mask can be checked one by one. -/
theorem within_of_forall (hkeep : entries.maskings = [])
    (h : ∀ entry ∈ entries, entry.Within spec remit mask) : Within spec remit mask entries := by
  induction entries with
  | nil => trivial
  | cons entry rest ih =>
    have hentry : maskings [entry] = [] ∧ maskings rest = [] := by
      rwa [← List.append_eq_nil_iff, ← maskings_append]
    refine ⟨h entry List.mem_cons_self, ?_⟩
    rw [ChannelMask.replay_of_maskings_eq_nil hentry.1]
    exact ih hentry.2 fun other hmem ↦ h other (List.mem_cons_of_mem _ hmem)

theorem within_notices (notices : List Notice) :
    Within spec remit mask (notices.map .notice) := by
  refine within_of_forall (maskings_notices notices) fun entry hmem ↦ ?_
  obtain ⟨notice, _, rfl⟩ := List.mem_map.mp hmem
  trivial

/-- Every reading is taken on a channel that is in use at that moment. -/
theorem Within.reading {request : Request} {answer : Except FrontEndError (List Nat)}
    (h : Within spec remit mask (entries ++ .reading request answer :: later)) :
    request.Addresses spec (mask.replay entries) ∧ remit.request request :=
  (within_append.mp h).2.1

theorem Within.exists_append {entry : Entry} (hmem : entry ∈ entries)
    (h : Within spec remit mask entries) : ∃ before after, entries = before ++ entry :: after ∧
      entry.Within spec remit (mask.replay before) := by
  obtain ⟨before, after, rfl⟩ := List.append_of_mem hmem
  exact ⟨before, after, rfl, (within_append.mp h).2.1⟩

theorem Within.request (h : Within spec remit mask entries) {request : Request}
    (hmem : request ∈ entries.requests) : remit.request request := by
  obtain ⟨answer, hmem⟩ := mem_requests.mp hmem
  obtain ⟨_, _, _, hentry⟩ := h.exists_append hmem
  exact hentry.2

theorem Within.masking (h : Within spec remit mask entries) {channel : Nat} {reason : MaskReason}
    (hmem : .masked channel reason ∈ entries) : remit.masking channel reason := by
  obtain ⟨_, _, _, hentry⟩ := h.exists_append hmem
  exact hentry

/-- A masked channel is not asked for again. -/
theorem Within.ne_of_masked (h : Within spec remit mask entries) {channel : Nat}
    {reason : MaskReason}
    (hreason : mask.reason channel = some reason) {request : Request}
    (hmem : request ∈ entries.requests) : request.channel.channel ≠ channel := by
  rintro rfl
  obtain ⟨answer, hmem⟩ := mem_requests.mp hmem
  obtain ⟨before, _, _, hentry⟩ := h.exists_append hmem
  have hinUse := hentry.1.inUse
  rw [ChannelMask.isMasked, ChannelMask.reason_replay_of_some hreason] at hinUse
  exact Bool.noConfusion hinUse

end Journal

end ThresholdTrim
