import ThresholdTrim.Proofs.BaselineRecords
import ThresholdTrim.Proofs.Rank

/-!
# Hot channels are a minority

The classifier takes hot channels out of use, and could be thought to take out too many. It goes by
the median of the channels, though, and a channel is hot when it lies above a multiple of it: it
lies above the median then, and strictly fewer than half of the channels do. Nothing is known about
the baselines but that they are counts, ties and zeros included; baseline sampling leaves such
baselines (`Baseline.SettlesChannels.measured`).

The loop is followed twice. Its counts are those of the classes of the measured channels
(`Chain.found_eq`), and the mask of a channel is settled in the channel's own turn
(`Classified.reason_eq`).
-/

namespace ThresholdTrim

open Scalar Statistics

/-- Scalars in which counts are told apart, comparisons can be chained, and a factor below one does
not raise a count. -/
class RankingScalar (R : Type) [Scalar R] : Prop extends BumpScalar R, ClassifierScalar R where
  ofCount_lt : ∀ {m n : Nat}, m < n → n ≤ maxRegister → lt (ofCount m : R) (ofCount n) = true
  lt_of_lt_of_le : ∀ {x y z : R}, lt x y = true → le y z = true → lt x z = true
  lt_of_le_of_lt : ∀ {x y z : R}, le x y = true → lt y z = true → lt x z = true
  mul_not_lt : ∀ {n : Nat} {factor : R}, lt factor (ofCount 1) = true →
    lt (ofCount n) (ofCount n * factor) = false
  quarter_le_half : le (fraction 1 4 : R) (fraction 1 2) = true

instance : RankingScalar ℚ where
  ofCount_lt h _ := lt_rat.mpr (Nat.cast_lt.mpr h)
  lt_of_lt_of_le hxy hyz := lt_rat.mpr ((lt_rat.mp hxy).trans_le (le_rat.mp hyz))
  lt_of_le_of_lt hxy hyz := lt_rat.mpr ((le_rat.mp hxy).trans_lt (lt_rat.mp hyz))
  mul_not_lt {n factor} h := by
    have hfactor : factor ≤ 1 := by
      have hlt := lt_rat.mp h
      exact_mod_cast hlt.le
    exact lt_eq_false_rat.mpr (mul_le_of_le_one_right n.cast_nonneg hfactor)
  quarter_le_half := by decide +kernel

instance : RankingScalar Float where
  ofCount_lt {m n} hmn hn := by
    have hn := lt_of_le_maxRegister hn
    rw [Binary.ofCount_lt_iff (hmn.trans hn), Binary.value_ofCount hn]
    exact ⟨Binary.isNumber_ofCount n, Nat.cast_lt.mpr hmn⟩
  lt_of_lt_of_le hxy hyz := by
    obtain ⟨hx, _, hlt⟩ := Binary.lt_iff.mp hxy
    obtain ⟨_, hz, hle⟩ := Binary.le_iff.mp hyz
    exact Binary.lt_iff.mpr ⟨hx, hz, hlt.trans_le hle⟩
  lt_of_le_of_lt hxy hyz := by
    obtain ⟨hx, _, hle⟩ := Binary.le_iff.mp hxy
    obtain ⟨_, hz, hlt⟩ := Binary.lt_iff.mp hyz
    exact Binary.lt_iff.mpr ⟨hx, hz, hle.trans_lt hlt⟩
  mul_not_lt {n factor} h := by
    obtain ⟨hfactor, hone, hlt⟩ := Binary.lt_iff.mp h
    have hle : le factor (ofCount 1) = true := Binary.le_iff.mpr ⟨hfactor, hone, hlt.le⟩
    exact Binary.lt_eq_false_iff.mpr fun _ hproduct ↦
      Binary.value_mul_le (Binary.zero_le_ofCount n) hle hproduct
  quarter_le_half := by decide

/-- Factors on either side of one, and the tuned shares. -/
structure ClassifierSettings.Balanced {R : Type} [Scalar R] (settings : ClassifierSettings R) :
    Prop where
  hotFactor : lt (ofCount 1) settings.hotFactor = true
  deadFactor : lt settings.deadFactor (ofCount 1) = true
  warnRatio : settings.warnRatio = (Settings.defaultClassifier : ClassifierSettings R).warnRatio
  severeRatio :
    settings.severeRatio = (Settings.defaultClassifier : ClassifierSettings R).severeRatio

/-- An accepted configuration balances the classifier; its shares cannot be set. -/
theorem Config.balanced_classifier {R : Type} [Scalar R] {config : Config R}
    (h : config.validate = .ok ()) : config.settings.classifier.Balanced :=
  have hvalid := (valid_of_validate h).classifier
  ⟨hvalid.hotFactor, hvalid.deadFactor_lt_one, rfl, rfl⟩

variable {σ R : Type} [Scalar R] {settings : ClassifierSettings R} {context after : Context R}
  {device : DeviceBaseline R} {deviceMedian : R} {channel : Nat}

/-- What the classifier thinks of a channel. -/
def Context.classOf (context : Context R) (settings : ClassifierSettings R) (deviceMedian : R)
    (channel : Nat) : ChannelClass :=
  .of (context.baseline channel).median (context.baseline channel).rms deviceMedian
    context.spec.flavor settings

/-- What the classifier finds: baselines of the channels in use, all of them counts, and the device
baseline taken over them. -/
structure Context.Measured (context : Context R) (device : DeviceBaseline R) : Prop where
  usesMeasured : context.UsesMeasured
  deviceBaseline : context.deviceBaseline = some device
  aggregate : device.IsOver (context.mask.unmasked.map context.baseline)
  counts : ∀ channel ∈ context.mask.unmasked,
    ∃ count ≤ maxRegister, (context.baseline channel).median = ofCount count

/-- The context that baseline sampling leaves when it ends well is one the classifier can go by. -/
theorem Baseline.SettlesChannels.measured {bench : Bench σ R} {geometry : Geometry}
    {start last : Run σ R} (h : SettlesChannels bench geometry start (.ok device) last)
    (hbench : bench.frontEnd.SendsCounts) : last.context.Measured device where
  usesMeasured := h.usesMeasured
  deviceBaseline := by
    cases h.aggregated with
    | taken _ _ hdevice => exact hdevice
  aggregate := by
    cases h.aggregated with
    | taken _ hover _ => exact hover
  counts channel hmem := by
    obtain ⟨links, _, _, hturns⟩ := h.turns
    have hspec : last.context.spec = start.context.spec := by
      rw [h.context]
    obtain ⟨hplace, hinUse⟩ := ChannelMask.mem_unmasked_iff.mp hmem
    rw [h.usesMeasured.fits, hspec] at hplace
    have hturn := hturns channel hplace
    rw [ChannelMask.reason_eq_none_iff.mpr hinUse] at hturn
    obtain ⟨batch, ⟨state, hsent⟩, hrecord⟩ := hturn.exists_batch
    obtain ⟨count, hcount, hmedian⟩ := BaselineRecord.exists_count hrecord
    exact ⟨count, hbench _ state batch hsent count hcount, hmedian⟩

/-! ## Ranks of the channels -/

section

variable [RankingScalar R]

theorem decide_le_eq_not_lt {m n : Nat} (hm : m ≤ maxRegister) (hn : n ≤ maxRegister) :
    decide (m ≤ n) = !lt (ofCount n : R) (ofCount m) := by
  rcases Nat.lt_or_ge n m with hlt | hle
  · rw [RankingScalar.ofCount_lt hlt hm, decide_eq_false (Nat.not_le.mpr hlt)]
    rfl
  · rw [RaisingScalar.not_lt_of_le (RegisterScalar.ofCount_le hle hn), decide_eq_true hle]
    rfl

/-- The device median is the median of the counts of the channels in use. -/
theorem Context.Measured.exists_counts (h : context.Measured device) :
    ∃ (count : Nat → Nat) (m : Nat),
      median (context.mask.unmasked.map count) = some m ∧ m ≤ maxRegister ∧
        device.median = ofCount m ∧ ∀ channel ∈ context.mask.unmasked,
          count channel ≤ maxRegister ∧
            (context.baseline channel).median = ofCount (count channel) := by
  choose! count hcount hmedian using h.counts
  have hscalars : (context.mask.unmasked.map context.baseline).map BaselineRecord.median =
      (context.mask.unmasked.map count).map ofCount := by
    rw [List.map_map, List.map_map]
    exact List.map_congr_left hmedian
  have hbound : ∀ a ∈ context.mask.unmasked.map count, a ≤ maxRegister :=
    List.forall_mem_map.mpr hcount
  have hmap : scalarMedian ((context.mask.unmasked.map count).map (ofCount : ℕ → R)) =
      (median (context.mask.unmasked.map count)).map ofCount :=
    medianBy_map fun a ha b hb ↦ decide_le_eq_not_lt (hbound a ha) (hbound b hb)
  have hdevice := h.aggregate.median
  rw [hscalars, hmap] at hdevice
  obtain ⟨m, hm, hdevice⟩ := Option.map_eq_some_iff.mp hdevice
  exact ⟨count, m, hm, hbound m (mem_of_median hm), hdevice.symm,
    fun channel hchannel ↦ ⟨hcount channel hchannel, hmedian channel hchannel⟩⟩

/-- A hot channel lies above the device median. -/
theorem lt_of_hot (hsettings : settings.Balanced) {m n : Nat} (hm : m ≤ maxRegister)
    {rms : R} {flavor : Flavor}
    (hhot : (ChannelClass.of (ofCount n) rms (ofCount m) flavor settings).hot = true) : m < n := by
  by_contra hle
  have hlt : lt (ofCount m * settings.hotFactor) (ofCount m) = true :=
    RankingScalar.lt_of_lt_of_le hhot (RegisterScalar.ofCount_le (Nat.not_lt.mp hle) hm)
  exact Bool.noConfusion (hlt.symm.trans (ClassifierScalar.not_lt_mul hsettings.hotFactor))

/-- A dead channel lies below the device median. -/
theorem lt_of_dead (hsettings : settings.Balanced) {m n : Nat} (hn : n ≤ maxRegister)
    {rms : R} {flavor : Flavor}
    (hdead : (ChannelClass.of (ofCount n) rms (ofCount m) flavor settings).dead = true) :
    n < m := by
  by_contra hle
  have hlt : lt (ofCount m) (ofCount m * settings.deadFactor) = true :=
    RankingScalar.lt_of_le_of_lt (RegisterScalar.ofCount_le (Nat.not_lt.mp hle) hn) hdead
  exact Bool.noConfusion (hlt.symm.trans (RankingScalar.mul_not_lt hsettings.deadFactor))

/-- Where the classes of the channels in use lie. -/
structure Ranked (classOf : Nat → ChannelClass) (channels : List Nat) : Prop where
  hot : channels.countP (classOf · |>.hot) ≤ channels.length - (channels.length / 2 + 1)
  dead : channels.countP (classOf · |>.dead) ≤ channels.length / 2
  exclusive : ∀ channel ∈ channels, ((classOf channel).hot && (classOf channel).dead) = false

theorem Context.Measured.ranked (h : context.Measured device) (hsettings : settings.Balanced) :
    Ranked (context.classOf settings device.median) context.mask.unmasked := by
  obtain ⟨count, m, hm, hbound, hdevice, hcount⟩ := h.exists_counts
  have hhot : ∀ channel ∈ context.mask.unmasked,
      (context.classOf settings device.median channel).hot = true → m < count channel := by
    intro channel hmem hhot
    rw [classOf, hdevice, (hcount channel hmem).2] at hhot
    exact lt_of_hot hsettings hbound hhot
  have hdead : ∀ channel ∈ context.mask.unmasked,
      (context.classOf settings device.median channel).dead = true → count channel < m := by
    intro channel hmem hdead
    rw [classOf, hdevice, (hcount channel hmem).2] at hdead
    exact lt_of_dead hsettings (hcount channel hmem).1 hdead
  have hlength : (context.mask.unmasked.map count).length = context.mask.unmasked.length :=
    List.length_map _
  refine ⟨?_, ?_, fun channel hmem ↦ ?_⟩
  · have habove := countP_gt_median hm
    rw [List.countP_map, hlength] at habove
    exact (List.countP_mono_left fun channel hmem h ↦
      decide_eq_true (hhot channel hmem h)).trans habove
  · have hbelow := countP_lt_median hm
    rw [List.countP_map, hlength] at hbelow
    exact (List.countP_mono_left fun channel hmem h ↦
      decide_eq_true (hdead channel hmem h)).trans hbelow
  · by_contra hboth
    rw [Bool.not_eq_false, Bool.and_eq_true] at hboth
    exact Nat.lt_asymm (hhot channel hmem hboth.1) (hdead channel hmem hboth.2)

end

/-! ## Counts -/

namespace Classification

theorem foldl_count (classes : List ChannelClass) (found : Classification) :
    classes.foldl count found = { found with
      measured := found.measured + classes.length
      hot := found.hot + classes.countP (·.hot)
      dead := found.dead + classes.countP (·.dead)
      noisy := found.noisy + classes.countP (·.noisy) } := by
  induction classes generalizing found with
  | nil => rfl
  | cons c classes ih =>
    have hcount : ∀ flag : Bool, (if flag = true then 1 else 0) = flag.toNat := by decide
    rw [List.foldl_cons, ih, count, List.length_cons, List.countP_cons, List.countP_cons,
      List.countP_cons, hcount, hcount, hcount]
    simp only [Nat.add_assoc, Nat.add_comm, Nat.add_left_comm]

theorem judge_counts (found : Classification) (settings : ClassifierSettings R) :
    (found.judge settings).measured = found.measured ∧ (found.judge settings).hot = found.hot ∧
      (found.judge settings).dead = found.dead := by
  rw [judge]
  split
  · exact ⟨rfl, rfl, rfl⟩
  · exact ⟨rfl, rfl, rfl⟩

end Classification

/-! ## The loop over the channels -/

variable {entries : Journal} {units : List Unit} {channels : List Nat}
  {before last : Context R × Classification}

theorem ClassifiedOne.found_eq
    (h : ClassifiedOne settings deviceMedian channel before () entries last) :
    last.2 = if (before.1.baseline channel).isMeasured
      then before.2.count (before.1.classOf settings deviceMedian channel) else before.2 := by
  cases h with
  | unmeasured hmeasured => rw [hmeasured, if_neg Bool.false_ne_true]
  | hot hmeasured hclass => rw [hmeasured, if_pos rfl, hclass, Context.classOf]
  | cold hmeasured hclass => rw [hmeasured, if_pos rfl, hclass, Context.classOf]

/-- The counts are those of the classes of the measured channels. -/
theorem Chain.found_eq
    (h : Chain (ClassifiedOne settings deviceMedian) channels before units entries last) :
    last.2 = ((channels.filter fun channel ↦ (before.1.baseline channel).isMeasured).map
      (before.1.classOf settings deviceMedian)).foldl Classification.count before.2 := by
  induction h with
  | nil => rfl
  | cons head _ ih =>
    -- a turn changes neither the baselines nor the device
    rw [ih, head.replay, head.found_eq, List.filter_cons]
    split
    · rw [List.map_cons, List.foldl_cons]
      rfl
    · rfl

theorem classifiedOne_takesOne :
    TakesOne Prod.fst id (ClassifiedOne settings deviceMedian) := by
  intro channel before _ entries last h
  refine ⟨?_, congrArg Context.mask h.replay⟩
  have hnotices : ∀ notices : List Notice,
      Journal.Concerns channel (notices.map .notice) := by
    intro notices entry hmem
    obtain ⟨notice, _, rfl⟩ := List.mem_map.mp hmem
    trivial
  cases h with
  | unmeasured => exact Journal.concerns_nil
  | hot => exact Journal.concerns_append.mpr ⟨by simp [Entry.Concerns], hnotices _⟩
  | cold => exact hnotices _

/-- A channel in use is masked in its turn when it is hot, and no other channel is masked. -/
theorem Chain.reason_classified {found : Classification}
    (h : Chain (ClassifiedOne settings deviceMedian) (List.range context.spec.channels)
      (context, {}) units entries (after, found))
    (huses : context.UsesMeasured) (hinside : channel < context.spec.channels) :
    after.mask.reason channel =
      if !context.mask.isMasked channel && (context.classOf settings deviceMedian channel).hot
      then some .hot else context.mask.reason channel := by
  obtain ⟨_, earlier, own, _, k, k', _, _, hstep, hstart, hend, _, hearlier⟩ :=
    h.turn_range classifiedOne_takesOne hinside
  have hk : k.1 = context.replay earlier :=
    hearlier.replay Prod.fst fun _ _ _ _ _ hturn ↦ hturn.replay
  have hbaseline : k.1.baseline channel = context.baseline channel := by
    rw [hk]
    rfl
  have hclassOf : k.1.classOf settings deviceMedian channel =
      context.classOf settings deviceMedian channel := by
    rw [hk]
    rfl
  have hplace : channel < k.1.mask.reasons.length := by
    rw [hk, Context.length_reasons_replay, huses.fits]
    exact hinside
  have hinUse := huses.inUse_iff channel hinside
  dsimp only [id] at hstart hend
  rw [hend]
  cases hstep with
  | unmeasured hmeasured =>
    rw [← hbaseline, hmeasured] at hinUse
    rw [Bool.eq_true_of_not_eq_false (mt hinUse.mp Bool.false_ne_true)]
    exact hstart
  | hot hmeasured hclass hhot =>
    rw [← hbaseline] at hinUse
    rw [hinUse.mpr hmeasured, ← hclassOf, Context.classOf, ← hclass, hhot, Context.withMask,
      ChannelMask.reason_mask, if_pos ⟨rfl, hplace⟩, hstart,
      ChannelMask.reason_eq_none_iff.mpr (hinUse.mpr hmeasured)]
    rfl
  | cold hmeasured hclass hhot =>
    rw [← hclassOf, Context.classOf, ← hclass, hhot, Bool.and_false]
    exact hstart

/-! ## The stage -/

section

variable {verdict : Classification}

/-- The verdict counts the channels in use, and the hot and dead ones among them. -/
theorem Classified.counts (h : Classified settings context verdict entries after)
    (huses : context.UsesMeasured) (hdevice : context.deviceBaseline = some device) :
    verdict.measured = context.mask.unmasked.length ∧
      verdict.hot =
        context.mask.unmasked.countP (context.classOf settings device.median · |>.hot) ∧
      verdict.dead =
        context.mask.unmasked.countP (context.classOf settings device.median · |>.dead) := by
  cases h with
  | nothing hnone => exact nomatch hnone.symm.trans hdevice
  | @judged judge _ found _ _ hjudge channels =>
    obtain rfl := Option.some.inj (hjudge.symm.trans hdevice)
    have hfound : found = _ := channels.found_eq
    rw [← huses.unmasked_eq, Classification.foldl_count, List.length_map, List.countP_map,
      List.countP_map, List.countP_map] at hfound
    obtain ⟨hmeasured, hhot, hdead⟩ := found.judge_counts settings
    rw [hmeasured, hhot, hdead, hfound]
    exact ⟨Nat.zero_add _, Nat.zero_add _, Nat.zero_add _⟩

/-- A channel in use is masked when it is hot, and no other channel is masked. -/
theorem Classified.reason_eq (h : Classified settings context verdict entries after)
    (huses : context.UsesMeasured) (hdevice : context.deviceBaseline = some device)
    (hinside : channel < context.spec.channels) :
    after.mask.reason channel =
      if !context.mask.isMasked channel && (context.classOf settings device.median channel).hot
      then some .hot else context.mask.reason channel := by
  cases h with
  | nothing hnone => exact nomatch hnone.symm.trans hdevice
  | judged hjudge channels =>
    obtain rfl := Option.some.inj (hjudge.symm.trans hdevice)
    exact channels.reason_classified huses hinside

theorem Classified.classification_eq (h : Classified settings context verdict entries after)
    (hdevice : context.deviceBaseline = some device) : after.classification = some verdict := by
  cases h with
  | nothing hnone => exact nomatch hnone.symm.trans hdevice
  | judged => rfl

/-- The share of bad channels that makes a device suspect degrades it, too. -/
theorem Classified.degraded_of_suspect [RankingScalar R]
    (h : Classified settings context verdict entries after) (hsettings : settings.Balanced)
    (hmeasured : verdict.measured ≠ 0) (hsuspect : verdict.suspect = true) :
    verdict.degraded = true := by
  cases h with
  | nothing => exact Bool.noConfusion hsuspect
  | @judged _ _ found =>
    rw [(found.judge_counts settings).1] at hmeasured
    rw [Classification.judge, if_neg hmeasured, hsettings.severeRatio] at hsuspect
    rw [Classification.judge, if_neg hmeasured, hsettings.warnRatio]
    exact BumpScalar.le_trans RankingScalar.quarter_le_half hsuspect

end

omit [Scalar R] in
theorem unmasked_of_reason {classOf : Nat → ChannelClass}
    (hlength : after.mask.reasons.length = context.mask.reasons.length)
    (h : ∀ channel < context.mask.reasons.length, after.mask.reason channel =
      if !context.mask.isMasked channel && (classOf channel).hot then some .hot
      else context.mask.reason channel) :
    after.mask.unmasked = context.mask.unmasked.filter fun channel ↦ !(classOf channel).hot := by
  rw [ChannelMask.unmasked, ChannelMask.unmasked, List.filter_filter, hlength]
  refine List.filter_congr fun channel hmem ↦ ?_
  rw [ChannelMask.isMasked, h channel (List.mem_range.mp hmem), ChannelMask.isMasked]
  cases context.mask.reason channel <;> cases (classOf channel).hot <;> rfl

/-- The hot channels are masked, and they are few. -/
structure MasksHot (classOf : Nat → ChannelClass) (context : Context R)
    (verdict : Classification) (after : Context R) : Prop where
  rest : after = { context with mask := after.mask, classification := some verdict }
  reason : ∀ channel < context.spec.channels, after.mask.reason channel =
    if !context.mask.isMasked channel && (classOf channel).hot then some .hot
    else context.mask.reason channel
  exclusive : ∀ channel ∈ context.mask.unmasked,
    ((classOf channel).hot && (classOf channel).dead) = false
  measured : verdict.measured = context.mask.unmasked.length
  hot : verdict.hot = context.mask.unmasked.countP (classOf · |>.hot)
  dead : verdict.dead = context.mask.unmasked.countP (classOf · |>.dead)
  hot_le : verdict.hot ≤ (verdict.measured + 1) / 2 - 1
  dead_le : verdict.dead ≤ verdict.measured / 2
  bad_le : verdict.hot + verdict.dead ≤ verdict.measured
  unmasked : after.mask.unmasked =
    context.mask.unmasked.filter fun channel ↦ !(classOf channel).hot
  remaining : verdict.measured / 2 + 1 ≤ after.mask.unmasked.length
  probe : ∃ probe, after.mask.unmasked.head? = some probe
  degraded : verdict.suspect = true → verdict.degraded = true

/-- Classification masks the hot channels and leaves most of the channels in use. -/
theorem classify_spares_majority [RankingScalar R] (hsettings : settings.Balanced)
    (hcontext : context.Measured device) (link : Link σ) :
    let run := (classify settings).run (⟨link, context⟩ : Run σ R)
    ∃ verdict, run.1 = .ok verdict ∧
      MasksHot (context.classOf settings device.median) context verdict run.2.context := by
  intro run
  obtain ⟨entries, _, verdict, hverdict, hclassified⟩ := classify_yields settings context link
  refine ⟨verdict, hverdict, ?_⟩
  have huses := hcontext.usesMeasured
  have hne : context.mask.unmasked ≠ [] := mt List.map_eq_nil_iff.mpr hcontext.aggregate.ne_nil
  have hpos := List.length_pos_iff.mpr hne
  obtain ⟨hmeasured, hhot, hdead⟩ := hclassified.counts huses hcontext.deviceBaseline
  have hranked := hcontext.ranked hsettings
  have hreason : ∀ channel < context.spec.channels, _ :=
    fun _ ↦ hclassified.reason_eq huses hcontext.deviceBaseline
  have hlength : run.2.context.mask.reasons.length = context.mask.reasons.length :=
    (congrArg (·.mask.reasons.length) hclassified.replay).trans Context.length_reasons_replay
  have hunmasked := unmasked_of_reason hlength (huses.fits ▸ hreason)
  have hsplit : context.mask.unmasked.length =
      context.mask.unmasked.countP (context.classOf settings device.median · |>.hot) +
        run.2.context.mask.unmasked.length := by
    rw [hunmasked, ← List.countP_eq_length_filter]
    simpa using List.length_eq_countP_add_countP _
  have hreplay : run.2.context = _ := hclassified.replay
  have hgiven : run.2.context.classification = some verdict :=
    hclassified.classification_eq hcontext.deviceBaseline
  have hrest : run.2.context =
      { context with mask := run.2.context.mask, classification := some verdict } := by
    rw [← hgiven, hreplay]
    rfl
  have hremaining : verdict.measured / 2 + 1 ≤ run.2.context.mask.unmasked.length := by
    have hfew := hranked.hot
    omega
  exact {
    rest := hrest
    reason := hreason
    exclusive := hranked.exclusive
    measured := hmeasured
    hot := hhot
    dead := hdead
    hot_le := by
      have hfew := hranked.hot
      omega
    dead_le := hdead ▸ hmeasured ▸ hranked.dead
    bad_le := by
      have hfew := hranked.hot
      have hlow := hranked.dead
      omega
    unmasked := hunmasked
    remaining := hremaining
    probe := ⟨_, List.head?_eq_some_head (List.length_pos_iff.mp (Nat.lt_of_lt_of_le
      (Nat.succ_pos _) hremaining))⟩
    degraded := hclassified.degraded_of_suspect hsettings (by omega) }

namespace Exact

/-- Four channels, one hot and one dead. -/
def splitContext : Context ℚ :=
  { Context.new lopsidedSpec 200 2 with
    baselines := [⟨100, 1, 0⟩, ⟨200, 1, 0⟩, ⟨100, 1, 0⟩, ⟨50, 1, 0⟩]
    deviceBaseline := some ⟨100, 225 / 2, 1, 4⟩ }

theorem splitContext_measured : splitContext.Measured ⟨100, 225 / 2, 1, 4⟩ where
  usesMeasured := ⟨rfl, rfl, by decide⟩
  deviceBaseline := rfl
  aggregate := ⟨rfl, by cbv, by cbv, by cbv⟩
  counts channel hmem := by
    have hinside : channel < 4 := (ChannelMask.mem_unmasked_iff.mp hmem).1
    interval_cases channel
    · exact ⟨100, by decide, rfl⟩
    · exact ⟨200, by decide, rfl⟩
    · exact ⟨100, by decide, rfl⟩
    · exact ⟨50, by decide, rfl⟩

def splitRun : Except (CalibrationError ℚ) Classification × Run Unit ℚ :=
  (classify config.settings.classifier).run ⟨.new (), splitContext⟩

end Exact

theorem classify_spares_majority_split :
    Exact.config.settings.classifier.Balanced ∧
      Exact.splitContext.Measured ⟨100, 225 / 2, 1, 4⟩ ∧
      (∃ verdict, Exact.splitRun.1 = .ok verdict ∧
        MasksHot (Exact.splitContext.classOf Exact.config.settings.classifier 100)
          Exact.splitContext verdict Exact.splitRun.2.context) ∧
      (Exact.splitRun.2.context.mask.reasons, Exact.splitRun.2.context.classification) =
        ([none, some .hot, none, none], some ⟨4, 1, 1, 0, true, true, false⟩) := by
  have hsettings := Config.balanced_classifier Exact.config_valid
  refine ⟨hsettings, Exact.splitContext_measured, ?_, by decide +kernel⟩
  exact classify_spares_majority hsettings Exact.splitContext_measured (.new ())

end ThresholdTrim
